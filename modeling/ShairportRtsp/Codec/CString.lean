import Mathlib

/-! The C library string routines the RTSP code relies on, over byte lists.
A `char *` argument is read as a C string, up to its first NUL.
-/

namespace Shairport.Rtsp

/-- The contents of a `char` buffer. -/
abbrev Bytes := List UInt8

/-- ASCII text as the bytes the source's string literals denote. -/
def ascii (s : String) : Bytes := s.toList.map fun c => c.toNat.toUInt8

/-- The C string at the head of a buffer: its bytes before the first NUL. -/
def cstr (s : Bytes) : Bytes := s.takeWhile (· != 0)

/-- The offset of the first occurrence of `needle` in `hay`, if any. -/
def findPrefix (needle : Bytes) : Bytes → Option Nat
  | [] => if needle = [] then some 0 else none
  | b :: rest =>
      if needle.isPrefixOf (b :: rest) then some 0 else (findPrefix needle rest).map (· + 1)

/-- `strstr (hay, needle)`: the offset of `needle` inside the C string `hay`. -/
def strstr (hay needle : Bytes) : Option Nat := findPrefix needle (cstr hay)

/-- `strchr (s, c)`: the offset of the byte `c` inside the C string `s`. -/
def strchr (s : Bytes) (c : UInt8) : Option Nat := findPrefix [c] (cstr s)

/-- `strncmp (s, lit, strlen (lit)) == 0`: the C string `s` starts with `lit`. -/
def hasPrefix (s lit : Bytes) : Bool := lit.isPrefixOf (cstr s)

/-- ASCII lower case, as `strcasecmp` folds both operands. -/
def toLower (b : UInt8) : UInt8 := if 65 ≤ b.toNat ∧ b.toNat ≤ 90 then b + 32 else b

/-- `strcasecmp (a, b) == 0`. -/
def strcaseEq (a b : Bytes) : Bool := (cstr a).map toLower == (cstr b).map toLower

/-- The bytes `isspace` accepts in the C locale. -/
def isSpace (b : UInt8) : Bool := b.toNat == 32 || (9 ≤ b.toNat && b.toNat ≤ 13)

def isDigit (b : UInt8) : Bool := 48 ≤ b.toNat && b.toNat ≤ 57

/-- The value of the leading decimal digits, accumulated onto `acc`. -/
def digitsFrom (acc : Nat) : Bytes → Nat
  | [] => acc
  | b :: rest => if isDigit b then digitsFrom (acc * 10 + (b.toNat - 48)) rest else acc

/-- The optional blanks, optional sign and decimal digits at the start of `s`, read as a
mathematical integer: what `strtol` accumulates before it compares with the range of `long`.
-/
def numeralValue (s : Bytes) : Int :=
  match s.dropWhile isSpace with
  | [] => 0
  | b :: rest =>
      if b = 45 then -(digitsFrom 0 rest : Int)
      else if b = 43 then digitsFrom 0 rest
      else digitsFrom 0 (b :: rest)

/-- `strtol (s, NULL, 10)` with the 64-bit `long` of the targets: a value below `LONG_MIN` or
above `LONG_MAX` gives that bound (and `ERANGE`).
-/
def strtol (s : Bytes) : Int := max (-2 ^ 63) (min (numeralValue s) (2 ^ 63 - 1))

/-- A `long` converted to the 32-bit `int`: its low 32 bits read in two's complement
(`Int.bmod z (2 ^ 32)`). C leaves the conversion of a value out of range to the
implementation, and this is what gcc and clang define it to be.
-/
def toInt32 (z : Int) : Int := (z + 2 ^ 31) % 2 ^ 32 - 2 ^ 31

/-- glibc's `atoi`: `(int) strtol (nptr, NULL, 10)`. A numeral of an `int` reads as its
value; a longer one wraps, and one past `long` saturates first, so that `4294967295` reads as
`-1`, `4294967296` as `0`, and every numeral from `2 ^ 63` up as `-1`.
-/
def atoi (s : Bytes) : Int := toInt32 (strtol s)

/-- The decimal numeral of `n`, as `%d` prints it. -/
def decimal (n : Nat) : Bytes :=
  if n < 10 then [UInt8.ofNat (48 + n)] else decimal (n / 10) ++ [UInt8.ofNat (48 + n % 10)]
termination_by n
decreasing_by omega

/-- A value of the 32-bit `int`: what `atoi` and `int` arithmetic can give without
overflow.
-/
def FitsInt (z : Int) : Prop := -2 ^ 31 ≤ z ∧ z ≤ 2 ^ 31 - 1

instance : DecidablePred FitsInt := fun _ => inferInstanceAs (Decidable (_ ∧ _))

/-- The numeral `%d` prints for an `int`: a minus sign, then the digits of the magnitude. -/
def decimalInt (z : Int) : Bytes := if z < 0 then 45 :: decimal z.natAbs else decimal z.toNat

/-- The tokens successive `strtok_r (.., " ", ..)` calls return: the maximal runs of
non-space bytes, with `cur` the run read so far.
-/
def tokenize (cur : Bytes) : Bytes → List Bytes
  | [] => if cur = [] then [] else [cur]
  | b :: rest =>
      if b = 32 then (if cur = [] then tokenize [] rest else cur :: tokenize [] rest)
      else tokenize (cur ++ [b]) rest

-----------------------------------------------------------------------------------------
-- C strings
-----------------------------------------------------------------------------------------

@[simp] theorem cstr_nil : cstr [] = [] := rfl

theorem cstr_cons (b : UInt8) (rest : Bytes)
    : cstr (b :: rest) = if b = 0 then [] else b :: cstr rest := by
  by_cases h : b = 0 <;> simp [cstr, List.takeWhile_cons, h]

/-- A buffer without NUL is its own C string, by induction on the buffer. -/
theorem cstr_of_nul_free {s : Bytes} (h : 0 ∉ s) : cstr s = s := by
  induction s with
  | nil => rfl
  | cons b rest ih =>
      simp only [List.mem_cons, not_or] at h
      rw [cstr_cons, if_neg (Ne.symm h.1), ih h.2]

/-- A C string holds no NUL, so taking it again changes nothing. -/
theorem cstr_cstr (s : Bytes) : cstr (cstr s) = cstr s :=
  cstr_of_nul_free fun mem => by simpa using List.mem_takeWhile_imp mem

/-- A NUL written after a NUL-free prefix ends the C string there. -/
theorem cstr_append_nul {s : Bytes} (h : 0 ∉ s) (rest : Bytes)
    : cstr (s ++ 0 :: rest) = s := by
  induction s with
  | nil => simp [cstr_cons]
  | cons b more ih =>
      simp only [List.mem_cons, not_or] at h
      rw [List.cons_append, cstr_cons, if_neg (Ne.symm h.1), ih h.2]

/-- A C string that starts with NUL-free bytes runs on past them. -/
theorem cstr_append_of_nul_free {s : Bytes} (h : 0 ∉ s) (rest : Bytes)
    : cstr (s ++ rest) = s ++ cstr rest := by
  induction s with
  | nil => rfl
  | cons b more ih =>
      simp only [List.mem_cons, not_or] at h
      rw [List.cons_append, cstr_cons, if_neg (Ne.symm h.1), ih h.2, List.cons_append]

/-- Dropping bytes from inside a C string leaves the rest of that string. -/
theorem cstr_drop : ∀ {s : Bytes} {pos : Nat}, pos ≤ (cstr s).length → cstr (s.drop pos) = (cstr s).drop pos
  | _, 0, _ => rfl
  | [], _ + 1, _ => rfl
  | b :: rest, pos + 1, within => by
      by_cases nul : b = 0
      · simp [cstr_cons, nul] at within
      · rw [cstr_cons, if_neg nul] at within ⊢
        exact cstr_drop (Nat.le_of_succ_le_succ within)

-----------------------------------------------------------------------------------------
-- Searching
-----------------------------------------------------------------------------------------

/-- Where `findPrefix` reports the needle, the needle starts. -/
theorem findPrefix_some {needle : Bytes}
    : ∀ {s : Bytes} {pos : Nat}, findPrefix needle s = some pos → needle <+: s.drop pos
  | [], pos, found => by
      rw [findPrefix] at found
      split at found <;> cases found
      simp_all
  | b :: rest, pos, found => by
      rw [findPrefix] at found
      split at found
      · rename_i starts
        cases found
        exact List.isPrefixOf_iff_prefix.mp starts
      · obtain ⟨p, later, rfl⟩ := Option.map_eq_some'.mp found
        simpa using findPrefix_some later

/-- The needle found at offset zero. -/
theorem findPrefix_append_self (needle rest : Bytes) (ne : needle ≠ [])
    : findPrefix needle (needle ++ rest) = some 0 := by
  cases hn : needle ++ rest with
  | nil => simp_all
  | cons b more =>
      rw [findPrefix, ← hn, if_pos (List.isPrefixOf_iff_prefix.mpr (List.prefix_append _ _))]

/-- The first occurrence lies after a prefix on which the needle nowhere starts. -/
theorem findPrefix_append {needle : Bytes} (skip rest : Bytes)
    (absent : ∀ i < skip.length, ¬ needle <+: (skip ++ rest).drop i)
    : findPrefix needle (skip ++ rest) = (findPrefix needle rest).map (· + skip.length) := by
  induction skip with
  | nil => simp
  | cons b more ih =>
      have head : ¬ needle <+: b :: (more ++ rest) := by simpa using absent 0 (by simp)
      have tail : ∀ i < more.length, ¬ needle <+: (more ++ rest).drop i := fun i hi => by
        simpa using absent (i + 1) (by simp [hi])
      rw [List.cons_append, findPrefix, if_neg (by simpa [List.isPrefixOf_iff_prefix] using head),
        ih tail, Option.map_map]
      congr 1

/-- A needle found inside `s` with room to spare is found at the same offset in every
extension of `s`, by induction on `s`.
-/
theorem findPrefix_append_of_some {needle : Bytes}
    : ∀ {s : Bytes} {i : Nat} (t : Bytes), findPrefix needle s = some i →
        i + needle.length ≤ s.length → findPrefix needle (s ++ t) = some i
  | [], i, t, _, fits => by
      obtain ⟨rfl, rfl⟩ : i = 0 ∧ needle = [] := by simpa using fits
      cases t <;> simp [findPrefix]
  | b :: rest, i, t, found, fits => by
      rw [findPrefix] at found
      split at found
      · rename_i starts
        cases found
        have longer : needle <+: b :: (rest ++ t) :=
          (List.isPrefixOf_iff_prefix.mp starts).trans (List.prefix_append (b :: rest) t)
        rw [List.cons_append, findPrefix, if_pos (List.isPrefixOf_iff_prefix.mpr longer)]
      · rename_i absent
        obtain ⟨j, later, rfl⟩ := Option.map_eq_some'.mp found
        have room : j + needle.length ≤ rest.length := by simp at fits; omega
        have shorter : ¬ needle <+: b :: (rest ++ t) := fun starts => absent
          (List.isPrefixOf_iff_prefix.mpr (List.prefix_of_prefix_length_le starts
            (List.prefix_append (b :: rest) t) (by simp; omega)))
        rw [List.cons_append, findPrefix, if_neg (mt List.isPrefixOf_iff_prefix.mp shorter),
          findPrefix_append_of_some t later room]
        rfl

/-- No window that starts on a digit holds a needle without digits. -/
theorem findPrefix_digits {needle : Bytes} (filled : needle ≠ [])
    (noDigit : needle.all fun b => !isDigit b) {digits : Bytes} (all : digits.all isDigit)
    (rest : Bytes) : findPrefix needle (digits ++ rest) = (findPrefix needle rest).map (· + digits.length) := by
  obtain ⟨b, bs, rfl⟩ := List.exists_cons_of_ne_nil filled
  refine findPrefix_append digits rest fun i lt pre => ?_
  rw [List.drop_append_of_le_length lt.le, List.drop_eq_getElem_cons lt, List.cons_append] at pre
  have digit : isDigit digits[i] = true := List.all_eq_true.mp all _ (List.getElem_mem _)
  simp only [List.all_cons, Bool.and_eq_true, Bool.not_eq_true'] at noDigit
  rw [← (List.cons_prefix_cons.mp pre).1, noDigit.1] at digit
  exact Bool.false_ne_true digit

/-- A needle without digits that starts inside `fixed` and is followed there by a numeral
ends inside `fixed`.
-/
theorem prefix_before_digits {needle : Bytes} (noDigit : needle.all fun b => !isDigit b)
    {fixed digits : Bytes} (filled : digits ≠ []) (all : digits.all isDigit) (rest : Bytes)
    {i : Nat} (lt : i < fixed.length) (pre : needle <+: (fixed ++ digits ++ rest).drop i)
    : needle <+: fixed.drop i := by
  rw [List.append_assoc, List.drop_append_of_le_length lt.le] at pre
  by_cases short : needle.length ≤ (fixed.drop i).length
  · exact List.prefix_of_prefix_length_le pre (List.prefix_append _ _) short
  · exfalso
    have within : (fixed.drop i).length < needle.length := by omega
    have same := pre.getElem within
    obtain ⟨d, ds, rfl⟩ := List.exists_cons_of_ne_nil filled
    have bound : (fixed.drop i).length < (fixed.drop i ++ (d :: ds ++ rest)).length := by simp
    have atDigit : (fixed.drop i ++ (d :: ds ++ rest))[(fixed.drop i).length] = d := by
      simp [List.getElem_append_right]
    have notDigit : (!isDigit needle[(fixed.drop i).length]) = true :=
      List.all_eq_true.mp noDigit _ (List.getElem_mem _)
    simp only [List.all_cons, Bool.and_eq_true] at all
    rw [same, atDigit, all.1] at notDigit
    exact Bool.false_ne_true notDigit

/-- Searching past a fixed text that does not hold the needle and the numeral after it. -/
theorem findPrefix_past_numeral {needle : Bytes} (filled : needle ≠ [])
    (noDigit : needle.all fun b => !isDigit b) {fixed digits : Bytes}
    (absent : ∀ i < fixed.length, ¬ needle <+: fixed.drop i) (nonempty : digits ≠ [])
    (all : digits.all isDigit) (rest : Bytes)
    : findPrefix needle (fixed ++ digits ++ rest)
      = (findPrefix needle rest).map (· + (fixed.length + digits.length)) := by
  rw [List.append_assoc, findPrefix_append fixed _ fun i lt pre => absent i lt
      (prefix_before_digits noDigit nonempty all rest lt (by rwa [← List.append_assoc] at pre)),
    findPrefix_digits filled noDigit all, Option.map_map]
  congr 1
  funext j
  simp only [Function.comp]
  omega

-----------------------------------------------------------------------------------------
-- Numerals
-----------------------------------------------------------------------------------------

/-- Digits read after other digits extend the accumulated value. -/
theorem digitsFrom_append (acc : Nat) {digits : Bytes} (all : digits.all isDigit)
    (rest : Bytes)
    : digitsFrom acc (digits ++ rest) = digitsFrom (digitsFrom acc digits) rest := by
  induction digits generalizing acc with
  | nil => rfl
  | cons b more ih =>
      simp only [List.all_cons, Bool.and_eq_true] at all
      simp only [List.cons_append, digitsFrom, all.1, if_true]
      exact ih _ all.2

/-- The byte of a decimal digit `d < 10`. -/
theorem toNat_digit {d : Nat} (h : d < 10) : (UInt8.ofNat (48 + d)).toNat = 48 + d :=
  UInt8.toNat_ofNat_of_lt (by unfold UInt8.size; omega)

theorem isDigit_digit {d : Nat} (h : d < 10) : isDigit (UInt8.ofNat (48 + d)) = true := by
  simp only [isDigit, toNat_digit h, Bool.and_eq_true, decide_eq_true_eq]
  omega

/-- A digit byte followed by more input adds its digit to the accumulator. -/
theorem digitsFrom_digit (acc : Nat) {d : Nat} (h : d < 10) (rest : Bytes)
    : digitsFrom acc (UInt8.ofNat (48 + d) :: rest) = digitsFrom (acc * 10 + d) rest := by
  simp only [digitsFrom, isDigit_digit h, if_true, toNat_digit h, Nat.add_sub_cancel_left]

theorem decimal_all_isDigit (n : Nat) : (decimal n).all isDigit := by
  induction n using Nat.strong_induction_on with
  | _ n ih =>
      rw [decimal]
      split
      · simp [isDigit_digit (show n < 10 by omega)]
      · simp [ih (n / 10) (by omega), isDigit_digit (Nat.mod_lt n (by omega : 10 > 0))]

/-- Reading a printed numeral gives back its value, by induction on the numeral. -/
theorem digitsFrom_decimal (acc n : Nat)
    : digitsFrom acc (decimal n) = acc * 10 ^ (decimal n).length + n := by
  induction n using Nat.strong_induction_on generalizing acc with
  | _ n ih =>
      rw [decimal]
      split
      · rw [digitsFrom_digit acc (show n < 10 by omega), digitsFrom]
        simp
      · rw [digitsFrom_append _ (decimal_all_isDigit _), ih (n / 10) (by omega),
          digitsFrom_digit _ (Nat.mod_lt n (by omega)), digitsFrom]
        have split := Nat.div_add_mod n 10
        simp only [List.length_append, List.length_singleton, pow_succ]
        calc (acc * 10 ^ (decimal (n / 10)).length + n / 10) * 10 + n % 10
            = acc * (10 ^ (decimal (n / 10)).length * 10) + (10 * (n / 10) + n % 10) := by ring
          _ = acc * (10 ^ (decimal (n / 10)).length * 10) + n := by rw [split]

theorem decimal_ne_nil (n : Nat) : decimal n ≠ [] := by
  rw [decimal]; split <;> simp

/-- The wrap to `int` keeps every value of an `int`. -/
theorem toInt32_of_fits {z : Int} (fits : FitsInt z) : toInt32 z = z := by
  unfold toInt32
  unfold FitsInt at fits
  omega

/-- The numeral at the start of a numeral followed by anything but a digit is its value. -/
theorem numeralValue_decimal_append (n : Nat) {rest : Bytes}
    (stop : ∀ b ∈ rest.head?, isDigit b = false) : numeralValue (decimal n ++ rest) = n := by
  have all := decimal_all_isDigit n
  have value : digitsFrom 0 (decimal n ++ rest) = n := by
    rw [digitsFrom_append _ all, digitsFrom_decimal]
    cases rest with
    | nil => simp [digitsFrom]
    | cons b more => simp [digitsFrom, stop b (by simp)]
  obtain ⟨d, ds, eq⟩ := List.exists_cons_of_ne_nil (decimal_ne_nil n)
  rw [eq, List.cons_append] at value
  rw [eq] at all
  simp only [List.all_cons, Bool.and_eq_true, isDigit, decide_eq_true_eq] at all
  have notSpace : isSpace d = false := by simp [isSpace]; omega
  have notMinus : d ≠ 45 := fun h => by subst h; simp [UInt8.size] at all
  have notPlus : d ≠ 43 := fun h => by subst h; simp [UInt8.size] at all
  rw [numeralValue, eq]
  simp [List.dropWhile_cons, notSpace, notMinus, notPlus, value]

/-- `atoi` of a numeral followed by anything but a digit: its value up to `LONG_MAX`, wrapped
to `int`.
-/
theorem atoi_decimal_append (n : Nat) {rest : Bytes} (stop : ∀ b ∈ rest.head?, isDigit b = false)
    : atoi (decimal n ++ rest) = toInt32 (min n (2 ^ 63 - 1)) := by
  rw [atoi, strtol, numeralValue_decimal_append n stop]
  congr 1
  omega

/-- `atoi` of the numeral of an `int` followed by anything but a digit is its value. -/
theorem atoi_decimal_append_of_le (n : Nat) {rest : Bytes}
    (stop : ∀ b ∈ rest.head?, isDigit b = false) (small : n ≤ 2 ^ 31 - 1)
    : atoi (decimal n ++ rest) = n := by
  rw [atoi_decimal_append n stop, toInt32_of_fits (by unfold FitsInt; omega)]
  omega

/-- `atoi` of the printed numeral of an `int` is its value. -/
theorem atoi_decimal (n : Nat) (small : n ≤ 2 ^ 31 - 1) : atoi (decimal n) = n := by
  simpa using @atoi_decimal_append_of_le n [] (by simp) small

/-- `atoi` of an `int` printed with `%d` is its value. -/
theorem atoi_decimalInt (z : Int) (fits : FitsInt z) : atoi (decimalInt z) = z := by
  have value : numeralValue (decimalInt z) = z := by
    rw [decimalInt]
    split
    · rename_i negative
      have digits := digitsFrom_decimal 0 z.natAbs
      simp only [Nat.zero_mul, Nat.zero_add] at digits
      simp [numeralValue, List.dropWhile_cons, show isSpace 45 = false from rfl, digits,
        abs_of_neg negative]
    · rw [← List.append_nil (decimal z.toNat), numeralValue_decimal_append _ (by simp)]
      omega
  have clamped : max (-2 ^ 63) (min z (2 ^ 63 - 1)) = z := by unfold FitsInt at fits; omega
  rw [atoi, strtol, value, clamped, toInt32_of_fits fits]

end Shairport.Rtsp
