import ShairportRtsp.Codec.CString

/-! RTSP messages and the line-level parser: `rtsp_message`, `msg_add_header`,
`msg_get_header`, `nextline` and `msg_handle_line`.
-/

namespace Shairport.Rtsp

/-- `rtsp_message`: the header arrays `name[16]`/`value[16]` with `nheaders` are the list
`headers`; `content` is `NULL` or the owned buffer.
-/
structure RtspMessage where
  indexNumber : Int
  referenceCount : Nat
  headers : List (Bytes × Bytes)
  contentlength : Int
  content : Option Bytes
  method : Bytes
  respcode : Int
  deriving DecidableEq, Repr

/-- `msg_init`: a zeroed message holding one reference, numbered `index` (`msg_indexes++`). -/
def msgInit (index : Int) : RtspMessage :=
  { indexNumber := index, referenceCount := 1, headers := [], contentlength := 0,
    content := none, method := [], respcode := 0 }

/-- `msg_add_header`: append a copy of both C strings unless all 16 slots are taken, in
which case the header is dropped and 1 is returned.
-/
def msgAddHeader (msg : RtspMessage) (name value : Bytes) : RtspMessage × Int :=
  if 16 ≤ msg.headers.length then (msg, 1)
  else ({ msg with headers := msg.headers ++ [(cstr name, cstr value)] }, 0)

/-- `msg_get_header`: the value of the first header whose name matches, ignoring case. -/
def msgGetHeader (msg : RtspMessage) (name : Bytes) : Option Bytes :=
  (msg.headers.find? fun h => strcaseEq h.1 name).map Prod.snd

/-- `nextline (in, inbuf)`: NUL out the first terminator (`\r`, `\n` or `\r\n`) of the
buffer and give the offset just past it; nothing when the buffer holds no terminator.
A `\r` that ends the buffer is a terminator on its own.
-/
def nextline : Bytes → Option (Bytes × Nat)
  | [] => none
  | b :: rest =>
      if b = 13 then
        match rest with
        | [] => some ([0], 1)
        | c :: more => if c = 10 then some (0 :: 0 :: more, 2) else some (0 :: c :: more, 1)
      else if b = 10 then some (0 :: rest, 1)
      else (nextline rest).map fun found => (b :: found.1, found.2 + 1)

/-- The body size the blank line gives: `atoi` of the `Content-Length` value, or 0 without
that header.
-/
def contentSize (msg : RtspMessage) : Int :=
  match msgGetHeader msg (ascii "Content-Length") with
  | some cl => atoi cl
  | none => 0

/-- `msg_handle_line`: the first line of a message creates it from the request line;
a later non-empty line is a header, split at its first `": "`; the empty line gives the
body size from `Content-Length`. On a parse failure the message is freed and `*pmsg`
becomes `NULL`; the result is then 0.
-/
def msgHandleLine (index : Int) (packet : Option RtspMessage) (line : Bytes)
    : Option RtspMessage × Int :=
  let l := cstr line
  match packet with
  | none =>
      match tokenize [] l with
      | m :: _ :: version :: _ =>
          if version = ascii "RTSP/1.0" then (some { msgInit index with method := m.take 15 }, -1)
          else (none, 0)
      | _ => (none, 0)
  | some msg =>
      if l = [] then (some msg, contentSize msg)
      else
        match strstr l (ascii ": ") with
        | none => (none, 0)
        | some i => (some (msgAddHeader msg (l.take i) (l.drop (i + 2))).1, -1)

-----------------------------------------------------------------------------------------
-- nextline
-----------------------------------------------------------------------------------------

/-- A found terminator lies inside the buffer and leaves its length alone, by induction on
the buffer.
-/
theorem nextline_bounds {s marked : Bytes} {next : Nat} (h : nextline s = some (marked, next))
    : marked.length = s.length ∧ 0 < next ∧ next ≤ s.length := by
  induction s generalizing marked next with
  | nil => simp [nextline] at h
  | cons b rest ih =>
      unfold nextline at h
      split at h
      · split at h
        · cases h; simp
        · split at h <;> cases h <;> simp
      · split at h
        · cases h; simp
        · obtain ⟨⟨m, k⟩, found, eq⟩ := Option.map_eq_some'.mp h
          cases eq
          have := ih found
          simp only [List.length_cons]
          omega

/-- A line free of CR and LF, ended by CRLF: both terminator bytes become NUL and the
next line starts right after them.
-/
theorem nextline_crlf {line : Bytes} (noCr : 13 ∉ line) (noLf : 10 ∉ line) (more : Bytes)
    : nextline (line ++ 13 :: 10 :: more) = some (line ++ 0 :: 0 :: more, line.length + 2) := by
  induction line with
  | nil => simp [nextline]
  | cons b rest ih =>
      simp only [List.mem_cons, not_or] at noCr noLf
      simp only [List.cons_append, nextline, if_neg (Ne.symm noCr.1), if_neg (Ne.symm noLf.1),
        List.append_eq]
      rw [ih noCr.2 noLf.2]
      simp [Nat.add_right_comm]

/-- A line free of CR and LF whose CR ends the buffer: the CR is a terminator on its own,
whatever the next `read` brings.
-/
theorem nextline_cr_end {line : Bytes} (noCr : 13 ∉ line) (noLf : 10 ∉ line)
    : nextline (line ++ [13]) = some (line ++ [0], line.length + 1) := by
  induction line with
  | nil => simp [nextline]
  | cons b rest ih =>
      simp only [List.mem_cons, not_or] at noCr noLf
      simp only [List.cons_append, nextline, if_neg (Ne.symm noCr.1), if_neg (Ne.symm noLf.1),
        List.append_eq]
      rw [ih noCr.2 noLf.2]
      simp

theorem nextline_lf (rest : Bytes) : nextline (10 :: rest) = some (0 :: rest, 1) := by
  simp [nextline]

/-- Without CR and LF there is no line end, by induction on the buffer. -/
theorem nextline_eq_none {s : Bytes} : nextline s = none ↔ ∀ b ∈ s, b ≠ 13 ∧ b ≠ 10 := by
  induction s with
  | nil => simp [nextline]
  | cons b rest ih =>
      by_cases cr : b = 13
      · subst cr
        cases rest with
        | nil => simp [nextline]
        | cons c more => by_cases lf : c = 10 <;> simp [nextline, lf]
      · by_cases lf : b = 10
        · simp [nextline, lf]
        · simp [nextline, cr, lf, ih]

/-- `nextline` stops at the first CR or LF: with `pre` the bytes before it, the terminator is
that byte and the LF after a CR when one follows; both become NUL, nothing else changes, and
the next line starts right after them. By induction on `pre`.
-/
theorem nextline_first_terminator {pre : Bytes} (plain : ∀ c ∈ pre, c ≠ 13 ∧ c ≠ 10)
    {b : UInt8} (ends : b = 13 ∨ b = 10) (rest : Bytes)
    : nextline (pre ++ b :: rest)
      = let t := if b = 13 ∧ rest.head? = some 10 then 2 else 1
        some (pre ++ List.replicate t 0 ++ rest.drop (t - 1), pre.length + t) := by
  induction pre with
  | nil =>
      rcases ends with rfl | rfl
      · cases rest with
        | nil => simp [nextline]
        | cons c more => by_cases lf : c = 10 <;> simp [nextline, lf]
      · simp [nextline]
  | cons a pre ih =>
      simp only [List.mem_cons, forall_eq_or_imp] at plain
      simp only [List.cons_append, nextline, if_neg plain.1.1, if_neg plain.1.2, List.append_eq]
      rw [ih plain.2]
      simp [Nat.add_right_comm]

-----------------------------------------------------------------------------------------
-- Tokens and separators
-----------------------------------------------------------------------------------------

theorem tokenize_word (cur : Bytes) {word : Bytes} (noSpace : 32 ∉ word) (rest : Bytes)
    : tokenize cur (word ++ rest) = tokenize (cur ++ word) rest := by
  induction word generalizing cur with
  | nil => simp
  | cons b more ih =>
      simp only [List.mem_cons, not_or] at noSpace
      rw [List.cons_append, tokenize, if_neg (Ne.symm noSpace.1), ih _ noSpace.2]
      simp

/-- The request line `M U RTSP/1.0` splits into its three words. -/
theorem tokenize_three {m u v : Bytes} (hm : m ≠ []) (hu : u ≠ []) (hv : v ≠ [])
    (sm : 32 ∉ m) (su : 32 ∉ u) (sv : 32 ∉ v)
    : tokenize [] (m ++ 32 :: u ++ 32 :: v) = [m, u, v] := by
  rw [List.append_assoc, tokenize_word _ sm, List.nil_append, List.cons_append, tokenize,
    if_pos rfl, if_neg hm, tokenize_word _ su, List.nil_append, tokenize, if_pos rfl,
    if_neg hu, ← List.append_nil v, tokenize_word _ sv]
  simp [tokenize, hv]

/-- A two-byte separator `x y` (with `x ≠ y`) that does not occur inside `name` is first
found right after it, by induction on `name`.
-/
theorem findPrefix_pair {x y : UInt8} (hxy : x ≠ y) {name : Bytes}
    (absent : ¬ [x, y] <:+: name) (rest : Bytes)
    : findPrefix [x, y] (name ++ x :: y :: rest) = some name.length := by
  induction name with
  | nil => simpa using findPrefix_append_self [x, y] rest (by simp)
  | cons a more ih =>
      have tail : ¬ [x, y] <:+: more := fun h => absent (h.trans (List.suffix_cons a more).isInfix)
      have notHere : ¬ [x, y].isPrefixOf (a :: (more ++ x :: y :: rest)) = true := by
        rw [List.isPrefixOf_iff_prefix]
        intro pre
        obtain ⟨ha, hb⟩ : x = a ∧ [y] <+: more ++ x :: y :: rest := by
          simpa using pre
        cases more with
        | nil => exact hxy (by simpa using hb : y = x).symm
        | cons c more' =>
            have hc : y = c := by simpa using hb
            exact absent ⟨[], more', by simp [ha, hc]⟩
      rw [List.cons_append, findPrefix, if_neg notHere, ih tail]
      rfl

-----------------------------------------------------------------------------------------
-- msg_handle_line
-----------------------------------------------------------------------------------------

/-- `msg_handle_line` reads its line as a C string: what `nextline` leaves after the NUL
does not matter.
-/
theorem msgHandleLine_nul (index : Int) (packet : Option RtspMessage) {line : Bytes}
    (noNul : 0 ∉ line) (rest : Bytes)
    : msgHandleLine index packet (line ++ 0 :: rest) = msgHandleLine index packet line := by
  simp only [msgHandleLine, cstr_append_nul noNul, cstr_of_nul_free noNul]

/-- The blank line ends the headers with the body size `Content-Length` gives. -/
theorem msgHandleLine_blank (index : Int) (msg : RtspMessage)
    : msgHandleLine index (some msg) [] = (some msg, contentSize msg) := rfl

end Shairport.Rtsp
