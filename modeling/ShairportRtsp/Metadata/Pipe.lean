import ShairportRtsp.Conversation.Auth

/-! `metadata_process`, the pipe sink: an `<item>` with the type, code and length in text, and
the payload in base64 written 57 bytes at a time by `base64_encode_so`. The encoder is
compared with RFC 4648 base64, defined apart from the source's table and shifts; since 57 is a
multiple of 3, encoding piece by piece gives the encoding of the whole payload.
-/

namespace Shairport.Rtsp

-----------------------------------------------------------------------------------------
-- base64_encode_so
-----------------------------------------------------------------------------------------

/-- `encoding_table`. -/
def encodingTable : Bytes := ascii "ABCDEFGHIJKLMNOPQRSTUVWXYZabcdefghijklmnopqrstuvwxyz0123456789+/"

/-- `mod_table`: how many `=` end the output, by the input length mod 3. -/
def modTable : List Nat := [0, 2, 1]

/-- One pass of the loop of `base64_encode_so`: three octets, zero past the input, as a
24-bit `triple` and its four 6-bit indexes into the table.
-/
def encodeTriple (octetA octetB octetC : Nat) : Bytes :=
  let triple := (octetA <<< 0x10) + (octetB <<< 0x08) + octetC
  [encodingTable.getD ((triple >>> (3 * 6)) &&& 0x3F) 0,
   encodingTable.getD ((triple >>> (2 * 6)) &&& 0x3F) 0,
   encodingTable.getD ((triple >>> (1 * 6)) &&& 0x3F) 0,
   encodingTable.getD ((triple >>> (0 * 6)) &&& 0x3F) 0]

/-- `for (i = 0, j = 0; i < input_length;)`: each pass takes up to three octets. -/
def base64Groups : Bytes → Bytes
  | [] => []
  | [a] => encodeTriple a.toNat 0 0
  | [a, b] => encodeTriple a.toNat b.toNat 0
  | a :: b :: c :: rest => encodeTriple a.toNat b.toNat c.toNat ++ base64Groups rest

/-- `base64_encode_so (data, input_length, encoded_data, &output_length)`: `NULL`, with the
buffer and `*output_length` left alone, when the output would not fit; else the buffer with
the groups written at its start and the last `mod_table [input_length % 3]` of them
overwritten by `=`, and the output length.
-/
def base64EncodeSo (data encodedData : Bytes) (outputLength : Nat) : Option (Bytes × Nat) :=
  let calculatedOutputLength := 4 * ((data.length + 2) / 3)
  if calculatedOutputLength > outputLength then none
  else
    let padding := modTable.getD (data.length % 3) 0
    some ((base64Groups data).take (calculatedOutputLength - padding) ++ List.replicate padding 61
      ++ encodedData.drop calculatedOutputLength, calculatedOutputLength)

-----------------------------------------------------------------------------------------
-- metadata_process
-----------------------------------------------------------------------------------------

/-- `%x`: lower-case hexadecimal without leading zeros. -/
def hexText (n : Nat) : Bytes :=
  if n < 16 then [hexDigit n] else hexText (n / 16) ++ [hexDigit (n % 16)]
termination_by n
decreasing_by omega

/-- The loop `while ((remaining_count) && (ret >= 0))`: encode the next
`min (remaining_count, 57)` bytes into the 76-byte `outbuf` and write `outbuf_size` of it.
`outbuf` is what the previous pass left there.
-/
def base64Lines (outbuf remainingData : Bytes) (remainingCount : Nat) : List Bytes :=
  if remainingCount = 0 then []
  else
    let towriteCount := min remainingCount 57
    let encoded := (base64EncodeSo (remainingData.take towriteCount) outbuf 76).getD (outbuf, 76)
    encoded.1.take encoded.2
      :: base64Lines encoded.1 (remainingData.drop towriteCount) (remainingCount - towriteCount)
termination_by remainingCount
decreasing_by omega

/-- `<item><type>%x</type><code>%x</code><length>%u</length>`. -/
def itemHeader (type code length : Nat) : Bytes :=
  ascii "<item><type>" ++ hexText type ++ ascii "</type><code>" ++ hexText code
    ++ ascii "</code><length>" ++ decimal length ++ ascii "</length>"

/-- The buffers `metadata_process` hands `write`, in order, when every `write` succeeds:
the item header, then for data that is not `NULL` and not empty the data element around the
base64 lines, then the end of the item. The stack array `outbuf` starts uninitialised; the
model takes zeros, which only a refused encoding could expose.
-/
def metadataWrites (type code : Nat) (data : Option Bytes) (length : Nat) : List Bytes :=
  match data with
  | some d =>
      if 0 < length then
        itemHeader type code length :: ascii "\n<data encoding=\"base64\">\n"
          :: base64Lines (List.replicate 76 0) d length ++ [ascii "</data>", ascii "</item>\n"]
      else [itemHeader type code length, ascii "</item>\n"]
  | none => [itemHeader type code length, ascii "</item>\n"]

/-- The writes made while they succeed: `ok k` tells whether the `k`-th `write` returns a
non-negative count; after one that fails, `metadata_process` returns.
-/
def pipeWrites (ok : Nat → Bool) (k : Nat) : List Bytes → List Bytes
  | [] => []
  | w :: ws => if ok k then w :: pipeWrites ok (k + 1) ws else []

/-- `metadata_process (type, code, data, length)`, with `piped` whether `fd` is open after
`metadata_open`: what reaches the pipe. `data` holds the item's `length` bytes.
-/
def metadataProcess (piped : Bool) (ok : Nat → Bool) (type code : Nat) (data : Option Bytes)
    (length : Nat) : List Bytes :=
  if piped then pipeWrites ok 0 (metadataWrites type code data length) else []

-----------------------------------------------------------------------------------------
-- RFC 4648 base64
-----------------------------------------------------------------------------------------

/-- RFC 4648, Table 1: the character of a 6-bit value. -/
def base64Char (v : Nat) : UInt8 :=
  if v < 26 then UInt8.ofNat (65 + v)
  else if v < 52 then UInt8.ofNat (97 + (v - 26))
  else if v < 62 then UInt8.ofNat (48 + (v - 52))
  else if v = 62 then 43
  else 47

/-- RFC 4648 §4: each 24-bit group of the input, big-endian, is four 6-bit values, each one
character; a last group of one or two octets is completed with zero bits to two or three
characters and padded with `=` to four.
-/
def rfc4648Base64 : Bytes → Bytes
  | a :: b :: c :: rest =>
      let v := a.toNat * 2 ^ 16 + b.toNat * 2 ^ 8 + c.toNat
      [base64Char (v / 2 ^ 18 % 64), base64Char (v / 2 ^ 12 % 64), base64Char (v / 2 ^ 6 % 64),
        base64Char (v % 64)] ++ rfc4648Base64 rest
  | [a, b] =>
      let v := a.toNat * 2 ^ 16 + b.toNat * 2 ^ 8
      [base64Char (v / 2 ^ 18 % 64), base64Char (v / 2 ^ 12 % 64), base64Char (v / 2 ^ 6 % 64), 61]
  | [a] =>
      let v := a.toNat * 2 ^ 16
      [base64Char (v / 2 ^ 18 % 64), base64Char (v / 2 ^ 12 % 64), 61, 61]
  | [] => []

-----------------------------------------------------------------------------------------
-- The encoder against the RFC
-----------------------------------------------------------------------------------------

/-- The source's table is Table 1 of the RFC. -/
theorem encodingTable_getD : ∀ v < 64, encodingTable.getD v 0 = base64Char v := by decide

/-- A shift and the mask `0x3F` pick a 6-bit value out of the triple. -/
theorem sextet (v k : Nat) : (v >>> (k * 6)) &&& 0x3F = v / 2 ^ (k * 6) % 64 := by
  rw [Nat.shiftRight_eq_div_pow, show (0x3F : Nat) = 2 ^ 6 - 1 from rfl,
    Nat.and_pow_two_sub_one_eq_mod]

/-- One pass of the loop gives the RFC's four characters of the group. -/
theorem encodeTriple_eq (a b c : Nat)
    : encodeTriple a b c
      = let v := a * 2 ^ 16 + b * 2 ^ 8 + c
        [base64Char (v / 2 ^ 18 % 64), base64Char (v / 2 ^ 12 % 64), base64Char (v / 2 ^ 6 % 64),
          base64Char (v % 64)] := by
  simp only [encodeTriple, sextet, Nat.shiftLeft_eq]
  simp only [Nat.zero_mul, Nat.pow_zero, Nat.div_one,
    encodingTable_getD _ (Nat.mod_lt _ (by decide : 0 < 64))]

@[simp] theorem length_encodeTriple (a b c : Nat) : (encodeTriple a b c).length = 4 := rfl

theorem length_base64Groups : ∀ data : Bytes, (base64Groups data).length = 4 * ((data.length + 2) / 3)
  | [] => rfl
  | [_] => by simp [base64Groups]
  | [_, _] => by simp [base64Groups]
  | a :: b :: c :: rest => by
      simp only [base64Groups, List.length_append, length_encodeTriple, length_base64Groups rest,
        List.length_cons]
      omega

theorem modTable_le (k : Nat) : modTable.getD k 0 ≤ 2 := by
  match k with
  | 0 | 1 | 2 => decide
  | _ + 3 => simp [modTable]

/-- The groups with their tail overwritten by `=` are the RFC encoding, by induction on the
groups.
-/
theorem padded_groups : ∀ data : Bytes,
    (base64Groups data).take (4 * ((data.length + 2) / 3) - modTable.getD (data.length % 3) 0)
      ++ List.replicate (modTable.getD (data.length % 3) 0) 61 = rfc4648Base64 data
  | [] => rfl
  | [a] => by simp [base64Groups, rfc4648Base64, encodeTriple_eq, modTable]
  | [a, b] => by simp [base64Groups, rfc4648Base64, encodeTriple_eq, modTable]
  | a :: b :: c :: rest => by
      have residue : (rest.length + 3) % 3 = rest.length % 3 := Nat.add_mod_right _ _
      have groups : (rest.length + 3 + 2) / 3 = (rest.length + 2) / 3 + 1 := by omega
      have padding : modTable.getD (rest.length % 3) 0 ≤ 4 * ((rest.length + 2) / 3) := by
        have := modTable_le (rest.length % 3)
        rcases Nat.eq_zero_or_pos rest.length with empty | filled
        · rw [empty]; decide
        · omega
      simp only [List.length_cons, base64Groups, rfc4648Base64, ← padded_groups rest, residue,
        groups, encodeTriple_eq]
      rw [show 4 * ((rest.length + 2) / 3 + 1) - modTable.getD (rest.length % 3) 0
          = 4 + (4 * ((rest.length + 2) / 3) - modTable.getD (rest.length % 3) 0) by omega,
        List.take_append_eq_append_take, List.take_of_length_le (by simp)]
      simp

@[simp] theorem length_rfc4648Base64 (data : Bytes)
    : (rfc4648Base64 data).length = 4 * ((data.length + 2) / 3) := by
  rw [← padded_groups, List.length_append, List.length_take, length_base64Groups,
    List.length_replicate]
  have := modTable_le (data.length % 3)
  rcases Nat.eq_zero_or_pos data.length with empty | filled
  · rw [empty]; rfl
  · omega

/-- `base64_encode_so` with room for the output writes the RFC encoding of the input. -/
theorem base64EncodeSo_eq {data : Bytes} (encodedData : Bytes) {outputLength : Nat}
    (fits : 4 * ((data.length + 2) / 3) ≤ outputLength)
    : base64EncodeSo data encodedData outputLength
      = some (rfc4648Base64 data ++ encodedData.drop (4 * ((data.length + 2) / 3)),
          4 * ((data.length + 2) / 3)) := by
  rw [base64EncodeSo, if_neg (by omega), ← padded_groups]

/-- `base64_encode_so` for every input and every output capacity `c`: with
`L = 4 * ceil (n / 3)`, `NULL` when `c < L`, the call writing nothing; else the RFC encoding in
the first `L` bytes of the buffer, every byte after them as it was, and `*output_length = L`.
-/
theorem base64EncodeSo_rfc4648 (data encodedData : Bytes) (c : Nat) :
    let L := 4 * ((data.length + 2) / 3)
    (c < L → base64EncodeSo data encodedData c = none)
      ∧ (L ≤ c → ∃ out, base64EncodeSo data encodedData c = some (out, L)
          ∧ out.take L = rfc4648Base64 data ∧ out.drop L = encodedData.drop L) := by
  intro L
  refine ⟨fun short => by simp only [base64EncodeSo, if_pos short], fun fits =>
    ⟨_, base64EncodeSo_eq encodedData fits, ?_, ?_⟩⟩
  · exact List.take_left' (length_rfc4648Base64 data)
  · exact List.drop_left' (length_rfc4648Base64 data)

/-- Witness: `"Song"` needs 8 bytes; with 7 there is no output, with 8 it is `U29uZw==`. -/
theorem base64EncodeSo_rfc4648_song :
    base64EncodeSo (ascii "Song") [] 7 = none
      ∧ (∃ out, base64EncodeSo (ascii "Song") [] 8 = some (out, 8)
          ∧ out.take 8 = rfc4648Base64 (ascii "Song") ∧ out.drop 8 = List.drop 8 [])
      ∧ rfc4648Base64 (ascii "Song") = ascii "U29uZw==" :=
  ⟨(base64EncodeSo_rfc4648 (ascii "Song") [] 7).1 (by decide),
    (base64EncodeSo_rfc4648 (ascii "Song") [] 8).2 (by decide), by decide⟩

/-- Encoding two pieces is encoding their concatenation when the first is whole groups, by
induction on the first piece.
-/
theorem rfc4648Base64_append : ∀ {xs : Bytes}, xs.length % 3 = 0 → ∀ ys : Bytes,
    rfc4648Base64 (xs ++ ys) = rfc4648Base64 xs ++ rfc4648Base64 ys
  | [], _, _ => rfl
  | [_], whole, _ => by simp at whole
  | [_, _], whole, _ => by simp at whole
  | a :: b :: c :: rest, whole, ys => by
      have restWhole : rest.length % 3 = 0 := by simp at whole; omega
      show rfc4648Base64 (a :: b :: c :: (rest ++ ys)) = _
      rw [rfc4648Base64, rfc4648Base64, rfc4648Base64_append restWhole ys, List.append_assoc]

-----------------------------------------------------------------------------------------
-- The writes
-----------------------------------------------------------------------------------------

/-- The passes of 57 bytes write the RFC encoding of the whole payload: each pass encodes
whole groups, save the last. By induction on the bytes left.
-/
theorem base64Lines_flatten (outbuf data : Bytes)
    : (base64Lines outbuf data data.length).flatten = rfc4648Base64 data := by
  obtain ⟨len, sized⟩ : ∃ len, data.length = len := ⟨_, rfl⟩
  induction len using Nat.strong_induction_on generalizing outbuf data with
  | _ len ih =>
      rw [base64Lines]
      split
      · rename_i empty
        rw [List.eq_nil_of_length_eq_zero empty]; rfl
      · rename_i filled
        have chunk : (data.take (min data.length 57)).length = min data.length 57 := by simp
        have encoded := @base64EncodeSo_eq (data.take (min data.length 57)) outbuf 76
          (show 4 * (((data.take (min data.length 57)).length + 2) / 3) ≤ 76 by rw [chunk]; omega)
        have rest : (data.drop (min data.length 57)).length = data.length - min data.length 57 := by
          simp
        dsimp only
        rw [encoded, Option.getD_some, List.flatten_cons, List.take_left' (by simp),
          ← rest, ih _ (by omega) _ _ rfl]
        by_cases long : 57 ≤ data.length
        · rw [min_eq_right long, ← rfc4648Base64_append (by simp [long]), List.take_append_drop]
        · rw [min_eq_left (by omega), List.take_length, List.drop_length]
          simp [rfc4648Base64]

@[simp] theorem pipeWrites_all (k : Nat) (ws : List Bytes) : pipeWrites (fun _ => true) k ws = ws := by
  induction ws generalizing k with
  | nil => rfl
  | cons w ws ih => simp [pipeWrites, ih]

/-- When every write succeeds, a non-empty payload reaches the pipe as the item header, the
data element holding the RFC 4648 base64 of the whole payload, and the end of the item; one
call of the encoder on the whole payload gives the same base64. With no data, or none of it,
the data element is left out.
-/
theorem metadataProcess_pipe (type code : Nat) {d : Bytes} (filled : 0 < d.length)
    : (metadataProcess true (fun _ => true) type code (some d) d.length).flatten
        = ascii "<item><type>" ++ hexText type ++ ascii "</type><code>" ++ hexText code
          ++ ascii "</code><length>" ++ decimal d.length ++ ascii "</length>"
          ++ ascii "\n<data encoding=\"base64\">\n" ++ rfc4648Base64 d ++ ascii "</data>"
          ++ ascii "</item>\n"
      ∧ base64EncodeSo d [] (4 * ((d.length + 2) / 3))
        = some (rfc4648Base64 d, 4 * ((d.length + 2) / 3))
      ∧ ∀ data length, (data = none ∨ length = 0) →
          (metadataProcess true (fun _ => true) type code data length).flatten
            = ascii "<item><type>" ++ hexText type ++ ascii "</type><code>" ++ hexText code
              ++ ascii "</code><length>" ++ decimal length ++ ascii "</length>"
              ++ ascii "</item>\n" := by
  refine ⟨?_, by simpa using base64EncodeSo_eq [] (le_refl (4 * ((d.length + 2) / 3))), ?_⟩
  · simp only [metadataProcess, if_true, pipeWrites_all, metadataWrites, if_pos filled,
      List.flatten_cons, List.cons_append, List.flatten_append, base64Lines_flatten, itemHeader]
    simp [List.append_assoc]
  · rintro data length (rfl | rfl)
    · simp [metadataProcess, metadataWrites, itemHeader]
    · cases data <;> simp [metadataProcess, metadataWrites, itemHeader]

/-- Witness: a four-byte title, whose base64 ends in two `=`. -/
theorem metadataProcess_pipe_title :
    0 < (ascii "Song").length
      ∧ (metadataProcess true (fun _ => true) 0x73736e63 0x6d696e6d (some (ascii "Song")) 4).flatten
        = ascii "<item><type>" ++ hexText 0x73736e63 ++ ascii "</type><code>" ++ hexText 0x6d696e6d
          ++ ascii "</code><length>" ++ decimal 4 ++ ascii "</length>"
          ++ ascii "\n<data encoding=\"base64\">\n" ++ ascii "U29uZw==" ++ ascii "</data>"
          ++ ascii "</item>\n" :=
  ⟨by decide, (metadataProcess_pipe 0x73736e63 0x6d696e6d (d := ascii "Song") (by decide)).1.trans
    (by rw [show rfc4648Base64 (ascii "Song") = ascii "U29uZw==" by decide,
      show (ascii "Song").length = 4 by decide])⟩

end Shairport.Rtsp
