import ShairportRtsp.Codec.RoundTrip

/-! The `Content-Length` value as `rtsp_read_request` uses it: `msg_handle_line` returns
`atoi` of it for the blank line, the header loop runs on while that is negative, and a size
over the 4 KiB buffer is grown to `msg_size + 1` bytes. Nothing bounds the value: one that
`atoi` reads as negative keeps the header loop reading the body as header lines, and one it
reads as `INT_MAX` makes `msg_size + 1` overflow `int`.
-/

namespace Shairport.Rtsp

/-- `atoi` of the request's `Content-Length` is the size the blank line gives. -/
theorem contentSize_parsed {r : WireRequest} {v : Bytes}
    (given : contentLengthHeader r.headers = some v) (index : Int)
    : contentSize (r.parsed index) = atoi v := by
  have found : msgGetHeader (r.parsed index) (ascii "Content-Length") = contentLengthHeader r.headers := rfl
  rw [contentSize, found, given]

/-- The blank line ends the scan with the size it gives when that is not negative; else the
scan goes on with the line after it, still reading headers.
-/
theorem scanLines_blank_line (index : Int) (msg : RtspMessage) (rest : Bytes)
    : scanLines index (some msg) (13 :: 10 :: rest)
      = if contentSize msg < 0 then scanLines index (some msg) rest
        else .complete msg (contentSize msg) rest := by
  have blank := scanLines_crlf index (some msg) (List.forall_mem_nil _) rest
  rw [List.nil_append] at blank
  rw [blank, msgHandleLine_blank]

-----------------------------------------------------------------------------------------
-- A negative Content-Length
-----------------------------------------------------------------------------------------

/-- With a `Content-Length` that `atoi` reads as negative, the blank line gives
`msg_handle_line`'s negative size, and the header loop goes on past it: the lines after it,
the body's, are handed to `msg_handle_line` as header lines, and one that reads as a header
is added to the message. Such values are the numerals of the negative `int`s, and also
numerals such as `4294967295`, which `atoi` wraps to `-1`.
-/
theorem scanLines_negative_content_length {r : WireRequest} (hf : r.HeadFormed) {v : Bytes}
    (negative : atoi v < 0) (given : contentLengthHeader r.headers = some v)
    (index : Int) (rest : Bytes)
    : msgHandleLine index (some (r.parsed index)) [] = (some (r.parsed index), atoi v)
      ∧ scanLines index none (r.head ++ rest) = scanLines index (some (r.parsed index)) rest
      ∧ ∀ h : Bytes × Bytes, r.headers.length < 16 → ¬ [58, 32] <:+: h.1
          → (∀ c ∈ headerLine h, PlainText c) → ∀ more : Bytes,
          scanLines index none (r.head ++ headerLine h ++ crlf ++ more)
            = scanLines index (some { r.parsed index with headers := r.headers ++ [h] }) more := by
  have size : contentSize (r.parsed index) = atoi v := contentSize_parsed given index
  have onward : ∀ rest, scanLines index none (r.head ++ rest)
      = scanLines index (some (r.parsed index)) rest := fun rest => by
    rw [scanLines_head_blank hf, scanLines_blank_line, size, if_pos negative]
  refine ⟨by rw [msgHandleLine_blank, size], onward rest, fun h room name plain more => ?_⟩
  rw [List.append_assoc, List.append_assoc, onward, show crlf ++ more = 13 :: 10 :: more from rfl,
    scanLines_crlf index _ plain, msgHandleLine_headerLine index room name plain]
  rfl

/-- Witness: an `OPTIONS` request with `Content-Length: -1`, followed by a line that reads as a
header.
-/
theorem scanLines_negative_content_length_options :
    let r : WireRequest :=
      ⟨ascii "OPTIONS", ascii "*", [(ascii "CSeq", ascii "1"), (ascii "Content-Length", ascii "-1")], []⟩
    msgHandleLine 0 (some (r.parsed 0)) [] = (some (r.parsed 0), -1)
      ∧ scanLines 0 none (r.head ++ headerLine (ascii "Apple-Challenge", ascii "x") ++ crlf ++ crlf)
        = scanLines 0 (some { r.parsed 0 with
            headers := r.headers ++ [(ascii "Apple-Challenge", ascii "x")] }) crlf := by
  intro r
  have hf : r.HeadFormed := ⟨by decide, by decide, by decide, by decide, by decide, by decide,
    by decide, by decide, by decide⟩
  have continues := scanLines_negative_content_length hf (v := ascii "-1") (by decide) rfl 0 []
  exact ⟨continues.1, continues.2.2 _ (by decide) (by decide) (by decide) crlf⟩

-----------------------------------------------------------------------------------------
-- A Content-Length that reads as INT_MAX
-----------------------------------------------------------------------------------------

/-- Every `Content-Length` that `atoi` reads as `INT_MAX` is taken: the numeral of
`2 ^ 31 - 1`, and every numeral below `2 ^ 63` that wraps to it. The header phase ends with
that size, which is over the 4 KiB buffer, so `msg_size + 1` is computed for `realloc`, and
that sum is past `int`.
-/
theorem readHeaders_content_length_overflows {r : WireRequest} (hf : r.HeadFormed) {v : Nat}
    (wraps : v % 2 ^ 32 = 2 ^ 31 - 1) (long : v < 2 ^ 63)
    (given : contentLengthHeader r.headers = some (decimal v)) (index : Int)
    : readHeaders false index none [] [.data r.head] = .complete (r.parsed index) (2 ^ 31 - 1) [] []
      ∧ 4096 < (2 ^ 31 - 1 : Int) ∧ ¬ FitsInt ((2 ^ 31 - 1 : Int) + 1) := by
  have size : contentSize (r.parsed index) = 2 ^ 31 - 1 := by
    rw [contentSize_parsed given, ← List.append_nil (decimal v), atoi_decimal_append v (by simp),
      toInt32]
    omega
  refine ⟨?_, by norm_num, fun ⟨_, past⟩ => by norm_num at past⟩
  rw [readHeaders_head hf index (by rw [size]; norm_num), size]

/-- Witness: an `ANNOUNCE` whose `Content-Length` is `INT_MAX`. -/
theorem readHeaders_content_length_overflows_announce :
    let r : WireRequest :=
      ⟨ascii "ANNOUNCE", ascii "rtsp://10.0.0.2/1", [(ascii "Content-Length", ascii "2147483647")], []⟩
    readHeaders false 0 none [] [.data r.head] = .complete (r.parsed 0) (2 ^ 31 - 1) [] []
      ∧ 4096 < (2 ^ 31 - 1 : Int) ∧ ¬ FitsInt ((2 ^ 31 - 1 : Int) + 1) := by
  intro r
  have numeral : decimal 2147483647 = ascii "2147483647" := by simp [decimal]; decide
  exact readHeaders_content_length_overflows (r := r) (v := 2147483647) ⟨by decide, by decide,
    by decide, by decide, by decide, by decide, by decide, by decide, by decide⟩ (by norm_num)
    (by norm_num) (by rw [numeral]; decide) 0

end Shairport.Rtsp
