import ShairportRtsp.Codec.ReadRequest

/-! The framing `rtsp_read_request` parses: a request line `M U RTSP/1.0`, header lines
`N: V`, a blank line and the body, every line ended by CRLF. A request written this way
and delivered in one arrival is read back whole.
-/

namespace Shairport.Rtsp

/-- A request as a client writes it. -/
structure WireRequest where
  method : Bytes
  uri : Bytes
  headers : List (Bytes × Bytes)
  body : Bytes
  deriving DecidableEq, Repr

def crlf : Bytes := [13, 10]

def WireRequest.requestLine (r : WireRequest) : Bytes :=
  r.method ++ 32 :: r.uri ++ 32 :: ascii "RTSP/1.0"

/-- `N: V`. -/
def headerLine (h : Bytes × Bytes) : Bytes := h.1 ++ 58 :: 32 :: h.2

def headerBlock (hs : List (Bytes × Bytes)) : Bytes :=
  (hs.map fun h => headerLine h ++ crlf).flatten

/-- Everything before the body: the request line, the header lines and the blank line. -/
def WireRequest.head (r : WireRequest) : Bytes :=
  r.requestLine ++ crlf ++ headerBlock r.headers ++ crlf

def WireRequest.encode (r : WireRequest) : Bytes := r.head ++ r.body

/-- A byte of a request-line word: no space, NUL, CR or LF. -/
def PlainToken (b : UInt8) : Prop := b ≠ 32 ∧ b ≠ 0 ∧ b ≠ 13 ∧ b ≠ 10

/-- A byte of a header line: no NUL, CR or LF. -/
def PlainText (b : UInt8) : Prop := b ≠ 0 ∧ b ≠ 13 ∧ b ≠ 10

instance : DecidablePred PlainToken := fun _ => inferInstanceAs (Decidable (_ ∧ _))

instance : DecidablePred PlainText := fun _ => inferInstanceAs (Decidable (_ ∧ _))

/-- The value of the first header named `Content-Length`, compared as `strcasecmp` does. -/
def contentLengthHeader (hs : List (Bytes × Bytes)) : Option Bytes :=
  (hs.find? fun h => strcaseEq h.1 (ascii "Content-Length")).map Prod.snd

/-- The requests of the framing: words of the request line without blanks or line breaks,
at most 16 headers whose names hold no `": "`, a header block within the 4 KiB buffer, and
a `Content-Length` that gives the body's size.
-/
structure WireRequest.WellFormed (r : WireRequest) : Prop where
  method_pos : 0 < r.method.length
  method_le : r.method.length ≤ 15
  method_plain : ∀ c ∈ r.method, PlainToken c
  uri_ne : r.uri ≠ []
  uri_plain : ∀ c ∈ r.uri, PlainToken c
  headers_le : r.headers.length ≤ 16
  names : ∀ h ∈ r.headers, ¬ [58, 32] <:+: h.1
  lines_plain : ∀ h ∈ r.headers, ∀ c ∈ headerLine h, PlainText c
  head_le : r.head.length ≤ 4096
  body_lt : r.body.length < 2 ^ 31 - 1
  contentLength : contentLengthHeader r.headers = some (decimal r.body.length)
    ∨ (r.body = [] ∧ contentLengthHeader r.headers = none)

/-- The framing the header phase reads, whatever the body and `Content-Length` are: the
request line and the header lines of `WellFormed`, within the 4 KiB buffer.
-/
structure WireRequest.HeadFormed (r : WireRequest) : Prop where
  method_pos : 0 < r.method.length
  method_le : r.method.length ≤ 15
  method_plain : ∀ c ∈ r.method, PlainToken c
  uri_ne : r.uri ≠ []
  uri_plain : ∀ c ∈ r.uri, PlainToken c
  headers_le : r.headers.length ≤ 16
  names : ∀ h ∈ r.headers, ¬ [58, 32] <:+: h.1
  lines_plain : ∀ h ∈ r.headers, ∀ c ∈ headerLine h, PlainText c
  head_le : r.head.length ≤ 4096

theorem WireRequest.WellFormed.head {r : WireRequest} (wf : r.WellFormed) : r.HeadFormed :=
  ⟨wf.method_pos, wf.method_le, wf.method_plain, wf.uri_ne, wf.uri_plain, wf.headers_le, wf.names,
    wf.lines_plain, wf.head_le⟩

/-- The message `r` should give, numbered `index`, before its body is attached. -/
def WireRequest.parsed (r : WireRequest) (index : Int) : RtspMessage :=
  { msgInit index with method := r.method, headers := r.headers }

theorem WireRequest.head_ne_nil (r : WireRequest) : r.head ≠ [] := by
  simp [WireRequest.head, crlf]

-----------------------------------------------------------------------------------------
-- Lines
-----------------------------------------------------------------------------------------

/-- A CRLF-ended line free of NUL, CR and LF is one pass of the scan, and
`msg_handle_line` sees exactly the line.
-/
theorem scanLines_crlf (index : Int) (packet : Option RtspMessage) {line : Bytes}
    (plain : ∀ c ∈ line, PlainText c) (more : Bytes)
    : scanLines index packet (line ++ 13 :: 10 :: more)
      = match msgHandleLine index packet line with
        | (none, _) => .badPacket
        | (some msg, size) =>
            if size < 0 then scanLines index (some msg) more else .complete msg size more := by
  have noNul : 0 ∉ line := fun h => (plain 0 h).1 rfl
  have found := nextline_crlf (fun h => (plain 13 h).2.1 rfl) (fun h => (plain 10 h).2.2 rfl) more
  have rest : (line ++ 0 :: 0 :: more).drop (line.length + 2) = more := by
    simp [List.drop_append_eq_append_drop]
  cases handled : msgHandleLine index packet line with
  | mk packet' size =>
      cases packet' with
      | none => exact scanLines_eq_bad found (by rw [msgHandleLine_nul index packet noNul, handled])
      | some msg =>
          rw [scanLines_eq_line found (by rw [msgHandleLine_nul index packet noNul, handled]), rest]

theorem msgHandleLine_requestLine_of {r : WireRequest} (hf : r.HeadFormed) (index : Int)
    : msgHandleLine index none r.requestLine = (some { msgInit index with method := r.method }, -1) := by
  have version : ∀ c ∈ ascii "RTSP/1.0", PlainToken c := by decide
  have noNul : 0 ∉ r.requestLine := by
    simp only [WireRequest.requestLine, List.mem_append, List.mem_cons, not_or]
    exact ⟨⟨fun h => (hf.method_plain 0 h).2.1 rfl, by decide, fun h => (hf.uri_plain 0 h).2.1 rfl⟩,
      by decide, fun h => (version 0 h).2.1 rfl⟩
  have words : tokenize [] r.requestLine = [r.method, r.uri, ascii "RTSP/1.0"] :=
    tokenize_three (List.ne_nil_of_length_pos hf.method_pos) hf.uri_ne (by decide)
      (fun h => (hf.method_plain 32 h).1 rfl) (fun h => (hf.uri_plain 32 h).1 rfl)
      (fun h => (version 32 h).1 rfl)
  simp only [msgHandleLine, cstr_of_nul_free noNul, words, if_true,
    List.take_of_length_le hf.method_le]

theorem msgHandleLine_requestLine {r : WireRequest} (wf : r.WellFormed) (index : Int)
    : msgHandleLine index none r.requestLine = (some { msgInit index with method := r.method }, -1) :=
  msgHandleLine_requestLine_of wf.head index

/-- A header line `N: V`, with room left, appends `(N, V)` to the headers. -/
theorem msgHandleLine_headerLine (index : Int) {msg : RtspMessage}
    (room : msg.headers.length < 16) {h : Bytes × Bytes} (name : ¬ [58, 32] <:+: h.1)
    (plain : ∀ c ∈ headerLine h, PlainText c)
    : msgHandleLine index (some msg) (headerLine h)
      = (some { msg with headers := msg.headers ++ [h] }, -1) := by
  have noNul : 0 ∉ headerLine h := fun mem => (plain 0 mem).1 rfl
  have nameNoNul : 0 ∉ h.1 := fun mem => noNul (List.mem_append_left _ mem)
  have valueNoNul : 0 ∉ h.2 := fun mem => noNul (by simp [headerLine, mem])
  have sep : strstr (headerLine h) (ascii ": ") = some h.1.length := by
    rw [strstr, cstr_of_nul_free noNul]
    exact findPrefix_pair (by decide) name h.2
  have name : (headerLine h).take h.1.length = h.1 := List.take_left' rfl
  have value : (headerLine h).drop (h.1.length + 2) = h.2 := by simp [headerLine]
  simp only [msgHandleLine, cstr_of_nul_free noNul, sep, name, value, msgAddHeader,
    if_neg (Nat.not_le.mpr room), cstr_of_nul_free nameNoNul, cstr_of_nul_free valueNoNul]
  simp [headerLine]

/-- The header lines add their headers in order, by induction on the headers. -/
theorem scanLines_headerBlock (index : Int) (hs : List (Bytes × Bytes)) {msg : RtspMessage}
    (room : msg.headers.length + hs.length ≤ 16) (names : ∀ h ∈ hs, ¬ [58, 32] <:+: h.1)
    (plain : ∀ h ∈ hs, ∀ c ∈ headerLine h, PlainText c) (more : Bytes)
    : scanLines index (some msg) (headerBlock hs ++ more)
      = scanLines index (some { msg with headers := msg.headers ++ hs }) more := by
  induction hs generalizing msg with
  | nil => simp only [headerBlock, List.map_nil, List.flatten_nil, List.nil_append, List.append_nil]
  | cons h hs ih =>
      simp only [List.mem_cons, forall_eq_or_imp] at names plain
      simp only [List.length_cons] at room
      have shape : headerBlock (h :: hs) ++ more = headerLine h ++ 13 :: 10 :: (headerBlock hs ++ more) := by
        simp [headerBlock, crlf]
      rw [shape, scanLines_crlf index _ plain.1, msgHandleLine_headerLine index (by omega) names.1 plain.1]
      simp only [if_pos (show (-1 : Int) < 0 by decide)]
      rw [ih (by simp; omega) names.2 plain.2]
      simp

/-- The blank line ends the scan with the size `Content-Length` gives, when that is not
negative.
-/
theorem scanLines_blank (index : Int) (msg : RtspMessage) {size : Int}
    (given : contentSize msg = size) (nonneg : 0 ≤ size) (rest : Bytes)
    : scanLines index (some msg) (13 :: 10 :: rest) = .complete msg size rest := by
  have blank := scanLines_crlf index (some msg) (List.forall_mem_nil _) rest
  rw [List.nil_append] at blank
  rw [blank, msgHandleLine_blank, given]
  exact if_neg (by omega)

/-- `Content-Length`, as `atoi` reads it, is the body's size. -/
theorem WireRequest.WellFormed.contentSize_eq {r : WireRequest} (wf : r.WellFormed)
    {msg : RtspMessage} (headers : msg.headers = r.headers) : contentSize msg = r.body.length := by
  have found : msgGetHeader msg (ascii "Content-Length") = contentLengthHeader r.headers := by
    rw [msgGetHeader, headers, contentLengthHeader]
  rcases wf.contentLength with given | ⟨empty, absent⟩
  · rw [contentSize, found, given]
    exact atoi_decimal _ (by have := wf.body_lt; omega)
  · rw [contentSize, found, absent, empty]; rfl

theorem WireRequest.HeadFormed.requestLine_plain {r : WireRequest} (hf : r.HeadFormed)
    : ∀ c ∈ r.requestLine, PlainText c := by
  have version : ∀ c ∈ ascii "RTSP/1.0", PlainText c := by decide
  simp only [WireRequest.requestLine, List.mem_append, List.mem_cons]
  rintro c ((method | rfl | uri) | rfl | v)
  exacts [(hf.method_plain c method).2, by decide, (hf.uri_plain c uri).2, by decide, version c v]

theorem WireRequest.WellFormed.requestLine_plain {r : WireRequest} (wf : r.WellFormed)
    : ∀ c ∈ r.requestLine, PlainText c :=
  wf.head.requestLine_plain

/-- The request line and the header lines scan to the message, which then meets the blank
line.
-/
theorem scanLines_head_blank {r : WireRequest} (hf : r.HeadFormed) (index : Int) (rest : Bytes)
    : scanLines index none (r.head ++ rest) = scanLines index (some (r.parsed index)) (13 :: 10 :: rest) := by
  have shape : r.head ++ rest
      = r.requestLine ++ 13 :: 10 :: (headerBlock r.headers ++ 13 :: 10 :: rest) := by
    simp [WireRequest.head, crlf]
  rw [shape, scanLines_crlf index none hf.requestLine_plain, msgHandleLine_requestLine_of hf]
  simp only [if_pos (show (-1 : Int) < 0 by decide)]
  rw [scanLines_headerBlock index r.headers (by simpa [msgInit] using hf.headers_le) hf.names
    hf.lines_plain]
  rfl

/-- The header block of a well-formed request, and whatever follows it, scan to the
complete message with the body's size.
-/
theorem scanLines_head {r : WireRequest} (wf : r.WellFormed) (index : Int) (rest : Bytes)
    : scanLines index none (r.head ++ rest) = .complete (r.parsed index) r.body.length rest := by
  rw [scanLines_head_blank wf.head,
    scanLines_blank index _ (wf.contentSize_eq rfl) (Int.natCast_nonneg _)]

-----------------------------------------------------------------------------------------
-- The read loops
-----------------------------------------------------------------------------------------

/-- The first `read` takes the whole header block, since it fits the 4 KiB buffer, and
whatever of the body came with it.
-/
theorem readHeaders_request {r : WireRequest} (wf : r.WellFormed) (index : Int) (t : Bytes)
    : readHeaders false index none [] (dataFeed (r.encode ++ t))
      = .complete (r.parsed index) r.body.length ((r.body ++ t).take (4096 - r.head.length))
          (dataFeed ((r.body ++ t).drop (4096 - r.head.length))) := by
  have first : (r.encode ++ t).take 4096 = r.head ++ (r.body ++ t).take (4096 - r.head.length) := by
    rw [WireRequest.encode, List.append_assoc, List.take_append_eq_append_take,
      List.take_of_length_le wf.head_le]
  have after : (r.encode ++ t).drop 4096 = (r.body ++ t).drop (4096 - r.head.length) := by
    rw [WireRequest.encode, List.append_assoc, List.drop_append_eq_append_drop,
      List.drop_of_length_le wf.head_le, List.nil_append]
  have nonempty : r.encode ++ t ≠ [] := by simp [WireRequest.encode, r.head_ne_nil]
  rw [readHeaders_eq_read (cancelPending_dataFeed _) (sysRead_dataFeed nonempty _)
    (by simp only [List.length_nil, Nat.sub_zero, first]; simp [r.head_ne_nil])]
  simp only [List.length_nil, Nat.sub_zero, List.nil_append, first, scanLines_head wf, after]

/-- A head that arrives alone ends the header phase with the size its blank line gives,
when that is not negative, and leaves nothing in the buffer.
-/
theorem readHeaders_head {r : WireRequest} (hf : r.HeadFormed) (index : Int)
    (nonneg : 0 ≤ contentSize (r.parsed index))
    : readHeaders false index none [] [.data r.head]
      = .complete (r.parsed index) (contentSize (r.parsed index)) [] [] := by
  have feed : [Delivery.data r.head] = dataFeed r.head := by simp [dataFeed, r.head_ne_nil]
  rw [feed, readHeaders_eq_read (cancelPending_dataFeed _) (sysRead_dataFeed r.head_ne_nil _)
    (by simp [List.take_of_length_le hf.head_le, r.head_ne_nil])]
  simp only [List.length_nil, Nat.sub_zero, List.take_of_length_le hf.head_le,
    List.drop_of_length_le hf.head_le, List.nil_append]
  rw [← List.append_nil r.head, scanLines_head_blank hf, scanLines_blank index _ rfl nonneg]
  rfl

/-- The body loop reads the rest of the body from what is left of the arrival, by induction
on the number of bytes still missing.
-/
theorem readBody_rest (body : Bytes) (j : Nat)
    : readBody false body.length (body.take j) (dataFeed (body.drop j)) = .complete body [] := by
  obtain ⟨n, missing⟩ : ∃ n, body.length - j = n := ⟨_, rfl⟩
  induction n using Nat.strong_induction_on generalizing j with
  | _ n ih =>
      by_cases done : body.length ≤ j
      · rw [List.take_of_length_le done, List.drop_of_length_le done,
          readBody_eq_complete (by omega)]
        rfl
      · have short : ((body.take j).length : Int) < body.length := by simp; omega
        have left : body.drop j ≠ [] := by simp; omega
        have chunk : 0 < min ((body.length : Int) - (body.take j).length).toNat maxReadChunk := by
          simp [maxReadChunk]; omega
        rw [readBody_eq_read short (cancelPending_dataFeed _) (sysRead_dataFeed left _)
          (by simp; omega), ← List.take_add, List.drop_drop]
        exact ih _ (by omega) _ rfl

/-- A well-formed request delivered in one arrival, with each `read` given what it asks
for, is read back whole: method, headers in order, body and its length, and nothing is
left unread. The first buffer is freed when `realloc` moves it for a body over 4 KiB.
-/
theorem rtspReadRequest_roundTrip {r : WireRequest} (wf : r.WellFormed) (b0 b1 : Nat)
    (index : Int)
    : rtspReadRequest false ⟨some b0, some b1⟩ index [.data r.encode]
      = .returned ⟨.ok, some { r.parsed index with contentlength := r.body.length,
                                                   content := some r.body }, [],
          if 4096 < r.body.length ∧ b1 ≠ b0 then [b0] else []⟩ := by
  have feed : [Delivery.data r.encode] = dataFeed r.encode := by
    simp [dataFeed, WireRequest.encode, r.head_ne_nil]
  have headers := readHeaders_request wf index []
  have body := readBody_rest r.body (4096 - r.head.length)
  simp only [List.append_nil] at headers
  simp only [rtspReadRequest, feed, headers]
  by_cases large : 4096 < r.body.length
  · simp only [if_pos (show (4096 : Int) < r.body.length by omega), finishBody, body]
    by_cases moved : b1 = b0 <;> simp [moved, large]
  · simp only [if_neg (show ¬ (4096 : Int) < r.body.length by omega), finishBody, body]
    simp [large]

/-- Witness: a `GET_PARAMETER` request with two headers and an eight-byte body. -/
theorem rtspReadRequest_roundTrip_getParameter :
    let r : WireRequest := ⟨ascii "GET_PARAMETER", ascii "rtsp://10.0.0.2/1",
      [(ascii "CSeq", ascii "3"), (ascii "Content-Length", ascii "8")], ascii "volume\r\n"⟩
    r.WellFormed
      ∧ rtspReadRequest false ⟨some 1, some 2⟩ 5 [.data r.encode]
        = .returned ⟨.ok, some { r.parsed 5 with contentlength := r.body.length,
                                                 content := some r.body }, [],
            if 4096 < r.body.length ∧ 2 ≠ 1 then [1] else []⟩ :=
  have eight : decimal (ascii "volume\r\n").length = ascii "8" := by rw [decimal]; rfl
  have wf : WireRequest.WellFormed ⟨ascii "GET_PARAMETER", ascii "rtsp://10.0.0.2/1",
      [(ascii "CSeq", ascii "3"), (ascii "Content-Length", ascii "8")], ascii "volume\r\n"⟩ :=
    ⟨by decide, by decide, by decide, by decide, by decide, by decide, by decide, by decide,
      by decide, by decide, .inl (by rw [eight]; decide)⟩
  ⟨wf, rtspReadRequest_roundTrip wf 1 2 5⟩

end Shairport.Rtsp
