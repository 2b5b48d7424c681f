import ShairportRtsp.Codec.RoundTrip

/-! `msg_write_response`: the response is printed into the 2048-byte stack array `pkt`, one
`snprintf` at a time, with a check after each header, after `Content-Length` and at the end
that more than 1024 bytes are left; then one `write` of everything printed. The content is
copied with `memcpy` between the `Content-Length` line and the blank line, and without a
check of its own.
-/

namespace Shairport.Rtsp

-----------------------------------------------------------------------------------------
-- The packet
-----------------------------------------------------------------------------------------

/-- `RTSP/1.0 %d %s\r\n` with `OK` for 200 and `Unauthorized` for any other code. -/
def statusLine (respcode : Int) : Bytes :=
  ascii "RTSP/1.0 " ++ decimalInt respcode ++ ascii " "
    ++ (if respcode = 200 then ascii "OK" else ascii "Unauthorized") ++ crlf

/-- `%s: %s\r\n` of a header. -/
def headerText (h : Bytes × Bytes) : Bytes := cstr h.1 ++ ascii ": " ++ cstr h.2 ++ crlf

/-- `Content-Length: %d\r\n`. -/
def contentLengthText (contentlength : Int) : Bytes :=
  ascii "Content-Length: " ++ decimalInt contentlength ++ crlf

/-- How many bytes `snprintf (p, size, ..)` stores for a text of `len` bytes: the text and
its NUL, cut to `size`; an `int` below zero passed as `size_t` is larger than any text.
-/
def snprintfStored (size : Int) (len : Nat) : Nat :=
  if size < 0 then len + 1 else min (len + 1) size.toNat

/-- The locals of `msg_write_response`: `pktfree`, the offset `p - pkt`, the bytes printed
(what `pkt` holds before `p` as long as no text was cut short), and each store into `pkt`
so far, as its offset and its size.
-/
structure PacketState where
  pktfree : Int
  p : Int
  pkt : Bytes
  stores : List (Int × Nat)
  deriving DecidableEq, Repr

/-- `n = snprintf (p, pktfree, ..); pktfree -= n; p += n;` for the text `s`. -/
def PacketState.print (st : PacketState) (s : Bytes) : PacketState :=
  ⟨st.pktfree - s.length, st.p + s.length, st.pkt ++ s,
    st.stores ++ [(st.p, snprintfStored st.pktfree s.length)]⟩

/-- `memcpy (p, resp->content, resp->contentlength); pktfree -= ..; p += ..;`, the length
converted to `size_t`.
-/
def PacketState.copy (st : PacketState) (content : Option Bytes) (contentlength : Int)
    : PacketState :=
  ⟨st.pktfree - contentlength, st.p + contentlength,
    st.pkt ++ (content.getD []).take contentlength.toNat,
    st.stores ++ [(st.p, (contentlength % 2 ^ 64).toNat)]⟩

/-- The header loop: print each header, and return `-1` as soon as 1024 bytes or fewer are
left; the state at that return, or after the loop.
-/
def printHeaders (st : PacketState) : List (Bytes × Bytes) → Except PacketState PacketState
  | [] => .ok st
  | h :: hs =>
      let st := st.print (headerText h)
      if st.pktfree ≤ 1024 then .error st else printHeaders st hs

/-- `if (resp->contentlength)`: the `Content-Length` line, `-2` when it leaves 1024 bytes or
fewer, else the `memcpy` of the content.
-/
def printContent (st : PacketState) (content : Option Bytes) (contentlength : Int)
    : Except PacketState PacketState :=
  if contentlength ≠ 0 then
    let st := st.print (contentLengthText contentlength)
    if st.pktfree ≤ 1024 then .error st else .ok (st.copy content contentlength)
  else .ok st

/-- What `msg_write_response` does: its result, the stores into `pkt`, and the bytes handed
to `write`, if it gets there.
-/
structure ResponseOutcome where
  result : Int
  stores : List (Int × Nat)
  written : Option Bytes
  deriving DecidableEq, Repr

/-- The end of `msg_write_response`: the blank line, `-3` when 1024 bytes or fewer are left,
else one `write` of `p - pkt` bytes, which returns `reply`.
-/
def finishResponse (st : PacketState) (reply : Int) : ResponseOutcome :=
  let st := st.print crlf
  if st.pktfree ≤ 1024 then ⟨-3, st.stores, none⟩
  else ⟨if reply = -1 then -4 else if reply ≠ st.p then -5 else 0, st.stores, some st.pkt⟩

/-- `msg_write_response (fd, resp)`, with `reply` what `write` returns. -/
def msgWriteResponse (resp : RtspMessage) (reply : Int) : ResponseOutcome :=
  match printHeaders ((PacketState.mk 2048 0 [] []).print (statusLine resp.respcode)) resp.headers with
  | .error st => ⟨-1, st.stores, none⟩
  | .ok st =>
      match printContent st resp.content resp.contentlength with
      | .error st => ⟨-2, st.stores, none⟩
      | .ok st => finishResponse st reply

-----------------------------------------------------------------------------------------
-- What is written
-----------------------------------------------------------------------------------------

/-- The header loop prints each header after what the packet holds, by induction on the
headers.
-/
theorem printHeaders_pkt
    : ∀ {st st' : PacketState} {hs : List (Bytes × Bytes)}, printHeaders st hs = .ok st' →
        st'.pkt = st.pkt ++ (hs.map headerText).flatten
  | _, _, [], printed => by
      cases printed
      simp
  | st, _, h :: hs, printed => by
      rw [printHeaders] at printed
      split at printed
      · cases printed
      · rw [printHeaders_pkt printed]
        simp [PacketState.print]

theorem printContent_pkt {st st' : PacketState} {content : Option Bytes} {contentlength : Int}
    (printed : printContent st content contentlength = .ok st') : st.pkt <+: st'.pkt := by
  unfold printContent at printed
  split at printed
  · dsimp only at printed
    split at printed
    · cases printed
    · cases printed
      simp only [PacketState.copy, PacketState.print, List.append_assoc]
      exact List.prefix_append _ _
  · cases printed
    exact List.prefix_refl _

/-- Whatever `msg_write_response` hands to `write` begins with the status line and the text
of every header, in order.
-/
theorem msgWriteResponse_written {resp : RtspMessage} {reply : Int} {pkt : Bytes}
    (wrote : (msgWriteResponse resp reply).written = some pkt)
    : statusLine resp.respcode ++ (resp.headers.map headerText).flatten <+: pkt := by
  unfold msgWriteResponse at wrote
  split at wrote
  · cases wrote
  · rename_i st headers
    split at wrote
    · cases wrote
    · rename_i st' content
      have head := printHeaders_pkt headers
      simp only [PacketState.print, List.nil_append] at head
      unfold finishResponse at wrote
      dsimp only at wrote
      split at wrote
      · cases wrote
      · cases wrote
        rw [← head]
        exact (printContent_pkt content).trans (List.prefix_append _ _)

-----------------------------------------------------------------------------------------
-- Printing while there is room
-----------------------------------------------------------------------------------------

/-- Headers that leave more than 1024 bytes all go in, in order, by induction on them. -/
theorem printHeaders_fits (st : PacketState) (hs : List (Bytes × Bytes))
    (fits : 1024 < st.pktfree - ((hs.map headerText).flatten.length : Int))
    : ∃ added, printHeaders st hs
      = .ok ⟨st.pktfree - (hs.map headerText).flatten.length,
          st.p + (hs.map headerText).flatten.length, st.pkt ++ (hs.map headerText).flatten,
          st.stores ++ added⟩ := by
  induction hs generalizing st with
  | nil => exact ⟨[], by simp [printHeaders]⟩
  | cons h hs ih =>
      simp only [List.map_cons, List.flatten_cons, List.length_append, Nat.cast_add] at fits ⊢
      obtain ⟨added, rest⟩ := ih (st.print (headerText h)) (by simp only [PacketState.print]; omega)
      refine ⟨(st.p, snprintfStored st.pktfree (headerText h).length) :: added, ?_⟩
      rw [printHeaders, if_neg (by simp only [PacketState.print]; omega), rest]
      simp only [PacketState.print, List.append_assoc, List.singleton_append]
      congr 2 <;> ring

/-- The status line of a 200. -/
theorem statusLine_ok : statusLine 200 = ascii "RTSP/1.0 200 OK\r\n" := by
  simp [statusLine, decimalInt, decimal]; decide

/-- Content whose `Content-Length` line leaves more than 1024 bytes is copied right after
that line, whatever its own length.
-/
theorem printContent_copies (st : PacketState) {content : Bytes} (filled : content ≠ [])
    (fits : 1024 < st.pktfree - (contentLengthText content.length).length)
    : printContent st (some content) content.length
      = .ok ⟨st.pktfree - (contentLengthText content.length).length - content.length,
          st.p + (contentLengthText content.length).length + content.length,
          st.pkt ++ contentLengthText content.length ++ content,
          st.stores ++ [(st.p, snprintfStored st.pktfree (contentLengthText content.length).length),
            (st.p + (contentLengthText content.length).length,
              ((content.length : Int) % 2 ^ 64).toNat)]⟩ := by
  have nonzero : (content.length : Int) ≠ 0 := by exact_mod_cast (List.length_pos.mpr filled).ne'
  rw [printContent, if_pos nonzero, if_neg (by simp only [PacketState.print]; omega)]
  simp [PacketState.print, PacketState.copy]

/-- With more than 1024 bytes left after the blank line, the packet is written whole. -/
theorem finishResponse_writes {st : PacketState} (reply : Int) (room : 1024 < st.pktfree - 2)
    : (finishResponse st reply).written = some (st.pkt ++ crlf) := by
  rw [finishResponse, if_neg (by simp only [PacketState.print]; exact not_le.mpr room)]
  rfl

/-- With 1024 bytes or fewer left after the blank line, `-3` is returned without a `write`,
after the blank line is stored at `p`.
-/
theorem finishResponse_refuses {st : PacketState} (reply : Int) (full : st.pktfree - 2 ≤ 1024)
    : finishResponse st reply = ⟨-3, st.stores ++ [(st.p, snprintfStored st.pktfree 2)], none⟩ := by
  rw [finishResponse, if_pos (by simp only [PacketState.print]; exact full)]
  rfl

section Content

variable {resp : RtspMessage} {content : Bytes}

/-- A response whose status line, headers and `Content-Length` line leave more than 1024
bytes reaches the end with everything printed and the content copied after the
`Content-Length` line.
-/
theorem msgWriteResponse_eq_finish (reply : Int) (given : resp.content = some content)
    (sized : resp.contentlength = content.length) (filled : content ≠ [])
    (headFits : (statusLine resp.respcode ++ (resp.headers.map headerText).flatten
      ++ contentLengthText content.length).length < 1024)
    : ∃ st, msgWriteResponse resp reply = finishResponse st reply
      ∧ st.pktfree = 2048 - (statusLine resp.respcode ++ (resp.headers.map headerText).flatten
          ++ contentLengthText content.length).length - content.length
      ∧ st.p = (statusLine resp.respcode ++ (resp.headers.map headerText).flatten
          ++ contentLengthText content.length).length + content.length
      ∧ st.pkt = statusLine resp.respcode ++ (resp.headers.map headerText).flatten
          ++ contentLengthText content.length ++ content := by
  simp only [List.length_append, Nat.cast_add] at headFits ⊢
  obtain ⟨added, headers⟩ := printHeaders_fits ((PacketState.mk 2048 0 [] []).print
    (statusLine resp.respcode)) resp.headers (by simp only [PacketState.print]; omega)
  rw [msgWriteResponse, headers]
  dsimp only
  rw [given, sized, printContent_copies _ filled (by simp only [PacketState.print]; omega)]
  refine ⟨_, rfl, ?_, ?_, ?_⟩ <;> simp only [PacketState.print, List.nil_append] <;> ring

/-- A response with content whose whole text stays within 1024 bytes is sent in one `write`
with the content between the `Content-Length` line and the blank line, not after the blank
line; the two differ for every content other than a run of CRLFs.
-/
theorem msgWriteResponse_content_before_blank (reply : Int) (given : resp.content = some content)
    (sized : resp.contentlength = content.length) (filled : content ≠ [])
    (fits : (statusLine resp.respcode ++ (resp.headers.map headerText).flatten
      ++ contentLengthText content.length ++ crlf ++ content).length < 1024)
    (notBlank : content ++ crlf ≠ crlf ++ content)
    : (msgWriteResponse resp reply).written
        = some (statusLine resp.respcode ++ (resp.headers.map headerText).flatten
          ++ contentLengthText content.length ++ content ++ crlf)
      ∧ (msgWriteResponse resp reply).written
        ≠ some (statusLine resp.respcode ++ (resp.headers.map headerText).flatten
          ++ contentLengthText content.length ++ crlf ++ content) := by
  simp only [List.length_append, show crlf.length = 2 from rfl] at fits
  obtain ⟨st, finish, free, -, pkt⟩ :=
    msgWriteResponse_eq_finish reply given sized filled (by simp only [List.length_append]; omega)
  have written : (msgWriteResponse resp reply).written
      = some (statusLine resp.respcode ++ (resp.headers.map headerText).flatten
        ++ contentLengthText content.length ++ content ++ crlf) := by
    rw [finish, finishResponse_writes reply (by rw [free]; simp only [List.length_append]; push_cast; omega),
      pkt]
  refine ⟨written, fun same => notBlank ?_⟩
  rw [written] at same
  simpa [List.append_assoc] using same

/-- A response whose head fits but whose content runs past the 2048 bytes of `pkt` is
copied past the end of `pkt`, with the blank line after it; only then does the last check
return `-3`, without a `write`.
-/
theorem msgWriteResponse_content_overruns (reply : Int) (given : resp.content = some content)
    (sized : resp.contentlength = content.length)
    (headFits : (statusLine resp.respcode ++ (resp.headers.map headerText).flatten
      ++ contentLengthText content.length).length < 1024)
    (long : 2048 < (statusLine resp.respcode ++ (resp.headers.map headerText).flatten
      ++ contentLengthText content.length).length + content.length)
    : (∃ store ∈ (msgWriteResponse resp reply).stores, 2048 < store.1 + store.2)
      ∧ (msgWriteResponse resp reply).result = -3
      ∧ (msgWriteResponse resp reply).written = none := by
  have filled : content ≠ [] := by
    rintro rfl
    simp only [List.length_nil, Nat.add_zero] at long headFits
    omega
  obtain ⟨st, finish, free, at_, -⟩ := msgWriteResponse_eq_finish reply given sized filled headFits
  have negative : st.pktfree < 0 := by rw [free]; omega
  rw [finish, finishResponse_refuses reply (by omega)]
  refine ⟨⟨(st.p, snprintfStored st.pktfree 2), List.mem_append_right _ (List.mem_singleton_self _),
    ?_⟩, rfl, rfl⟩
  simp only [snprintfStored, if_pos negative]
  rw [at_]
  omega

end Content

/-- Witness: the `GET_PARAMETER` volume reply, whose content starts with a CRLF, goes out with
the content before the blank line.
-/
theorem msgWriteResponse_content_before_blank_volume :
    let reply : RtspMessage :=
      { msgInit 3 with
        respcode := 200
        headers := [(ascii "CSeq", ascii "3")]
        contentlength := 22
        content := some (ascii "\r\nvolume: -15.000000\r\n") }
    (msgWriteResponse reply 61).written
      = some (ascii "RTSP/1.0 200 OK\r\nCSeq: 3\r\nContent-Length: 22\r\n\r\nvolume: -15.000000\r\n\r\n") := by
  intro reply
  have twentyTwo : (ascii "\r\nvolume: -15.000000\r\n").length = 22 := by decide
  have line : contentLengthText ((22 : Nat) : Int) = ascii "Content-Length: 22\r\n" := by
    simp [contentLengthText, decimalInt, decimal]; decide
  have sent := @msgWriteResponse_content_before_blank reply (ascii "\r\nvolume: -15.000000\r\n") 61
    rfl (by rw [twentyTwo]; rfl) (by decide)
    (by simp only [reply, twentyTwo, statusLine_ok]; rw [line]; decide) (by decide)
  simp only [reply, twentyTwo, statusLine_ok] at sent
  rw [line] at sent
  exact sent.1.trans (by decide)

/-- Witness: a 2100-byte content after a 200 status line and no header. -/
theorem msgWriteResponse_content_overruns_long :
    let reply : RtspMessage :=
      { msgInit 3 with
        respcode := 200
        contentlength := 2100
        content := some (List.replicate 2100 120) }
    (∃ store ∈ (msgWriteResponse reply 0).stores, 2048 < store.1 + store.2)
      ∧ (msgWriteResponse reply 0).result = -3 ∧ (msgWriteResponse reply 0).written = none := by
  intro reply
  have line : contentLengthText ((2100 : Nat) : Int) = ascii "Content-Length: 2100\r\n" := by
    simp [contentLengthText, decimalInt, decimal]; decide
  have length : (List.replicate 2100 (120 : UInt8)).length = 2100 := List.length_replicate _ _
  exact @msgWriteResponse_content_overruns reply (List.replicate 2100 120) 0 rfl
    (by rw [length]; rfl)
    (by simp only [reply, length, statusLine_ok]; rw [line]; decide)
    (by simp only [reply, length, statusLine_ok]; rw [line]; decide)

end Shairport.Rtsp
