import ShairportRtsp.Session.Receiver

/-! The SDP body of an ANNOUNCE, once the connection holds the session slot: the scan of
`handle_announce` that keeps, for each attribute, the rest of the last line naming it, then the
AES IV and key of an encrypted stream and the stream type. `base64_dec` and `rsa_apply` are not
under src/ and are parameters. A body with only one of `a=aesiv:` and `a=rsaaeskey:` counts
as encrypted, and the absent one's `NULL` goes to `base64_dec`.
-/

namespace Shairport.Rtsp

/-- The rest of the last line that starts with `lit`: every line that does overwrites the
pointer `cp + strlen (lit)`.
-/
def sdpAttribute (lines : List Bytes) (lit : Bytes) : Option Bytes :=
  lines.foldl (fun found line => if hasPrefix line lit then some (cstr (line.drop lit.length)) else found)
    none

/-- `conn->stream.type`. -/
inductive StreamType
  | unknown
  | uncompressed
  | appleLossless
  deriving DecidableEq, Repr

/-- How `handle_announce` ends once it holds the slot. -/
inductive SdpVerdict
  /-- 200, with the stream type, and the AES IV and key of an encrypted stream. -/
  | accepted (type : StreamType) (keys : Option (Bytes × Bytes))
  /-- 456. -/
  | refused
  /-- `base64_dec` is handed the `NULL` of an attribute the body lacks. -/
  | decodesAbsent
  deriving DecidableEq, Repr

/-- `conn->stream.type` after the scan: ALAC for an `a=fmtp:` line, else PCM for an
`a=rtpmap:96 L16/44100/2` line.
-/
def sdpStreamType (lines : List Bytes) : StreamType :=
  if (sdpAttribute lines (ascii "a=fmtp:")).isSome then .appleLossless
  else if (sdpAttribute lines (ascii "a=rtpmap:96 L16/44100/2")).isSome then .uncompressed
  else .unknown

/-- The end of `handle_announce`: 456 while the stream type is unknown, else 200. -/
def announceFinish (type : StreamType) (keys : Option (Bytes × Bytes)) : SdpVerdict :=
  if type = .unknown then .refused else .accepted type keys

/-- `handle_announce` from `resp->respcode = 456` to its 200: the scan of the body's lines,
the keys of an encrypted stream (`base64_dec` of the IV, `rsa_apply (.., RSA_MODE_KEY)` of
the decoded key, each to be 16 bytes), and the stream type.
-/
def announceSdp (base64Dec rsaApply : Bytes → Bytes) (content : Bytes) : SdpVerdict :=
  let lines := parameterLines content
  let aesiv := sdpAttribute lines (ascii "a=aesiv:")
  let rsaaeskey := sdpAttribute lines (ascii "a=rsaaeskey:")
  if aesiv.isNone && rsaaeskey.isNone then announceFinish (sdpStreamType lines) none
  else
    match aesiv with
    | none => .decodesAbsent
    | some iv =>
        if (base64Dec iv).length ≠ 16 then .refused
        else
          match rsaaeskey with
          | none => .decodesAbsent
          | some key =>
              if (rsaApply (base64Dec key)).length ≠ 16 then .refused
              else announceFinish (sdpStreamType lines) (some (base64Dec iv, rsaApply (base64Dec key)))

/-- An attribute is absent exactly when no line starts with it. -/
theorem sdpAttribute_eq_none {lit : Bytes} {lines : List Bytes}
    : sdpAttribute lines lit = none ↔ ∀ line ∈ lines, hasPrefix line lit = false := by
  suffices scan : ∀ found : Option Bytes,
      lines.foldl (fun found line => if hasPrefix line lit then some (cstr (line.drop lit.length))
        else found) found = none ↔ found = none ∧ ∀ line ∈ lines, hasPrefix line lit = false by
    simpa using scan none
  induction lines with
  | nil => simp
  | cons line lines ih =>
      intro found
      rw [List.foldl_cons, ih]
      by_cases named : hasPrefix line lit <;> simp [named]

-----------------------------------------------------------------------------------------
-- The verdict in the session
-----------------------------------------------------------------------------------------

/-- A body with an `a=rsaaeskey:` line and no `a=aesiv:` line counts as encrypted, and
`handle_announce` hands `base64_dec` the `NULL` of the absent IV, whatever else it holds.
-/
theorem announceSdp_decodes_absent_iv (base64Dec rsaApply : Bytes → Bytes) {content : Bytes}
    (noIv : ∀ line ∈ parameterLines content, hasPrefix line (ascii "a=aesiv:") = false)
    (key : ∃ line ∈ parameterLines content, hasPrefix line (ascii "a=rsaaeskey:") = true)
    : announceSdp base64Dec rsaApply content = .decodesAbsent := by
  have iv := sdpAttribute_eq_none.mpr noIv
  have present : sdpAttribute (parameterLines content) (ascii "a=rsaaeskey:") ≠ none := by
    obtain ⟨line, mem, named⟩ := key
    exact fun absent => by simpa [named] using sdpAttribute_eq_none.mp absent line mem
  simp only [announceSdp, iv]
  simp [Option.isNone_iff_eq_none, present]

/-- Witness: a PCM body whose only key attribute is `a=rsaaeskey:`. -/
theorem announceSdp_decodes_absent_iv_pcm :
    announceSdp id id (ascii "v=0\r\na=rtpmap:96 L16/44100/2\r\na=rsaaeskey:AAAA\r\n")
      = .decodesAbsent :=
  announceSdp_decodes_absent_iv id id (by decide) (by decide)

end Shairport.Rtsp
