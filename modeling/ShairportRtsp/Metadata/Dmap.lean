import ShairportRtsp.Session.Receiver

/-! The metadata `handle_set_parameter` publishes: the `mdst`/`mden` and `pcst`/`pcen`
brackets with the `RTP-Info` rtptime, the tuple loop of `handle_set_parameter_metadata` over a
DMAP body in `uint32_t` arithmetic, the cover art, and the `prgr` items of `text/parameters`.
The loop decodes every body that tuples fill exactly; it checks only `off < cl`, so a length
field can point past the content, or wrap `off` back to a tuple it has read already.
-/

namespace Shairport.Rtsp

-----------------------------------------------------------------------------------------
-- Reading the content
-----------------------------------------------------------------------------------------

/-- A four-character code, big-endian: C's multi-character constants such as `'core'`, and
`ntohl` of four bytes off the wire.
-/
def fourcc (b : Bytes) : Nat := b.foldl (fun acc x => acc * 256 + x.toNat) 0

/-- The four bytes of a code below 2^32 on the wire. -/
def be32 (n : Nat) : Bytes :=
  [(n / 2 ^ 24).toUInt8, (n / 2 ^ 16).toUInt8, (n / 2 ^ 8).toUInt8, n.toUInt8]

/-- `unsigned int` and `uint32_t` arithmetic. -/
def wrap32 (n : Nat) : Nat := n % 2 ^ 32

/-- The byte at `cp + i`: the content's, then whatever memory follows the content. -/
def peek (cp : Bytes) (past : Nat → UInt8) (i : Nat) : UInt8 := cp.getD i (past i)

/-- The `n` bytes from `cp + i`. -/
def window (cp : Bytes) (past : Nat → UInt8) (i : Nat) : Nat → Bytes
  | 0 => []
  | n + 1 => peek cp past i :: window cp past (i + 1) n

/-- `ntohl` of the `uint32_t` that `memcpy` copies from `cp + i`. -/
def be32At (cp : Bytes) (past : Nat → UInt8) (i : Nat) : Nat := fourcc (window cp past i 4)

theorem fourcc_be32 {n : Nat} (small : n < 2 ^ 32) : fourcc (be32 n) = n := by
  have byte : ∀ m : Nat, m.toUInt8.toNat = m % 256 := fun _ => rfl
  simp only [fourcc, be32, List.foldl, byte]
  omega

@[simp] theorem length_be32 (n : Nat) : (be32 n).length = 4 := rfl

/-- Inside the content, a window is the content's own bytes. -/
theorem window_eq_take {cp : Bytes} {past : Nat → UInt8} {i n : Nat} (inside : i + n ≤ cp.length)
    : window cp past i n = (cp.drop i).take n := by
  induction n generalizing i with
  | zero => rfl
  | succ n ih =>
      have here : i < cp.length := by omega
      rw [window, ih (by omega), List.drop_eq_getElem_cons here, List.take_succ_cons, peek,
        List.getD_eq_getElem _ _ here]

theorem window_append (pre w rest : Bytes) (past : Nat → UInt8)
    : window (pre ++ w ++ rest) past pre.length w.length = w := by
  rw [window_eq_take (by simp)]
  simp

theorem be32At_append (pre rest : Bytes) (past : Nat → UInt8) {n : Nat} (small : n < 2 ^ 32)
    : be32At (pre ++ be32 n ++ rest) past pre.length = n := by
  rw [be32At, ← length_be32 n, window_append, fourcc_be32 small]

-----------------------------------------------------------------------------------------
-- The calls
-----------------------------------------------------------------------------------------

/-- Where a `send_metadata` call's `data` points. -/
inductive MetadataData
  /-- `NULL`. -/
  | none
  /-- `cp + off`, into the request's content. -/
  | content (off : Nat)
  /-- A C string outside the content: a header's rtptime text, or the rest of a parameter
  line. -/
  | text (b : Bytes)
  deriving DecidableEq, Repr

/-- `send_metadata (type, code, data, length, carrier, block)`, with the request as carrier
(`true`) or `NULL`.
-/
structure MetadataCall where
  type : Nat
  code : Nat
  data : MetadataData
  length : Nat
  carrier : Bool
  block : Bool
  deriving DecidableEq, Repr

/-- The bytes a call hands the sinks: `length` bytes from where `data` points. -/
def MetadataCall.payload (cp : Bytes) (past : Nat → UInt8) (c : MetadataCall) : Option Bytes :=
  match c.data with
  | .none => none
  | .content off => some (window cp past off c.length)
  | .text b => some (b.take c.length)

/-- What a sink makes of a call: its type, its code and its bytes. -/
def MetadataCall.item (cp : Bytes) (past : Nat → UInt8) (c : MetadataCall) : Nat × Nat × Option Bytes :=
  (c.type, c.code, c.payload cp past)

-----------------------------------------------------------------------------------------
-- handle_set_parameter_metadata
-----------------------------------------------------------------------------------------

/-- The body of `while (off < cl)` at `off`: the call for the tuple there, and the next
`off`.
-/
def dmapPass (cp : Bytes) (past : Nat → UInt8) (off : Nat) : MetadataCall × Nat :=
  let itag := be32At cp past off
  let off := wrap32 (off + 4)
  let vl := be32At cp past off
  let off := wrap32 (off + 4)
  let call : MetadataCall :=
    if vl = 0 then ⟨fourcc (ascii "core"), itag, .none, 0, false, true⟩
    else ⟨fourcc (ascii "core"), itag, .content off, vl, true, true⟩
  (call, wrap32 (off + vl))

/-- The loop from `off` for at most `fuel` passes: the `off` of each pass with its call, or
`none` when the loop has not ended by then.
-/
def dmapLoop (cp : Bytes) (past : Nat → UInt8) (cl : Nat) : Nat → Nat → Option (List (Nat × MetadataCall))
  | 0, off => if off < cl then none else some []
  | fuel + 1, off =>
      if off < cl then
        (dmapLoop cp past cl fuel (dmapPass cp past off).2).map ((off, (dmapPass cp past off).1) :: ·)
      else some []

/-- `handle_set_parameter_metadata (conn, req, resp)`: the tuples start past the 8-byte
header, and `cl` is `req->contentlength` as an `unsigned int`.
-/
def handleSetParameterMetadata (fuel : Nat) (req : RtspMessage) (past : Nat → UInt8)
    : Option (List (Nat × MetadataCall)) :=
  dmapLoop (req.content.getD []) past (req.contentlength % 2 ^ 32).toNat fuel 8

-----------------------------------------------------------------------------------------
-- handle_set_parameter
-----------------------------------------------------------------------------------------

/-- `p + 1` of `handle_set_parameter`: the text after the `=` of `rtptime=` in the
`RTP-Info` header, when there is one.
-/
def rtptimeText (req : RtspMessage) : Option Bytes :=
  (msgGetHeader req (ascii "RTP-Info")).bind fun hdr =>
    (strstr hdr (ascii "rtptime=")).bind fun pos =>
      (strchr (hdr.drop pos) 61).map fun eq => cstr (hdr.drop (pos + eq + 1))

/-- A bracket around a batch (`mdst`, `mden`, `pcst`, `pcen`): the rtptime text with the
request as carrier, blocking; without one, `NULL`, no carrier, not blocking.
-/
def bracketCall (code : Nat) : Option Bytes → MetadataCall
  | some p => ⟨fourcc (ascii "ssnc"), code, .text p, p.length, true, true⟩
  | none => ⟨fourcc (ascii "ssnc"), code, .none, 0, false, false⟩

/-- The `prgr` calls of `handle_set_parameter_parameter`: `send_ssnc_metadata` of the rest of
each `progress: ` line, with no carrier.
-/
def progressCalls (content : Bytes) : List MetadataCall :=
  (parameterLines content).filterMap fun line =>
    if hasPrefix line (ascii "volume: ") then none
    else if hasPrefix line (ascii "progress: ") then
      let progress := cstr (line.drop 10)
      some ⟨fourcc (ascii "ssnc"), fourcc (ascii "prgr"), .text progress, progress.length, false, true⟩
    else none

/-- The metadata half of `handle_set_parameter` (its player half is
`Receiver.setParameter`): the `send_metadata` calls it makes by Content-Type, or `none` when
the DMAP loop has not ended within `fuel` passes.
-/
def handleSetParameter (getCoverart : Bool) (fuel : Nat) (req : RtspMessage) (past : Nat → UInt8)
    : Option (List MetadataCall) :=
  match msgGetHeader req (ascii "Content-Type") with
  | none => some []
  | some ct =>
      let p := rtptimeText req
      if hasPrefix ct (ascii "application/x-dmap-tagged") then
        (handleSetParameterMetadata fuel req past).map fun passes =>
          bracketCall (fourcc (ascii "mdst")) p :: passes.map Prod.snd
            ++ [bracketCall (fourcc (ascii "mden")) p]
      else if hasPrefix ct (ascii "image") then
        some (if getCoverart then
            [bracketCall (fourcc (ascii "pcst")) p,
             ⟨fourcc (ascii "ssnc"), fourcc (ascii "PICT"),
               if req.content.isSome then .content 0 else .none,
               (req.contentlength % 2 ^ 32).toNat, true, true⟩,
             bracketCall (fourcc (ascii "pcen")) p]
          else [])
      else if hasPrefix ct (ascii "text/parameters") then some (progressCalls (req.content.getD []))
      else some []

-----------------------------------------------------------------------------------------
-- One pass, and the runs it makes
-----------------------------------------------------------------------------------------

section Loop

variable {cp : Bytes} {past : Nat → UInt8}

/-- A pass at `off` that reads tag `itag` and length `vl`, with no wrap before the value. -/
theorem dmapPass_fields {off itag vl : Nat} (room : off + 8 < 2 ^ 32)
    (tagAt : be32At cp past off = itag) (lengthAt : be32At cp past (off + 4) = vl)
    : dmapPass cp past off
      = (if vl = 0 then ⟨fourcc (ascii "core"), itag, .none, 0, false, true⟩
         else ⟨fourcc (ascii "core"), itag, .content (off + 8), vl, true, true⟩,
        wrap32 (off + 8 + vl)) := by
  have four : wrap32 (off + 4) = off + 4 := Nat.mod_eq_of_lt (by omega)
  have eight : wrap32 (off + 4 + 4) = off + 8 := Nat.mod_eq_of_lt (by omega)
  simp only [dmapPass, four, eight, tagAt, lengthAt]

/-- At or past `cl` the loop ends at once, with no call. -/
theorem dmapLoop_outside {cl off : Nat} (outside : ¬ off < cl) (fuel : Nat)
    : dmapLoop cp past cl fuel off = some [] := by
  cases fuel <;> simp [dmapLoop, outside]

/-- A pass that brings `off` back to where it started repeats for ever. -/
theorem dmapLoop_cycle {cl off : Nat} (inside : off < cl) (back : (dmapPass cp past off).2 = off)
    : ∀ fuel, dmapLoop cp past cl fuel off = none
  | 0 => by simp [dmapLoop, inside]
  | fuel + 1 => by simp [dmapLoop, inside, back, dmapLoop_cycle inside back fuel]

/-- The loop checks only that a pass starts below `cl`: nothing bounds its eight header
bytes or its value by `cl`.
-/
theorem dmapLoop_inside {cl : Nat} :
    ∀ {fuel off : Nat} {passes : List (Nat × MetadataCall)},
      dmapLoop cp past cl fuel off = some passes → ∀ p ∈ passes, p.1 < cl
  | 0, off, passes, ran => by
      unfold dmapLoop at ran
      split at ran <;> cases ran
      simp
  | fuel + 1, off, passes, ran => by
      unfold dmapLoop at ran
      split at ran
      · obtain ⟨rest, later, rfl⟩ := Option.map_eq_some'.mp ran
        intro p mem
        rcases List.mem_cons.mp mem with rfl | mem
        · assumption
        · exact dmapLoop_inside later p mem
      · cases ran; simp

end Loop

-----------------------------------------------------------------------------------------
-- The tuple grammar
-----------------------------------------------------------------------------------------

/-- A DMAP tuple as the spec gives it: a tag and its value. -/
structure DmapTuple where
  tag : UInt32
  value : Bytes
  deriving DecidableEq, Repr

/-- `tag(4, BE) || length(4, BE) || value[length]`. -/
def DmapTuple.encode (t : DmapTuple) : Bytes := be32 t.tag.toNat ++ be32 t.value.length ++ t.value

/-- Tuples one after another. -/
def dmapEncode (ts : List DmapTuple) : Bytes := (ts.map DmapTuple.encode).flatten

/-- The item the sinks should get for a tuple: `core`, its tag, and its value, with no data
when the value is empty.
-/
def DmapTuple.item (t : DmapTuple) : Nat × Nat × Option Bytes :=
  (fourcc (ascii "core"), t.tag.toNat, if t.value = [] then none else some t.value)

/-- A pass over an encoded tuple publishes that tuple's item and moves past it. -/
theorem dmapPass_encode (pre rest : Bytes) (past : Nat → UInt8) (t : DmapTuple)
    (fits : (pre ++ t.encode).length < 2 ^ 32)
    : (dmapPass (pre ++ t.encode ++ rest) past pre.length).1.item (pre ++ t.encode ++ rest) past
        = t.item
      ∧ (dmapPass (pre ++ t.encode ++ rest) past pre.length).2 = (pre ++ t.encode).length := by
  have len : (pre ++ t.encode).length = pre.length + 8 + t.value.length := by
    simp [DmapTuple.encode]; omega
  have tagAt : be32At (pre ++ t.encode ++ rest) past pre.length = t.tag.toNat := by
    simpa [DmapTuple.encode] using
      be32At_append pre (be32 t.value.length ++ t.value ++ rest) past t.tag.val.isLt
  have lengthAt : be32At (pre ++ t.encode ++ rest) past (pre.length + 4) = t.value.length := by
    simpa [DmapTuple.encode] using
      be32At_append (pre ++ be32 t.tag.toNat) (t.value ++ rest) past (by omega)
  have value : window (pre ++ t.encode ++ rest) past (pre.length + 8) t.value.length = t.value := by
    simpa [DmapTuple.encode] using
      window_append (pre ++ be32 t.tag.toNat ++ be32 t.value.length) t.value rest past
  rw [dmapPass_fields (by omega) tagAt lengthAt, wrap32, Nat.mod_eq_of_lt (by omega), len]
  refine ⟨?_, rfl⟩
  by_cases empty : t.value = []
  · simp [empty, MetadataCall.item, MetadataCall.payload, DmapTuple.item]
  · have nonzero : t.value.length ≠ 0 := by simpa using empty
    simp only [if_neg nonzero, if_neg empty, MetadataCall.item, MetadataCall.payload,
      DmapTuple.item, value]

/-- The loop decodes a run of encoded tuples that ends the content: one pass per tuple, each
publishing that tuple's item, in order.
-/
theorem dmapLoop_encode (past : Nat → UInt8) (ts : List DmapTuple) {pre : Bytes} {fuel : Nat}
    (enough : ts.length ≤ fuel) (fits : (pre ++ dmapEncode ts).length < 2 ^ 32)
    : (dmapLoop (pre ++ dmapEncode ts) past (pre ++ dmapEncode ts).length fuel pre.length).map
        (·.map fun p => p.2.item (pre ++ dmapEncode ts) past)
      = some (ts.map DmapTuple.item) := by
  induction ts generalizing pre fuel with
  | nil => cases fuel <;> simp [dmapLoop, dmapEncode]
  | cons t ts ih =>
      obtain ⟨fuel, rfl⟩ : ∃ f, fuel = f + 1 := ⟨fuel - 1, by simp at enough; omega⟩
      have split : pre ++ dmapEncode (t :: ts) = pre ++ t.encode ++ dmapEncode ts := by
        simp [dmapEncode]
      rw [split] at fits ⊢
      have inside : pre.length < (pre ++ t.encode ++ dmapEncode ts).length := by
        simp [DmapTuple.encode]
      obtain ⟨item, next⟩ := dmapPass_encode pre (dmapEncode ts) past t
        (by simp only [List.length_append] at fits ⊢; omega)
      have later := @ih (pre ++ t.encode) fuel (by simpa using enough) fits
      obtain ⟨passes, ran, decoded⟩ := Option.map_eq_some'.mp later
      rw [dmapLoop, if_pos inside, next, ran]
      simp only [Option.map_some', List.map_cons, item, decoded]

-----------------------------------------------------------------------------------------
-- handle_set_parameter on DMAP content
-----------------------------------------------------------------------------------------

/-- What a sink makes of a bracket: `ssnc`, its code, and the rtptime text if any. -/
@[simp] theorem bracketCall_item (code : Nat) (p : Option Bytes) (cp : Bytes) (past : Nat → UInt8)
    : (bracketCall code p).item cp past = (fourcc (ascii "ssnc"), code, p) := by
  cases p <;> simp [bracketCall, MetadataCall.item, MetadataCall.payload]

/-- DMAP content: the loop's calls between `mdst` and `mden`. -/
theorem handleSetParameter_dmap {getCoverart : Bool} {fuel : Nat} {req : RtspMessage}
    {past : Nat → UInt8} {ct : Bytes} (typed : msgGetHeader req (ascii "Content-Type") = some ct)
    (dmap : hasPrefix ct (ascii "application/x-dmap-tagged") = true)
    : handleSetParameter getCoverart fuel req past
      = (handleSetParameterMetadata fuel req past).map fun passes =>
          bracketCall (fourcc (ascii "mdst")) (rtptimeText req) :: passes.map Prod.snd
            ++ [bracketCall (fourcc (ascii "mden")) (rtptimeText req)] := by
  simp only [handleSetParameter, typed, dmap, if_true]

/-- The loop runs over the content, up to `contentlength`, which a C `int` bounds. -/
theorem handleSetParameterMetadata_content {fuel : Nat} {req : RtspMessage} {past : Nat → UInt8}
    {cp : Bytes} (content : req.content = some cp) (fills : req.contentlength = cp.length)
    (int : req.contentlength < 2 ^ 31)
    : handleSetParameterMetadata fuel req past = dmapLoop cp past cp.length fuel 8 := by
  have cl : (req.contentlength % 2 ^ 32).toNat = cp.length := by omega
  simp only [handleSetParameterMetadata, content, Option.getD_some, cl]

/-- A first length field of `0xFFFFFFF8` brings `off` back to 8, since `16 + 0xFFFFFFF8`
wraps to 8: the loop publishes the first tuple again and again, whatever the fuel.
-/
theorem handleSetParameter_dmap_never_ends {req : RtspMessage} {ct cp : Bytes}
    (typed : msgGetHeader req (ascii "Content-Type") = some ct)
    (dmap : hasPrefix ct (ascii "application/x-dmap-tagged") = true)
    (content : req.content = some cp) (fills : req.contentlength = cp.length)
    (int : req.contentlength < 2 ^ 31) (wraps : (cp.drop 12).take 4 = [255, 255, 255, 248])
    (getCoverart : Bool) (past : Nat → UInt8) (fuel : Nat)
    : handleSetParameter getCoverart fuel req past = none := by
  have long : 16 ≤ cp.length := by
    have := congrArg List.length wraps
    simp at this; omega
  have lengthAt : be32At cp past (8 + 4) = 4294967288 := by
    rw [be32At, window_eq_take (by omega), wraps]; rfl
  have back : (dmapPass cp past 8).2 = 8 := by
    rw [dmapPass_fields (by norm_num) rfl lengthAt]; rfl
  rw [handleSetParameter_dmap typed dmap, handleSetParameterMetadata_content content fills int,
    dmapLoop_cycle (by omega) back fuel]
  rfl

/-- Witness: a 16-byte body whose one tuple is `asal` with length `0xFFFFFFF8`. -/
theorem handleSetParameter_dmap_never_ends_asal :
    let req : RtspMessage := { msgInit 0 with
      headers := [(ascii "Content-Type", ascii "application/x-dmap-tagged")], contentlength := 16,
      content := some (List.replicate 8 0 ++ ascii "asal" ++ [255, 255, 255, 248]) }
    handleSetParameter false 1000 req (fun _ => 0) = none :=
  @handleSetParameter_dmap_never_ends _ (ascii "application/x-dmap-tagged") _ (by decide)
    (by decide) rfl (by decide) (by decide) (by decide) false _ 1000

/-- A 16-byte body that ends with a tuple header giving a length `vl > 0`: the loop hands the
sinks `vl` bytes from offset 16, all of them past the content, with the request as carrier.
-/
theorem handleSetParameter_dmap_publishes_past_content {req : RtspMessage} {ct hdr : Bytes}
    {tag : UInt32} {vl : Nat} (typed : msgGetHeader req (ascii "Content-Type") = some ct)
    (dmap : hasPrefix ct (ascii "application/x-dmap-tagged") = true) (header : hdr.length = 8)
    (content : req.content = some (hdr ++ be32 tag.toNat ++ be32 vl))
    (fills : req.contentlength = 16) (nonzero : 0 < vl) (noWrap : vl + 16 < 2 ^ 32)
    (getCoverart : Bool) (past : Nat → UInt8) {fuel : Nat} (enough : 0 < fuel)
    : handleSetParameter getCoverart fuel req past
      = some [bracketCall (fourcc (ascii "mdst")) (rtptimeText req),
          ⟨fourcc (ascii "core"), tag.toNat, .content 16, vl, true, true⟩,
          bracketCall (fourcc (ascii "mden")) (rtptimeText req)] := by
  obtain ⟨fuel, rfl⟩ : ∃ f, fuel = f + 1 := ⟨fuel - 1, by omega⟩
  have sixteen : (hdr ++ be32 tag.toNat ++ be32 vl).length = 16 := by simp [header]
  have tagAt : be32At (hdr ++ be32 tag.toNat ++ be32 vl) past 8 = tag.toNat := by
    simpa [header] using be32At_append hdr (be32 vl) past tag.val.isLt
  have lengthAt : be32At (hdr ++ be32 tag.toNat ++ be32 vl) past (8 + 4) = vl := by
    simpa [header] using be32At_append (hdr ++ be32 tag.toNat) [] past (by omega)
  have ends : ¬ wrap32 (8 + 8 + vl) < 16 := by
    rw [wrap32, Nat.mod_eq_of_lt (by omega)]; omega
  rw [handleSetParameter_dmap typed dmap,
    handleSetParameterMetadata_content content (by rw [fills, sixteen]; rfl) (by rw [fills]; decide),
    sixteen, dmapLoop, if_pos (by decide), dmapPass_fields (by norm_num) tagAt lengthAt,
    if_neg (by omega), dmapLoop_outside ends]
  rfl

/-- Witness: an `asal` tuple header claiming 100 bytes, at the end of a 16-byte body. -/
theorem handleSetParameter_dmap_publishes_past_content_asal :
    let req : RtspMessage := { msgInit 0 with
      headers := [(ascii "Content-Type", ascii "application/x-dmap-tagged")], contentlength := 16,
      content := some (List.replicate 8 0 ++ be32 (0x6173616c : UInt32).toNat ++ be32 100) }
    handleSetParameter false 1 req (fun _ => 0)
      = some [bracketCall (fourcc (ascii "mdst")) (rtptimeText req),
          ⟨fourcc (ascii "core"), (0x6173616c : UInt32).toNat, .content 16, 100, true, true⟩,
          bracketCall (fourcc (ascii "mden")) (rtptimeText req)] :=
  @handleSetParameter_dmap_publishes_past_content _ (ascii "application/x-dmap-tagged")
    (List.replicate 8 0) 0x6173616c 100 (by decide) (by decide) rfl rfl rfl (by decide) (by decide)
    false _ 1 (by decide)

/-- A DMAP body that an 8-byte header and tuples fill exactly is published in order: `mdst`,
one `core` item per tuple carrying exactly its value (no data for an empty one), then `mden`,
the brackets carrying the rtptime text when `RTP-Info` has one. One pass per tuple ends the
loop.
-/
theorem handleSetParameter_dmap_items {req : RtspMessage} {ct hdr : Bytes} {ts : List DmapTuple}
    (typed : msgGetHeader req (ascii "Content-Type") = some ct)
    (dmap : hasPrefix ct (ascii "application/x-dmap-tagged") = true) (header : hdr.length = 8)
    (content : req.content = some (hdr ++ dmapEncode ts))
    (fills : req.contentlength = (hdr ++ dmapEncode ts).length) (int : req.contentlength < 2 ^ 31)
    (getCoverart : Bool) (past : Nat → UInt8) {fuel : Nat} (enough : ts.length ≤ fuel)
    : (handleSetParameter getCoverart fuel req past).map
        (·.map (MetadataCall.item (hdr ++ dmapEncode ts) past))
      = some ((fourcc (ascii "ssnc"), fourcc (ascii "mdst"), rtptimeText req)
          :: ts.map DmapTuple.item ++ [(fourcc (ascii "ssnc"), fourcc (ascii "mden"), rtptimeText req)]) := by
  have decoded := @dmapLoop_encode past ts hdr fuel enough (by omega)
  rw [header] at decoded
  obtain ⟨passes, ran, items⟩ := Option.map_eq_some'.mp decoded
  have middle : (passes.map Prod.snd).map (MetadataCall.item (hdr ++ dmapEncode ts) past)
      = ts.map DmapTuple.item := by
    rw [List.map_map]; exact items
  rw [handleSetParameter_dmap typed dmap, handleSetParameterMetadata_content content fills int, ran]
  simp only [Option.map_some', List.map_cons, List.map_append, middle, bracketCall_item,
    List.map_nil]

/-- Witness: a song name `minm` "Song" and an empty `asar`, with rtptime 1000. -/
theorem handleSetParameter_dmap_items_song :
    let ts : List DmapTuple := [⟨0x6d696e6d, ascii "Song"⟩, ⟨0x61736172, []⟩]
    let req : RtspMessage := { msgInit 0 with
      headers := [(ascii "Content-Type", ascii "application/x-dmap-tagged"),
        (ascii "RTP-Info", ascii "rtptime=1000")],
      contentlength := 28, content := some (List.replicate 8 0 ++ dmapEncode ts) }
    (handleSetParameter false 2 req (fun _ => 0)).map
        (·.map (MetadataCall.item (List.replicate 8 0 ++ dmapEncode ts) (fun _ => 0)))
      = some ((fourcc (ascii "ssnc"), fourcc (ascii "mdst"), rtptimeText req)
          :: ts.map DmapTuple.item ++ [(fourcc (ascii "ssnc"), fourcc (ascii "mden"), rtptimeText req)]) :=
  @handleSetParameter_dmap_items _ (ascii "application/x-dmap-tagged") (List.replicate 8 0) _
    (by decide) (by decide) rfl rfl (by decide) (by decide) false _ 2 (by decide)

end Shairport.Rtsp
