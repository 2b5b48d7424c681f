import ShairportRtsp.Codec.RoundTrip

/-! Where `rtsp_read_request` touches its buffer: each `read` into `buf + inbuf`, each
`nextline (buf, inbuf)`, whose look-ahead after a trailing CR is `buf[inbuf]`, and the final
NUL at `buf[inbuf]`. The accesses are collected by functions that follow the two read loops
call for call. The buffer has `buflen + 1` bytes, `buflen` being 4096 and, after a `realloc`,
the message size; every access lies inside, for every stream, every cut into reads and every
Content-Length, because the header loop keeps `inbuf ≤ 4096` and the body loop reads at most
`msg_size - inbuf`.
-/

namespace Shairport.Rtsp

/-- An access of `rtsp_read_request` to `buf`, with the `buflen` the buffer has then. -/
inductive BufferAccess
  /-- `read (conn->fd, buf + inbuf, count)`. -/
  | read (buflen inbuf count : Nat)
  /-- `nextline (buf, inbuf)`: `buf[0 .. inbuf)`, and `buf[inbuf]` after a trailing CR. -/
  | nextline (buflen inbuf : Nat)
  /-- `*jp = '\0'` with `jp = buf + inbuf`. -/
  | terminate (buflen inbuf : Nat)
  deriving DecidableEq, Repr

/-- Inside the `buflen + 1` bytes of the buffer. -/
def BufferAccess.InBounds : BufferAccess → Prop
  | .read buflen inbuf count => inbuf + count ≤ buflen
  | .nextline buflen inbuf => inbuf ≤ buflen
  | .terminate buflen inbuf => inbuf ≤ buflen

-----------------------------------------------------------------------------------------
-- The accesses of each loop
-----------------------------------------------------------------------------------------

/-- The `inbuf` of each `nextline` call of the inner header loop, which stops at the first
call that finds no line, at a line `msg_handle_line` rejects, and once the headers end.
-/
def scanCalls (index : Int) (packet : Option RtspMessage) (buf : Bytes) : List Nat :=
  buf.length ::
    match _found : nextline buf with
    | none => []
    | some (marked, next) =>
        match msgHandleLine index packet marked with
        | (none, _) => []
        | (some msg, size) => if size < 0 then scanCalls index (some msg) (marked.drop next) else []
termination_by buf.length
decreasing_by
  obtain ⟨len, pos, _⟩ := nextline_bounds _found
  simp only [List.length_drop, len]
  omega

/-- The accesses of the outer header loop, whose buffer has `buflen = 4096`: a `read` of the
rest of the buffer on every pass (a pending cancellation is taken inside it), then the
`nextline` calls over what the buffer holds.
-/
def headerCalls (stop : Bool) (index : Int) (packet : Option RtspMessage) (buf : Bytes)
    (feed : List Delivery) : List BufferAccess :=
  if stop then []
  else if cancelPending feed then [.read 4096 buf.length (4096 - buf.length)]
  else
    .read 4096 buf.length (4096 - buf.length) ::
      match _got : sysRead (4096 - buf.length) feed with
      | (.bytes d, rest) =>
          if _empty : d = [] then []
          else
            (scanCalls index packet (buf ++ d)).map (.nextline 4096) ++
              match scanLines index packet (buf ++ d) with
              | .pending packet' unscanned => headerCalls stop index packet' unscanned rest
              | _ => []
      | (.failed e, rest) =>
          if e = .eintr ∨ e = .eagain then headerCalls stop index packet buf rest else []
termination_by feedWeight feed
decreasing_by
  · have := sysRead_bytes_weight _got
    have : 0 < d.length := List.length_pos.mpr _empty
    omega
  · exact sysRead_failed_weight _got

/-- The accesses of the body loop into a buffer of `buflen`: a `read` of at most
`msg_size - inbuf` bytes on every pass (a pending cancellation is taken at the `usleep`
before it).
-/
def bodyCalls (buflen : Nat) (stop : Bool) (msgSize : Int) (buf : Bytes) (feed : List Delivery)
    : List BufferAccess :=
  if (buf.length : Int) < msgSize then
    if stop then []
    else if cancelPending feed then []
    else
      .read buflen buf.length (min (msgSize - buf.length).toNat maxReadChunk) ::
        match _got : sysRead (min (msgSize - buf.length).toNat maxReadChunk) feed with
        | (.bytes d, rest) =>
            if _empty : d = [] then [] else bodyCalls buflen stop msgSize (buf ++ d) rest
        | (.failed e, rest) =>
            if e = .eintr ∨ e = .eagain then bodyCalls buflen stop msgSize buf rest else []
  else []
termination_by feedWeight feed
decreasing_by
  · have := sysRead_bytes_weight _got
    have : 0 < d.length := List.length_pos.mpr _empty
    omega
  · exact sysRead_failed_weight _got

/-- The body phase on a buffer of `buflen`: the loop's reads, then the NUL after the body. -/
def bodyPhaseCalls (buflen : Nat) (stop : Bool) (msgSize : Int) (data : Bytes)
    (feed : List Delivery) : List BufferAccess :=
  bodyCalls buflen stop msgSize data feed ++
    match readBody stop msgSize data feed with
    | .complete body _ => [.terminate buflen body.length]
    | _ => []

/-- The accesses of `rtsp_read_request` to its buffer, in order, each with the `buflen` the
buffer has then: 4096, and the message size after a `realloc` for a larger one.
-/
def rtspReadRequestCalls (stop : Bool) (alloc : Allocator) (index : Int) (feed : List Delivery)
    : List BufferAccess :=
  match alloc.buffer with
  | none => []
  | some _ =>
      headerCalls stop index none [] feed ++
        match readHeaders stop index none [] feed with
        | .complete _ size data rest =>
            if 4096 < size then
              match alloc.grown with
              | none => []
              | some _ => bodyPhaseCalls size.toNat stop size data rest
            else bodyPhaseCalls 4096 stop size data rest
        | _ => []

-----------------------------------------------------------------------------------------
-- Every access is inside the buffer
-----------------------------------------------------------------------------------------

/-- A `read` stores at most the count it is given. -/
theorem sysRead_bytes_length {count : Nat} {feed rest : List Delivery} {d : Bytes}
    (got : sysRead count feed = (.bytes d, rest)) : d.length ≤ count := by
  match feed, got with
  | [], got => simp [sysRead] at got; simp [got.1]
  | .data b :: more, got =>
      simp only [sysRead] at got
      split at got <;> cases got
      · assumption
      · simp
  | .failure _ :: _, got => simp [sysRead] at got
  | .cancel :: more, got => simp [sysRead] at got; simp [got.1]

/-- A `read` into the room left keeps the buffer within `cap`. -/
theorem sysRead_append_le {count cap : Nat} {feed rest : List Delivery} {buf d : Bytes}
    (got : sysRead count feed = (.bytes d, rest)) (room : buf.length + count ≤ cap)
    : (buf ++ d).length ≤ cap := by
  have := sysRead_bytes_length got
  simp only [List.length_append]; omega

/-- A `read` that returns bytes leaves less to deliver. -/
theorem sysRead_lighter {count : Nat} {feed rest : List Delivery} {d : Bytes}
    (got : sysRead count feed = (.bytes d, rest)) (nonempty : d ≠ [])
    : feedWeight rest < feedWeight feed := by
  have := sysRead_bytes_weight got
  have : 0 < d.length := List.length_pos.mpr nonempty
  omega

/-- Every `nextline` call of the inner loop looks inside the buffer it was given, whose
remainder only shrinks.
-/
theorem scanCalls_le {index : Int} {packet : Option RtspMessage} {buf : Bytes} :
    ∀ n ∈ scanCalls index packet buf, n ≤ buf.length := by
  obtain ⟨len, h⟩ : ∃ len, buf.length = len := ⟨_, rfl⟩
  induction len using Nat.strong_induction_on generalizing packet buf with
  | _ len ih =>
      intro n mem
      rw [scanCalls] at mem
      rcases List.mem_cons.mp mem with rfl | mem
      · exact le_rfl
      split at mem
      · cases mem
      · rename_i marked next found
        obtain ⟨same, pos, within⟩ := nextline_bounds found
        split at mem
        · cases mem
        · split at mem
          · have shorter : (marked.drop next).length < len := by simp only [List.length_drop]; omega
            exact (ih _ shorter rfl n mem).trans (by omega)
          · cases mem

/-- The bytes the inner header loop leaves in the buffer. -/
def LineScan.rest : LineScan → Bytes
  | .badPacket => []
  | .pending _ rest => rest
  | .complete _ _ rest => rest

/-- What the inner header loop leaves in the buffer is no longer than what it was given. -/
theorem scanLines_rest_le {index : Int} {packet : Option RtspMessage} {buf : Bytes}
    : (scanLines index packet buf).rest.length ≤ buf.length := by
  obtain ⟨len, h⟩ : ∃ len, buf.length = len := ⟨_, rfl⟩
  induction len using Nat.strong_induction_on generalizing packet buf with
  | _ len ih =>
      rw [scanLines]
      split
      · exact le_rfl
      · rename_i marked next found
        obtain ⟨same, pos, within⟩ := nextline_bounds found
        have shorter : (marked.drop next).length < len := by simp only [List.length_drop]; omega
        split
        · exact Nat.zero_le _
        · split
          · exact (ih _ shorter rfl).trans (by omega)
          · simp only [LineScan.rest, List.length_drop]
            omega

section Header

variable {stop : Bool} {index : Int}

/-- The outer header loop keeps `inbuf ≤ 4096`: each `read` gets the rest of the buffer and
each `nextline` looks inside it, by induction on what is left to deliver.
-/
theorem headerCalls_in_bounds {packet : Option RtspMessage} {buf : Bytes} {feed : List Delivery}
    (fits : buf.length ≤ 4096) : ∀ a ∈ headerCalls stop index packet buf feed, a.InBounds := by
  obtain ⟨w, h⟩ : ∃ w, feedWeight feed = w := ⟨_, rfl⟩
  induction w using Nat.strong_induction_on generalizing packet buf feed with
  | _ w ih =>
      intro a mem
      rw [headerCalls] at mem
      have reading : (BufferAccess.read 4096 buf.length (4096 - buf.length)).InBounds := by
        show _ ≤ _; omega
      split at mem
      · cases mem
      split at mem
      · rw [List.mem_singleton.mp mem]; exact reading
      rcases List.mem_cons.mp mem with rfl | mem
      · exact reading
      split at mem
      · rename_i d rest got
        split at mem
        · cases mem
        rename_i nonempty
        have grown : (buf ++ d).length ≤ 4096 := sysRead_append_le got (by omega)
        rcases List.mem_append.mp mem with scanned | later
        · obtain ⟨n, called, rfl⟩ := List.mem_map.mp scanned
          exact (scanCalls_le n called).trans grown
        split at later
        · rename_i packet' unscanned pending
          have kept := @scanLines_rest_le index packet (buf ++ d)
          rw [pending] at kept
          exact ih _ (h ▸ sysRead_lighter got nonempty) (kept.trans grown) rfl a later
        all_goals cases later
      · rename_i e rest got
        split at mem
        · exact ih _ (h ▸ sysRead_failed_weight got) fits rfl a mem
        · cases mem

/-- The header block ends with at most 4096 bytes in the buffer. -/
theorem readHeaders_complete_le {packet : Option RtspMessage} {buf : Bytes} {feed : List Delivery}
    {msg : RtspMessage} {size : Int} {data : Bytes} {rest : List Delivery} (fits : buf.length ≤ 4096)
    (done : readHeaders stop index packet buf feed = .complete msg size data rest)
    : data.length ≤ 4096 := by
  obtain ⟨w, h⟩ : ∃ w, feedWeight feed = w := ⟨_, rfl⟩
  induction w using Nat.strong_induction_on generalizing packet buf feed with
  | _ w ih =>
      rw [readHeaders] at done
      split at done
      · cases done
      split at done
      · cases done
      split at done
      · rename_i d more got
        split at done
        · cases done
        rename_i nonempty
        have grown : (buf ++ d).length ≤ 4096 := sysRead_append_le got (by omega)
        have rest_le := @scanLines_rest_le index packet (buf ++ d)
        split at done
        · cases done
        · rename_i packet' unscanned pending
          rw [pending] at rest_le
          exact ih _ (h ▸ sysRead_lighter got nonempty) (rest_le.trans grown) done rfl
        · rename_i msg' size' unscanned complete
          cases done
          rw [complete] at rest_le
          exact rest_le.trans grown
      · rename_i e more got
        split at done
        · exact ih _ (h ▸ sysRead_failed_weight got) fits done rfl
        · cases done

end Header

section Body

variable {buflen : Nat} {stop : Bool} {msgSize : Int}

/-- The body loop reads at most `msg_size - inbuf`, so a buffer of `msg_size` or more bytes
holds it, by induction on what is left to deliver.
-/
theorem bodyCalls_in_bounds {buf : Bytes} {feed : List Delivery} (fits : buf.length ≤ buflen)
    (room : msgSize ≤ buflen) : ∀ a ∈ bodyCalls buflen stop msgSize buf feed, a.InBounds := by
  obtain ⟨w, h⟩ : ∃ w, feedWeight feed = w := ⟨_, rfl⟩
  induction w using Nat.strong_induction_on generalizing buf feed with
  | _ w ih =>
      intro a mem
      rw [bodyCalls] at mem
      split at mem
      · rename_i short
        split at mem
        · cases mem
        split at mem
        · cases mem
        rcases List.mem_cons.mp mem with rfl | mem
        · show _ ≤ _; omega
        split at mem
        · rename_i d rest got
          split at mem
          · cases mem
          rename_i nonempty
          exact ih _ (h ▸ sysRead_lighter got nonempty) (sysRead_append_le got (by omega)) rfl a mem
        · rename_i e rest got
          split at mem
          · exact ih _ (h ▸ sysRead_failed_weight got) fits rfl a mem
          · cases mem
      · cases mem

/-- The body ends within the buffer, so the NUL after it does too. -/
theorem readBody_complete_le {buf : Bytes} {feed : List Delivery} {body : Bytes}
    {rest : List Delivery} (fits : buf.length ≤ buflen) (room : msgSize ≤ buflen)
    (done : readBody stop msgSize buf feed = .complete body rest) : body.length ≤ buflen := by
  obtain ⟨w, h⟩ : ∃ w, feedWeight feed = w := ⟨_, rfl⟩
  induction w using Nat.strong_induction_on generalizing buf feed with
  | _ w ih =>
      rw [readBody] at done
      split at done
      · rename_i short
        split at done
        · cases done
        split at done
        · cases done
        split at done
        · rename_i d more got
          split at done
          · cases done
          rename_i nonempty
          exact ih _ (h ▸ sysRead_lighter got nonempty) (sysRead_append_le got (by omega)) done rfl
        · rename_i e more got
          split at done
          · exact ih _ (h ▸ sysRead_failed_weight got) fits done rfl
          · cases done
      · cases done
        exact fits

theorem bodyPhaseCalls_in_bounds {data : Bytes} {feed : List Delivery} (fits : data.length ≤ buflen)
    (room : msgSize ≤ buflen) : ∀ a ∈ bodyPhaseCalls buflen stop msgSize data feed, a.InBounds := by
  intro a mem
  rcases List.mem_append.mp mem with reading | ending
  · exact bodyCalls_in_bounds fits room a reading
  split at ending
  · rename_i body rest done
    rw [List.mem_singleton.mp ending]
    exact readBody_complete_le fits room done
  all_goals cases ending

end Body

/-- Every access of `rtsp_read_request` to its buffer lies inside the `buflen + 1` bytes the
buffer has at that point: before every `read`, `inbuf + count ≤ buflen`; at every `nextline`,
`inbuf ≤ buflen`, so its look-ahead is at most `buf[buflen]`; and the final NUL goes to
`buf[inbuf]` with `inbuf ≤ buflen`. This holds for every stream, every cut into reads and
every Content-Length.
-/
theorem rtspReadRequest_accesses_in_bounds (stop : Bool) (alloc : Allocator) (index : Int)
    (feed : List Delivery) : ∀ a ∈ rtspReadRequestCalls stop alloc index feed, a.InBounds := by
  intro a mem
  unfold rtspReadRequestCalls at mem
  split at mem
  · cases mem
  rcases List.mem_append.mp mem with header | body
  · exact headerCalls_in_bounds (Nat.zero_le _) a header
  split at body
  · rename_i msg size data rest done
    have small := readHeaders_complete_le (Nat.zero_le _) done
    split at body
    · rename_i large
      split at body
      · cases body
      · exact bodyPhaseCalls_in_bounds (by omega) (by omega) a body
    · exact bodyPhaseCalls_in_bounds small (by omega) a body
  all_goals cases body

/-- Witness: an `OPTIONS` request with `Content-Length: 5000`, whose peer closes after the
head. The header phase ends with a size over the 4 KiB buffer, the buffer is grown to 5000
bytes, and the body loop's first `read` is given all of it.
-/
theorem rtspReadRequest_accesses_in_bounds_grown :
    let r : WireRequest := ⟨ascii "OPTIONS", ascii "*", [(ascii "Content-Length", ascii "5000")], []⟩
    readHeaders false 0 none [] [.data r.head] = .complete (r.parsed 0) 5000 [] []
      ∧ BufferAccess.read 5000 0 5000 ∈ rtspReadRequestCalls false ⟨some 0, some 1⟩ 0 [.data r.head]
      ∧ (BufferAccess.read 5000 0 5000).InBounds := by
  intro r
  have hf : r.HeadFormed := ⟨by decide, by decide, by decide, by decide, by decide, by decide,
    by decide, by decide, by decide⟩
  have size : contentSize (r.parsed 0) = 5000 := by decide
  have headers : readHeaders false 0 none [] [.data r.head] = .complete (r.parsed 0) 5000 [] [] := by
    rw [← size]; exact readHeaders_head hf 0 (by rw [size]; decide)
  have grown : BufferAccess.read 5000 0 5000
      ∈ rtspReadRequestCalls false ⟨some 0, some 1⟩ 0 [.data r.head] := by
    simp only [rtspReadRequestCalls, headers]
    apply List.mem_append_right
    rw [if_pos (by decide), bodyPhaseCalls, bodyCalls]
    simp [cancelPending, maxReadChunk]
  exact ⟨headers, grown, rtspReadRequest_accesses_in_bounds false _ 0 _ _ grown⟩

end Shairport.Rtsp
