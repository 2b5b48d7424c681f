import ShairportRtsp.Codec.Message

/-! `rtsp_read_request`: the header loop over `nextline`/`msg_handle_line`, the realloc
for a large body, and the chunked body loop, against a socket whose `read` results are
given as a list of deliveries.
-/

namespace Shairport.Rtsp

-----------------------------------------------------------------------------------------
-- The socket
-----------------------------------------------------------------------------------------

/-- The `errno` values `rtsp_read_request` tells apart. -/
inductive Errno
  | eintr
  | eagain
  | econnreset
  | other (code : Nat)
  deriving DecidableEq, Repr

/-- What happens next on the connection: bytes arrive (an empty arrival is end of file),
a `read` fails, or the thread is cancelled at its next cancellation point.
-/
inductive Delivery
  | data (bytes : Bytes)
  | failure (errno : Errno)
  | cancel
  deriving DecidableEq, Repr

/-- The result of one `read`: the bytes read (none at end of file) or `-1` with `errno`. -/
inductive ReadResult
  | bytes (b : Bytes)
  | failed (errno : Errno)
  deriving DecidableEq, Repr

/-- `read (fd, p, count)`: at most `count` bytes of the next arrival, the rest staying
for the next call; once the deliveries run out the peer has closed the connection.
-/
def sysRead (count : Nat) : List Delivery → ReadResult × List Delivery
  | [] => (.bytes [], [])
  | .data b :: rest =>
      if b.length ≤ count then (.bytes b, rest)
      else (.bytes (b.take count), .data (b.drop count) :: rest)
  | .failure e :: rest => (.failed e, rest)
  | .cancel :: rest => (.bytes [], .cancel :: rest)

/-- A cancellation is pending: the thread is cancelled at its next cancellation point. -/
def cancelPending : List Delivery → Bool
  | .cancel :: _ => true
  | _ => false

def Delivery.weight : Delivery → Nat
  | .data b => b.length + 1
  | _ => 1

/-- What is left to deliver; every read that returns something consumes some of it. -/
def feedWeight (feed : List Delivery) : Nat := (feed.map Delivery.weight).sum

@[simp] theorem feedWeight_cons (d : Delivery) (feed : List Delivery)
    : feedWeight (d :: feed) = d.weight + feedWeight feed := by
  simp [feedWeight]

/-- A read that returns bytes consumes at least as many units of the feed. -/
theorem sysRead_bytes_weight {count : Nat} {feed rest : List Delivery} {b : Bytes}
    (h : sysRead count feed = (.bytes b, rest)) : feedWeight rest + b.length ≤ feedWeight feed := by
  match feed, h with
  | [], h => simp [sysRead] at h; simp [h.1, h.2]
  | .data d :: more, h =>
      simp only [sysRead] at h
      split at h <;> cases h <;> simp [Delivery.weight] <;> omega
  | .failure _ :: _, h => simp [sysRead] at h
  | .cancel :: more, h => simp [sysRead] at h; simp [← h.2, h.1]

theorem sysRead_failed_weight {count : Nat} {feed rest : List Delivery} {e : Errno}
    (h : sysRead count feed = (.failed e, rest)) : feedWeight rest < feedWeight feed := by
  match feed, h with
  | [], h => simp [sysRead] at h
  | .data d :: more, h => simp only [sysRead] at h; split at h <;> cases h
  | .failure _ :: _, h => simp [sysRead] at h; simp [← h.2, Delivery.weight]
  | .cancel :: more, h => simp [sysRead] at h

-----------------------------------------------------------------------------------------
-- rtsp_read_request
-----------------------------------------------------------------------------------------

/-- `enum rtsp_read_request_response`. -/
inductive ReadResponse
  | ok
  | immediateShutdownRequested
  | badPacket
  | channelClosed
  | readError
  | error
  deriving DecidableEq, Repr

/-- What the scan of the buffered lines ends with: a line `msg_handle_line` rejected, no
complete line left (the message so far and the unscanned bytes), or the blank line with
its body size and the bytes after it.
-/
inductive LineScan
  | badPacket
  | pending (packet : Option RtspMessage) (rest : Bytes)
  | complete (msg : RtspMessage) (msgSize : Int) (rest : Bytes)
  deriving DecidableEq, Repr

/-- The inner header loop `while (msg_size < 0 && (next = nextline (buf, inbuf)))`:
each complete line goes to `msg_handle_line`, then `memmove` drops it from the buffer.
-/
def scanLines (index : Int) (packet : Option RtspMessage) (buf : Bytes) : LineScan :=
  match _found : nextline buf with
  | none => .pending packet buf
  | some (marked, next) =>
      match msgHandleLine index packet marked with
      | (none, _) => .badPacket
      | (some msg, size) =>
          if size < 0 then scanLines index (some msg) (marked.drop next)
          else .complete msg size (marked.drop next)
termination_by buf.length
decreasing_by
  obtain ⟨len, pos, _⟩ := nextline_bounds _found
  simp only [List.length_drop, len]
  omega

/-- How the header phase ends. -/
inductive HeaderPhase
  | failed (reply : ReadResponse) (feed : List Delivery)
  | cancelled (packet : Option RtspMessage)
  | complete (msg : RtspMessage) (msgSize : Int) (buf : Bytes) (feed : List Delivery)
  deriving DecidableEq, Repr

/-- The outer header loop `while (msg_size < 0)`: check `conn->stop`, `read` into the
rest of the 4 KiB buffer, then scan the complete lines.
-/
def readHeaders (stop : Bool) (index : Int) (packet : Option RtspMessage) (buf : Bytes)
    (feed : List Delivery) : HeaderPhase :=
  if stop then .failed .immediateShutdownRequested feed
  else if cancelPending feed then .cancelled packet
  else
    match _got : sysRead (4096 - buf.length) feed with
    | (.bytes d, rest) =>
        if _empty : d = [] then .failed .channelClosed rest
        else
          match scanLines index packet (buf ++ d) with
          | .badPacket => .failed .badPacket rest
          | .pending packet' unscanned => readHeaders stop index packet' unscanned rest
          | .complete msg size unscanned => .complete msg size unscanned rest
    | (.failed e, rest) =>
        if e = .eintr ∨ e = .eagain then readHeaders stop index packet buf rest
        else .failed .readError rest
termination_by feedWeight feed
decreasing_by
  · have := sysRead_bytes_weight _got
    have : 0 < d.length := List.length_pos.mpr _empty
    omega
  · exact sysRead_failed_weight _got

/-- The largest read of the body loop, `1024 * 1024 / 16`. -/
def maxReadChunk : Nat := 1024 * 1024 / 16

/-- How the body phase ends. -/
inductive BodyPhase
  | failed (reply : ReadResponse) (feed : List Delivery)
  | cancelled
  | complete (buf : Bytes) (feed : List Delivery)
  deriving DecidableEq, Repr

/-- The body loop `while (inbuf < msg_size)`: check `conn->stop`, `usleep`, then `read`
at most `msg_size - inbuf` and at most 64 KiB.
-/
def readBody (stop : Bool) (msgSize : Int) (buf : Bytes) (feed : List Delivery) : BodyPhase :=
  if (buf.length : Int) < msgSize then
    if stop then .failed .immediateShutdownRequested feed
    else if cancelPending feed then .cancelled
    else
      match _got : sysRead (min (msgSize - buf.length).toNat maxReadChunk) feed with
      | (.bytes d, rest) =>
          if _empty : d = [] then .failed .error rest
          else readBody stop msgSize (buf ++ d) rest
      | (.failed e, rest) =>
          if e = .eintr ∨ e = .eagain then readBody stop msgSize buf rest
          else .failed .readError rest
  else .complete buf feed
termination_by feedWeight feed
decreasing_by
  · have := sysRead_bytes_weight _got
    have : 0 < d.length := List.length_pos.mpr _empty
    omega
  · exact sysRead_failed_weight _got

/-- What the allocator gives `rtsp_read_request`: the result of `malloc (buflen + 1)` and
of `realloc (buf, msg_size + 1)` (`none` is `NULL`; the same block is a resize in place).
-/
structure Allocator where
  buffer : Option Nat
  grown : Option Nat
  deriving DecidableEq, Repr

/-- A return of `rtsp_read_request`: the reply, `*the_packet`, the deliveries still
unread, and the blocks freed during the call (`realloc` moving the buffer, the cleanup
handler), in order.
-/
structure ReadReturn where
  reply : ReadResponse
  packet : Option RtspMessage
  unread : List Delivery
  freed : List Nat
  deriving DecidableEq, Repr

/-- A cancellation inside `rtsp_read_request`: the block registered with
`pthread_cleanup_push (malloc_cleanup, buf)`, the block `buf` holds now, the message
`*the_packet` holds, and the blocks already freed.
-/
structure ReadCancel where
  pushed : Nat
  buf : Nat
  packet : Option RtspMessage
  freed : List Nat
  deriving DecidableEq, Repr

inductive ReadOutcome
  | returned (r : ReadReturn)
  | cancelled (c : ReadCancel)
  deriving DecidableEq, Repr

/-- The body phase on buffer `buf` (grown from `pushed`, after freeing `released`) up to
the return: the message takes the buffer as its content on success; on failure the
message is freed and the cleanup handler frees the block it was pushed with.
-/
def finishBody (stop : Bool) (pushed buf : Nat) (released : List Nat)
    (msg : RtspMessage) (msgSize : Int) (data : Bytes) (feed : List Delivery) : ReadOutcome :=
  match readBody stop msgSize data feed with
  | .failed reply rest => .returned ⟨reply, none, rest, released ++ [pushed]⟩
  | .cancelled => .cancelled ⟨pushed, buf, some msg, released⟩
  | .complete body rest =>
      .returned ⟨.ok, some { msg with contentlength := body.length, content := some body },
        rest, released⟩

/-- `rtsp_read_request (conn, &the_packet)` with `conn->stop` equal to `stop` and the next
message number `index`.
-/
def rtspReadRequest (stop : Bool) (alloc : Allocator) (index : Int) (feed : List Delivery)
    : ReadOutcome :=
  match alloc.buffer with
  | none => .returned ⟨.error, none, feed, []⟩
  | some b0 =>
      match readHeaders stop index none [] feed with
      | .failed reply rest => .returned ⟨reply, none, rest, [b0]⟩
      | .cancelled packet => .cancelled ⟨b0, b0, packet, []⟩
      | .complete msg size data rest =>
          if 4096 < size then
            match alloc.grown with
            | none => .returned ⟨.error, none, rest, [b0]⟩
            | some b1 => finishBody stop b0 b1 (if b1 = b0 then [] else [b0]) msg size data rest
          else finishBody stop b0 b0 [] msg size data rest

-----------------------------------------------------------------------------------------
-- One pass of each loop
-----------------------------------------------------------------------------------------

/-- What is left of one arrival: nothing, or its unread bytes. -/
def dataFeed (rest : Bytes) : List Delivery := if rest = [] then [] else [.data rest]

@[simp] theorem dataFeed_nil : dataFeed [] = [] := rfl

@[simp] theorem cancelPending_dataFeed (rest : Bytes) : cancelPending (dataFeed rest) = false := by
  unfold dataFeed; split <;> rfl

/-- A read from the rest of one arrival takes what it asks for, or all that is left. -/
theorem sysRead_dataFeed {rest : Bytes} (nonempty : rest ≠ []) (count : Nat)
    : sysRead count (dataFeed rest) = (.bytes (rest.take count), dataFeed (rest.drop count)) := by
  simp only [dataFeed, if_neg nonempty, sysRead]
  split
  · rename_i fits
    simp [List.take_of_length_le fits, List.drop_of_length_le fits]
  · rename_i long
    have : rest.drop count ≠ [] := by simp; omega
    simp [this]

/-- A read of an arrival that fits the count takes all of it. -/
theorem sysRead_fits {count : Nat} {b : Bytes} (fits : b.length ≤ count) (rest : List Delivery)
    : sysRead count (.data b :: rest) = (.bytes b, rest) := by
  simp [sysRead, fits]

theorem scanLines_eq_pending {index : Int} {packet : Option RtspMessage} {buf : Bytes}
    (noLine : nextline buf = none) : scanLines index packet buf = .pending packet buf := by
  rw [scanLines]
  split
  · rfl
  · simp_all

/-- A line `msg_handle_line` accepts: scan on after it, unless it ended the headers. -/
theorem scanLines_eq_line {index : Int} {packet : Option RtspMessage} {buf marked : Bytes}
    {next : Nat} {msg : RtspMessage} {size : Int} (found : nextline buf = some (marked, next))
    (handled : msgHandleLine index packet marked = (some msg, size))
    : scanLines index packet buf
      = if size < 0 then scanLines index (some msg) (marked.drop next)
        else .complete msg size (marked.drop next) := by
  rw [scanLines]
  split
  · simp_all
  · rename_i marked' next' found'
    obtain ⟨rfl, rfl⟩ := Prod.mk.inj (Option.some.inj (found'.symm.trans found))
    simp only [handled]

theorem scanLines_eq_bad {index : Int} {packet : Option RtspMessage} {buf marked : Bytes}
    {next : Nat} (found : nextline buf = some (marked, next))
    (rejected : (msgHandleLine index packet marked).1 = none)
    : scanLines index packet buf = .badPacket := by
  rw [scanLines]
  split
  · simp_all
  · rename_i marked' next' found'
    obtain ⟨rfl, rfl⟩ := Prod.mk.inj (Option.some.inj (found'.symm.trans found))
    cases handled : msgHandleLine index packet marked' with
    | mk packet' size => cases packet' with
      | none => rfl
      | some msg => simp [handled] at rejected

/-- A `read` of the header loop that returns bytes: scan them with the buffered ones. -/
theorem readHeaders_eq_read {index : Int} {packet : Option RtspMessage} {buf d : Bytes}
    {feed rest : List Delivery} (pending : cancelPending feed = false)
    (got : sysRead (4096 - buf.length) feed = (.bytes d, rest)) (nonempty : d ≠ [])
    : readHeaders false index packet buf feed
      = match scanLines index packet (buf ++ d) with
        | .badPacket => .failed .badPacket rest
        | .pending packet' unscanned => readHeaders false index packet' unscanned rest
        | .complete msg size unscanned => .complete msg size unscanned rest := by
  rw [readHeaders]
  simp only [pending, Bool.false_eq_true, if_false]
  split
  · rename_i d' rest' got'
    cases got'.symm.trans got
    simp [nonempty]
  · rename_i e rest' got'
    cases got'.symm.trans got

theorem readBody_eq_complete {stop : Bool} {msgSize : Int} {buf : Bytes} {feed : List Delivery}
    (full : ¬ (buf.length : Int) < msgSize) : readBody stop msgSize buf feed = .complete buf feed := by
  rw [readBody]; simp [full]

/-- A cancellation pending while body bytes are missing is taken at the `usleep`. -/
theorem readBody_eq_cancelled {msgSize : Int} {buf : Bytes} {feed : List Delivery}
    (short : (buf.length : Int) < msgSize) (pending : cancelPending feed = true)
    : readBody false msgSize buf feed = .cancelled := by
  rw [readBody]; simp [short, pending]

/-- A `read` of the body loop that returns bytes appends them to the buffer. -/
theorem readBody_eq_read {msgSize : Int} {buf d : Bytes} {feed rest : List Delivery}
    (short : (buf.length : Int) < msgSize) (pending : cancelPending feed = false)
    (got : sysRead (min (msgSize - buf.length).toNat maxReadChunk) feed = (.bytes d, rest))
    (nonempty : d ≠ []) : readBody false msgSize buf feed = readBody false msgSize (buf ++ d) rest := by
  rw [readBody]
  simp only [short, if_true, pending, Bool.false_eq_true, if_false]
  split
  · rename_i d' rest' got'
    cases got'.symm.trans got
    simp [nonempty]
  · rename_i e rest' got'
    cases got'.symm.trans got

end Shairport.Rtsp
