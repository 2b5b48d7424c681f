import ShairportRtsp.Codec.RoundTrip

/-! The cleanup handlers of a conversation worker, and what they release when the worker is
cancelled inside `rtsp_read_request`.
-/

namespace Shairport.Rtsp

/-- The worker's two message variables. -/
inductive MsgSlot
  | req
  | resp
  deriving DecidableEq, Repr

/-- The handlers a conversation worker registers with `pthread_cleanup_push`. -/
inductive CleanupHandler
  /-- `rtsp_conversation_thread_cleanup_function (conn)`, pushed before the loop: it stops
  the player, closes the sockets, frees the connection's strings and clears `playing_conn`
  if it is this connection. -/
  | conversation
  /-- `malloc_cleanup (buf)` in `rtsp_read_request`, with the block `buf` held when pushed. -/
  | mallocCleanup (block : Nat)
  /-- `msg_cleanup_function (&req)` or `(&resp)`: `msg_free` of the message the variable
  holds when it runs. -/
  | msgCleanup (slot : MsgSlot)
  deriving DecidableEq, Repr

/-- Modelled from the spec: `malloc_cleanup` is not under src/; as the spec's "free transient
buffers" has it, it frees the block it was pushed with.
-/
def CleanupHandler.frees : CleanupHandler → List Nat
  | .mallocCleanup block => [block]
  | _ => []

/-- The message variables a handler releases. -/
def CleanupHandler.releases : CleanupHandler → List MsgSlot
  | .msgCleanup slot => [slot]
  | _ => []

/-- The handlers registered while the worker is inside `rtsp_read_request`, innermost first:
the buffer's `malloc_cleanup`, then the conversation's. `*the_packet` is `req`, which gets
its `msg_cleanup_function` only once the call has returned.
-/
def ReadCancel.handlers (c : ReadCancel) : List CleanupHandler :=
  [.mallocCleanup c.pushed, .conversation]

/-- The blocks freed from the start of the call to the end of the cleanup. -/
def ReadCancel.allFreed (c : ReadCancel) : List Nat :=
  c.freed ++ (c.handlers.map CleanupHandler.frees).flatten

/-- The message variables the cleanup releases. -/
def ReadCancel.releasedSlots (c : ReadCancel) : List MsgSlot :=
  (c.handlers.map CleanupHandler.releases).flatten

/-- A header block that arrives on its own is read whole by the first `read`. -/
theorem readHeaders_head_alone {r : WireRequest} (wf : r.WellFormed) (index : Int)
    {rest : List Delivery} (pending : cancelPending (.data r.head :: rest) = false)
    : readHeaders false index none [] (.data r.head :: rest)
      = .complete (r.parsed index) r.body.length [] rest := by
  rw [readHeaders_eq_read pending (sysRead_fits (by simpa using wf.head_le) _) r.head_ne_nil,
    List.nil_append, ← List.append_nil r.head, scanLines_head wf]

/-- A request whose header block has arrived and whose body has not: a cancellation at the
body loop's `usleep` leaves the parsed request in `*the_packet`, and after a `realloc` the
buffer in `buf` may differ from the block `malloc_cleanup` was pushed with.
-/
theorem rtspReadRequest_cancel_in_body {r : WireRequest} (wf : r.WellFormed) (body : r.body ≠ [])
    (b0 b1 : Nat) (index : Int)
    : rtspReadRequest false ⟨some b0, some b1⟩ index [.data r.head, .cancel]
      = .cancelled (if 4096 < r.body.length
          then ⟨b0, b1, some (r.parsed index), if b1 = b0 then [] else [b0]⟩
          else ⟨b0, b0, some (r.parsed index), []⟩) := by
  have cancelled : readBody false r.body.length [] [.cancel] = .cancelled :=
    readBody_eq_cancelled (by simpa using List.length_pos.mpr body) rfl
  simp only [rtspReadRequest, readHeaders_head_alone wf index rfl, finishBody, cancelled]
  by_cases large : 4096 < r.body.length <;> simp [large]

/-- A `SET_PARAMETER` request with a 5000-byte body, more than the first buffer holds. -/
theorem setParameter_large_wellFormed : WireRequest.WellFormed ⟨ascii "SET_PARAMETER", ascii "*",
    [(ascii "Content-Length", ascii "5000")], List.replicate 5000 120⟩ :=
  have thousands : decimal (List.replicate 5000 (120 : UInt8)).length = ascii "5000" := by
    rw [List.length_replicate, decimal, if_neg (by decide), decimal, if_neg (by decide), decimal,
      if_neg (by decide), decimal, if_pos (by decide)]
    rfl
  ⟨by decide, by decide, by decide, by decide, by decide, by decide, by decide, by decide,
    by decide, by rw [List.length_replicate]; decide, .inl (by rw [thousands]; decide)⟩

/-- Cancelled while it waits for a five-byte body, the worker holds the parsed request and
no registered handler releases it; with a 5000-byte body whose `realloc` moved the buffer
from block 0 to block 1, the cleanup frees block 0 a second time and block 1 never.
-/
theorem rtspReadRequest_cancel_leaks :
    rtspReadRequest false ⟨some 0, some 0⟩ 0
        [.data (ascii "SET_PARAMETER * RTSP/1.0\r\nContent-Length: 5\r\n\r\n"), .cancel]
      = .cancelled ⟨0, 0, some { msgInit 0 with
                                 method := ascii "SET_PARAMETER",
                                 headers := [(ascii "Content-Length", ascii "5")] }, []⟩
    ∧ ReadCancel.releasedSlots ⟨0, 0, some { msgInit 0 with
                                            method := ascii "SET_PARAMETER",
                                            headers := [(ascii "Content-Length", ascii "5")] }, []⟩
      = []
    ∧ rtspReadRequest false ⟨some 0, some 1⟩ 0
        [.data (ascii "SET_PARAMETER * RTSP/1.0\r\nContent-Length: 5000\r\n\r\n"), .cancel]
      = .cancelled ⟨0, 1, some { msgInit 0 with
                                 method := ascii "SET_PARAMETER",
                                 headers := [(ascii "Content-Length", ascii "5000")] }, [0]⟩
    ∧ ReadCancel.allFreed ⟨0, 1, some { msgInit 0 with
                                       method := ascii "SET_PARAMETER",
                                       headers := [(ascii "Content-Length", ascii "5000")] }, [0]⟩
      = [0, 0] := by
  have five : decimal (ascii "hello").length = ascii "5" := by rw [decimal]; rfl
  have small : WireRequest.WellFormed ⟨ascii "SET_PARAMETER", ascii "*",
      [(ascii "Content-Length", ascii "5")], ascii "hello"⟩ :=
    ⟨by decide, by decide, by decide, by decide, by decide, by decide, by decide, by decide,
      by decide, by decide, .inl (by rw [five]; decide)⟩
  refine ⟨(rtspReadRequest_cancel_in_body small (by decide) 0 0 0).trans ?_, rfl,
    (rtspReadRequest_cancel_in_body setParameter_large_wellFormed (List.ne_nil_of_length_pos (by
      rw [List.length_replicate]; decide)) 0 1 0).trans ?_, rfl⟩
  · rw [if_neg (by decide)]; rfl
  · rw [if_pos (by rw [List.length_replicate]; decide)]; rfl

-----------------------------------------------------------------------------------------
-- Failed returns
-----------------------------------------------------------------------------------------

/-- A request whose body needs more than the 4 KiB buffer, on a stream that ends after its
header block: when `realloc` moves the buffer, the call returns an error having freed the
first block twice, and the block `realloc` returned is lost.
-/
theorem rtspReadRequest_eof_after_realloc_frees_twice {r : WireRequest} (wf : r.WellFormed)
    (large : 4096 < r.body.length) {b0 b1 : Nat} (moved : b1 ≠ b0) (index : Int)
    : rtspReadRequest false ⟨some b0, some b1⟩ index [.data r.head]
      = .returned ⟨.error, none, [], [b0, b0]⟩ := by
  have eof : readBody false r.body.length [] [] = .failed .error [] := by
    rw [readBody]; simp [show (0 : Int) < r.body.length by omega]; rfl
  simp only [rtspReadRequest, readHeaders_head_alone wf index rfl, finishBody, eof,
    if_pos (show (4096 : Int) < r.body.length by omega), if_neg moved]
  rfl

/-- Witness: the 5000-byte `SET_PARAMETER` whose peer closes after the header block, with
`realloc` moving the buffer from block 0 to block 1.
-/
theorem rtspReadRequest_eof_after_realloc_setParameter :
    rtspReadRequest false ⟨some 0, some 1⟩ 0
        [.data (ascii "SET_PARAMETER * RTSP/1.0\r\nContent-Length: 5000\r\n\r\n")]
      = .returned ⟨.error, none, [], [0, 0]⟩ :=
  rtspReadRequest_eof_after_realloc_frees_twice setParameter_large_wellFormed
    (by rw [List.length_replicate]; decide) (by decide) 0

end Shairport.Rtsp
