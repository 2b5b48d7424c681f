import ShairportRtsp.Metadata.Dmap

/-! `msg_retain` and `msg_free` on every value a handle can hold: the address of a live
message, `NULL`, or the small index `msg_free` leaves in a handle whose message it has freed.
Both take the process-wide `reference_counter_lock`. `msg_free` releases it on every path,
`msg_retain` only on a live message: a retain on any other value returns with the lock held,
and every later retain or free then waits on it for ever.
-/

namespace Shairport.Rtsp

/-- The `reference_counter_lock`, and by address the messages it guards: `referenceCount`
(a `uint32_t`, so kept by `wrap32`), how often each address was freed, each message's
`index_number`; and the callers' handle variables (`rtsp_message *`).
-/
structure RefState where
  locked : Bool
  refs : Nat → Nat
  frees : Nat → Nat
  index : Nat → Nat
  handles : Nat → Nat

/-- `(rtsp_message *)0x00010000`: both calls take a handle above it for a live message. -/
def handleFloor : Nat := 0x10000

/-- What `msg_free` writes into the handle of a message it frees: the low 16 bits of its
`index_number`, with 0 made `0x10000` so that it is not `NULL`.
-/
def freedHandle (index : Nat) : Nat := if index % 0x10000 = 0 then 0x10000 else index % 0x10000

/-- `msg_retain (msg)`: `none` while the lock is held, the call waiting on it. On a live
message the count goes up and the lock is released; on any other value the call logs and
returns with the lock still held.
-/
def RefState.msgRetain (s : RefState) (msg : Nat) : Option RefState :=
  if s.locked then none
  else if handleFloor < msg then some { s with refs := Function.update s.refs msg (wrap32 (s.refs msg + 1)) }
  else some { s with locked := true }

/-- `msg_free (&handles v)`: `none` while the lock is held. On a live message the count goes
down, and at 0 the message is freed and the handle gets `freedHandle` of its index; on
`NULL` or a freed handle nothing changes. The lock is released on every path.
-/
def RefState.msgFree (s : RefState) (v : Nat) : Option RefState :=
  if s.locked then none
  else
    let msg := s.handles v
    if handleFloor < msg then
      let count := wrap32 (s.refs msg + 0xFFFFFFFF)
      if count = 0 then
        some { s with refs := Function.update s.refs msg count,
                      frees := Function.update s.frees msg (s.frees msg + 1),
                      handles := Function.update s.handles v (freedHandle (s.index msg)) }
      else some { s with refs := Function.update s.refs msg count }
    else some s

/-- A call on a handle variable. -/
inductive RefCall
  /-- `msg_retain (handles v)`. -/
  | retain (v : Nat)
  /-- `msg_free (&handles v)`. -/
  | free (v : Nat)
  deriving DecidableEq, Repr

def RefState.call (s : RefState) : RefCall → Option RefState
  | .retain v => s.msgRetain (s.handles v)
  | .free v => s.msgFree v

/-- Calls one after another: `none` once a call waits on the lock for ever. -/
def RefState.run (s : RefState) : List RefCall → Option RefState
  | [] => some s
  | c :: cs => (s.call c).bind fun s' => s'.run cs

-----------------------------------------------------------------------------------------
-- The lock
-----------------------------------------------------------------------------------------

section Lock

variable {s : RefState}

/-- A held lock stops every call. -/
theorem RefState.call_locked (held : s.locked = true) (c : RefCall) : s.call c = none := by
  cases c <;> simp [RefState.call, RefState.msgRetain, RefState.msgFree, held]

/-- A held lock stops every run at its first call, by cases on the run. -/
theorem RefState.run_locked (held : s.locked = true)
    : ∀ {calls : List RefCall}, calls ≠ [] → s.run calls = none
  | [], filled => absurd rfl filled
  | c :: _, _ => by simp [RefState.run, s.call_locked held c]

/-- `msg_retain` on `NULL` or on a handle that `msg_free` has overwritten returns with the
lock still held and the counts as they were; every retain or free after it then waits on the
lock for ever.
-/
theorem msgRetain_invalid_keeps_lock (free : s.locked = false) {msg : Nat}
    (invalid : msg ≤ handleFloor) :
    s.msgRetain msg = some { s with locked := true }
      ∧ ∀ calls : List RefCall, calls ≠ [] → ({ s with locked := true } : RefState).run calls = none := by
  refine ⟨?_, fun calls filled => RefState.run_locked rfl filled⟩
  simp [RefState.msgRetain, free, show ¬ handleFloor < msg by omega]

end Lock

/-- Witness: a message at `0x20000` with index 7 and one reference is freed through handle 0,
which then holds 7; a retain through that handle keeps the lock, and the free after it never
returns.
-/
theorem msgRetain_invalid_keeps_lock_after_free :
    let s : RefState := ⟨false, fun _ => 1, fun _ => 0, fun _ => 7, fun _ => 0x20000⟩
    ∃ freed : RefState, s.msgFree 0 = some freed ∧ freed.handles 0 = 7 ∧ freed.frees 0x20000 = 1
      ∧ freed.msgRetain (freed.handles 0) = some { freed with locked := true }
      ∧ ({ freed with locked := true } : RefState).run [.free 1] = none := by
  intro s
  let freed : RefState := { s with
    refs := Function.update s.refs (s.handles 0) (wrap32 (s.refs (s.handles 0) + 0xFFFFFFFF)),
    frees := Function.update s.frees (s.handles 0) (s.frees (s.handles 0) + 1),
    handles := Function.update s.handles 0 (freedHandle (s.index (s.handles 0))) }
  have last : wrap32 (s.refs (s.handles 0) + 0xFFFFFFFF) = 0 := by
    show (1 + 0xFFFFFFFF) % 2 ^ 32 = 0
    norm_num
  have step : s.msgFree 0 = some freed := by
    simp only [RefState.msgFree]
    rw [if_neg (show ¬ s.locked = true from Bool.false_ne_true),
      if_pos (show handleFloor < s.handles 0 by decide), if_pos last]
  have stuck := msgRetain_invalid_keeps_lock (s := freed) rfl
    (show freed.handles 0 ≤ handleFloor by decide)
  -- by the update and not by rfl: under the lets the kernel compares 0x20000 in unary
  exact ⟨freed, step, rfl, Function.update_same (s.handles 0) (s.frees (s.handles 0) + 1) s.frees,
    stuck.1, stuck.2 _ (List.cons_ne_nil _ _)⟩

end Shairport.Rtsp
