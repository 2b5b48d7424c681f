import ShairportRtsp.Session.Receiver

/-! The footprint of one worker's step. A handler, one of its `player_*` calls, or a pass of
the waiting loop of `handle_announce`, touches only its own record and, in `handle_announce`,
the holder's stop flag and cancellation; it never ends a worker, frees a record, changes
`running` or moves another worker; its `player_*` calls are for its own connection; and the
slot is kept, let go by the worker holding it, or taken by the worker when it is free.
-/

namespace Shairport.Rtsp

-----------------------------------------------------------------------------------------
-- Steps that keep every record's life
-----------------------------------------------------------------------------------------

/-- A `player_*` call a handler of connection `c` made: for `c`, and with `c` holding the
slot unless it sets the volume.
-/
def PlayerCall.Handled (c : Nat) (x : PlayerCall) : Prop :=
  x.conn = c ∧ x.inHandler = true ∧ (x.op ≠ .volume → x.owner = some c)

/-- `s'` differs from `s` by work of worker `c`: the listener's data are untouched, every
record stays as it was or stays live with its `running` and with its worker's exit as they
were, and every other worker where it was; the calls added are `c`'s handlers'; and the slot
is kept, let go by `c` holding it, or taken by `c` while it is free.
-/
structure Receiver.Moves (c : Nat) (s s' : Receiver) : Prop where
  nextConn : s'.nextConn = s.nextConn
  tracked : s'.tracked = s.tracked
  listener : s'.listener = s.listener
  records : ∀ o, s'.records o = s.records o ∨ ∃ r r', s.records o = .live r
    ∧ s'.records o = .live r' ∧ r'.running = r.running ∧ (r'.pc = .exited ↔ r.pc = .exited)
    ∧ (o ≠ c → r'.pc = r.pc)
  calls : ∃ new, s'.calls = s.calls ++ new ∧ ∀ x ∈ new, x.Handled c
  slot : s'.playingConn = s.playingConn ∨ (s.playingConn = some c ∧ s'.playingConn = none)
    ∨ (s.playingConn = none ∧ s'.playingConn = some c)

namespace Receiver.Moves

variable {c : Nat} {s s' s'' : Receiver}

theorem noCalls (s : Receiver) : ∃ new, s.calls = s.calls ++ new ∧ ∀ x ∈ new, x.Handled c :=
  ⟨[], (List.append_nil _).symm, fun _ none => nomatch none⟩

theorem refl (s : Receiver) : Receiver.Moves c s s :=
  ⟨rfl, rfl, rfl, fun _ => .inl rfl, noCalls s, .inl rfl⟩

theorem trans (first : Receiver.Moves c s s') (second : Receiver.Moves c s' s'')
    : Receiver.Moves c s s'' := by
  refine ⟨second.nextConn.trans first.nextConn, second.tracked.trans first.tracked,
    second.listener.trans first.listener, fun o => ?_, ?_, ?_⟩
  · rcases second.records o with same₂ | ⟨r, r', before, after, running, exited, place⟩
    · rw [same₂]; exact first.records o
    · rcases first.records o with same₁ | ⟨q, q', before₁, after₁, running₁, exited₁, place₁⟩
      · exact .inr ⟨r, r', same₁ ▸ before, after, running, exited, place⟩
      · rw [after₁] at before
        cases before
        exact .inr ⟨q, r', before₁, after, running.trans running₁, exited.trans exited₁,
          fun other => (place other).trans (place₁ other)⟩
  · obtain ⟨new₁, calls₁, handled₁⟩ := first.calls
    obtain ⟨new₂, calls₂, handled₂⟩ := second.calls
    exact ⟨new₁ ++ new₂, by rw [calls₂, calls₁, List.append_assoc],
      fun x mem => (List.mem_append.mp mem).elim (handled₁ x) (handled₂ x)⟩
  · rcases second.slot with same | ⟨held, released⟩ | ⟨free, taken⟩ <;>
      rcases first.slot with same₁ | ⟨held₁, released₁⟩ | ⟨free₁, taken₁⟩ <;>
      simp_all

/-- Another worker's hold on the slot survives `c`'s work. -/
theorem keeps_holder {o : Nat} (moves : Receiver.Moves c s s') (other : o ≠ c)
    (held : s.playingConn = some o) : s'.playingConn = some o := by
  rcases moves.slot with same | ⟨mine, -⟩ | ⟨free, -⟩
  · rw [same, held]
  · exact absurd (Option.some.inj (held.symm.trans mine)) other
  · simp [held] at free

end Receiver.Moves

theorem Receiver.moves_setRecord {s : Receiver} {o : Nat} {r r' : ConnRecord} (c : Nat)
    (live : s.records o = .live r) (running : r'.running = r.running)
    (exited : r'.pc = .exited ↔ r.pc = .exited) (place : o ≠ c → r'.pc = r.pc)
    : Receiver.Moves c s (s.setRecord o r') := by
  refine ⟨rfl, rfl, rfl, fun o' => ?_, Receiver.Moves.noCalls s, .inl rfl⟩
  by_cases same : o' = o
  · subst same; exact .inr ⟨r, r', live, by simp, running, exited, place⟩
  · exact .inl (by simp [Function.update_noteq same])

/-- A handler's call for its own connection, made holding the slot unless it sets the volume. -/
theorem Receiver.moves_call (s : Receiver) (c : Nat) (op : PlayerOp)
    (owned : op ≠ .volume → s.playingConn = some c) : Receiver.Moves c s (s.call c op true) :=
  ⟨rfl, rfl, rfl, fun _ => .inl rfl, ⟨_, rfl, by simpa [PlayerCall.Handled] using owned⟩, .inl rfl⟩

theorem Receiver.moves_releaseSlot (s : Receiver) (c : Nat)
    : Receiver.Moves c s (s.releaseSlot c) := by
  refine ⟨rfl, rfl, rfl, fun _ => .inl rfl, Receiver.Moves.noCalls s, ?_⟩
  simp only [Receiver.releaseSlot_playingConn]
  split
  · exact .inr (.inl ⟨‹_›, rfl⟩)
  · exact .inl rfl

theorem Receiver.moves_take (s : Receiver) (c : Nat) (free : s.playingConn = none)
    : Receiver.Moves c s { s with playingConn := some c } :=
  ⟨rfl, rfl, rfl, fun _ => .inl rfl, Receiver.Moves.noCalls s, .inr (.inr ⟨free, rfl⟩)⟩

theorem Receiver.moves_cancel (s : Receiver) (c o : Nat) : Receiver.Moves c s (s.cancel o) := by
  unfold Receiver.cancel
  split
  · rename_i r live
    split
    · exact .refl s
    · exact Receiver.moves_setRecord c live rfl Iff.rfl fun _ => rfl
  · exact .refl s

theorem Receiver.moves_cancelAll (c : Nat) (l : List Nat) (s : Receiver)
    : Receiver.Moves c s (l.foldl Receiver.cancel s) := by
  induction l generalizing s with
  | nil => exact .refl s
  | cons o rest ih => exact (Receiver.moves_cancel s c o).trans (ih _)

/-- Cancellations move no worker: a record live after them was live before, in the same place. -/
theorem Receiver.foldl_cancel_place (l : List Nat) (s : Receiver) {c : Nat} {r' : ConnRecord}
    (after : (l.foldl Receiver.cancel s).records c = .live r')
    : ∃ r, s.records c = .live r ∧ r.pc = r'.pc := by
  rcases (Receiver.moves_cancelAll (c + 1) l s).records c with same | ⟨r, q, old, new, -, -, place⟩
  · exact ⟨r', same.symm.trans after, rfl⟩
  · rw [new] at after
    cases after
    exact ⟨r, old, (place (Nat.succ_ne_self c).symm).symm⟩

theorem Receiver.foldl_cancel_playingConn (l : List Nat) (s : Receiver)
    : (l.foldl Receiver.cancel s).playingConn = s.playingConn := by
  induction l generalizing s with
  | nil => rfl
  | cons o rest ih =>
      rw [List.foldl_cons, ih]
      unfold Receiver.cancel
      split
      · split <;> rfl
      · rfl

theorem Receiver.moves_setParameterParameter (s : Receiver) (c : Nat) (content : Bytes)
    : Receiver.Moves c s (s.setParameterParameter c content) := by
  unfold Receiver.setParameterParameter
  induction parameterLines content generalizing s with
  | nil => exact .refl s
  | cons line rest ih =>
      rw [List.foldl_cons]
      split
      · exact (Receiver.moves_call s c .volume fun ne => absurd rfl ne).trans (ih _)
      · exact ih s

-----------------------------------------------------------------------------------------
-- The work of one worker
-----------------------------------------------------------------------------------------

section Worker

variable {s : Receiver} {c : Nat} {r : ConnRecord}

theorem Receiver.moves_announceBody (s : Receiver) (c : Nat) (accepted : Bool)
    : Receiver.Moves c s (s.announceBody c accepted) := by
  unfold Receiver.announceBody
  split
  · exact .refl s
  · exact Receiver.moves_releaseSlot s c

/-- The worker moves to another place short of its exit. -/
theorem Receiver.moves_place (t : Receiver) (live : t.records c = .live r) (working : r.pc ≠ .exited)
    {pc : WorkerPc} (going : pc ≠ .exited) : Receiver.Moves c t (t.setRecord c { r with pc := pc }) :=
  Receiver.moves_setRecord c live rfl (by simp [going, working]) fun other => absurd rfl other

/-- `handle_announce` also sets the holder's `stop` and cancels it, which changes neither its
`running` nor its place.
-/
theorem Receiver.moves_announce (allow : Bool) (live : s.records c = .live r)
    (working : r.pc ≠ .exited) (accepted : Bool) : Receiver.Moves c s (s.announce allow c r accepted) := by
  unfold Receiver.announce
  split
  · exact (Receiver.moves_take s c ‹_›).trans (Receiver.moves_announceBody _ c accepted)
  · rename_i o _
    split
    · exact Receiver.moves_announceBody s c accepted
    · rename_i other
      split
      · rename_i holder held
        split
        · exact Receiver.moves_place s live working (by simp)
        · split
          · have stillLive : (s.setRecord o { holder with stop := true, cancelPending := true }).records c
                = .live r := by
              simp [Function.update_noteq (Ne.symm other), live]
            have stopping : Receiver.Moves c s
                (s.setRecord o { holder with stop := true, cancelPending := true }) :=
              Receiver.moves_setRecord c held rfl Iff.rfl fun _ => rfl
            exact stopping.trans (Receiver.moves_place _ stillLive working (by simp))
          · exact .refl s
      · exact .refl s

theorem Receiver.moves_setup (s : Receiver) (c : Nat) (accepted : Bool)
    : Receiver.Moves c s (s.setup c accepted) := by
  unfold Receiver.setup
  split
  · exact Receiver.moves_announceBody s c accepted
  · exact .refl s

/-- `have_player` only moves the worker, holding the slot, on to its `player_*` calls. -/
theorem Receiver.moves_havePlayer (live : s.records c = .live r) (working : r.pc ≠ .exited)
    (ops : List PlayerOp) : Receiver.Moves c s (s.havePlayer c r ops) := by
  unfold Receiver.havePlayer
  split
  · exact Receiver.moves_place s live working (by simp)
  · exact .refl s

/-- A `player_*` call made while the worker holds the slot, and the worker's move past it. -/
theorem Receiver.moves_playerCall (live : s.records c = .live r) {op : PlayerOp}
    {rest : List PlayerOp} (calling : r.pc = .calling (op :: rest)) (held : s.playingConn = some c)
    : Receiver.Moves c s (s.playerCall c r op rest) := by
  have next : ∀ (t : Receiver) (r' : ConnRecord), t.records c = .live r → r'.running = r.running
      → r'.pc = WorkerPc.afterCall rest → Receiver.Moves c t (t.setRecord c r') :=
    fun t r' live running pc => Receiver.moves_setRecord c live running
      (by rw [pc, calling]; cases rest <;> simp [WorkerPc.afterCall]) fun other => absurd rfl other
  have call : ∀ op, Receiver.Moves c s (s.call c op true) := fun op =>
    Receiver.moves_call s c op fun _ => held
  unfold Receiver.playerCall
  split
  · split
    · exact next s _ live rfl rfl
    · exact (call .play).trans (next _ _ live rfl rfl)
  · exact (call .stop).trans (next _ _ live rfl rfl)
  · exact (call _).trans (next _ _ live rfl rfl)

theorem Receiver.moves_setParameter (s : Receiver) (c : Nat) (contentType : Option Bytes)
    (content : Bytes) : Receiver.Moves c s (s.setParameter c contentType content) := by
  unfold Receiver.setParameter
  split
  · split
    · exact Receiver.moves_setParameterParameter s c content
    · exact .refl s
  · exact .refl s

/-- The handlers only touch the worker's own record, keeping its worker short of its exit,
and, in `handle_announce`, the holder's `stop` and cancellation.
-/
theorem Receiver.moves_handle (allow : Bool) (live : s.records c = .live r)
    (working : r.pc ≠ .exited) : ∀ req, Receiver.Moves c s (s.handle allow c r req)
  | .announce accepted => Receiver.moves_announce allow live working accepted
  | .setup accepted => Receiver.moves_setup s c accepted
  | .record rtpInfo => Receiver.moves_havePlayer live working (recordCalls rtpInfo)
  | .flush _ => Receiver.moves_havePlayer live working [.flush]
  | .teardown => Receiver.moves_havePlayer live working [.stop]
  | .setParameter contentType content => Receiver.moves_setParameter s c contentType content
  | .options | .getParameter | .unhandled => .refl s

/-- A pass of the waiting loop of `handle_announce` changes only the worker's own place and,
when the slot is free, takes it.
-/
theorem Receiver.moves_poll (live : s.records c = .live r) (working : r.pc ≠ .exited)
    (accepted interrupting : Bool) (checksLeft : Nat)
    : Receiver.Moves c s (s.poll c r accepted interrupting checksLeft) := by
  unfold Receiver.poll
  split
  · exact ((Receiver.moves_take s c ‹_›).trans
      (Receiver.moves_place { s with playingConn := some c } live working (by simp))).trans
        (Receiver.moves_announceBody _ c accepted)
  · split <;> exact Receiver.moves_place s live working (by simp)

-----------------------------------------------------------------------------------------
-- Where the work leaves the worker
-----------------------------------------------------------------------------------------

@[simp] theorem Receiver.announceBody_records (s : Receiver) (c : Nat) (accepted : Bool)
    : (s.announceBody c accepted).records = s.records := by
  unfold Receiver.announceBody
  split <;> rfl

/-- SET_PARAMETER only adds calls. -/
theorem Receiver.setParameterParameter_calls_only (s : Receiver) (c : Nat) (content : Bytes)
    : ∃ calls, s.setParameterParameter c content = { s with calls := calls } := by
  unfold Receiver.setParameterParameter
  induction parameterLines content generalizing s with
  | nil => exact ⟨s.calls, rfl⟩
  | cons line rest ih =>
      rw [List.foldl_cons]
      split
      · exact ih (s.call c .volume true)
      · exact ih s

/-- `handle_announce` leaves its worker where it was, or waiting for the slot. -/
theorem Receiver.announce_place (allow : Bool) (live : s.records c = .live r) (accepted : Bool)
    {r' : ConnRecord} (after : (s.announce allow c r accepted).records c = .live r')
    : r'.pc = r.pc ∨ ∃ interrupting, r'.pc = .announcing accepted interrupting 30 := by
  unfold Receiver.announce at after
  repeat' split at after
  all_goals simp [live] at after
  all_goals subst after; simp

/-- Only `have_player` puts a worker in its `player_*` calls, and only while it holds the slot. -/
theorem Receiver.handle_calling (allow : Bool) (live : s.records c = .live r)
    (serving : r.pc = .serving) (req : Request) {r' : ConnRecord} {ops : List PlayerOp}
    (after : (s.handle allow c r req).records c = .live r') (calling : r'.pc = .calling ops)
    : (s.handle allow c r req).playingConn = some c := by
  have unmoved : ∀ t : Receiver, t.records = s.records → t.records c = .live r' → False :=
    fun t same after => by
      rw [same, live] at after
      cases after
      rw [serving] at calling
      cases calling
  cases req with
  | announce accepted =>
      rcases Receiver.announce_place allow live accepted after with same | ⟨_, waiting⟩
      · rw [same, serving] at calling; cases calling
      · rw [waiting] at calling; cases calling
  | setup accepted =>
      refine (unmoved _ ?_ after).elim
      simp only [Receiver.handle, Receiver.setup]
      split_ifs <;> simp [Receiver.releaseSlot]
  | record _ | flush _ | teardown =>
      simp only [Receiver.handle, Receiver.record, Receiver.flush, Receiver.teardown,
        Receiver.havePlayer] at after ⊢
      split
      · assumption
      · rw [if_neg ‹_›] at after
        exact (unmoved s rfl after).elim
  | setParameter contentType content =>
      refine (unmoved _ ?_ after).elim
      simp only [Receiver.handle, Receiver.setParameter]
      split
      · split
        · obtain ⟨calls, eq⟩ := s.setParameterParameter_calls_only c content
          rw [eq]
        · rfl
      · rfl
  | options | getParameter | unhandled => exact (unmoved s rfl after).elim

/-- A pass of the waiting loop leaves its worker waiting, or back in its loop. -/
theorem Receiver.poll_place {accepted interrupting : Bool} {checksLeft : Nat} {r' : ConnRecord}
    (after : (s.poll c r accepted interrupting checksLeft).records c = .live r')
    : r'.pc = .serving ∨ r'.pc = .announcing accepted interrupting (checksLeft - 1) := by
  unfold Receiver.poll at after
  repeat' split at after
  all_goals simp at after
  all_goals subst after; simp

@[simp] theorem Receiver.playerCall_playingConn (s : Receiver) (c : Nat) (r : ConnRecord)
    (op : PlayerOp) (rest : List PlayerOp) : (s.playerCall c r op rest).playingConn = s.playingConn := by
  unfold Receiver.playerCall
  split <;> (try split) <;> rfl

end Worker

end Shairport.Rtsp
