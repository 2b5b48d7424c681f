import ShairportRtsp.Session.Work

/-! `playing_conn` never dangles: in every state the threads reach, it is NULL or names a
live record whose worker has not exited. The record of the slot's holder is freed only after
its worker's cleanup, and that cleanup lets the slot go first. A worker between `have_player`
and the end of its `player_*` calls holds the slot throughout: only the holder lets it go.
-/

namespace Shairport.Rtsp

-----------------------------------------------------------------------------------------
-- The invariant
-----------------------------------------------------------------------------------------

/-- A record the listener may free once it reads `running = 0`: either not live, or its
worker has exited when `running` is 0.
-/
def RecordSlot.Reapable : RecordSlot → Prop
  | .live r => r.running = false → r.pc = .exited
  | _ => True

/-- A live record whose worker has not exited. -/
def RecordSlot.Working : RecordSlot → Prop
  | .live r => r.pc ≠ .exited
  | _ => False

/-- What keeps `playing_conn` from dangling. The slot names a working record, and the worker
of every record in its `player_*` calls holds it; no record exists at or past `nextConn`;
every record the listener has tracked or holds is below `nextConn`, and the reaper's test
`running == 0` only passes for exited workers.
-/
structure Receiver.Safe (s : Receiver) : Prop where
  holder : ∀ c, s.playingConn = some c → (s.records c).Working
  calling : ∀ c r ops, s.records c = .live r → r.pc = .calling ops → s.playingConn = some c
  fresh : ∀ c, s.nextConn ≤ c → s.records c = .unallocated
  tracked : ∀ c ∈ s.tracked, c < s.nextConn ∧ (s.records c).Reapable
  created : ∀ c, s.listener = .created c → c < s.nextConn
  marked : ∀ c, s.listener = .marked c → c < s.nextConn ∧ (s.records c).Reapable

theorem Receiver.Safe.below {s : Receiver} (safe : s.Safe) {c : Nat} {r : ConnRecord}
    (live : s.records c = .live r) : c < s.nextConn :=
  Nat.lt_of_not_le fun later => by simp [safe.fresh c later] at live

/-- Rewriting one record with a reapable one keeps every record reapable that was. -/
theorem Receiver.reapable_update {s : Receiver} {c o : Nat} {slot : RecordSlot} (reapable : slot.Reapable)
    (before : (s.records o).Reapable) : (Function.update s.records c slot o).Reapable := by
  by_cases here : o = c
  · subst here; simpa using reapable
  · rwa [Function.update_noteq here]

/-- The invariant reads only the records, `nextConn`, the table, the listener and the slot. -/
theorem Receiver.Safe.congr {s t : Receiver} (safe : s.Safe) (records : t.records = s.records)
    (nextConn : t.nextConn = s.nextConn) (tracked : t.tracked = s.tracked)
    (listener : t.listener = s.listener) (slot : t.playingConn = s.playingConn) : t.Safe := by
  obtain ⟨holder, calling, fresh, inTable, created, marked⟩ := safe
  cases s
  cases t
  simp only at records nextConn tracked listener slot
  subst records nextConn tracked listener slot
  exact ⟨holder, calling, fresh, inTable, created, marked⟩

theorem Receiver.safe_initial : Receiver.initial.Safe where
  holder c h := by simp [Receiver.initial] at h
  calling c r _ h := by simp [Receiver.initial] at h
  fresh _ _ := rfl
  tracked c h := by simp [Receiver.initial] at h
  created c h := by simp [Receiver.initial] at h
  marked c h := by simp [Receiver.initial] at h

section Preservation

variable {s s' : Receiver} {c : Nat} {r : ConnRecord}

theorem Receiver.Moves.reapable (moves : Receiver.Moves c s s') (o : Nat)
    (before : (s.records o).Reapable) : (s'.records o).Reapable := by
  rcases moves.records o with same | ⟨r, r', old, new, running, exited, -⟩
  · rwa [same]
  · rw [old] at before
    rw [new]
    exact fun stopped => exited.mpr (before (running ▸ stopped))

/-- Work of worker `c` keeps the invariant, provided `c` is working when it takes the slot and
holds the slot whenever it is left in its `player_*` calls.
-/
theorem Receiver.Safe.moves (safe : s.Safe) (moves : Receiver.Moves c s s')
    (mine : s'.playingConn = some c → (s.records c).Working)
    (own : ∀ r ops, s'.records c = .live r → r.pc = .calling ops → s'.playingConn = some c)
    : s'.Safe where
  holder o held := by
    have before : (s.records o).Working := by
      rcases moves.slot with same | ⟨-, none⟩ | ⟨-, taken⟩
      · exact safe.holder o (same ▸ held)
      · simp [none] at held
      · rw [taken] at held
        cases held
        exact mine taken
    rcases moves.records o with same | ⟨r, r', old, new, -, exited, -⟩
    · rwa [same]
    · rw [old] at before
      rw [new]
      exact fun e => before (exited.mp e)
  calling o r' ops live' calling := by
    by_cases here : o = c
    · subst here
      exact own r' ops live' calling
    · have before : ∃ r, s.records o = .live r ∧ r.pc = .calling ops := by
        rcases moves.records o with same | ⟨r, r'', old, new, -, -, place⟩
        · exact ⟨r', same.symm.trans live', calling⟩
        · rw [new] at live'
          cases live'
          exact ⟨r, old, (place here).symm.trans calling⟩
      obtain ⟨r, old, pc⟩ := before
      exact moves.keeps_holder here (safe.calling o r ops old pc)
  fresh o later := by
    have unused := safe.fresh o (moves.nextConn ▸ later)
    rcases moves.records o with same | ⟨r, -, old, -⟩
    · exact same.trans unused
    · simp [unused] at old
  tracked o mem := by
    rw [moves.tracked] at mem
    exact ⟨moves.nextConn ▸ (safe.tracked o mem).1, moves.reapable o (safe.tracked o mem).2⟩
  created o h := moves.nextConn ▸ safe.created o (moves.listener ▸ h)
  marked o h :=
    have before := safe.marked o (moves.listener ▸ h)
    ⟨moves.nextConn ▸ before.1, moves.reapable o before.2⟩

/-- The cleanup handler marks the record exited as it lets the slot go. -/
theorem Receiver.Safe.conversationCleanup (safe : s.Safe) (live : s.records c = .live r)
    : (s.conversationCleanup c r).Safe := by
  have below := safe.below live
  rw [Receiver.conversationCleanup_eq]
  refine ⟨fun o held => ?_, fun o q ops live' calling => ?_, fun o later => ?_, fun o mem => ?_,
    safe.created, fun o h => ?_⟩
  · dsimp only at held ⊢
    split at held
    · cases held
    · rw [Function.update_noteq (by rintro rfl; simp_all)]
      exact safe.holder o held
  · have other : o ≠ c := by
      rintro rfl
      simp only [Function.update_same, RecordSlot.live.injEq] at live'
      rw [← live'] at calling
      cases calling
    dsimp only at live' ⊢
    rw [Function.update_noteq other] at live'
    simp [safe.calling o q ops live' calling, other]
  · have later : s.nextConn ≤ o := later
    dsimp only
    rw [Function.update_noteq (by omega)]
    exact safe.fresh o later
  · exact ⟨(safe.tracked o mem).1, Receiver.reapable_update (by simp [RecordSlot.Reapable])
      (safe.tracked o mem).2⟩
  · exact ⟨(safe.marked o h).1, Receiver.reapable_update (by simp [RecordSlot.Reapable])
      (safe.marked o h).2⟩

theorem Receiver.Safe.cancelAll (safe : s.Safe) (l : List Nat) : (l.foldl Receiver.cancel s).Safe :=
  safe.moves (Receiver.moves_cancelAll 0 l s)
    (fun held => safe.holder 0 (Receiver.foldl_cancel_playingConn l s ▸ held))
    fun _ ops live calling => by
      obtain ⟨r, old, place⟩ := Receiver.foldl_cancel_place l s live
      rw [Receiver.foldl_cancel_playingConn]
      exact safe.calling 0 r ops old (place.trans calling)

/-- The listener's own data are what its steps read: in `cancel_all_RTSP_threads` it holds no
record in hand.
-/
theorem Receiver.Safe.joining (safe : s.Safe) (l : List Nat)
    : ({ s with listener := .joining l } : Receiver).Safe :=
  ⟨safe.holder, safe.calling, safe.fresh, safe.tracked, (fun _ h => by cases h), fun _ h => by cases h⟩

theorem Receiver.Safe.accept (safe : s.Safe)
    : ({ s.setRecord s.nextConn .fresh with
          nextConn := s.nextConn + 1, listener := .created s.nextConn } : Receiver).Safe where
  holder o held := by
    have before := safe.holder o held
    have ne : o ≠ s.nextConn := by
      rintro rfl
      rw [safe.fresh _ le_rfl] at before
      exact before
    simpa [Function.update_noteq ne] using before
  calling o q ops live calling := by
    have ne : o ≠ s.nextConn := by
      rintro rfl
      simp only [Receiver.setRecord_records, Function.update_same, RecordSlot.live.injEq] at live
      rw [← live] at calling
      cases calling
    exact safe.calling o q ops (by simpa [Function.update_noteq ne] using live) calling
  fresh o later := by
    have later : s.nextConn + 1 ≤ o := later
    simpa [Function.update_noteq (show o ≠ s.nextConn by omega)] using safe.fresh o (by omega)
  tracked o mem := by
    have before := safe.tracked o mem
    simpa [Function.update_noteq (Nat.ne_of_lt before.1)] using ⟨by omega, before.2⟩
  created o h := by
    cases h
    exact Nat.lt_succ_self _
  marked o h := by cases h

theorem Receiver.Safe.markRunning (safe : s.Safe) (inHand : s.listener = .created c)
    (live : s.records c = .live r)
    : ({ s.setRecord c { r with running := true } with listener := .marked c } : Receiver).Safe := by
  have below := safe.created c inHand
  have others : ∀ o, o ≠ c → (s.setRecord c { r with running := true }).records o = s.records o :=
    fun o ne => by simp [Function.update_noteq ne]
  have marked : (RecordSlot.live { r with running := true }).Reapable := by simp [RecordSlot.Reapable]
  refine ⟨fun o held => ?_, fun o q ops live' calling => ?_, fun o later => ?_, fun o mem => ?_,
    (fun _ h => by cases h), ?_⟩
  · by_cases here : o = c
    · subst here
      have before := safe.holder o held
      rw [live] at before
      simpa [RecordSlot.Working] using before
    · rw [others o here]
      exact safe.holder o held
  · by_cases here : o = c
    · subst here
      simp only [Receiver.setRecord_records, Function.update_same, RecordSlot.live.injEq] at live'
      rw [← live'] at calling
      exact safe.calling o r ops live calling
    · exact safe.calling o q ops ((others o here).symm.trans live') calling
  · have later : s.nextConn ≤ o := later
    rw [others o (by omega)]
    exact safe.fresh o later
  · exact ⟨(safe.tracked o mem).1, Receiver.reapable_update marked (safe.tracked o mem).2⟩
  · intro o h
    cases h
    exact ⟨below, by simpa using marked⟩

theorem Receiver.Safe.track (safe : s.Safe) (marked : s.listener = .marked c)
    : ({ s with tracked := s.tracked ++ [c], listener := .ready } : Receiver).Safe := by
  refine ⟨safe.holder, safe.calling, safe.fresh, fun o mem => ?_, (fun _ h => by cases h),
    fun _ h => by cases h⟩
  rcases List.mem_append.mp mem with old | new
  · exact safe.tracked o old
  · rw [List.mem_singleton.mp new]
    exact safe.marked c marked

/-- `cleanup_threads` frees only records whose worker has exited, and so never the holder's. -/
theorem Receiver.Safe.cleanupThreads (safe : s.Safe) (ready : s.listener = .ready)
    : (let reaped := cleanupThreadsFrom s.runningOf 0 s.tracked []
       { reaped.2.foldl Receiver.free s with
         tracked := reaped.1, joins := s.joins ++ reaped.2 }).Safe := by
  obtain ⟨kept, reapedTracked⟩ := cleanupThreads_sub s.runningOf s.tracked
  generalize cleanupThreadsFrom s.runningOf 0 s.tracked [] = reaped at kept reapedTracked
  have spared : ∀ o, (s.records o).Working → o ∉ reaped.2 := by
    intro o working mem
    obtain ⟨mem, stopped⟩ := reapedTracked o mem
    have reapable := (safe.tracked o mem).2
    unfold Receiver.runningOf at stopped
    revert working reapable stopped
    cases s.records o <;> simp_all [RecordSlot.Working, RecordSlot.Reapable]
  simp only [Receiver.foldl_free]
  refine ⟨fun o held => ?_, fun o q ops live calling => ?_, fun o later => ?_, fun o mem => ?_,
    fun _ h => ?_, fun _ h => ?_⟩
  · have working := safe.holder o held
    simpa [spared o working] using working
  · dsimp only at live ⊢
    split at live
    · cases live
    · exact safe.calling o q ops live calling
  · have absent : o ∉ reaped.2 := fun mem => by
      have := (safe.tracked o (reapedTracked o mem).1).1
      simp only at later
      omega
    simpa [absent] using safe.fresh o later
  · have before := safe.tracked o (kept o mem)
    refine ⟨before.1, ?_⟩
    simp only
    split
    · trivial
    · exact before.2
  · simp [ready] at h
  · simp [ready] at h

theorem Receiver.Safe.joinFree (safe : s.Safe) (live : s.records c = .live r)
    (exited : r.pc = .exited) (l : List Nat)
    : ({ s.free c with listener := .joining l, joins := s.joins ++ [c] } : Receiver).Safe := by
  have others : ∀ o, o ≠ c → (s.free c).records o = s.records o :=
    fun o ne => by simp [Function.update_noteq ne]
  refine ⟨fun o held => ?_, fun o q ops live' calling => ?_, fun o later => ?_, fun o mem => ?_,
    (fun _ h => by cases h), fun _ h => by cases h⟩
  · have working := safe.holder o held
    have ne : o ≠ c := by
      rintro rfl
      rw [live] at working
      exact working exited
    rw [others o ne]
    exact working
  · have ne : o ≠ c := by
      rintro rfl
      simp at live'
    exact safe.calling o q ops ((others o ne).symm.trans live') calling
  · have later : s.nextConn ≤ o := later
    rw [others o (by have := safe.below live; omega)]
    exact safe.fresh o later
  · exact ⟨(safe.tracked o mem).1, Receiver.reapable_update trivial (safe.tracked o mem).2⟩

/-- Rewriting a worker's record in place keeps the slot with it if it is in its calls. -/
theorem Receiver.Safe.own_setRecord (safe : s.Safe) (live : s.records c = .live r) {r' : ConnRecord}
    (place : r'.pc = r.pc) : ∀ q ops, (s.setRecord c r').records c = .live q → q.pc = .calling ops
      → (s.setRecord c r').playingConn = some c := fun q ops after calling => by
  simp only [Receiver.setRecord_records, Function.update_same, RecordSlot.live.injEq] at after
  subst after
  exact safe.calling c r ops live (place ▸ calling)

/-- Every step keeps the invariant. -/
theorem Receiver.Safe.next {allow : Bool} {a : ReceiverStep} (safe : s.Safe)
    (next : Receiver.Next allow s a s')
    : s'.Safe := by
  have worker : ∀ {c r t}, s.records c = .live r → r.pc ≠ .exited → Receiver.Moves c s t →
      (∀ r' ops, t.records c = .live r' → r'.pc = .calling ops → t.playingConn = some c) → t.Safe :=
    fun live working moves own => safe.moves moves (fun _ => by rwa [live]) own
  cases next with
  | accept => exact safe.accept
  | markRunning inHand live => exact safe.markRunning inHand live
  | track marked => exact safe.track marked
  | cleanupThreads ready => exact safe.cleanupThreads ready
  | askOthersToStop | askDone | askSkip | askJoin => exact safe.congr rfl rfl rfl rfl rfl
  | @askCancel _ _ c => exact (safe.cancelAll [c]).congr rfl rfl rfl rfl rfl
  | cancelAll => exact (safe.cancelAll s.tracked).joining s.tracked
  | joinFree _ live exited => exact safe.joinFree live exited _
  | request req live serving =>
      exact worker live (by simp [serving]) (Receiver.moves_handle allow live (by simp [serving]) req)
        fun _ _ after calling => Receiver.handle_calling allow live serving req after calling
  | poll live waiting =>
      exact worker live (by simp [waiting]) (Receiver.moves_poll live (by simp [waiting]) _ _ _)
        fun _ _ after calling => by
          rcases Receiver.poll_place after with place | place <;> rw [place] at calling <;> cases calling
  | playerCall live calling =>
      have held := safe.calling _ _ _ live calling
      exact worker live (by simp [calling]) (Receiver.moves_playerCall live calling held)
        fun _ _ _ _ => (Receiver.playerCall_playingConn _ _ _ _ _).trans held
  | halt live serving =>
      exact worker live (by simp [serving]) (Receiver.moves_setRecord _ live rfl Iff.rfl fun _ => rfl)
        (safe.own_setRecord live rfl)
  | watchdog live working =>
      exact worker live working (Receiver.moves_setRecord _ live rfl Iff.rfl fun _ => rfl)
        (safe.own_setRecord live rfl)
  | finish live | cancelled live => exact safe.conversationCleanup live

theorem Receiver.Reachable.safe {allow : Bool} (reach : Receiver.Reachable allow s) : s.Safe := by
  induction reach with
  | initial => exact Receiver.safe_initial
  | step _ _ taken safe => exact safe.next (Receiver.step_next taken)

end Preservation

-----------------------------------------------------------------------------------------
-- playing_conn never dangles
-----------------------------------------------------------------------------------------

/-- In every reachable state `playing_conn` is NULL or names a record that is live, not freed,
and whose worker has not exited.
-/
theorem playingConn_never_dangles {allow : Bool} {s : Receiver} (reach : Receiver.Reachable allow s)
    : s.playingConn = none ∨ ∃ c r, s.playingConn = some c ∧ s.records c = .live r ∧ r.pc ≠ .exited := by
  cases held : s.playingConn with
  | none => exact .inl rfl
  | some c =>
      have working := reach.safe.holder c held
      cases record : s.records c with
      | live r => exact .inr ⟨c, r, rfl, record, by rwa [record] at working⟩
      | unallocated | freed => rw [record] at working; exact working.elim

theorem playingConn_never_dangles_after_announce :
    let s := (Receiver.initial.run false
      [.accept, .markRunning, .track, .request 0 (.announce true)]).getD Receiver.initial
    s.playingConn = none ∨ ∃ c r, s.playingConn = some c ∧ s.records c = .live r ∧ r.pc ≠ .exited :=
  playingConn_never_dangles
    ((@Receiver.Reachable.initial false).run [.accept, .markRunning, .track, .request 0 (.announce true)] rfl)

end Shairport.Rtsp
