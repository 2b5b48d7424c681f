import ShairportRtsp.Session.Safety

/-! The listener's bookkeeping of its workers: `conn->running`, which `cleanup_threads` reads
to decide whom to join and free, and the `pthread_join` calls themselves. `running = 1` is
stored after `pthread_create`, so a worker that ends first is never reaped, and
`ask_other_rtsp_conversation_threads_to_stop` joins workers it leaves in `conns`, which
`cleanup_threads` then joins again.
-/

namespace Shairport.Rtsp

-----------------------------------------------------------------------------------------
-- cleanup_threads over the whole table
-----------------------------------------------------------------------------------------

/-- `cleanup_threads` over every table and every assignment of `running`: the table left
holds exactly the entries whose `running` is not 0, and the records joined and freed are
exactly the other entries, each once; both as multisets.
-/
theorem cleanupThreads_partitions (running : Nat → Bool) (conns : List Nat) :
    (cleanupThreadsFrom running 0 conns []).1.Perm (conns.filter running)
      ∧ (cleanupThreadsFrom running 0 conns []).2.Perm (conns.filter fun c => !running c) := by
  simpa using cleanupThreadsFrom_perm running 0 conns [] (by simp)

-----------------------------------------------------------------------------------------
-- What a step does to one record
-----------------------------------------------------------------------------------------

section Records

variable {s s' : Receiver}

/-- `cleanup_threads` joins and frees only tracked workers whose record reads `running = 0`,
and keeps every other entry.
-/
theorem Receiver.cleanupThreads_reaps (s : Receiver) {c : Nat}
    (reaped : c ∈ (cleanupThreadsFrom s.runningOf 0 s.tracked []).2)
    : c ∈ s.tracked ∧ s.runningOf c = false :=
  (cleanupThreads_sub s.runningOf s.tracked).2 c reaped

/-- How one step can change record `c`. -/
inductive Receiver.RecordStep (s s' : Receiver) (c : Nat) : Prop
  /-- The record is unchanged. -/
  | same (unchanged : s'.records c = s.records c)
  /-- `cleanup_threads` frees a live record that reads `running = 0`. -/
  | reaped (r : ConnRecord) (live : s.records c = .live r) (stopped : r.running = false)
      (freed : s'.records c = .freed)
  /-- `cancel_all_RTSP_threads` frees a record whose worker has ended. -/
  | joined (r : ConnRecord) (rest : List Nat) (live : s.records c = .live r)
      (exited : r.pc = .exited) (joining : s.listener = .joining (c :: rest))
      (freed : s'.records c = .freed)
  /-- A worker's work or a cancellation keeps the record live, with its `running` and
  whether its worker has exited. -/
  | kept (r r' : ConnRecord) (live : s.records c = .live r) (live' : s'.records c = .live r')
      (running : r'.running = r.running) (exited : r'.pc = .exited ↔ r.pc = .exited)
  /-- The worker's own cleanup. -/
  | cleanup (r : ConnRecord) (live : s.records c = .live r) (working : r.pc ≠ .exited)
      (after : s'.records c = .live { r with playerThread := false, running := false, pc := .exited })
  /-- The listener's `conn->running = 1`. -/
  | marked (r : ConnRecord) (created : s.listener = .created c) (live : s.records c = .live r)
      (after : s'.records c = .live { r with running := true })
  /-- `accept` allocates the record. -/
  | accepted (fresh : c = s.nextConn) (after : s'.records c = .live .fresh)

/-- Only the record itself matters to how it changed. -/
theorem Receiver.RecordStep.of_records {t t' : Receiver} {c : Nat} (step : Receiver.RecordStep s t c)
    (same : t'.records c = t.records c) : Receiver.RecordStep s t' c := by
  cases step with
  | same unchanged => exact .same (same.trans unchanged)
  | reaped r live stopped freed => exact .reaped r live stopped (same.trans freed)
  | joined r rest live exited joining freed => exact .joined r rest live exited joining (same.trans freed)
  | kept r r' live live' running exited => exact .kept r r' live (same.trans live') running exited
  | cleanup r live working after => exact .cleanup r live working (same.trans after)
  | marked r created live after => exact .marked r created live (same.trans after)
  | accepted fresh after => exact .accepted fresh (same.trans after)

theorem Receiver.Moves.recordStep {o : Nat} {t : Receiver} (moves : Receiver.Moves o s t) (c : Nat)
    : Receiver.RecordStep s t c :=
  (moves.records c).elim .same fun ⟨r, r', live, live', running, exited, _⟩ =>
    .kept r r' live live' running exited

theorem Receiver.Next.recordStep {allow : Bool} {a : ReceiverStep} (next : Receiver.Next allow s a s')
    (safe : s.Safe) (c : Nat) : Receiver.RecordStep s s' c := by
  cases next with
  | accept =>
      by_cases here : c = s.nextConn
      · exact .accepted here (by simp [here])
      · exact .same (by simp [Function.update_noteq here])
  | @markRunning o r inHand live =>
      by_cases here : c = o
      · subst here
        exact .marked r inHand live (by simp)
      · exact .same (by simp [Function.update_noteq here])
  | cleanupThreads =>
      simp only [Receiver.foldl_free]
      by_cases reaped : c ∈ (cleanupThreadsFrom s.runningOf 0 s.tracked []).2
      · have stopped := (Receiver.cleanupThreads_reaps s reaped).2
        unfold Receiver.runningOf at stopped
        split at stopped
        · exact .reaped _ ‹_› stopped (if_pos reaped)
        · cases stopped
      · exact .same (if_neg reaped)
  | @askCancel _ _ o => exact ((Receiver.moves_cancelAll 0 [o] s).recordStep c).of_records rfl
  | cancelAll => exact ((Receiver.moves_cancelAll 0 s.tracked s).recordStep c).of_records rfl
  | @joinFree o rest r joining live exited =>
      by_cases here : c = o
      · subst here
        exact .joined r rest live exited joining (by simp)
      · exact .same (by simp [Function.update_noteq here])
  | request req live serving => exact (Receiver.moves_handle allow live (by simp [serving]) req).recordStep c
  | poll live waiting => exact (Receiver.moves_poll live (by simp [waiting]) _ _ _).recordStep c
  | playerCall live calling =>
      exact (Receiver.moves_playerCall live calling (safe.calling _ _ _ live calling)).recordStep c
  | halt live | watchdog live =>
      exact (Receiver.moves_setRecord 0 live (by rfl) (by rfl) fun _ => by rfl).recordStep c
  | @finish o r live serving | @cancelled o r live serving =>
      by_cases here : c = o
      · subst here
        exact .cleanup r live (by simp [serving]) (by simp [Receiver.conversationCleanup_eq])
      · exact .same (by simp [Receiver.conversationCleanup_eq, Function.update_noteq here])
  | track | askOthersToStop | askDone | askSkip | askJoin => exact .same rfl

end Records

-----------------------------------------------------------------------------------------
-- Joins
-----------------------------------------------------------------------------------------

/-- `ask_other_rtsp_conversation_threads_to_stop` cancels and joins a running worker but
leaves it in `conns`; `cancel_all_RTSP_threads` then joins it a second time (and frees it), as
would the next `cleanup_threads`, which finds it not running.
-/
theorem ask_other_then_cancel_all_joins_twice :
    (Receiver.initial.run false
      [.accept, .markRunning, .track, .askOthersToStop none, .askNext, .cancelled 0, .askJoin, .askNext,
       .cancelAll, .joinFree]).map (fun s => (s.joins, s.records 0, s.tracked))
    = some ([0, 0], .freed, [0]) := by
  decide

-----------------------------------------------------------------------------------------
-- conn->running
-----------------------------------------------------------------------------------------

/-- A record whose worker has exited but which reads `running = 1` stays so until it is
freed, and `cleanup_threads` never frees it: only `cancel_all_RTSP_threads` does.
-/
theorem Receiver.Next.stranded_stays {allow : Bool} {a : ReceiverStep} {s s' : Receiver}
    (next : Receiver.Next allow s a s') (safe : s.Safe) {c : Nat} {r : ConnRecord}
    (live : s.records c = .live r) (exited : r.pc = .exited) (marked : r.running = true)
    : (s'.records c = .freed ∧ ∃ rest, s.listener = .joining (c :: rest))
      ∨ ∃ r', s'.records c = .live r' ∧ r'.pc = .exited ∧ r'.running = true := by
  cases next.recordStep safe c with
  | same unchanged => exact .inr ⟨r, unchanged.trans live, exited, marked⟩
  | reaped q live' stopped =>
      rw [live] at live'; cases live'
      rw [marked] at stopped; cases stopped
  | joined _ rest _ _ joining freed => exact .inl ⟨freed, rest, joining⟩
  | kept q r' live' after running stays =>
      rw [live] at live'; cases live'
      exact .inr ⟨r', after, stays.mpr exited, running.trans marked⟩
  | cleanup q live' working =>
      rw [live] at live'; cases live'
      exact absurd exited working
  | marked q _ live' after =>
      rw [live] at live'; cases live'
      exact .inr ⟨_, after, exited, rfl⟩
  | accepted fresh => rw [fresh, safe.fresh _ le_rfl] at live; cases live

/-- A worker whose peer hangs up at once can run its cleanup before the listener stores
`running = 1`: its record then reads `running = 1` for good, so that `cleanup_threads` never
joins or frees it.
-/
theorem worker_exit_before_running_set :
    (Receiver.initial.run false [.accept, .halt 0, .finish 0, .markRunning, .track]).map
      (fun s => (s.records 0, s.tracked, s.joins))
    = some (.live ⟨true, true, false, false, .exited⟩, [0], []) := by
  decide

/-- Short of `cancel_all_RTSP_threads`, the listener stays in its accept loop and keeps in
`conns` every entry that reads `running = 1`; by cases on the step.
-/
theorem Receiver.Next.keeps_running_entry {allow : Bool} {a : ReceiverStep} {s s' : Receiver}
    (next : Receiver.Next allow s a s') (safe : s.Safe) (other : a ≠ .cancelAll)
    (accepting : ∀ l, s.listener ≠ .joining l) {c : Nat} (mem : c ∈ s.tracked)
    (running : s.runningOf c = true) : (∀ l, s'.listener ≠ .joining l) ∧ c ∈ s'.tracked := by
  have frame : ∀ {t : Receiver}, t.listener = s.listener → t.tracked = s.tracked →
      (∀ l, t.listener ≠ .joining l) ∧ c ∈ t.tracked := fun listener tracked => by
    rw [listener, tracked]; exact ⟨accepting, mem⟩
  cases next with
  | accept | markRunning => exact ⟨fun _ => nofun, mem⟩
  | track => exact ⟨fun _ => nofun, List.mem_append_left _ mem⟩
  | cleanupThreads =>
      simp only [Receiver.foldl_free]
      exact ⟨accepting, (cleanupThreadsFrom_perm _ 0 _ [] (by simp)).1.symm.subset
        (List.mem_filter.mpr ⟨mem, running⟩)⟩
  | cancelAll => exact absurd rfl other
  | joinFree joining => exact absurd joining (accepting _)
  | @askCancel _ _ o =>
      have moves := Receiver.moves_cancel s 0 o
      exact frame moves.listener moves.tracked
  | request req live serving =>
      have moves := Receiver.moves_handle allow live (by simp [serving]) req
      exact frame moves.listener moves.tracked
  | @poll _ _ accepted interrupting checksLeft live waiting =>
      have moves := Receiver.moves_poll live (by simp [waiting]) accepted interrupting checksLeft
      exact frame moves.listener moves.tracked
  | playerCall live calling =>
      have moves := Receiver.moves_playerCall live calling (safe.calling _ _ _ live calling)
      exact frame moves.listener moves.tracked
  | finish | cancelled => rw [Receiver.conversationCleanup_eq]; exact frame rfl rfl
  | askOthersToStop | askDone | askSkip | askJoin | halt | watchdog => exact frame rfl rfl

/-- A record stranded by that race stays so for good: along every run from a reachable state
that does not reach `cancel_all_RTSP_threads`, it stays live, exited and reading
`running = 1`, and `conns` keeps it, so `cleanup_threads` never joins or frees it. By
induction over the run, each step by `Receiver.Next.stranded_stays` and
`Receiver.Next.keeps_running_entry`.
-/
theorem Receiver.stranded_never_reaped {allow : Bool} {s s' : Receiver} {steps : List ReceiverStep}
    (reach : Receiver.Reachable allow s) (ran : s.run allow steps = some s')
    (noShutdown : .cancelAll ∉ steps) (accepting : ∀ l, s.listener ≠ .joining l) {c : Nat}
    {r : ConnRecord} (live : s.records c = .live r) (exited : r.pc = .exited)
    (marked : r.running = true) (mem : c ∈ s.tracked)
    : (∃ r', s'.records c = .live r' ∧ r'.pc = .exited ∧ r'.running = true) ∧ c ∈ s'.tracked := by
  induction steps generalizing s r with
  | nil => cases ran; exact ⟨⟨r, live, exited, marked⟩, mem⟩
  | cons a rest ih =>
      obtain ⟨t, taken, ran⟩ := Option.bind_eq_some.mp ran
      have next := Receiver.step_next taken
      obtain ⟨accepting', mem'⟩ := next.keeps_running_entry reach.safe
        (fun e => noShutdown (e ▸ List.mem_cons_self _ _)) accepting mem
        (by simp [Receiver.runningOf, live, marked])
      rcases next.stranded_stays reach.safe live exited marked with ⟨-, _, joining⟩ | ⟨r', live', exited', marked'⟩
      · exact absurd joining (accepting _)
      · exact ih (reach.step a taken) ran (fun m => noShutdown (List.mem_cons_of_mem _ m)) accepting'
          live' exited' marked' mem'

theorem Receiver.stranded_never_reaped_after_race :
    ∃ s', ((Receiver.initial.run false [.accept, .halt 0, .finish 0, .markRunning, .track]).getD
        Receiver.initial).run false [.accept, .markRunning, .track, .cleanupThreads] = some s'
      ∧ (∃ r', s'.records 0 = .live r' ∧ r'.pc = .exited ∧ r'.running = true) ∧ 0 ∈ s'.tracked :=
  ⟨_, Option.eq_some_of_isSome (by decide), Receiver.stranded_never_reaped
    ((@Receiver.Reachable.initial false).run [.accept, .halt 0, .finish 0, .markRunning, .track] rfl)
    (Option.eq_some_of_isSome (by decide)) (by decide) (fun _ => nofun) rfl rfl rfl (by decide)⟩

end Shairport.Rtsp
