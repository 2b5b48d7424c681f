import ShairportRtsp.Session.Safety

/-! Who drives the player. RECORD, FLUSH and TEARDOWN call `player_*` only after
`have_player`, in steps of their own that other threads' steps may come between; the slot
cannot change hands between the check and the calls, since only its holder lets it go.
`handle_set_parameter_parameter` calls `player_volume` with no check at all. A running player
belongs to the slot's holder as long as no ANNOUNCE or SETUP fails: either lets the slot go
at its error exit while the player keeps running.
-/

namespace Shairport.Rtsp

-----------------------------------------------------------------------------------------
-- The checked calls
-----------------------------------------------------------------------------------------

/-- Every `player_*` call a handler made, `player_volume` apart, was made for the slot's
holder.
-/
def Receiver.CallsChecked (s : Receiver) : Prop :=
  ∀ x ∈ s.calls, x.inHandler = true → x.op ≠ .volume → x.owner = some x.conn

section Calls

variable {s s' : Receiver}

theorem Receiver.CallsChecked.same (checked : s.CallsChecked) (calls : s'.calls = s.calls)
    : s'.CallsChecked :=
  fun x mem => checked x (calls ▸ mem)

theorem Receiver.CallsChecked.moves {c : Nat} (checked : s.CallsChecked) (moves : Receiver.Moves c s s')
    : s'.CallsChecked := by
  obtain ⟨new, calls, handled⟩ := moves.calls
  intro x mem
  rw [calls] at mem
  rcases List.mem_append.mp mem with old | new
  · exact checked x old
  · obtain ⟨conn, -, owned⟩ := handled x new
    exact fun _ other => conn ▸ owned other

theorem Receiver.CallsChecked.conversationCleanup (checked : s.CallsChecked) (c : Nat)
    (r : ConnRecord) : (s.conversationCleanup c r).CallsChecked := by
  intro x mem
  simp only [Receiver.conversationCleanup_eq, List.mem_append] at mem
  rcases mem with old | cleanup
  · exact checked x old
  · split at cleanup
    · simp only [List.mem_singleton] at cleanup
      subst cleanup
      intro byHandler
      cases byHandler
    · cases cleanup

/-- Every step keeps the handlers' calls checked: a worker in its `player_*` calls holds the
slot.
-/
theorem Receiver.CallsChecked.next {allow : Bool} {a : ReceiverStep} (checked : s.CallsChecked)
    (safe : s.Safe) (next : Receiver.Next allow s a s') : s'.CallsChecked := by
  cases next with
  | cleanupThreads => exact checked.same (by simp [Receiver.foldl_free])
  | @askCancel _ _ c => exact (checked.moves (Receiver.moves_cancel s 0 c)).same rfl
  | cancelAll => exact (checked.moves (Receiver.moves_cancelAll 0 s.tracked s)).same rfl
  | request req live serving =>
      exact checked.moves (Receiver.moves_handle allow live (by simp [serving]) req)
  | poll live waiting => exact checked.moves (Receiver.moves_poll live (by simp [waiting]) _ _ _)
  | playerCall live calling =>
      exact checked.moves (Receiver.moves_playerCall live calling (safe.calling _ _ _ live calling))
  | finish | cancelled => exact checked.conversationCleanup _ _
  | accept | markRunning | track | joinFree | halt | watchdog | askOthersToStop | askDone | askSkip
    | askJoin => exact checked.same rfl

end Calls

/-- In every reachable state, every `player_play`, `player_flush` and `player_stop` a
handler made was made while its connection held the slot.
-/
theorem Receiver.Reachable.callsChecked {allow : Bool} {s : Receiver}
    (reach : Receiver.Reachable allow s) : s.CallsChecked := by
  induction reach with
  | initial => intro x mem; cases mem
  | step _ reach taken checked => exact checked.next reach.safe (Receiver.step_next taken)

theorem Receiver.Reachable.callsChecked_after_record :
    ((Receiver.initial.run false [.accept, .markRunning, .track, .request 0 (.announce true),
      .request 0 (.setup true), .request 0 (.record none), .playerCall 0]).getD
        Receiver.initial).CallsChecked :=
  Receiver.Reachable.callsChecked ((@Receiver.Reachable.initial false).run
    [.accept, .markRunning, .track, .request 0 (.announce true), .request 0 (.setup true),
      .request 0 (.record none), .playerCall 0] rfl)

/-- `player_volume` is the exception: a connection that never sent ANNOUNCE sets the volume of
the player connection 0 holds.
-/
theorem setParameter_volume_unchecked :
    (Receiver.initial.run false
      [.accept, .markRunning, .track, .request 0 (.announce true),
       .accept, .markRunning, .track,
       .request 1 (.setParameter (some (ascii "text/parameters")) (ascii "volume: -20.000000\r\n"))]).map
      (fun s => (s.playingConn, s.calls))
    = some (some 0, [⟨1, .volume, some 0, true⟩]) := by
  decide

-----------------------------------------------------------------------------------------
-- Running players
-----------------------------------------------------------------------------------------

/-- Whether the player of connection `c` runs: its record is live with a player thread. -/
def Receiver.playerRunning (s : Receiver) (c : Nat) : Bool :=
  match s.records c with
  | .live r => r.playerThread
  | _ => false

/-- Every connection whose player runs holds the slot. -/
def Receiver.PlayersOwned (s : Receiver) : Prop :=
  ∀ c, s.playerRunning c = true → s.playingConn = some c

section Players

variable {s t : Receiver} {c : Nat} {r : ConnRecord}

theorem Receiver.playerRunning_setRecord (s : Receiver) (c : Nat) (r : ConnRecord) (o : Nat)
    : (s.setRecord c r).playerRunning o = if o = c then r.playerThread else s.playerRunning o := by
  by_cases here : o = c
  · simp [Receiver.playerRunning, here]
  · simp [Receiver.playerRunning, here, Function.update_noteq]

theorem Receiver.playerRunning_cancel (s : Receiver) (o : Nat)
    : (s.cancel o).playerRunning = s.playerRunning := by
  funext o'
  unfold Receiver.cancel
  split
  · split
    · rfl
    · rw [Receiver.playerRunning_setRecord]
      split
      · subst o'; simp [Receiver.playerRunning, *]
      · rfl
  · rfl

theorem Receiver.playerRunning_foldl_cancel (l : List Nat) (s : Receiver)
    : (l.foldl Receiver.cancel s).playerRunning = s.playerRunning := by
  induction l generalizing s with
  | nil => rfl
  | cons o rest ih => rw [List.foldl_cons, ih, Receiver.playerRunning_cancel]

@[simp]
theorem Receiver.playerRunning_call (s : Receiver) (c : Nat) (op : PlayerOp) (inHandler : Bool)
    : (s.call c op inHandler).playerRunning = s.playerRunning := rfl

/-- A record rewritten with the player it had, or with none, starts no player. -/
theorem Receiver.players_setRecord (live : s.records c = .live r) {r' : ConnRecord} (o : Nat)
    (running : (s.setRecord c r').playerRunning o = true)
    (keeps : r'.playerThread = true → r.playerThread = true) : s.playerRunning o = true := by
  rw [Receiver.playerRunning_setRecord] at running
  split at running
  · subst o
    simpa [Receiver.playerRunning, live] using keeps running
  · exact running

theorem Receiver.playerRunning_announceBody (s : Receiver) (c : Nat) (accepted : Bool)
    : (s.announceBody c accepted).playerRunning = s.playerRunning := by
  unfold Receiver.announceBody
  split <;> rfl

theorem Receiver.PlayersOwned.frame (owned : s.PlayersOwned) (slot : t.playingConn = s.playingConn)
    (players : ∀ o, t.playerRunning o = true → s.playerRunning o = true) : t.PlayersOwned :=
  fun o running => slot ▸ owned o (players o running)

/-- With the slot free no player runs. -/
theorem Receiver.PlayersOwned.idle (owned : s.PlayersOwned) (free : s.playingConn = none) (o : Nat)
    : s.playerRunning o = false := by
  cases running : s.playerRunning o
  · rfl
  · simpa [free] using owned o running

/-- The holder's own player may start or stop while it keeps the slot. -/
theorem Receiver.PlayersOwned.holder (owned : s.PlayersOwned) (slot : t.playingConn = some c)
    (held : s.playingConn = some c)
    (others : ∀ o, o ≠ c → t.playerRunning o = true → s.playerRunning o = true) : t.PlayersOwned := by
  intro o running
  by_cases here : o = c
  · rw [here, slot]
  · rw [slot, ← held]
    exact owned o (others o here running)

/-- An ANNOUNCE whose SDP is accepted takes the slot only when it is free, and then no player
runs; waiting for the slot changes no player.
-/
theorem Receiver.PlayersOwned.announce (allow : Bool) (owned : s.PlayersOwned)
    (live : s.records c = .live r) : (s.announce allow c r true).PlayersOwned := by
  unfold Receiver.announce
  split
  · rename_i free
    intro o running
    have running : s.playerRunning o = true := running
    simp [owned.idle free o] at running
  · rename_i o _
    split
    · exact owned
    · rename_i other
      split
      · rename_i holder holding
        split
        · exact owned.frame rfl fun o' running => Receiver.players_setRecord live o' running id
        · split
          · have stillLive : (s.setRecord o { holder with stop := true, cancelPending := true }).records c
                = .live r := by
              simp [Function.update_noteq (Ne.symm other), live]
            exact owned.frame rfl fun o' running => Receiver.players_setRecord holding o'
              (Receiver.players_setRecord stillLive o' running id) id
          · exact owned
      · exact owned

/-- `have_player` starts no player. -/
theorem Receiver.PlayersOwned.havePlayer (owned : s.PlayersOwned) (live : s.records c = .live r)
    (ops : List PlayerOp) : (s.havePlayer c r ops).PlayersOwned := by
  unfold Receiver.havePlayer
  split
  · exact owned.frame rfl fun o running => Receiver.players_setRecord live o running id
  · exact owned

/-- A `player_*` call made holding the slot changes only the holder's player. -/
theorem Receiver.PlayersOwned.playerCall (owned : s.PlayersOwned) (held : s.playingConn = some c)
    (op : PlayerOp) (rest : List PlayerOp) : (s.playerCall c r op rest).PlayersOwned :=
  owned.holder ((Receiver.playerCall_playingConn s c r op rest).trans held) held
    fun o other running => by
      unfold Receiver.playerCall at running
      split at running <;> (try split at running) <;>
        simpa [Receiver.playerRunning_setRecord, other] using running

theorem Receiver.PlayersOwned.setParameter (owned : s.PlayersOwned) (contentType : Option Bytes)
    (content : Bytes) : (s.setParameter c contentType content).PlayersOwned := by
  unfold Receiver.setParameter
  split
  · split
    · obtain ⟨calls, eq⟩ := s.setParameterParameter_calls_only c content
      rw [eq]
      exact owned.frame rfl fun _ => id
    · exact owned
  · exact owned

/-- Every handler keeps the players their holder's, but an ANNOUNCE or a SETUP that fails. -/
theorem Receiver.PlayersOwned.handle (allow : Bool) (owned : s.PlayersOwned)
    (live : s.records c = .live r) (req : Request) (sound : req ≠ .announce false ∧ req ≠ .setup false)
    : (s.handle allow c r req).PlayersOwned := by
  cases req with
  | announce accepted =>
      obtain rfl : accepted = true := by simpa using sound.1
      exact owned.announce allow live
  | setup accepted =>
      obtain rfl : accepted = true := by simpa using sound.2
      simpa [Receiver.handle, Receiver.setup] using owned
  | record rtpInfo => exact owned.havePlayer live _
  | flush => exact owned.havePlayer live _
  | teardown => exact owned.havePlayer live _
  | setParameter contentType content => exact owned.setParameter contentType content
  | options | getParameter | unhandled => exact owned

/-- A pass of the waiting loop takes only a free slot, and with the slot free no player runs. -/
theorem Receiver.PlayersOwned.poll (owned : s.PlayersOwned) (live : s.records c = .live r)
    (accepted interrupting : Bool) (checksLeft : Nat)
    : (s.poll c r accepted interrupting checksLeft).PlayersOwned := by
  unfold Receiver.poll
  split
  · rename_i free
    intro o running
    rw [Receiver.playerRunning_announceBody] at running
    have running : s.playerRunning o = true := Receiver.players_setRecord live o running id
    simp [owned.idle free o] at running
  · split <;> exact owned.frame rfl fun o running => Receiver.players_setRecord live o running id

/-- The cleanup handler stops the player and lets the slot go only if it is its own. -/
theorem Receiver.PlayersOwned.conversationCleanup (owned : s.PlayersOwned) (c : Nat) (r : ConnRecord)
    : (s.conversationCleanup c r).PlayersOwned := by
  intro o running
  simp only [Receiver.conversationCleanup_eq, Receiver.playerRunning] at running ⊢
  by_cases here : o = c
  · subst here
    simp at running
  · have held := owned o (by simpa [Receiver.playerRunning, Function.update_noteq here] using running)
    simp [held, here]

/-- Every step keeps every running player its holder's, a failing ANNOUNCE or SETUP apart. -/
theorem Receiver.PlayersOwned.next {allow : Bool} {a : ReceiverStep} {s' : Receiver}
    (owned : s.PlayersOwned) (safe : s.Safe) (next : Receiver.Next allow s a s')
    (sound : ∀ c, a ≠ .request c (.announce false) ∧ a ≠ .request c (.setup false)) : s'.PlayersOwned := by
  cases next with
  | accept =>
      refine owned.frame rfl fun o running => ?_
      have running : (s.setRecord s.nextConn .fresh).playerRunning o = true := running
      rw [Receiver.playerRunning_setRecord] at running
      split at running
      · cases running
      · exact running
  | markRunning _ live =>
      exact owned.frame rfl fun o running => Receiver.players_setRecord live o running id
  | track | askOthersToStop | askDone | askSkip | askJoin => exact owned.frame rfl fun _ => id
  | cleanupThreads =>
      refine owned.frame (by simp [Receiver.foldl_free]) fun o running => ?_
      simp only [Receiver.foldl_free] at running
      by_cases mem : o ∈ (cleanupThreadsFrom s.runningOf 0 s.tracked []).2
      · simp [Receiver.playerRunning, mem] at running
      · simpa [Receiver.playerRunning, mem] using running
  | @askCancel _ _ c =>
      exact owned.frame (Receiver.foldl_cancel_playingConn [c] s)
        fun o running => Receiver.playerRunning_cancel s c ▸ running
  | cancelAll =>
      exact owned.frame (Receiver.foldl_cancel_playingConn _ s)
        fun o running => Receiver.playerRunning_foldl_cancel s.tracked s ▸ running
  | @joinFree c _ _ =>
      refine owned.frame rfl fun o running => ?_
      by_cases here : o = c
      · subst here
        simp [Receiver.playerRunning] at running
      · simpa [Receiver.playerRunning, Function.update_noteq here] using running
  | @request c r req live =>
      exact owned.handle allow live req
        ⟨fun failed => (sound c).1 (failed ▸ rfl), fun failed => (sound c).2 (failed ▸ rfl)⟩
  | poll live => exact owned.poll live _ _ _
  | playerCall live calling => exact owned.playerCall (safe.calling _ _ _ live calling) _ _
  | halt live | watchdog live => exact owned.frame rfl fun o running => Receiver.players_setRecord live o running id
  | finish | cancelled => exact owned.conversationCleanup _ _

end Players

/-- Along a run in which no ANNOUNCE or SETUP fails, every running player stays its holder's. -/
theorem Receiver.PlayersOwned.run {allow : Bool} {s s' : Receiver} (owned : s.PlayersOwned)
    (safe : s.Safe) {steps : List ReceiverStep} (ran : s.run allow steps = some s')
    (sound : ∀ c, .request c (.announce false) ∉ steps ∧ .request c (.setup false) ∉ steps)
    : s'.PlayersOwned := by
  induction steps generalizing s with
  | nil => cases ran; exact owned
  | cons a rest ih =>
      obtain ⟨t, taken, ran⟩ := Option.bind_eq_some.mp ran
      have next := Receiver.step_next taken
      have now : ∀ c, a ≠ .request c (.announce false) ∧ a ≠ .request c (.setup false) := fun c =>
        ⟨fun e => (sound c).1 (e ▸ List.mem_cons_self _ _), fun e => (sound c).2 (e ▸ List.mem_cons_self _ _)⟩
      exact ih (owned.next safe next now) (safe.next next) ran fun c =>
        ⟨fun mem => (sound c).1 (List.mem_cons_of_mem _ mem), fun mem => (sound c).2 (List.mem_cons_of_mem _ mem)⟩

/-- A duplicate ANNOUNCE that fails lets the slot go while the player of connection 0 runs;
connection 1 then takes the slot and starts a second player.
-/
theorem failed_announce_leaves_two_players :
    (Receiver.initial.run false
      [.accept, .markRunning, .track, .request 0 (.announce true), .request 0 (.setup true),
       .request 0 (.record none), .playerCall 0, .request 0 (.announce false),
       .accept, .markRunning, .track, .request 1 (.announce true), .request 1 (.setup true),
       .request 1 (.record none), .playerCall 1]).map
      (fun s => (s.playerRunning 0, s.playerRunning 1, s.playingConn, s.calls))
    = some (true, true, some 1, [⟨0, .play, some 0, true⟩, ⟨1, .play, some 1, true⟩]) := by
  decide

-----------------------------------------------------------------------------------------
-- A refused ANNOUNCE
-----------------------------------------------------------------------------------------

/-- The owner's duplicate ANNOUNCE with an SDP body it cannot use drops the session the
owner already had.
-/
theorem failed_announce_drops_session :
    (Receiver.initial.run false [.accept, .markRunning, .track, .request 0 (.announce true)]).map
        (·.playingConn) = some (some 0)
    ∧ (Receiver.initial.run false
        [.accept, .markRunning, .track, .request 0 (.announce true), .request 0 (.announce false)]).map
        (·.playingConn) = some none := by
  decide

end Shairport.Rtsp
