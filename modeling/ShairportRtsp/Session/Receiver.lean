import ShairportRtsp.Codec.Message

/-! The receiver as a whole: the listener that accepts connections and reaps their records,
the conversation workers with their method handlers and cleanup, and the session slot
`playing_conn` they contend for. A step is one thread's atomic piece of work: a critical
section of `playing_conn_lock`, a request up to its handler's `player_*` calls, each of those
calls, one poll of a waiting ANNOUNCE, or a run of the cleanup handler.
-/

namespace Shairport.Rtsp

inductive PlayerOp
  | play
  | flush
  | stop
  | volume
  deriving DecidableEq, Repr

/-- Where a conversation worker is. -/
inductive WorkerPc
  /-- In its loop, reading or about to read the next request. -/
  | serving
  /-- In `handle_announce`, waiting for the session slot: the verdict of the SDP body,
  whether it asked the holder to stop, and the checks of `playing_conn` it has left. -/
  | announcing (accepted interrupting : Bool) (checksLeft : Nat)
  /-- In a handler past `have_player`, with the `player_*` calls it has still to make. -/
  | calling (ops : List PlayerOp)
  /-- Past its cleanup and `pthread_exit`. -/
  | exited
  deriving DecidableEq, Repr

/-- Where a worker goes after a `player_*` call: on to the calls left, or back to its loop. -/
def WorkerPc.afterCall : List PlayerOp → WorkerPc
  | [] => .serving
  | ops => .calling ops

/-- The fields of `rtsp_conn_info` the session logic reads and writes, and the worker's
place; `cancelPending` is a `pthread_cancel` not yet acted on. `playerThread` is
`conn->player_thread`, which `player_play` sets and `player_stop` clears; the player is not
under src/, so that much is modelled from the spec: the player of a connection runs from its
`player_play` to its `player_stop`.
-/
structure ConnRecord where
  stop : Bool
  running : Bool
  playerThread : Bool
  cancelPending : Bool
  pc : WorkerPc
  deriving DecidableEq, Repr

/-- A record as `malloc` and `memset (conn, 0, ..)` leave it, its worker just created. -/
def ConnRecord.fresh : ConnRecord := ⟨false, false, false, false, .serving⟩

inductive RecordSlot
  | unallocated
  | live (r : ConnRecord)
  | freed
  deriving DecidableEq, Repr

/-- Where the listener thread is. -/
inductive ListenerPc
  /-- In the accept loop, between connections. -/
  | ready
  /-- After `pthread_create` for the record. -/
  | created (c : Nat)
  /-- After `conn->running = 1`. -/
  | marked (c : Nat)
  /-- In `cancel_all_RTSP_threads`, with the records still to join and free. -/
  | joining (remaining : List Nat)
  deriving DecidableEq, Repr

/-- A `player_*` call: the connection it is made for, `playing_conn` at that moment, and
whether a method handler made it (rather than the cleanup handler).
-/
structure PlayerCall where
  conn : Nat
  op : PlayerOp
  owner : Option Nat
  inHandler : Bool
  deriving DecidableEq, Repr

/-- Where a thread in `ask_other_rtsp_conversation_threads_to_stop (except)` is: not in it,
at index `i` of its loop over `conns`, or in `pthread_join` on worker `c` found at index `i`.
-/
inductive AskerPc
  | idle
  | scanning (except : Option Nat) (i : Nat)
  | joining (except : Option Nat) (i c : Nat)
  deriving DecidableEq, Repr

/-- The records, the next record's number, the tracking table `conns[0 .. nconns)`, the
listener, `playing_conn`, the `player_*` calls made so far, the `pthread_join` calls made so
far (on the workers of the records named), and the thread that asks the workers to stop.
-/
structure Receiver where
  records : Nat → RecordSlot
  nextConn : Nat
  tracked : List Nat
  listener : ListenerPc
  playingConn : Option Nat
  calls : List PlayerCall
  joins : List Nat
  asker : AskerPc

/-- `rtsp_listen_loop` at its start: `playing_conn = NULL`, no connection. -/
def Receiver.initial : Receiver :=
  ⟨fun _ => .unallocated, 0, [], .ready, none, [], [], .idle⟩

/-- What the handlers read of a request that passed the authentication gate; the verdicts of
an ANNOUNCE's SDP body and of a SETUP's `Transport` header come with it.
-/
inductive Request
  | options
  | announce (accepted : Bool)
  | setup (accepted : Bool)
  | record (rtpInfo : Option Bytes)
  | flush (rtpInfo : Option Bytes)
  | teardown
  | getParameter
  | setParameter (contentType : Option Bytes) (content : Bytes)
  | unhandled
  deriving DecidableEq, Repr

-----------------------------------------------------------------------------------------
-- Operations on the state
-----------------------------------------------------------------------------------------

@[simps]
def Receiver.setRecord (s : Receiver) (c : Nat) (r : ConnRecord) : Receiver :=
  { s with records := Function.update s.records c (.live r) }

/-- Log a `player_*` call for connection `c`. -/
@[simps]
def Receiver.call (s : Receiver) (c : Nat) (op : PlayerOp) (inHandler : Bool) : Receiver :=
  { s with calls := s.calls ++ [⟨c, op, s.playingConn, inHandler⟩] }

/-- `if (playing_conn == conn) playing_conn = NULL;` under the lock. -/
@[simps]
def Receiver.releaseSlot (s : Receiver) (c : Nat) : Receiver :=
  { s with playingConn := if s.playingConn = some c then none else s.playingConn }

/-- `pthread_cancel (conn->thread)`: a live worker not yet exited gets a pending cancellation. -/
def Receiver.cancel (s : Receiver) (c : Nat) : Receiver :=
  match s.records c with
  | .live r => if r.pc = .exited then s else s.setRecord c { r with cancelPending := true }
  | _ => s

/-- `conns[i]->running` as the listener reads it. -/
def Receiver.runningOf (s : Receiver) (c : Nat) : Bool :=
  match s.records c with
  | .live r => r.running
  | _ => true

/-- The worker of record `c` has ended, so that `pthread_join` on it returns. -/
def Receiver.ended (s : Receiver) (c : Nat) : Bool :=
  match s.records c with
  | .live r => r.pc = .exited
  | _ => true

-----------------------------------------------------------------------------------------
-- The method handlers
-----------------------------------------------------------------------------------------

/-- The lines `handle_set_parameter_parameter` visits: `nextline` cuts the content at each
terminator, and a last line without one runs to the end. Each pass consumes a byte at least,
so the length of the content bounds the passes.
-/
def parameterLinesFrom : Nat → Bytes → List Bytes
  | 0, _ => []
  | fuel + 1, buf =>
      if buf = [] then []
      else
        match nextline buf with
        | none => [buf]
        | some (marked, next) => marked :: parameterLinesFrom fuel (marked.drop next)

def parameterLines (buf : Bytes) : List Bytes := parameterLinesFrom buf.length buf

/-- `handle_set_parameter_parameter`: `player_volume` for each `volume: ` line. -/
def Receiver.setParameterParameter (s : Receiver) (c : Nat) (content : Bytes) : Receiver :=
  (parameterLines content).foldl
    (fun s line => if hasPrefix line (ascii "volume: ") then s.call c .volume true else s) s

/-- `handle_set_parameter`: only `text/parameters` content reaches the player. -/
def Receiver.setParameter (s : Receiver) (c : Nat) (contentType : Option Bytes) (content : Bytes)
    : Receiver :=
  match contentType with
  | some ct => if hasPrefix ct (ascii "text/parameters") then s.setParameterParameter c content else s
  | none => s

/-- `have_player (conn)`: under `playing_conn_lock`, whether the slot is this connection's.
A handler that has it goes on, without the lock, to its `player_*` calls `ops`; one that has
not answers 451.
-/
def Receiver.havePlayer (s : Receiver) (c : Nat) (r : ConnRecord) (ops : List PlayerOp) : Receiver :=
  if s.playingConn = some c then s.setRecord c { r with pc := .calling ops } else s

/-- The calls of `handle_record` past `have_player`: `player_play`, then `player_flush` when
`RTP-Info` has an `rtptime=`.
-/
def recordCalls : Option Bytes → List PlayerOp
  | some hdr => if (strstr hdr (ascii "rtptime=")).isSome then [.play, .flush] else [.play]
  | none => [.play]

/-- `handle_record`. -/
def Receiver.record (s : Receiver) (c : Nat) (r : ConnRecord) (rtpInfo : Option Bytes) : Receiver :=
  s.havePlayer c r (recordCalls rtpInfo)

/-- `handle_flush`: with the player, `player_flush`. -/
def Receiver.flush (s : Receiver) (c : Nat) (r : ConnRecord) : Receiver := s.havePlayer c r [.flush]

/-- `handle_teardown`: with the player, `player_stop`. -/
def Receiver.teardown (s : Receiver) (c : Nat) (r : ConnRecord) : Receiver := s.havePlayer c r [.stop]

/-- A handler's next `player_*` call, made without the lock and logged with `playing_conn` as
it is at that moment: `handle_record` calls `player_play` only when `conn->player_thread` is 0
(else it warns), and that sets it; `player_stop` clears it. The worker then makes the calls
left, or returns to its loop.
-/
def Receiver.playerCall (s : Receiver) (c : Nat) (r : ConnRecord) (op : PlayerOp)
    (rest : List PlayerOp) : Receiver :=
  let next := { r with pc := WorkerPc.afterCall rest }
  match op with
  | .play => if r.playerThread then s.setRecord c next
             else (s.call c .play true).setRecord c { next with playerThread := true }
  | .stop => (s.call c .stop true).setRecord c { next with playerThread := false }
  | op => (s.call c op true).setRecord c next

/-- `handle_setup`: with the player, a SETUP that does not end in 200 lets the slot go. -/
def Receiver.setup (s : Receiver) (c : Nat) (accepted : Bool) : Receiver :=
  if s.playingConn = some c then (if accepted then s else s.releaseSlot c) else s

/-- The rest of `handle_announce` once it has the slot: an SDP body it does not accept ends
at `out:`, which lets the slot go.
-/
def Receiver.announceBody (s : Receiver) (c : Nat) (accepted : Bool) : Receiver :=
  if accepted then s else s.releaseSlot c

/-- The first critical section of `handle_announce`: take a free slot, keep one already held,
wait for a holder that is stopping, or, with `allow_session_interruption`, stop and cancel the
holder and wait; otherwise answer 453.
-/
def Receiver.announce (allow : Bool) (s : Receiver) (c : Nat) (r : ConnRecord) (accepted : Bool)
    : Receiver :=
  match s.playingConn with
  | none => ({ s with playingConn := some c }).announceBody c accepted
  | some o =>
      if o = c then s.announceBody c accepted
      else
        match s.records o with
        | .live holder =>
            if holder.stop then s.setRecord c { r with pc := .announcing accepted false 30 }
            else if allow then
              (s.setRecord o { holder with stop := true, cancelPending := true }).setRecord c
                { r with pc := .announcing accepted true 30 }
            else s
        | _ => s

/-- One pass of the waiting loop of `handle_announce`: take the slot if it is free, else
sleep 100 ms; after the thirtieth check it gives up with 453.
-/
def Receiver.poll (s : Receiver) (c : Nat) (r : ConnRecord) (accepted interrupting : Bool)
    (checksLeft : Nat) : Receiver :=
  match s.playingConn with
  | none => ({ s with playingConn := some c }.setRecord c { r with pc := .serving }).announceBody c accepted
  | some _ =>
      if checksLeft ≤ 1 then s.setRecord c { r with pc := .serving }
      else s.setRecord c { r with pc := .announcing accepted interrupting (checksLeft - 1) }

/-- The method handler for a request of worker `c`. -/
def Receiver.handle (allow : Bool) (s : Receiver) (c : Nat) (r : ConnRecord) : Request → Receiver
  | .announce accepted => s.announce allow c r accepted
  | .setup accepted => s.setup c accepted
  | .record rtpInfo => s.record c r rtpInfo
  | .flush _ => s.flush c r
  | .teardown => s.teardown c r
  | .setParameter contentType content => s.setParameter c contentType content
  | .options | .getParameter | .unhandled => s

/-- `rtsp_conversation_thread_cleanup_function`: stop the player if there is one, let the
slot go if it is this connection's, and `conn->running = 0`; the worker then exits.
-/
def Receiver.conversationCleanup (s : Receiver) (c : Nat) (r : ConnRecord) : Receiver :=
  ((if r.playerThread then s.call c .stop false else s).releaseSlot c).setRecord c
    { r with playerThread := false, running := false, pc := .exited }

theorem Receiver.conversationCleanup_eq (s : Receiver) (c : Nat) (r : ConnRecord)
    : s.conversationCleanup c r
      = { s with records := Function.update s.records c
                   (.live { r with playerThread := false, running := false, pc := .exited }),
                 playingConn := if s.playingConn = some c then none else s.playingConn,
                 calls := s.calls ++ if r.playerThread then [⟨c, .stop, s.playingConn, false⟩] else [] } := by
  unfold Receiver.conversationCleanup
  split <;> simp_all [Receiver.setRecord, Receiver.releaseSlot, Receiver.call]

-----------------------------------------------------------------------------------------
-- The listener
-----------------------------------------------------------------------------------------

/-- The loop of `cleanup_threads` from index `i`: a record whose `running` is 0 is joined and
freed, and the last entry of the table takes its place. The result is the table left and the
records freed, in order.
-/
def cleanupThreadsFrom (running : Nat → Bool) (i : Nat) (conns freed : List Nat)
    : List Nat × List Nat :=
  if h : i < conns.length then
    if running (conns.get ⟨i, h⟩) then cleanupThreadsFrom running (i + 1) conns freed
    else
      cleanupThreadsFrom running i ((conns.set i (conns.getLast (List.ne_nil_of_length_pos
        (Nat.lt_of_le_of_lt (Nat.zero_le i) h)))).dropLast) (freed ++ [conns.get ⟨i, h⟩])
  else (conns, freed)
termination_by conns.length - i
decreasing_by
  · omega
  · simp only [List.length_dropLast, List.length_set]; omega

/-- Moving the last entry into slot `i` and dropping the last slot takes out entry `i` and
keeps every other entry, up to order.
-/
theorem swapRemove_perm {l : List Nat} {i : Nat} (h : i < l.length) (ne : l ≠ [])
    : l.Perm (l.get ⟨i, h⟩ :: (l.set i (l.getLast ne)).dropLast) := by
  generalize hz : l.getLast ne = z
  have split : l = l.take i ++ l.get ⟨i, h⟩ :: l.drop (i + 1) := by
    rw [List.get_eq_getElem, ← List.drop_eq_getElem_cons h, List.take_append_drop]
  have length : (l.take i).length = i := List.length_take_of_le h.le
  generalize l.take i = pre at split length
  generalize l.get ⟨i, h⟩ = y at split ⊢
  generalize l.drop (i + 1) = rest at split
  subst split length
  rcases rest.eq_nil_or_concat with rfl | ⟨mid, z', rfl⟩
  · simp at hz
    subst hz
    simp
  · simp at hz
    subst hz
    have dropped : (pre ++ z' :: (mid ++ [z'])).dropLast = pre ++ z' :: mid := by
      rw [← List.cons_append, ← List.append_assoc, List.dropLast_concat]
    simp only [List.concat_eq_append]
    rw [List.set_append_right _ _ (le_refl _), Nat.sub_self, List.set_cons_zero, dropped]
    exact List.perm_middle.trans (.cons y (.append_left pre (List.perm_append_singleton z' mid)))

/-- The loop from index `i`, with the entries before `i` all running: the table left holds
the running entries, and the records freed are `freed` followed by the entries that are not
running, each once; both up to order. By the loop's own induction, each removal being a
permutation of the table.
-/
theorem cleanupThreadsFrom_perm (running : Nat → Bool) (i : Nat) (conns freed : List Nat)
    (checked : ∀ c ∈ conns.take i, running c = true)
    : (cleanupThreadsFrom running i conns freed).1.Perm (conns.filter running)
      ∧ (cleanupThreadsFrom running i conns freed).2.Perm
          (freed ++ conns.filter fun c => !running c) := by
  induction i, conns, freed using cleanupThreadsFrom.induct running with
  | case1 i conns freed h up ih =>
      rw [cleanupThreadsFrom, dif_pos h, if_pos up]
      refine ih ?_
      rw [← List.take_concat_get _ _ h, List.concat_eq_append]
      exact List.forall_mem_append.mpr ⟨checked, by simpa using up⟩
  | case2 i conns freed h down ih =>
      rw [cleanupThreadsFrom, dif_pos h, if_neg down]
      have ne : conns ≠ [] := List.ne_nil_of_length_pos (by omega)
      have perm := swapRemove_perm h ne
      have stopped : running conns[i] = false := by simpa using down
      obtain ⟨left, reaped⟩ := ih fun c mem => checked c (by
        rwa [List.dropLast_eq_take, List.take_take, List.length_set, Nat.min_eq_left (by omega),
          List.set_take, List.set_eq_of_length_le (by simp)] at mem)
      refine ⟨left.trans ?_, reaped.trans ?_⟩
      · simpa [stopped] using (perm.filter running).symm
      · simpa [stopped] using (perm.filter fun c => !running c).symm.append_left freed
  | case3 i conns freed h =>
      rw [cleanupThreadsFrom, dif_neg h]
      have all : ∀ c ∈ conns, running c = true := fun c mem =>
        checked c (by rwa [List.take_of_length_le (by omega)])
      rw [List.filter_eq_self.mpr all, List.filter_eq_nil_iff.mpr (by simpa using all)]
      exact ⟨.rfl, by simp⟩

/-- `cleanup_threads` keeps only tracked entries, and frees only tracked records that read
`running = 0`.
-/
theorem cleanupThreads_sub (running : Nat → Bool) (conns : List Nat)
    : (∀ c ∈ (cleanupThreadsFrom running 0 conns []).1, c ∈ conns)
      ∧ ∀ c ∈ (cleanupThreadsFrom running 0 conns []).2, c ∈ conns ∧ running c = false := by
  obtain ⟨left, reaped⟩ := cleanupThreadsFrom_perm running 0 conns [] (by simp)
  exact ⟨fun c mem => (List.mem_filter.mp (left.subset mem)).1,
    fun c mem => by simpa using reaped.subset mem⟩

@[simps]
def Receiver.free (s : Receiver) (c : Nat) : Receiver :=
  { s with records := Function.update s.records c .freed }

theorem Receiver.foldl_free (l : List Nat) (s : Receiver)
    : l.foldl Receiver.free s = { s with records := fun c => if c ∈ l then .freed else s.records c } := by
  induction l generalizing s with
  | nil => rfl
  | cons o rest ih =>
      rw [List.foldl_cons, ih]
      congr 1
      funext c
      by_cases here : c = o <;> simp [here, Function.update_noteq]

-----------------------------------------------------------------------------------------
-- Steps
-----------------------------------------------------------------------------------------

/-- The steps of the listener, of another thread asking for a shutdown, and of the workers. -/
inductive ReceiverStep
  /-- `accept`, `malloc` of a zeroed record, `pthread_create` of its worker. -/
  | accept
  /-- `conn->running = 1`. -/
  | markRunning
  /-- `track_thread (conn)`. -/
  | track
  /-- `cleanup_threads ()`. -/
  | cleanupThreads
  /-- A thread calls `ask_other_rtsp_conversation_threads_to_stop (except)`. -/
  | askOthersToStop (except : Option Nat)
  /-- One pass of its loop: past the end of `conns` it returns; a running worker other than
  `except` is cancelled and then joined; any other entry is passed over. -/
  | askNext
  /-- Its `pthread_join` returns, once the worker has ended. -/
  | askJoin
  /-- The listener is cancelled: `cancel_all_RTSP_threads` cancels every tracked worker. -/
  | cancelAll
  /-- `cancel_all_RTSP_threads` joins the next worker and frees its record. -/
  | joinFree
  /-- Worker `c` reads a request, passes the gate and runs its handler. -/
  | request (c : Nat) (req : Request)
  /-- Worker `c` checks the slot again in `handle_announce`. -/
  | poll (c : Nat)
  /-- Worker `c` makes the next `player_*` call of its handler. -/
  | playerCall (c : Nat)
  /-- Worker `c` meets an end of its conversation (a read or write error, the stream closed)
  and sets `conn->stop`. -/
  | halt (c : Nat)
  /-- The watchdog barks: `conn->stop = 1; pthread_cancel (conn->thread)`. -/
  | watchdog (c : Nat)
  /-- Worker `c` sees `conn->stop` at the top of its loop: `pthread_cleanup_pop (1)`. -/
  | finish (c : Nat)
  /-- A pending cancellation of worker `c` takes effect at a cancellation point. -/
  | cancelled (c : Nat)
  deriving DecidableEq, Repr

/-- One step, with `config.allow_session_interruption` equal to `allow`; `none` when the
step cannot be taken in `s`.
-/
def Receiver.step (allow : Bool) (s : Receiver) : ReceiverStep → Option Receiver
  | .accept =>
      match s.listener with
      | .ready => some { s.setRecord s.nextConn .fresh with
                         nextConn := s.nextConn + 1, listener := .created s.nextConn }
      | _ => none
  | .markRunning =>
      match s.listener with
      | .created c =>
          match s.records c with
          | .live r => some { s.setRecord c { r with running := true } with listener := .marked c }
          | _ => none
      | _ => none
  | .track =>
      match s.listener with
      | .marked c => some { s with tracked := s.tracked ++ [c], listener := .ready }
      | _ => none
  | .cleanupThreads =>
      match s.listener with
      | .ready =>
          let reaped := cleanupThreadsFrom s.runningOf 0 s.tracked []
          some { reaped.2.foldl Receiver.free s with tracked := reaped.1, joins := s.joins ++ reaped.2 }
      | _ => none
  | .askOthersToStop except =>
      match s.asker with
      | .idle => some { s with asker := .scanning except 0 }
      | _ => none
  | .askNext =>
      match s.asker with
      | .scanning except i =>
          match s.tracked[i]? with
          | none => some { s with asker := .idle }
          | some c =>
              if except ≠ some c ∧ s.runningOf c = true
              then some { s.cancel c with asker := .joining except i c }
              else some { s with asker := .scanning except (i + 1) }
      | _ => none
  | .askJoin =>
      match s.asker with
      | .joining except i c =>
          if s.ended c then some { s with joins := s.joins ++ [c], asker := .scanning except (i + 1) }
          else none
      | _ => none
  | .cancelAll =>
      match s.listener with
      | .ready => some { s.tracked.foldl Receiver.cancel s with listener := .joining s.tracked }
      | _ => none
  | .joinFree =>
      match s.listener with
      | .joining (c :: rest) =>
          match s.records c with
          | .live r => if r.pc = .exited
                       then some { s.free c with listener := .joining rest, joins := s.joins ++ [c] }
                       else none
          | _ => none
      | _ => none
  | .request c req =>
      match s.records c with
      | .live r => if r.pc = .serving ∧ r.stop = false ∧ r.cancelPending = false
                   then some (s.handle allow c r req) else none
      | _ => none
  | .poll c =>
      match s.records c with
      | .live r =>
          match r.pc with
          | .announcing accepted interrupting checksLeft =>
              if r.cancelPending then none else some (s.poll c r accepted interrupting checksLeft)
          | _ => none
      | _ => none
  | .playerCall c =>
      match s.records c with
      | .live r =>
          match r.pc with
          | .calling (op :: rest) => some (s.playerCall c r op rest)
          | _ => none
      | _ => none
  | .halt c =>
      match s.records c with
      | .live r => if r.pc = .serving then some (s.setRecord c { r with stop := true }) else none
      | _ => none
  | .watchdog c =>
      match s.records c with
      | .live r => if r.pc = .exited then none
                   else some (s.setRecord c { r with stop := true, cancelPending := true })
      | _ => none
  | .finish c =>
      match s.records c with
      | .live r => if r.pc = .serving ∧ r.stop = true then some (s.conversationCleanup c r) else none
      | _ => none
  | .cancelled c =>
      match s.records c with
      | .live r => if r.pc ≠ .exited ∧ r.cancelPending = true then some (s.conversationCleanup c r)
                   else none
      | _ => none

/-- The steps by what they do, guards included: every taken step is one of these, and the
invariants of the receiver are proved over this relation, one case per kind of work.
-/
inductive Receiver.Next (allow : Bool) (s : Receiver) : ReceiverStep → Receiver → Prop
  | accept (ready : s.listener = .ready)
      : Receiver.Next allow s .accept { s.setRecord s.nextConn .fresh with
          nextConn := s.nextConn + 1, listener := .created s.nextConn }
  | markRunning {c : Nat} {r : ConnRecord} (inHand : s.listener = .created c)
      (live : s.records c = .live r)
      : Receiver.Next allow s .markRunning
          { s.setRecord c { r with running := true } with listener := .marked c }
  | track {c : Nat} (marked : s.listener = .marked c)
      : Receiver.Next allow s .track { s with tracked := s.tracked ++ [c], listener := .ready }
  | cleanupThreads (ready : s.listener = .ready)
      : Receiver.Next allow s .cleanupThreads
          (let reaped := cleanupThreadsFrom s.runningOf 0 s.tracked []
           { reaped.2.foldl Receiver.free s with tracked := reaped.1, joins := s.joins ++ reaped.2 })
  | askOthersToStop {except : Option Nat} (idle : s.asker = .idle)
      : Receiver.Next allow s (.askOthersToStop except) { s with asker := .scanning except 0 }
  | askDone {except : Option Nat} {i : Nat} (scanning : s.asker = .scanning except i)
      (past : s.tracked[i]? = none) : Receiver.Next allow s .askNext { s with asker := .idle }
  | askCancel {except : Option Nat} {i c : Nat} (scanning : s.asker = .scanning except i)
      (found : s.tracked[i]? = some c) (other : except ≠ some c) (running : s.runningOf c = true)
      : Receiver.Next allow s .askNext { s.cancel c with asker := .joining except i c }
  | askSkip {except : Option Nat} {i c : Nat} (scanning : s.asker = .scanning except i)
      (found : s.tracked[i]? = some c) (passed : ¬ (except ≠ some c ∧ s.runningOf c = true))
      : Receiver.Next allow s .askNext { s with asker := .scanning except (i + 1) }
  | askJoin {except : Option Nat} {i c : Nat} (joining : s.asker = .joining except i c)
      (ended : s.ended c = true)
      : Receiver.Next allow s .askJoin
          { s with joins := s.joins ++ [c], asker := .scanning except (i + 1) }
  | cancelAll (ready : s.listener = .ready)
      : Receiver.Next allow s .cancelAll
          { s.tracked.foldl Receiver.cancel s with listener := .joining s.tracked }
  | joinFree {c : Nat} {rest : List Nat} {r : ConnRecord} (joining : s.listener = .joining (c :: rest))
      (live : s.records c = .live r) (exited : r.pc = .exited)
      : Receiver.Next allow s .joinFree
          { s.free c with listener := .joining rest, joins := s.joins ++ [c] }
  | request {c : Nat} {r : ConnRecord} (req : Request) (live : s.records c = .live r)
      (serving : r.pc = .serving) (going : r.stop = false) (uncancelled : r.cancelPending = false)
      : Receiver.Next allow s (.request c req) (s.handle allow c r req)
  | poll {c : Nat} {r : ConnRecord} {accepted interrupting : Bool} {checksLeft : Nat}
      (live : s.records c = .live r) (waiting : r.pc = .announcing accepted interrupting checksLeft)
      (uncancelled : r.cancelPending = false)
      : Receiver.Next allow s (.poll c) (s.poll c r accepted interrupting checksLeft)
  | playerCall {c : Nat} {r : ConnRecord} {op : PlayerOp} {rest : List PlayerOp}
      (live : s.records c = .live r) (calling : r.pc = .calling (op :: rest))
      : Receiver.Next allow s (.playerCall c) (s.playerCall c r op rest)
  | halt {c : Nat} {r : ConnRecord} (live : s.records c = .live r) (serving : r.pc = .serving)
      : Receiver.Next allow s (.halt c) (s.setRecord c { r with stop := true })
  | watchdog {c : Nat} {r : ConnRecord} (live : s.records c = .live r) (working : r.pc ≠ .exited)
      : Receiver.Next allow s (.watchdog c) (s.setRecord c { r with stop := true, cancelPending := true })
  | finish {c : Nat} {r : ConnRecord} (live : s.records c = .live r) (serving : r.pc = .serving)
      (stopping : r.stop = true)
      : Receiver.Next allow s (.finish c) (s.conversationCleanup c r)
  | cancelled {c : Nat} {r : ConnRecord} (live : s.records c = .live r) (working : r.pc ≠ .exited)
      (pending : r.cancelPending = true)
      : Receiver.Next allow s (.cancelled c) (s.conversationCleanup c r)

/-- The inversion of `Receiver.step`. -/
theorem Receiver.step_next {allow : Bool} {s s' : Receiver} {a : ReceiverStep}
    (taken : s.step allow a = some s') : Receiver.Next allow s a s' := by
  cases a <;> simp only [Receiver.step] at taken <;> (try split at taken) <;> try cases taken
  case accept.h_1 ready => exact .accept ready
  case markRunning.h_1 inHand => split at taken <;> cases taken; exact .markRunning inHand ‹_›
  case track.h_1 marked => exact .track marked
  case cleanupThreads.h_1 ready => exact .cleanupThreads ready
  case askOthersToStop.h_1 idle => exact .askOthersToStop idle
  case askNext.h_1 scanning =>
    split at taken
    · cases taken; exact .askDone scanning ‹_›
    · split at taken <;> cases taken
      · exact .askCancel scanning ‹_› (‹_ ∧ _›).1 (‹_ ∧ _›).2
      · exact .askSkip scanning ‹_› ‹_›
  case askJoin.h_1 joining => split at taken <;> cases taken; exact .askJoin joining ‹_›
  case cancelAll.h_1 ready => exact .cancelAll ready
  case joinFree.h_1 joining =>
    split at taken
    · split at taken <;> cases taken
      exact .joinFree joining ‹_› ‹_›
    · cases taken
  case request.h_1 live =>
    split at taken <;> cases taken
    rename_i guard
    exact .request _ live guard.1 guard.2.1 guard.2.2
  case poll.h_1 live =>
    split at taken
    · split at taken <;> cases taken
      rename_i waiting uncancelled
      exact .poll live waiting (by simpa using uncancelled)
    · cases taken
  case playerCall.h_1 live => split at taken <;> cases taken; exact .playerCall live ‹_›
  case halt.h_1 live => split at taken <;> cases taken; exact .halt live ‹_›
  case watchdog.h_1 live => split at taken <;> cases taken; exact .watchdog live ‹_›
  case finish.h_1 live =>
    split at taken <;> cases taken
    rename_i guard
    exact .finish live guard.1 guard.2
  case cancelled.h_1 live =>
    split at taken <;> cases taken
    rename_i guard
    exact .cancelled live guard.1 guard.2

/-- The states some interleaving of the threads reaches. -/
inductive Receiver.Reachable (allow : Bool) : Receiver → Prop
  | initial : Receiver.Reachable allow Receiver.initial
  | step {s s' : Receiver} (a : ReceiverStep) (reach : Receiver.Reachable allow s)
      (taken : s.step allow a = some s') : Receiver.Reachable allow s'

/-- The steps in order; `none` as soon as one cannot be taken. -/
def Receiver.run (allow : Bool) (s : Receiver) : List ReceiverStep → Option Receiver
  | [] => some s
  | a :: rest => (s.step allow a).bind fun s' => s'.run allow rest

/-- A run from a reachable state ends in one. -/
theorem Receiver.Reachable.run {allow : Bool} {s s' : Receiver} (reach : Receiver.Reachable allow s)
    (steps : List ReceiverStep) (ran : s.run allow steps = some s') : Receiver.Reachable allow s' := by
  induction steps generalizing s with
  | nil => cases ran; exact reach
  | cons a rest ih =>
      obtain ⟨t, taken, ran⟩ := Option.bind_eq_some.mp ran
      exact ih (reach.step a taken) ran

end Shairport.Rtsp
