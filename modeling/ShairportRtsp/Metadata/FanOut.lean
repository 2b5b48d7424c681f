import ShairportRtsp.Metadata.Queue
import ShairportRtsp.Codec.ReadRequest

/-! Metadata fan-out and message lifetimes: `msg_retain`/`msg_free` on the request a
conversation worker holds, `send_metadata_to_queue` into the four sink queues, and the sink
consumers that take a package and run `metadata_pack_cleanup_function` on it.
-/

namespace Shairport.Rtsp

/-- The four metadata sinks, each with its queue and consumer thread. -/
inductive Sink
  | pipe
  | multicast
  | hub
  | mqtt
  deriving DecidableEq, Repr

/-- Where a package's `data` points: inside its carrier message, or at the private copy
`memdup` made of the caller's bytes.
-/
inductive DataRef
  | carrier (m : Nat)
  | copy (b : Nat)
  deriving DecidableEq, Repr

/-- `metadata_package`. -/
structure MetadataPackage where
  type : Nat
  code : Nat
  data : Option DataRef
  length : Nat
  carrier : Option Nat
  deriving DecidableEq, Repr

/-- The reference counts of the messages, how often each was freed, the request the
conversation worker holds, the sink queues, the package each consumer has taken and not
finished, and the private data copies not yet freed.
-/
structure Fanout where
  refs : Nat → Nat
  frees : Nat → Nat
  nextMsg : Nat
  held : Option Nat
  queues : Sink → PcQueue MetadataPackage
  taken : Sink → Option MetadataPackage
  live : Nat → Bool
  nextBlock : Nat

/-- `metadata_queue_size` and its three siblings. -/
def metadataQueueSize : Nat := 500

/-- The process at start: no message, four empty queues of 500 slots. -/
def Fanout.initial (items : Sink → Nat → MetadataPackage) : Fanout :=
  { refs := fun _ => 0, frees := fun _ => 0, nextMsg := 0, held := none,
    queues := fun k => pcQueueInit (items k) metadataQueueSize, taken := fun _ => none,
    live := fun _ => false, nextBlock := 0 }

/-- `msg_retain`. -/
@[simps]
def Fanout.retain (s : Fanout) (m : Nat) : Fanout :=
  { s with refs := Function.update s.refs m (s.refs m + 1) }

/-- `msg_free`: drop a reference; dropping the last one frees the message. -/
@[simps]
def Fanout.release (s : Fanout) (m : Nat) : Fanout :=
  { s with refs := Function.update s.refs m (s.refs m - 1),
           frees := if s.refs m - 1 = 0 then Function.update s.frees m (s.frees m + 1)
                    else s.frees }

/-- `free` of a private copy. -/
def Fanout.freeCopy (s : Fanout) : Option DataRef → Fanout
  | some (.copy b) => { s with live := Function.update s.live b false }
  | _ => s

/-- `memdup`: a fresh private block. -/
@[simps]
def Fanout.memdup (s : Fanout) : Fanout :=
  { s with live := Function.update s.live s.nextBlock true, nextBlock := s.nextBlock + 1 }

/-- The package `send_metadata_to_queue` builds, and the state after its retain or copy:
a carrier is retained and `data` points into it; without one the data are copied.
-/
def Fanout.pack (s : Fanout) (type code length : Nat) (carrier : Option Nat)
    (withData : Bool) : Fanout × MetadataPackage :=
  match carrier with
  | some m =>
      (s.retain m, ⟨type, code, if withData then some (.carrier m) else none, length, some m⟩)
  | none =>
      (if withData then s.memdup else s,
        ⟨type, code, if withData then some (.copy s.nextBlock) else none, length, none⟩)

/-- `send_metadata_to_queue (queue, type, code, data, length, carrier, block)`: a package
the queue refuses gives back its reference or its copy.
-/
def Fanout.sendMetadataToQueue (s : Fanout) (k : Sink) (type code length : Nat)
    (carrier : Option Nat) (withData block lockTimedOut : Bool) : Fanout :=
  let built := s.pack type code length carrier withData
  let added := pcQueueAddItem (built.1.queues k) built.2 block lockTimedOut
  let queued := { built.1 with queues := Function.update built.1.queues k added.2 }
  if added.1 = 0 then queued
  else
    match built.2.carrier with
    | some m => queued.release m
    | none => queued.freeCopy built.2.data

/-- The queues `send_metadata` reaches: the pipe and multicast queues when
`config.metadata_enabled`, the hub and MQTT queues when built with them.
-/
structure SinkConfig where
  metadataEnabled : Bool
  metadataHub : Bool
  mqtt : Bool
  deriving DecidableEq, Repr

def SinkConfig.enabled (c : SinkConfig) : List Sink :=
  (if c.metadataEnabled then [.pipe, .multicast] else []) ++ (if c.metadataHub then [.hub] else [])
    ++ (if c.mqtt then [.mqtt] else [])

/-- `send_metadata (type, code, data, length, carrier, block)`: one
`send_metadata_to_queue` per enabled queue, `lockTimedOut k` saying whether a non-blocking
lock on queue `k` timed out.
-/
def Fanout.sendMetadata (s : Fanout) (cfg : SinkConfig) (type code length : Nat)
    (carrier : Option Nat) (withData block : Bool) (lockTimedOut : Sink → Bool) : Fanout :=
  cfg.enabled.foldl (fun s k =>
    s.sendMetadataToQueue k type code length carrier withData block (lockTimedOut k)) s

/-- `metadata_pack_cleanup_function`: release the carrier, or free the copied data. -/
def Fanout.cleanupPackage (s : Fanout) (p : MetadataPackage) : Fanout :=
  match p.carrier with
  | some m => s.release m
  | none => s.freeCopy p.data

/-- The steps of the worker and the consumers. -/
inductive FanoutAction
  /-- `rtsp_read_request` returns a new request (`msg_init`). -/
  | receive
  /-- A handler's `send_metadata` reaches one enabled queue, with the request as carrier
  or without a carrier. -/
  | publish (k : Sink) (type code length : Nat) (withCarrier withData block lockTimedOut : Bool)
  /-- The request is done: `pthread_cleanup_pop (1)` runs `msg_free (&req)`. -/
  | finishRequest
  /-- A consumer's `pc_queue_get_item`; it waits while its queue is empty. -/
  | take (k : Sink)
  /-- A consumer has processed its package and runs `pthread_cleanup_pop (1)`. -/
  | finish (k : Sink)

def Fanout.step (s : Fanout) : FanoutAction → Option Fanout
  | .receive =>
      match s.held with
      | some _ => none
      | none => some { s with refs := Function.update s.refs s.nextMsg 1,
                              held := some s.nextMsg, nextMsg := s.nextMsg + 1 }
  | .publish k type code length withCarrier withData block busy =>
      some (s.sendMetadataToQueue k type code length (if withCarrier then s.held else none)
        withData block busy)
  | .finishRequest =>
      match s.held with
      | none => none
      | some m => some { s.release m with held := none }
  | .take k =>
      match s.taken k with
      | some _ => none
      | none => (pcQueueGetItem (s.queues k)).map fun got =>
          { s with queues := Function.update s.queues k got.2,
                   taken := Function.update s.taken k (some got.1) }
  | .finish k =>
      match s.taken k with
      | none => none
      | some p => some ({ s with taken := Function.update s.taken k none }.cleanupPackage p)

/-- The states some interleaving of worker and consumer steps reaches. -/
inductive Fanout.Reachable (items : Sink → Nat → MetadataPackage) : Fanout → Prop
  | initial : Fanout.Reachable items (Fanout.initial items)
  | step {s s' : Fanout} (a : FanoutAction) (reach : Fanout.Reachable items s)
      (taken : s.step a = some s') : Fanout.Reachable items s'

-----------------------------------------------------------------------------------------
-- Counting the unfinished packages
-----------------------------------------------------------------------------------------

/-- The packages of sink `k` no consumer has finished: those queued, then the one taken. -/
def Fanout.sinkPackages (s : Fanout) (k : Sink) : List MetadataPackage :=
  (s.queues k).contents ++ (s.taken k).toList

def sinkSum (f : Sink → Nat) : Nat := f .pipe + f .multicast + f .hub + f .mqtt

/-- The unfinished packages, over all sinks, that satisfy `P`. -/
def Fanout.count (s : Fanout) (P : MetadataPackage → Bool) : Nat :=
  sinkSum fun k => (s.sinkPackages k).countP P

/-- The unfinished packages that carry message `m`. -/
def Fanout.carried (s : Fanout) (m : Nat) : Nat := s.count (·.carrier == some m)

/-- The unfinished packages whose data is the copy `b`. -/
def Fanout.copyRefs (s : Fanout) (b : Nat) : Nat := s.count (·.data == some (.copy b))

/-- Changing the packages of one sink changes a count by the change at that sink. -/
theorem Fanout.count_change {s s' : Fanout} (k : Sink)
    (same : ∀ j, j ≠ k → s'.sinkPackages j = s.sinkPackages j) (P : MetadataPackage → Bool)
    : s'.count P + (s.sinkPackages k).countP P = s.count P + (s'.sinkPackages k).countP P := by
  have other := fun j (h : j ≠ k) => congrArg (List.countP P) (same j h)
  unfold Fanout.count sinkSum
  cases k <;> simp only [ne_eq, reduceCtorEq, not_false_eq_true, other] <;> omega

theorem Fanout.count_congr {s s' : Fanout} (same : s'.sinkPackages = s.sinkPackages)
    (P : MetadataPackage → Bool) : s'.count P = s.count P := by
  unfold Fanout.count; rw [same]

/-- Adding package `p` to sink `k` adds it to every count. -/
theorem Fanout.count_add {s s' : Fanout} (k : Sink) {p : MetadataPackage}
    (same : ∀ j, j ≠ k → s'.sinkPackages j = s.sinkPackages j)
    (added : (s'.sinkPackages k).Perm (p :: s.sinkPackages k)) (P : MetadataPackage → Bool)
    : s'.count P = s.count P + if P p then 1 else 0 := by
  have := Fanout.count_change k same P
  rw [added.countP_eq, List.countP_cons] at this
  omega

@[simp] theorem Fanout.retain_count (s : Fanout) (m : Nat) (P : MetadataPackage → Bool)
    : (s.retain m).count P = s.count P := rfl

@[simp] theorem Fanout.release_count (s : Fanout) (m : Nat) (P : MetadataPackage → Bool)
    : (s.release m).count P = s.count P := rfl

@[simp] theorem Fanout.memdup_count (s : Fanout) (P : MetadataPackage → Bool)
    : s.memdup.count P = s.count P := rfl

@[simp] theorem Fanout.freeCopy_count (s : Fanout) (d : Option DataRef)
    (P : MetadataPackage → Bool) : (s.freeCopy d).count P = s.count P := by
  unfold Fanout.freeCopy; split <;> rfl

@[simp] theorem Fanout.freeCopy_queues (s : Fanout) (d : Option DataRef)
    : (s.freeCopy d).queues = s.queues := by
  unfold Fanout.freeCopy; split <;> rfl

@[simp] theorem Fanout.freeCopy_sinkPackages (s : Fanout) (d : Option DataRef)
    : (s.freeCopy d).sinkPackages = s.sinkPackages := by
  unfold Fanout.freeCopy; split <;> rfl

/-- A sink's unfinished packages are among all of them. -/
theorem Fanout.countP_le_count (s : Fanout) (k : Sink) (P : MetadataPackage → Bool)
    : (s.sinkPackages k).countP P ≤ s.count P := by
  simp only [Fanout.count, sinkSum]
  cases k <;> omega

@[simp] theorem Fanout.freeCopy_live_copy (s : Fanout) (b : Nat)
    : (s.freeCopy (some (.copy b))).live = Function.update s.live b false := rfl

@[simp] theorem Fanout.freeCopy_refs (s : Fanout) (d : Option DataRef)
    : (s.freeCopy d).refs = s.refs := by
  unfold Fanout.freeCopy; split <;> rfl

@[simp] theorem Fanout.freeCopy_frees (s : Fanout) (d : Option DataRef)
    : (s.freeCopy d).frees = s.frees := by
  unfold Fanout.freeCopy; split <;> rfl

@[simp] theorem Fanout.freeCopy_held (s : Fanout) (d : Option DataRef)
    : (s.freeCopy d).held = s.held := by
  unfold Fanout.freeCopy; split <;> rfl

@[simp] theorem Fanout.freeCopy_nextMsg (s : Fanout) (d : Option DataRef)
    : (s.freeCopy d).nextMsg = s.nextMsg := by
  unfold Fanout.freeCopy; split <;> rfl

@[simp] theorem Fanout.freeCopy_nextBlock (s : Fanout) (d : Option DataRef)
    : (s.freeCopy d).nextBlock = s.nextBlock := by
  unfold Fanout.freeCopy; split <;> rfl

-----------------------------------------------------------------------------------------
-- The balance invariant
-----------------------------------------------------------------------------------------

/-- A package's data points into its own carrier, and a copy only in a package without one. -/
def MetadataPackage.Fits (p : MetadataPackage) : Prop :=
  (∀ m, p.data = some (.carrier m) → p.carrier = some m)
  ∧ ∀ b, p.data = some (.copy b) → p.carrier = none

/-- The balance, counting also the packages `extra` built or taken out and not yet queued
or cleaned up. Every reference to a message is the worker's or an unfinished package's; a
message is freed once, exactly when it has no reference left; every private copy belongs
to exactly one unfinished package; a package's data point into its own carrier.
-/
structure Fanout.BalancedWith (s : Fanout) (extra : List MetadataPackage) : Prop where
  valid : ∀ k, (s.queues k).Valid
  refs : ∀ m, s.refs m
    = (if s.held = some m then 1 else 0) + s.carried m + extra.countP (·.carrier == some m)
  frees : ∀ m, s.frees m = if m < s.nextMsg ∧ s.refs m = 0 then 1 else 0
  fresh : ∀ m, s.nextMsg ≤ m → s.refs m = 0
  copies : ∀ b,
    s.copyRefs b + extra.countP (·.data == some (.copy b)) = if s.live b then 1 else 0
  unborn : ∀ b, s.nextBlock ≤ b → s.live b = false
  points : ∀ k, ∀ p ∈ s.sinkPackages k, p.Fits
  inFlight : ∀ p ∈ extra, p.Fits

/-- The balance between steps, with no package in flight. -/
abbrev Fanout.Balanced (s : Fanout) : Prop := s.BalancedWith []

theorem Fanout.balanced_initial (items : Sink → Nat → MetadataPackage)
    : (Fanout.initial items).Balanced := by
  have empty : ∀ k, (Fanout.initial items).sinkPackages k = [] := fun k => by
    simp [Fanout.sinkPackages, Fanout.initial]
  have zero : ∀ P, (Fanout.initial items).count P = 0 := fun P => by
    simp only [Fanout.count, sinkSum, empty, List.countP_nil]
  refine ⟨fun k => pcQueueInit_valid _ (by decide), fun m => ?_, fun m => rfl, fun m _ => rfl,
    fun b => ?_, fun b _ => rfl, fun k p mem => by simp [empty] at mem, fun p mem => nomatch mem⟩
  · rw [Fanout.carried, zero]; rfl
  · rw [Fanout.copyRefs, zero]; rfl

/-- A package with neither carrier nor data counts for nothing. -/
theorem Fanout.balancedWith_bare {s : Fanout} {p : MetadataPackage} (carrier : p.carrier = none)
    (data : p.data = none) : s.BalancedWith [p] ↔ s.Balanced := by
  have fits : p.Fits := ⟨by simp [data], by simp [data]⟩
  constructor
  · intro inv
    exact ⟨inv.valid, fun m => by simpa [carrier] using inv.refs m, inv.frees, inv.fresh,
      fun b => by simpa [data] using inv.copies b, inv.unborn, inv.points, fun _ h => nomatch h⟩
  · intro inv
    exact ⟨inv.valid, fun m => by simpa [carrier] using inv.refs m, inv.frees, inv.fresh,
      fun b => by simpa [data] using inv.copies b, inv.unborn, inv.points,
      fun q mem => List.mem_singleton.mp mem ▸ fits⟩

section
variable {s : Fanout} {extra : List MetadataPackage}

theorem Fanout.BalancedWith.held_refs (inv : s.BalancedWith extra) {m : Nat}
    (held : s.held = some m) : 0 < s.refs m := by
  rw [inv.refs m, held]; simp

/-- A message with a reference left was created, so lies below `nextMsg`. -/
theorem Fanout.BalancedWith.created (inv : s.BalancedWith extra) {m : Nat}
    (pos : 0 < s.refs m) : m < s.nextMsg := by
  by_contra later
  exact absurd (inv.fresh m (Nat.le_of_not_lt later)) (Nat.pos_iff_ne_zero.mp pos)

/-- Releasing a referenced message keeps the free count equal to "created and unreferenced". -/
theorem Fanout.BalancedWith.frees_release (inv : s.BalancedWith extra) {m : Nat}
    (pos : 0 < s.refs m) (m' : Nat)
    : (s.release m).frees m' = if m' < s.nextMsg ∧ (s.release m).refs m' = 0 then 1 else 0 := by
  by_cases same : m' = m
  · subst same
    have zero : s.frees m' = 0 := by rw [inv.frees]; simp [Nat.pos_iff_ne_zero.mp pos]
    by_cases last : s.refs m' - 1 = 0 <;> simp [Fanout.release, last, zero, inv.created pos]
  · have keep : (s.release m).frees m' = s.frees m' := by
      unfold Fanout.release; split <;> simp [Function.update_noteq same]
    rw [keep, inv.frees m']
    simp [Fanout.release, Function.update_noteq same]

/-- A step that changes no count, reference or copy and only moves packages within their
sinks keeps the balance.
-/
theorem Fanout.BalancedWith.of_moved {s' : Fanout} (inv : s.BalancedWith extra)
    (valid : ∀ k, (s'.queues k).Valid)
    (perm : ∀ k, (s'.sinkPackages k).Perm (s.sinkPackages k))
    (refs : s'.refs = s.refs) (frees : s'.frees = s.frees) (nextMsg : s'.nextMsg = s.nextMsg)
    (held : s'.held = s.held) (live : s'.live = s.live) (nextBlock : s'.nextBlock = s.nextBlock)
    : s'.BalancedWith extra := by
  have count : ∀ P, s'.count P = s.count P := fun P => by
    simp only [Fanout.count, sinkSum, (perm _).countP_eq]
  refine ⟨valid, fun m => ?_, fun m => ?_, fun m later => ?_, fun b => ?_, fun b later => ?_,
    fun k p mem => inv.points k p ((perm k).subset mem), inv.inFlight⟩
  · rw [Fanout.carried, count, refs, held]; exact inv.refs m
  · rw [frees, nextMsg, refs]; exact inv.frees m
  · rw [refs]; exact inv.fresh m (nextMsg ▸ later)
  · rw [Fanout.copyRefs, count, live]; exact inv.copies b
  · rw [live]; exact inv.unborn b (nextBlock ▸ later)

end

-----------------------------------------------------------------------------------------
-- The worker's steps
-----------------------------------------------------------------------------------------

theorem Fanout.step_receive {s s' : Fanout} (h : s.step .receive = some s')
    : s.held = none ∧ s' =
        { s with refs := Function.update s.refs s.nextMsg 1, held := some s.nextMsg,
                 nextMsg := s.nextMsg + 1 } := by
  simp only [Fanout.step] at h
  split at h
  · cases h
  · exact ⟨‹_›, (Option.some.inj h).symm⟩

theorem Fanout.step_finishRequest {s s' : Fanout} (h : s.step .finishRequest = some s')
    : ∃ m, s.held = some m ∧ s' = { s.release m with held := none } := by
  simp only [Fanout.step] at h
  split at h
  · cases h
  · exact ⟨_, ‹_›, (Option.some.inj h).symm⟩

theorem Fanout.Balanced.receive {s s' : Fanout} (inv : s.Balanced)
    (h : s.step .receive = some s') : s'.Balanced := by
  obtain ⟨none, rfl⟩ := Fanout.step_receive h
  have carried : ∀ m, Fanout.carried
      { s with refs := Function.update s.refs s.nextMsg 1, held := some s.nextMsg,
               nextMsg := s.nextMsg + 1 } m = s.carried m :=
    fun m => Fanout.count_congr rfl _
  have zero := inv.refs s.nextMsg
  rw [inv.fresh _ le_rfl, none] at zero
  refine ⟨inv.valid, fun m => ?_, fun m => ?_, fun m later => ?_,
    fun b => inv.copies b, inv.unborn, inv.points, inv.inFlight⟩
  · rw [carried]
    by_cases fresh : m = s.nextMsg
    · subst fresh; simp at zero ⊢; omega
    · simpa [Function.update_noteq fresh, none, Ne.symm fresh] using inv.refs m
  · dsimp only
    by_cases fresh : m = s.nextMsg
    · subst fresh; simp [inv.frees]
    · rw [Function.update_noteq fresh, inv.frees m]
      by_cases lt : m < s.nextMsg
      · simp [lt, Nat.lt_succ_of_lt lt]
      · simp [lt, show ¬ m < s.nextMsg + 1 by omega]
  · dsimp only at later ⊢
    rw [Function.update_noteq (show m ≠ s.nextMsg by omega), inv.fresh m (by omega)]

theorem Fanout.Balanced.finishRequest {s s' : Fanout} (inv : s.Balanced)
    (h : s.step .finishRequest = some s') : s'.Balanced := by
  obtain ⟨m, held, rfl⟩ := Fanout.step_finishRequest h
  have pos := inv.held_refs held
  refine ⟨inv.valid, fun m' => ?_, fun m' => inv.frees_release pos m', fun m' later => ?_,
    fun b => inv.copies b, inv.unborn, inv.points, inv.inFlight⟩
  · have before := inv.refs m'
    simp only [Fanout.carried, @Fanout.count_congr s { s.release m with held := none } rfl]
      at before ⊢
    by_cases same : m' = m
    · subst same
      simp only [held, if_true] at before
      simp [Fanout.release, before]
    · simp only [held, Option.some.injEq, Ne.symm same, if_false] at before
      simp [Fanout.release, Function.update_noteq same, before]
  · dsimp only [Fanout.release] at later ⊢
    have lt := inv.created pos
    rw [Function.update_noteq (show m' ≠ m by omega), inv.fresh m' later]

/-- Building a package retains the held carrier or makes a fresh copy; the package is then
in flight.
-/
theorem Fanout.Balanced.pack {s : Fanout} (inv : s.Balanced) (type code length : Nat)
    {carrier : Option Nat} (held : ∀ m, carrier = some m → s.held = some m) (withData : Bool)
    : (s.pack type code length carrier withData).1.BalancedWith
        [(s.pack type code length carrier withData).2] := by
  cases carrier with
  | some m =>
      have pos := inv.held_refs (held m rfl)
      have lt := inv.created pos
      refine ⟨inv.valid, fun m' => ?_, fun m' => ?_, fun m' later => ?_, fun b => ?_,
        inv.unborn, inv.points, ?_⟩
      · have := inv.refs m'
        by_cases same : m' = m
        · subst same; simp [Fanout.pack, Fanout.carried] at this ⊢; omega
        · simp [Fanout.pack, Fanout.carried, Function.update_noteq same,
            Ne.symm same] at this ⊢
          omega
      · by_cases same : m' = m
        · subst same
          simp [Fanout.pack, inv.frees m', Nat.pos_iff_ne_zero.mp pos]
        · simp [Fanout.pack, Function.update_noteq same, inv.frees m']
      · have later : s.nextMsg ≤ m' := later
        simp [Fanout.pack, Function.update_noteq (show m' ≠ m by omega), inv.fresh m' later]
      · have := inv.copies b
        cases withData <;> simpa [Fanout.pack, Fanout.copyRefs] using this
      · cases withData <;> simp [Fanout.pack, MetadataPackage.Fits]
  | none =>
      cases withData with
      | false => exact (Fanout.balancedWith_bare rfl rfl).mpr inv
      | true =>
          have unborn := inv.copies s.nextBlock
          rw [inv.unborn _ le_rfl] at unborn
          refine ⟨inv.valid, fun m => by simpa [Fanout.pack, Fanout.carried] using inv.refs m,
            inv.frees, inv.fresh, fun b => ?_, fun b later => ?_, inv.points,
            by simp [Fanout.pack, MetadataPackage.Fits]⟩
          · by_cases same : b = s.nextBlock
            · subst same; simp [Fanout.pack, Fanout.copyRefs] at unborn ⊢
              exact unborn
            · simpa [Fanout.pack, Fanout.copyRefs, Function.update_noteq same,
                Ne.symm same] using inv.copies b
          · have later : s.nextBlock + 1 ≤ b := later
            simp [Fanout.pack, Function.update_noteq (show b ≠ s.nextBlock by omega),
              inv.unborn b (by omega)]

-----------------------------------------------------------------------------------------
-- Queueing and cleaning up the package in flight
-----------------------------------------------------------------------------------------

/-- A queue that takes the package in flight makes it an unfinished package of its sink. -/
theorem Fanout.BalancedWith.enqueue {s : Fanout} {p : MetadataPackage}
    (inv : s.BalancedWith [p]) {k : Sink} {q : PcQueue MetadataPackage}
    (added : q.contents = (s.queues k).contents ++ [p]) (valid : q.Valid)
    : ({ s with queues := Function.update s.queues k q } : Fanout).Balanced := by
  have same : ∀ j, j ≠ k → ({ s with queues := Function.update s.queues k q } : Fanout).sinkPackages j
      = s.sinkPackages j := fun j ne => by simp [Fanout.sinkPackages, Function.update_noteq ne]
  have perm : (({ s with queues := Function.update s.queues k q } : Fanout).sinkPackages k).Perm
      (p :: s.sinkPackages k) := by
    simp only [Fanout.sinkPackages, Function.update_same, added, List.append_assoc,
      List.singleton_append]
    exact List.perm_middle
  have count := Fanout.count_add k same perm
  refine ⟨fun j => ?_, fun m => ?_, inv.frees, inv.fresh, fun b => ?_, inv.unborn,
    fun j x mem => ?_, fun _ h => nomatch h⟩
  · by_cases at_k : j = k
    · subst at_k; simpa using valid
    · simpa [Function.update_noteq at_k] using inv.valid j
  · have := inv.refs m
    simp only [Fanout.carried, count, List.countP_cons, List.countP_nil] at this ⊢
    omega
  · have := inv.copies b
    simp only [Fanout.copyRefs, count, List.countP_cons, List.countP_nil] at this ⊢
    omega
  · by_cases at_k : j = k
    · subst at_k
      rcases List.mem_cons.mp (perm.subset mem) with rfl | old
      · exact inv.inFlight x (List.mem_singleton_self x)
      · exact inv.points j x old
    · exact inv.points j x (same j at_k ▸ mem)

/-- Cleaning up the package in flight gives back its carrier reference or frees its copy. -/
theorem Fanout.BalancedWith.cleanupPackage {s : Fanout} {p : MetadataPackage}
    (inv : s.BalancedWith [p]) : (s.cleanupPackage p).Balanced := by
  obtain ⟨carrierFits, copyFits⟩ := inv.inFlight p (List.mem_singleton_self p)
  unfold Fanout.cleanupPackage
  split
  · rename_i m carrier
    have noCopy : ∀ b, p.data ≠ some (.copy b) := fun b h => by simp [copyFits b h] at carrier
    have pos : 0 < s.refs m := by rw [inv.refs m]; simp [carrier]
    have lt := inv.created pos
    refine ⟨inv.valid, fun m' => ?_, inv.frees_release pos, fun m' later => ?_, fun b => ?_,
      inv.unborn, inv.points, fun _ h => nomatch h⟩
    · have := inv.refs m'
      by_cases same : m' = m
      · subst same; simp [Fanout.carried, carrier] at this ⊢; omega
      · simp [Fanout.carried, carrier, Function.update_noteq same, Ne.symm same] at this ⊢
        omega
    · have later : s.nextMsg ≤ m' := later
      simp [Function.update_noteq (show m' ≠ m by omega), inv.fresh m' later]
    · simpa [Fanout.copyRefs, noCopy b] using inv.copies b
  · rename_i carrier
    match data : p.data with
    | none => exact (Fanout.balancedWith_bare carrier data).mp inv
    | some (.carrier m) => simp [carrierFits m data] at carrier
    | some (.copy b) =>
        have one := inv.copies b
        simp only [Fanout.copyRefs, List.countP_cons, List.countP_nil, data, beq_self_eq_true,
          if_true] at one
        have live : s.live b = true := by by_contra dead; simp [dead] at one
        refine ⟨inv.valid, fun m => by simpa [Fanout.carried, carrier] using inv.refs m,
          inv.frees, inv.fresh, fun b' => ?_, fun b' later => ?_, inv.points,
          fun _ h => nomatch h⟩
        · by_cases same : b' = b
          · subst same; simp [Fanout.copyRefs, live] at one ⊢; omega
          · simpa [Fanout.copyRefs, data, Function.update_noteq same, Ne.symm same]
              using inv.copies b'
        · have later : s.nextBlock ≤ b' := by simpa using later
          by_cases same : b' = b
          · simp [same]
          · simp [Function.update_noteq same, inv.unborn b' later]

-----------------------------------------------------------------------------------------
-- The consumers' steps, publishing, and whole runs
-----------------------------------------------------------------------------------------

theorem Fanout.step_take {s s' : Fanout} {k : Sink} (h : s.step (.take k) = some s')
    : s.taken k = none ∧ ∃ p q', pcQueueGetItem (s.queues k) = some (p, q') ∧
        s' = { s with queues := Function.update s.queues k q',
                      taken := Function.update s.taken k (some p) } := by
  simp only [Fanout.step] at h
  split at h
  · cases h
  · obtain ⟨⟨p, q'⟩, got, rfl⟩ := Option.map_eq_some'.mp h
    exact ⟨‹_›, p, q', got, rfl⟩

theorem Fanout.step_finish {s s' : Fanout} {k : Sink} (h : s.step (.finish k) = some s')
    : ∃ p, s.taken k = some p
      ∧ s' = ({ s with taken := Function.update s.taken k none } : Fanout).cleanupPackage p := by
  simp only [Fanout.step] at h
  split at h
  · cases h
  · exact ⟨_, ‹_›, (Option.some.inj h).symm⟩

/-- A consumer's take moves the head of its queue into its hands. -/
theorem Fanout.Balanced.take {s s' : Fanout} {k : Sink} (inv : s.Balanced)
    (h : s.step (.take k) = some s') : s'.Balanced := by
  obtain ⟨free, p, q', got, rfl⟩ := Fanout.step_take h
  have nonempty : 0 < (s.queues k).count := by
    by_contra empty; simp [pcQueueGetItem, Nat.eq_zero_of_not_pos empty] at got
  obtain ⟨q'', got', contents, v', -⟩ := pcQueueGetItem_take (inv.valid k) nonempty
  rw [got] at got'
  obtain ⟨rfl, rfl⟩ := Prod.mk.inj (Option.some.inj got')
  refine inv.of_moved (fun j => ?_) (fun j => ?_) rfl rfl rfl rfl rfl rfl
  · by_cases same : j = k
    · subst same; simpa using v'
    · simpa [Function.update_noteq same] using inv.valid j
  · by_cases same : j = k
    · subst same
      simp only [Fanout.sinkPackages, Function.update_same, free, contents, Option.toList_some,
        Option.toList_none, List.append_nil]
      exact List.perm_append_singleton _ _
    · simp [Fanout.sinkPackages, Function.update_noteq same]

/-- The package a consumer has finished with is in flight until its cleanup. -/
theorem Fanout.Balanced.untake {s : Fanout} (inv : s.Balanced) {k : Sink}
    {p : MetadataPackage} (taken : s.taken k = some p)
    : ({ s with taken := Function.update s.taken k none } : Fanout).BalancedWith [p] := by
  have same : ∀ j, j ≠ k → s.sinkPackages j
      = ({ s with taken := Function.update s.taken k none } : Fanout).sinkPackages j :=
    fun j ne => by simp [Fanout.sinkPackages, Function.update_noteq ne]
  have perm : (s.sinkPackages k).Perm
      (p :: ({ s with taken := Function.update s.taken k none } : Fanout).sinkPackages k) := by
    simp [Fanout.sinkPackages, taken, List.perm_append_singleton]
  have count := Fanout.count_add k same perm
  refine ⟨inv.valid, fun m => ?_, inv.frees, inv.fresh, fun b => ?_, inv.unborn,
    fun j x mem => inv.points j x ?_, fun x mem => inv.points k x ?_⟩
  · have := inv.refs m
    simp only [Fanout.carried, count, List.countP_cons, List.countP_nil] at this ⊢
    omega
  · have := inv.copies b
    simp only [Fanout.copyRefs, count, List.countP_cons, List.countP_nil] at this ⊢
    omega
  · by_cases at_k : j = k
    · subst at_k; exact perm.symm.subset (List.mem_cons_of_mem p mem)
    · rwa [same j at_k]
  · rw [List.mem_singleton.mp mem]; exact perm.symm.subset (List.mem_cons_self p _)

theorem Fanout.Balanced.finish {s s' : Fanout} {k : Sink} (inv : s.Balanced)
    (h : s.step (.finish k) = some s') : s'.Balanced := by
  obtain ⟨p, taken, rfl⟩ := Fanout.step_finish h
  exact (inv.untake taken).cleanupPackage

/-- `send_metadata_to_queue` keeps the balance: the package built is queued, or the queue
refuses it and it is cleaned up.
-/
theorem Fanout.Balanced.sendMetadataToQueue {s : Fanout} (inv : s.Balanced) (k : Sink)
    (type code length : Nat) {carrier : Option Nat}
    (held : ∀ m, carrier = some m → s.held = some m) (withData block lockTimedOut : Bool)
    : (s.sendMetadataToQueue k type code length carrier withData block lockTimedOut).Balanced := by
  have built := inv.pack type code length held withData
  simp only [Fanout.sendMetadataToQueue]
  generalize s.pack type code length carrier withData = b at built ⊢
  obtain ⟨b, p⟩ := b
  rcases pcQueueAddItem_cases (built.valid k) p block lockTimedOut
    with ⟨rc, added, valid⟩ | ⟨rc, same⟩
  · simp only [rc, if_true]
    exact built.enqueue added valid
  · simp only [if_neg rc, same, Function.update_eq_self]
    exact built.cleanupPackage

/-- Every step of the worker or of a consumer keeps the balance. -/
theorem Fanout.Balanced.step {s s' : Fanout} (inv : s.Balanced) {a : FanoutAction}
    (h : s.step a = some s') : s'.Balanced := by
  cases a with
  | receive => exact inv.receive h
  | publish k type code length withCarrier withData block busy =>
      simp only [Fanout.step, Option.some.injEq] at h
      subst h
      exact inv.sendMetadataToQueue k type code length
        (fun m c => by cases withCarrier <;> simp_all) withData block busy
  | finishRequest => exact inv.finishRequest h
  | take k => exact inv.take h
  | finish k => exact inv.finish h

/-- The balance holds in every state some interleaving reaches, by induction on the run. -/
theorem Fanout.Reachable.balanced {items : Sink → Nat → MetadataPackage} {s : Fanout}
    (reach : Fanout.Reachable items s) : s.Balanced := by
  induction reach with
  | initial => exact Fanout.balanced_initial items
  | step _ _ taken ih => exact ih.step taken

@[simp] theorem Fanout.pack_held (s : Fanout) (type code length : Nat) (carrier : Option Nat)
    (withData : Bool) : (s.pack type code length carrier withData).1.held = s.held := by
  unfold Fanout.pack; split <;> [rfl; cases withData <;> rfl]

@[simp] theorem Fanout.sendMetadataToQueue_held (s : Fanout) (k : Sink) (type code length : Nat)
    (carrier : Option Nat) (withData block lockTimedOut : Bool)
    : (s.sendMetadataToQueue k type code length carrier withData block lockTimedOut).held
      = s.held := by
  simp only [Fanout.sendMetadataToQueue]
  split
  · simp
  · split <;> simp

/-- A whole `send_metadata` with the held request as carrier, or without one, is a run of
publish steps, one per enabled queue.
-/
theorem Fanout.Reachable.sendMetadata {items : Sink → Nat → MetadataPackage} {s : Fanout}
    (reach : Fanout.Reachable items s) (cfg : SinkConfig) (type code length : Nat)
    (withCarrier withData block : Bool) (lockTimedOut : Sink → Bool)
    : Fanout.Reachable items (s.sendMetadata cfg type code length
        (if withCarrier then s.held else none) withData block lockTimedOut) := by
  unfold Fanout.sendMetadata
  generalize cfg.enabled = ks
  induction ks generalizing s with
  | nil => exact reach
  | cons k ks ih =>
      have next := reach.step (.publish k type code length withCarrier withData block
        (lockTimedOut k)) rfl
      have held := Fanout.sendMetadataToQueue_held s k type code length
        (if withCarrier then s.held else none) withData block (lockTimedOut k)
      simpa only [List.foldl_cons, held] using ih next

/-- No unfinished package's data lie in a freed message or in a freed copy. -/
theorem Fanout.Balanced.data_live {s : Fanout} (inv : s.Balanced) {k : Sink}
    {p : MetadataPackage} (mem : p ∈ s.sinkPackages k)
    : (∀ m, p.data = some (.carrier m) → s.frees m = 0)
      ∧ ∀ b, p.data = some (.copy b) → s.live b = true := by
  have counted : ∀ P : MetadataPackage → Bool, P p → 0 < s.count P := fun P h =>
    lt_of_lt_of_le (List.countP_pos_iff.mpr ⟨p, mem, h⟩) (s.countP_le_count k P)
  obtain ⟨carrierFits, -⟩ := inv.points k p mem
  constructor
  · intro m data
    have carried : 0 < s.carried m := counted _ (by simp [carrierFits m data])
    have pos : s.refs m ≠ 0 := by rw [inv.refs m]; omega
    simp [inv.frees m, pos]
  · intro b data
    have copied : 0 < s.copyRefs b := counted _ (by simp [data])
    have := inv.copies b
    by_contra dead
    simp [dead] at this
    omega

/-- Over every interleaving of the conversation worker (requests received, metadata
published with the request as carrier or without, requests finished) with the four sink
consumers: a message's reference count is the worker's reference plus the unfinished
packages carrying it; a message has been freed once if it was created and has no reference
left, and never otherwise; and the data of every unfinished package lie in a message not
freed or in a private copy not freed.
-/
theorem fanout_refcount_balance (items : Sink → Nat → MetadataPackage) {s : Fanout}
    (reach : Fanout.Reachable items s)
    : (∀ m, s.refs m = (if s.held = some m then 1 else 0) + s.carried m)
      ∧ (∀ m, s.frees m = if m < s.nextMsg ∧ s.refs m = 0 then 1 else 0)
      ∧ ∀ k, ∀ p ∈ s.sinkPackages k,
          (∀ m, p.data = some (.carrier m) → s.frees m = 0)
          ∧ ∀ b, p.data = some (.copy b) → s.live b = true := by
  have inv := reach.balanced
  exact ⟨fun m => by simpa using inv.refs m, inv.frees, fun k p mem => inv.data_live mem⟩

/-- Witness: the state after one request whose handler publishes into all four queues with
the request as carrier.
-/
theorem fanout_refcount_balance_published :
    let items : Sink → Nat → MetadataPackage := fun _ _ => ⟨0, 0, none, 0, none⟩
    let received : Fanout :=
      { Fanout.initial items with
        refs := Function.update (fun _ => 0) 0 1, held := some 0, nextMsg := 1 }
    let s := received.sendMetadata ⟨true, true, true⟩ 1 2 3 (some 0) true true (fun _ => false)
    (∀ m, s.refs m = (if s.held = some m then 1 else 0) + s.carried m)
      ∧ (∀ m, s.frees m = if m < s.nextMsg ∧ s.refs m = 0 then 1 else 0)
      ∧ ∀ k, ∀ p ∈ s.sinkPackages k,
          (∀ m, p.data = some (.carrier m) → s.frees m = 0)
          ∧ ∀ b, p.data = some (.copy b) → s.live b = true :=
  fanout_refcount_balance _
    ((Fanout.Reachable.initial.step .receive rfl).sendMetadata ⟨true, true, true⟩ 1 2 3 true true
      true fun _ => false)

end Shairport.Rtsp
