import ShairportRtsp.Codec.CString

/-! The sender-identity strings a connection owns: `dacp_active_remote` and `dacp_id`, which
`handle_setup` replaces, `UserAgent`, which a successful `handle_announce` sets, and
`auth_nonce`, which `rtsp_auth` makes; and what `rtsp_conversation_thread_cleanup_function`
frees. Blocks are numbered in the order `strdup` and `make_nonce` return them. No block is
freed twice, but `handle_announce` overwrites `UserAgent` without freeing the old copy, which
nothing can free afterwards.
-/

namespace Shairport.Rtsp

/-- The `rtsp_conn_info` fields that hold a connection's strings. -/
inductive IdentityField
  | dacpActiveRemote
  | dacpId
  | userAgent
  | authNonce
  deriving DecidableEq, Repr

/-- The blocks the fields hold, the next block the allocator returns, and the blocks `free`
has released, in order.
-/
structure Identity where
  held : IdentityField → Option Nat
  nextBlock : Nat
  freed : List Nat

/-- A new connection: `calloc` leaves every field `NULL`. -/
def Identity.initial : Identity := ⟨fun _ => none, 0, []⟩

/-- `if (conn->f) { free (conn->f); conn->f = NULL; }` -/
def Identity.release (s : Identity) (f : IdentityField) : Identity :=
  { s with freed := s.freed ++ (s.held f).toList, held := Function.update s.held f none }

/-- `conn->f = strdup (..)`, or `make_nonce ()`: a new block, whatever the field held. -/
def Identity.store (s : Identity) (f : IdentityField) : Identity :=
  { s with held := Function.update s.held f (some s.nextBlock), nextBlock := s.nextBlock + 1 }

/-- What a step of the conversation does to the strings. -/
inductive IdentityStep
  /-- `rtsp_auth` with a password, on a connection not yet authorized. -/
  | authenticate
  /-- `handle_setup` holding the player, with or without the `Active-Remote` and `DACP-ID`
  headers. -/
  | setup (activeRemote dacpId : Bool)
  /-- `handle_announce` reaching its 200 with a `User-Agent` header. -/
  | announceUserAgent
  /-- `rtsp_conversation_thread_cleanup_function`; whether `rtp_terminate`, which is not
  under src/, frees `dacp_active_remote`. -/
  | cleanup (terminateFrees : Bool)
  deriving DecidableEq, Repr

/-- `handle_setup` on one header: a fresh copy when the request has it, else `NULL`, the old
copy freed either way.
-/
def Identity.header (s : Identity) (f : IdentityField) (present : Bool) : Identity :=
  if present then (s.release f).store f else s.release f

def Identity.step (s : Identity) : IdentityStep → Identity
  | .authenticate => if (s.held .authNonce).isSome then s else s.store .authNonce
  | .setup activeRemote dacpId => (s.header .dacpActiveRemote activeRemote).header .dacpId dacpId
  | .announceUserAgent => s.store .userAgent
  | .cleanup terminateFrees =>
      let s := s.release .authNonce
      let s := if terminateFrees then s.release .dacpActiveRemote else s
      (s.release .dacpId).release .userAgent

def Identity.run (s : Identity) (steps : List IdentityStep) : Identity := steps.foldl Identity.step s

@[simp] theorem Identity.run_nil (s : Identity) : s.run [] = s := rfl

@[simp] theorem Identity.run_cons (s : Identity) (a : IdentityStep) (steps : List IdentityStep)
    : s.run (a :: steps) = (s.step a).run steps := rfl

theorem Identity.run_append (s : Identity) (first rest : List IdentityStep)
    : s.run (first ++ rest) = (s.run first).run rest :=
  List.foldl_append _ _ _ _

/-- Every step is a sequence of `release`s and `store`s: what both keep, every run keeps. -/
theorem Identity.step_preserves (P : Identity → Prop) (release : ∀ s f, P s → P (s.release f))
    (store : ∀ s f, P s → P (s.store f)) {s : Identity} (holds : P s) : ∀ a, P (s.step a)
  | .authenticate => by
      show P (if (s.held .authNonce).isSome then s else s.store .authNonce)
      split
      · exact holds
      · exact store _ _ holds
  | .setup activeRemote dacpId => by
      have header : ∀ t f present, P t → P (Identity.header t f present) := fun t f present h => by
        unfold Identity.header
        split
        · exact store _ _ (release _ _ h)
        · exact release _ _ h
      exact header _ _ _ (header _ _ _ holds)
  | .announceUserAgent => store _ _ holds
  | .cleanup terminateFrees => by
      show P (((if terminateFrees then (s.release .authNonce).release .dacpActiveRemote
        else s.release .authNonce).release .dacpId).release .userAgent)
      refine release _ _ (release _ _ ?_)
      split
      · exact release _ _ (release _ _ holds)
      · exact release _ _ holds

theorem Identity.run_preserves (P : Identity → Prop) (release : ∀ s f, P s → P (s.release f))
    (store : ∀ s f, P s → P (s.store f)) {s : Identity} (holds : P s) (steps : List IdentityStep)
    : P (s.run steps) := by
  induction steps generalizing s with
  | nil => exact holds
  | cons a steps ih => exact ih (Identity.step_preserves P release store holds a)

-----------------------------------------------------------------------------------------
-- No block is freed twice
-----------------------------------------------------------------------------------------

/-- The ledger's invariant: no block is freed twice or before it is allocated, a held block
is allocated and live, and no two fields hold one block.
-/
structure Identity.Sound (s : Identity) : Prop where
  freedOnce : s.freed.Nodup
  freedBelow : ∀ b ∈ s.freed, b < s.nextBlock
  heldBelow : ∀ f b, s.held f = some b → b < s.nextBlock
  heldLive : ∀ f b, s.held f = some b → b ∉ s.freed
  heldOnce : ∀ f g b, s.held f = some b → s.held g = some b → f = g

theorem Identity.sound_initial : Identity.initial.Sound :=
  ⟨List.nodup_nil, by simp [Identity.initial], by simp [Identity.initial],
    by simp [Identity.initial], by simp [Identity.initial]⟩

/-- After `release f`, a field holds what it held before, and `f` holds nothing. -/
theorem Identity.release_held {s : Identity} {f g : IdentityField} {b : Nat}
    (h : (s.release f).held g = some b) : g ≠ f ∧ s.held g = some b := by
  by_cases here : g = f
  · simp [Identity.release, here] at h
  · exact ⟨here, by simpa [Identity.release, Function.update_noteq here] using h⟩

/-- After `store f`, `f` holds the new block and every other field what it held before. -/
theorem Identity.store_held {s : Identity} {f g : IdentityField} {b : Nat}
    (h : (s.store f).held g = some b) : (b = s.nextBlock ∧ g = f) ∨ (g ≠ f ∧ s.held g = some b) := by
  by_cases here : g = f
  · simp only [Identity.store, here, Function.update_same, Option.some.injEq] at h
    exact .inl ⟨h.symm, here⟩
  · exact .inr ⟨here, by simpa [Identity.store, Function.update_noteq here] using h⟩

/-- Freeing a field's block frees it once, since no other field holds it. -/
theorem Identity.Sound.release {s : Identity} (sound : s.Sound) (f : IdentityField)
    : (s.release f).Sound := by
  have freed : (s.release f).freed = s.freed ++ (s.held f).toList := rfl
  refine ⟨?_, fun b mem => ?_, fun g b h => ?_, fun g b h => ?_, fun g g' b h h' => ?_⟩
  · rw [freed]
    cases held : s.held f with
    | none => simpa using sound.freedOnce
    | some b => simpa [List.nodup_append] using ⟨sound.freedOnce, sound.heldLive f b held⟩
  · rw [freed, List.mem_append] at mem
    rcases mem with old | mem
    · exact sound.freedBelow b old
    · exact sound.heldBelow f b (Option.mem_toList.mp mem)
  · exact sound.heldBelow g b (Identity.release_held h).2
  · obtain ⟨other, before⟩ := Identity.release_held h
    rw [freed, List.mem_append, not_or]
    exact ⟨sound.heldLive g b before, fun mem => other (sound.heldOnce g f b before
      (Option.mem_toList.mp mem))⟩
  · exact sound.heldOnce g g' b (Identity.release_held h).2 (Identity.release_held h').2

/-- A new block is in no field and was never freed. -/
theorem Identity.Sound.store {s : Identity} (sound : s.Sound) (f : IdentityField)
    : (s.store f).Sound := by
  have fresh : ∀ g b, s.held g = some b → b ≠ s.nextBlock := fun g b h =>
    Nat.ne_of_lt (sound.heldBelow g b h)
  refine ⟨sound.freedOnce, fun b mem => Nat.lt_succ_of_lt (sound.freedBelow b mem),
    fun g b h => ?_, fun g b h => ?_, fun g g' b h h' => ?_⟩
  · rcases Identity.store_held h with ⟨new, -⟩ | ⟨-, old⟩
    · exact new ▸ Nat.lt_succ_self _
    · exact Nat.lt_succ_of_lt (sound.heldBelow g b old)
  · rcases Identity.store_held h with ⟨new, -⟩ | ⟨-, old⟩
    · exact fun mem => Nat.ne_of_lt (sound.freedBelow b mem) new
    · exact sound.heldLive g b old
  · rcases Identity.store_held h with ⟨new, rfl⟩ | ⟨-, old⟩ <;>
      rcases Identity.store_held h' with ⟨new', rfl⟩ | ⟨-, old'⟩
    · rfl
    · exact absurd new (fresh g' b old')
    · exact absurd new' (fresh g b old)
    · exact sound.heldOnce g g' b old old'

/-- Over every run of a connection, from its start through its cleanup, no block is freed
twice and none is freed before it is allocated.
-/
theorem Identity.Sound.run {s : Identity} (sound : s.Sound) (steps : List IdentityStep)
    : (s.run steps).Sound :=
  Identity.run_preserves _ (fun _ f sound => sound.release f) (fun _ f sound => sound.store f)
    sound steps

-----------------------------------------------------------------------------------------
-- Orphaned blocks
-----------------------------------------------------------------------------------------

/-- An allocated block that no field holds and that is not freed: nothing can free it. -/
def Identity.Orphan (s : Identity) (b : Nat) : Prop :=
  b < s.nextBlock ∧ (∀ f, s.held f ≠ some b) ∧ b ∉ s.freed

theorem Identity.Orphan.release {s : Identity} {b : Nat} (orphan : s.Orphan b) (f : IdentityField)
    : (s.release f).Orphan b := by
  obtain ⟨below, unheld, live⟩ := orphan
  refine ⟨below, fun g h => unheld g (Identity.release_held h).2, ?_⟩
  show b ∉ s.freed ++ (s.held f).toList
  rw [List.mem_append, not_or]
  exact ⟨live, fun mem => unheld f (Option.mem_toList.mp mem)⟩

theorem Identity.Orphan.store {s : Identity} {b : Nat} (orphan : s.Orphan b) (f : IdentityField)
    : (s.store f).Orphan b := by
  obtain ⟨below, unheld, live⟩ := orphan
  refine ⟨Nat.lt_succ_of_lt below, fun g h => ?_, live⟩
  rcases Identity.store_held h with ⟨new, -⟩ | ⟨-, old⟩
  · exact Nat.ne_of_lt below new
  · exact unheld g old

/-- An orphaned block stays unfreed through every later step, the cleanup included. -/
theorem Identity.Orphan.run {s : Identity} {b : Nat} (orphan : s.Orphan b)
    (steps : List IdentityStep) : (s.run steps).Orphan b :=
  Identity.run_preserves (·.Orphan b) (fun _ f orphan => orphan.release f)
    (fun _ f orphan => orphan.store f) orphan steps

/-- After the cleanup, no field holds a block but `dacp_active_remote`, when `rtp_terminate`
leaves it: every other block still allocated is an orphan.
-/
theorem Identity.cleanup_held (s : Identity) (terminateFrees : Bool) {f : IdentityField}
    (kept : (s.step (.cleanup terminateFrees)).held f ≠ none)
    : f = .dacpActiveRemote ∧ terminateFrees = false := by
  cases f <;> cases terminateFrees <;>
    simp [Identity.step, Identity.release, Function.update] at kept ⊢

/-- A second successful ANNOUNCE with a `User-Agent` header overwrites the first copy without
freeing it: whatever the connection does next, and whatever `rtp_terminate` frees, the
cleanup never frees that block.
-/
theorem second_announce_leaks_userAgent (rest : List IdentityStep) (terminateFrees : Bool)
    : 0 ∉ (Identity.initial.run
        ([.announceUserAgent, .announceUserAgent] ++ rest ++ [.cleanup terminateFrees])).freed := by
  have orphan : (Identity.initial.run [.announceUserAgent, .announceUserAgent]).Orphan 0 := by
    refine ⟨by decide, fun f => ?_, by simp [Identity.run, Identity.step, Identity.store,
      Identity.initial]⟩
    cases f <;> simp [Identity.run, Identity.step, Identity.store, Identity.initial,
      Function.update]
  rw [Identity.run_append, Identity.run_append]
  exact ((orphan.run rest).run _).2.2

-----------------------------------------------------------------------------------------
-- What the cleanup frees
-----------------------------------------------------------------------------------------

/-- Every block allocated so far is freed or held by a field. -/
def Identity.Accounted (s : Identity) : Prop :=
  ∀ b < s.nextBlock, b ∈ s.freed ∨ ∃ f, s.held f = some b

theorem Identity.accounted_initial : Identity.initial.Accounted :=
  fun _ below => absurd below (Nat.not_lt_zero _)

theorem Identity.Accounted.release {s : Identity} (acc : s.Accounted) (f : IdentityField)
    : (s.release f).Accounted := by
  intro b below
  rcases acc b below with old | ⟨g, held⟩
  · exact .inl (List.mem_append_left _ old)
  · by_cases here : g = f
    · subst here
      exact .inl (List.mem_append_right _ (by simp [held]))
    · exact .inr ⟨g, by simpa [Identity.release, Function.update_noteq here] using held⟩

/-- A store into an empty field keeps every block accounted; into a full one it would orphan
the block the field held.
-/
theorem Identity.Accounted.store {s : Identity} (acc : s.Accounted) {f : IdentityField}
    (empty : s.held f = none) : (s.store f).Accounted := by
  intro b below
  by_cases old : b < s.nextBlock
  · rcases acc b old with freed | ⟨g, held⟩
    · exact .inl freed
    · have other : g ≠ f := by rintro rfl; simp [empty] at held
      exact .inr ⟨g, by simpa [Identity.store, Function.update_noteq other] using held⟩
  · have new : b = s.nextBlock := by simp only [Identity.store] at below; omega
    exact .inr ⟨f, by simp [Identity.store, new]⟩

/-- Every step keeps every block accounted, an ANNOUNCE that finds `UserAgent` set apart; by
cases on the step.
-/
theorem Identity.Accounted.step {s : Identity} (acc : s.Accounted) (a : IdentityStep)
    (fresh : a = .announceUserAgent → s.held .userAgent = none) : (s.step a).Accounted := by
  have header : ∀ {t : Identity} f present, t.Accounted → (t.header f present).Accounted :=
    fun f present acc => by
      unfold Identity.header
      split
      · exact (acc.release f).store (by simp [Identity.release])
      · exact acc.release f
  cases a with
  | authenticate =>
      show (if (s.held .authNonce).isSome then s else s.store .authNonce).Accounted
      split
      · exact acc
      · exact acc.store (Option.not_isSome_iff_eq_none.mp ‹_›)
  | setup activeRemote dacpId => exact header _ _ (header _ _ acc)
  | announceUserAgent => exact acc.store (fresh rfl)
  | cleanup terminateFrees =>
      show (((if terminateFrees then (s.release .authNonce).release .dacpActiveRemote
        else s.release .authNonce).release .dacpId).release .userAgent).Accounted
      refine (Identity.Accounted.release ?_ _).release _
      split
      · exact (acc.release _).release _
      · exact acc.release _

/-- Only an ANNOUNCE with a `User-Agent` header stores into `UserAgent`. -/
theorem Identity.step_userAgent_none {s : Identity} {a : IdentityStep}
    (other : a ≠ .announceUserAgent) (empty : s.held .userAgent = none)
    : (s.step a).held .userAgent = none := by
  cases a with
  | announceUserAgent => exact absurd rfl other
  | authenticate =>
      simp only [Identity.step]
      split <;> simpa [Identity.store] using empty
  | setup activeRemote dacpId =>
      simp only [Identity.step, Identity.header]
      split <;> split <;> simpa [Identity.store, Identity.release] using empty
  | cleanup terminateFrees => simp [Identity.step, Identity.release]

/-- With at most one ANNOUNCE that sets `UserAgent` ahead, every block stays accounted; by
induction over the run.
-/
theorem Identity.Accounted.run {s : Identity} (acc : s.Accounted) {steps : List IdentityStep}
    (once : steps.count .announceUserAgent ≤ 1)
    (fresh : .announceUserAgent ∈ steps → s.held .userAgent = none) : (s.run steps).Accounted := by
  induction steps generalizing s with
  | nil => exact acc
  | cons a rest ih =>
      refine ih (acc.step a fun e => fresh (e ▸ List.mem_cons_self _ _))
        ((List.count_le_count_cons _ a rest).trans once) fun mem => ?_
      by_cases e : a = .announceUserAgent
      · subst e
        have none : rest.count .announceUserAgent = 0 := by rw [List.count_cons_self] at once; omega
        exact absurd mem (List.count_eq_zero.mp none)
      · exact Identity.step_userAgent_none e (fresh (List.mem_cons_of_mem _ mem))

/-- With at most one ANNOUNCE that sets `UserAgent`, the cleanup frees every block the
connection allocated, each once, but the `dacp_active_remote` copy when `rtp_terminate`
leaves it: the overwrite of `UserAgent` is the only other way a block outlives the
connection. From the accounting over the run and `Identity.cleanup_held` at its end.
-/
theorem Identity.cleanup_frees_all (steps : List IdentityStep) (terminateFrees : Bool)
    (once : steps.count .announceUserAgent ≤ 1)
    : (Identity.initial.run (steps ++ [.cleanup terminateFrees])).freed.Nodup
      ∧ ∀ b < (Identity.initial.run (steps ++ [.cleanup terminateFrees])).nextBlock,
          b ∈ (Identity.initial.run (steps ++ [.cleanup terminateFrees])).freed
          ∨ terminateFrees = false
            ∧ (Identity.initial.run (steps ++ [.cleanup terminateFrees])).held .dacpActiveRemote
              = some b := by
  refine ⟨(Identity.sound_initial.run _).freedOnce, fun b below => ?_⟩
  rw [Identity.run_append, Identity.run_cons, Identity.run_nil] at below ⊢
  have acc := (Identity.accounted_initial.run once fun _ => rfl).step (.cleanup terminateFrees) nofun
  rcases acc b below with freed | ⟨f, held⟩
  · exact .inl freed
  · obtain ⟨rfl, kept⟩ := @Identity.cleanup_held (Identity.initial.run steps) terminateFrees f
      (by simp [held])
    exact .inr ⟨kept, held⟩

theorem Identity.cleanup_frees_all_resetup :
    (Identity.initial.run ([.authenticate, .setup true true, .announceUserAgent, .setup true false]
        ++ [.cleanup false])).freed.Nodup
      ∧ ∀ b < (Identity.initial.run ([.authenticate, .setup true true, .announceUserAgent,
          .setup true false] ++ [.cleanup false])).nextBlock,
          b ∈ (Identity.initial.run ([.authenticate, .setup true true, .announceUserAgent,
            .setup true false] ++ [.cleanup false])).freed
          ∨ false = false
            ∧ (Identity.initial.run ([.authenticate, .setup true true, .announceUserAgent,
              .setup true false] ++ [.cleanup false])).held .dacpActiveRemote = some b :=
  Identity.cleanup_frees_all _ false (by decide)

end Shairport.Rtsp
