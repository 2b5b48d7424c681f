import ShairportRtsp.Codec.CString

/-! The metadata producer-consumer queue `pc_queue`: a ring of `capacity` slots with a
take pointer `toq`, a free pointer `eoq` and a `count`. The ring stands for the bounded FIFO
list read from `toq`; both operations act on that list as a FIFO does.
-/

namespace Shairport.Rtsp

/-- `pc_queue`; the mutex, the two condition variables and the name serve only locking
and logging, and `items` is the slot array.
-/
structure PcQueue (α : Type) where
  count : Nat
  capacity : Nat
  toq : Nat
  eoq : Nat
  items : Nat → α

/-- `pc_queue_init`: an empty ring over the caller's slot array. -/
def pcQueueInit {α : Type} (items : Nat → α) (numberOfItems : Nat) : PcQueue α :=
  { count := 0, capacity := numberOfItems, toq := 0, eoq := 0, items }

/-- The slot after `i`: `i++; if (i == capacity) i = 0;`. -/
def foldIndex (i capacity : Nat) : Nat := if i + 1 = capacity then 0 else i + 1

/-- `EBUSY`, returned when the lock was not obtained in time. -/
def ebusy : Nat := 16

/-- `EWOULDBLOCK`, returned when the queue is full. -/
def ewouldblock : Nat := 11

/-- `pc_queue_add_item (the_queue, the_stuff, block)`. A non-blocking call takes the lock
with a timeout (`lockTimedOut` says whether it ran out); a full queue never waits.
-/
def pcQueueAddItem {α : Type} (q : PcQueue α) (stuff : α) (block lockTimedOut : Bool)
    : Nat × PcQueue α :=
  if !block && lockTimedOut then (ebusy, q)
  else if q.count < q.capacity then
    (0, { q with items := Function.update q.items q.eoq stuff,
                 eoq := foldIndex q.eoq q.capacity, count := q.count + 1 })
  else (ewouldblock, q)

/-- `pc_queue_get_item`: the item at `toq`; on an empty queue the call waits on
`pc_queue_item_added_signal`, so it has no result yet.
-/
def pcQueueGetItem {α : Type} (q : PcQueue α) : Option (α × PcQueue α) :=
  if q.count = 0 then none
  else some (q.items q.toq, { q with toq := foldIndex q.toq q.capacity, count := q.count - 1 })

-----------------------------------------------------------------------------------------
-- The FIFO list a ring holds
-----------------------------------------------------------------------------------------

/-- `items[toq], items[(toq+1) mod c], ...`, `count` of them. -/
def PcQueue.contents {α : Type} (q : PcQueue α) : List α :=
  (List.range q.count).map fun k => q.items ((q.toq + k) % q.capacity)

/-- The representation invariant of the ring. -/
structure PcQueue.Valid {α : Type} (q : PcQueue α) : Prop where
  capacity_pos : 0 < q.capacity
  count_le : q.count ≤ q.capacity
  toq_lt : q.toq < q.capacity
  eoq_lt : q.eoq < q.capacity
  eoq_eq : q.eoq = (q.toq + q.count) % q.capacity

/-- The bounded FIFO of `capacity` items that `pc_queue_add_item` implements. -/
def fifoAdd {α : Type} (capacity : Nat) (list : List α) (x : α) (block lockTimedOut : Bool)
    : Nat × List α :=
  if !block && lockTimedOut then (ebusy, list)
  else if list.length < capacity then (0, list ++ [x]) else (ewouldblock, list)

/-- The FIFO removal `pc_queue_get_item` implements; it waits while the list is empty. -/
def fifoGet {α : Type} : List α → Option (α × List α)
  | [] => none
  | x :: rest => some (x, rest)

@[simp] theorem PcQueue.length_contents {α : Type} (q : PcQueue α)
    : q.contents.length = q.count := by
  simp [PcQueue.contents]

theorem foldIndex_mod {a c : Nat} (pos : 0 < c) : foldIndex (a % c) c = (a + 1) % c := by
  have lt := Nat.mod_lt a pos
  have step : (a + 1) % c = (a % c + 1) % c := (Nat.mod_add_mod a c 1).symm
  rw [step, foldIndex]
  split
  · rename_i last
    rw [last, Nat.mod_self]
  · rw [Nat.mod_eq_of_lt (show a % c + 1 < c by omega)]

/-- Two offsets below the capacity name different slots, as `count < capacity`. -/
theorem ring_slot_ne {toq k n c : Nat} (hk : k < n) (hn : n < c)
    : (toq + k) % c ≠ (toq + n) % c := by
  intro same
  have zero : (toq + n - (toq + k)) % c = 0 := Nat.sub_mod_eq_zero_of_mod_eq same.symm
  rw [Nat.add_sub_add_left] at zero
  have := Nat.le_of_dvd (by omega) (Nat.dvd_of_mod_eq_zero zero)
  omega

-----------------------------------------------------------------------------------------
-- Each operation on a valid ring
-----------------------------------------------------------------------------------------

theorem pcQueueInit_valid {α : Type} (items : Nat → α) {c : Nat} (pos : 0 < c)
    : (pcQueueInit items c).Valid :=
  ⟨pos, Nat.zero_le _, pos, pos, by simp [pcQueueInit]⟩

@[simp] theorem pcQueueInit_contents {α : Type} (items : Nat → α) (c : Nat)
    : (pcQueueInit items c).contents = [] := by
  simp [pcQueueInit, PcQueue.contents]

/-- An accepted add writes the free slot and appends to the list: the slots before it are
distinct from it, by `ring_slot_ne`.
-/
theorem pcQueueAddItem_accept {α : Type} {q : PcQueue α} (v : q.Valid) (room : q.count < q.capacity)
    (x : α) {block lockTimedOut : Bool} (lock : ¬ (!block && lockTimedOut) = true)
    : (pcQueueAddItem q x block lockTimedOut).1 = 0
      ∧ (pcQueueAddItem q x block lockTimedOut).2.contents = q.contents ++ [x]
      ∧ (pcQueueAddItem q x block lockTimedOut).2.Valid := by
  simp only [pcQueueAddItem, if_neg lock, if_pos room, true_and]
  refine ⟨?_, ?_⟩
  · simp only [PcQueue.contents, List.range_succ, List.map_append, List.map_cons,
      List.map_nil, Function.update_apply, ← v.eoq_eq, if_pos rfl]
    congr 1
    refine List.map_congr_left fun k mem => ?_
    rw [if_neg (v.eoq_eq ▸ ring_slot_ne (List.mem_range.mp mem) room)]
  · have eoq : foldIndex q.eoq q.capacity = (q.toq + (q.count + 1)) % q.capacity := by
      simp only [v.eoq_eq, foldIndex_mod v.capacity_pos, Nat.add_assoc]
    exact ⟨v.capacity_pos, room, v.toq_lt, eoq ▸ Nat.mod_lt _ v.capacity_pos, eoq⟩

/-- A full queue refuses the add and is left as it was. -/
theorem pcQueueAddItem_full {α : Type} {q : PcQueue α} (full : ¬ q.count < q.capacity)
    (x : α) (block lockTimedOut : Bool)
    : pcQueueAddItem q x block lockTimedOut
      = (if !block && lockTimedOut then ebusy else ewouldblock, q) := by
  unfold pcQueueAddItem
  split <;> simp_all

@[simp] theorem pcQueueAddItem_capacity {α : Type} (q : PcQueue α) (x : α)
    (block lockTimedOut : Bool) : (pcQueueAddItem q x block lockTimedOut).2.capacity = q.capacity := by
  unfold pcQueueAddItem; split_ifs <;> rfl

/-- An add either queues the item at the tail and returns 0, or returns an error code and
leaves the ring as it was.
-/
theorem pcQueueAddItem_cases {α : Type} {q : PcQueue α} (v : q.Valid) (x : α)
    (block lockTimedOut : Bool)
    : ((pcQueueAddItem q x block lockTimedOut).1 = 0
        ∧ (pcQueueAddItem q x block lockTimedOut).2.contents = q.contents ++ [x]
        ∧ (pcQueueAddItem q x block lockTimedOut).2.Valid)
      ∨ ((pcQueueAddItem q x block lockTimedOut).1 ≠ 0
        ∧ (pcQueueAddItem q x block lockTimedOut).2 = q) := by
  by_cases lock : (!block && lockTimedOut) = true
  · exact .inr (by simp [pcQueueAddItem, lock, ebusy])
  · by_cases room : q.count < q.capacity
    · exact .inl (pcQueueAddItem_accept v room x lock)
    · exact .inr (by simp [pcQueueAddItem_full room, lock, ewouldblock])

/-- A get on a non-empty ring returns the head of the list and leaves its tail. -/
theorem pcQueueGetItem_take {α : Type} {q : PcQueue α} (v : q.Valid) (nonempty : 0 < q.count)
    : ∃ q', pcQueueGetItem q = some (q.items q.toq, q')
      ∧ q.contents = q.items q.toq :: q'.contents ∧ q'.Valid ∧ q'.capacity = q.capacity := by
  obtain ⟨n, hn⟩ : ∃ n, q.count = n + 1 := ⟨q.count - 1, by omega⟩
  have toq : foldIndex q.toq q.capacity = (q.toq + 1) % q.capacity := by
    rw [← foldIndex_mod v.capacity_pos, Nat.mod_eq_of_lt v.toq_lt]
  refine ⟨{ q with toq := foldIndex q.toq q.capacity, count := n },
    by simp [pcQueueGetItem, hn], ?_, ?_, rfl⟩
  · simp only [PcQueue.contents, hn, List.range_succ_eq_map, List.map_cons, List.map_map,
      Nat.add_zero, Nat.mod_eq_of_lt v.toq_lt, toq]
    congr 1
    refine List.map_congr_left fun k _ => ?_
    simp only [Function.comp, Nat.mod_add_mod, Nat.succ_eq_add_one, Nat.add_assoc,
      Nat.add_comm 1 k]
  · have le := v.count_le
    refine ⟨v.capacity_pos, show n ≤ q.capacity by omega,
      by rw [toq]; exact Nat.mod_lt _ v.capacity_pos, v.eoq_lt, ?_⟩
    simp only [toq, v.eoq_eq, Nat.mod_add_mod, hn]
    congr 1
    omega

-----------------------------------------------------------------------------------------
-- The ring refines the FIFO
-----------------------------------------------------------------------------------------

/-- `q` is a well-formed ring on which both operations act as on the FIFO list it holds;
an add that does not return 0 leaves the ring as it was.
-/
structure PcQueue.Simulates {α : Type} (q : PcQueue α) : Prop where
  valid : q.Valid
  add : ∀ x block lockTimedOut,
    ((pcQueueAddItem q x block lockTimedOut).1, (pcQueueAddItem q x block lockTimedOut).2.contents)
      = fifoAdd q.capacity q.contents x block lockTimedOut
  unchanged : ∀ x block lockTimedOut,
    (pcQueueAddItem q x block lockTimedOut).1 ≠ 0 → (pcQueueAddItem q x block lockTimedOut).2 = q
  get : (pcQueueGetItem q).map (fun r => (r.1, r.2.contents)) = fifoGet q.contents

/-- Every valid ring simulates its FIFO list, by the three operation lemmas. -/
theorem PcQueue.Valid.simulates {α : Type} {q : PcQueue α} (v : q.Valid) : q.Simulates := by
  refine ⟨v, fun x block busy => ?_, fun x block busy rc => ?_, ?_⟩
  · by_cases lock : (!block && busy) = true
    · simp [pcQueueAddItem, fifoAdd, lock]
    · by_cases room : q.count < q.capacity
      · obtain ⟨rc, contents, -⟩ := pcQueueAddItem_accept v room x lock
        simp [fifoAdd, lock, room, rc, contents]
      · rw [pcQueueAddItem_full room]
        simp [fifoAdd, lock, room]
  · exact ((pcQueueAddItem_cases v x block busy).resolve_left fun added => rc added.1).2
  · by_cases empty : q.count = 0
    · have : q.contents = [] := List.eq_nil_of_length_eq_zero (by simp [empty])
      simp [pcQueueGetItem, empty, this, fifoGet]
    · obtain ⟨q', get, contents, -⟩ := pcQueueGetItem_take v (Nat.pos_of_ne_zero empty)
      simp [get, contents, fifoGet]

/-- A call on a metadata queue; a non-blocking add carries whether its lock timed out. -/
inductive QueueCall (α : Type)
  | add (item : α) (block lockTimedOut : Bool)
  | get

/-- The calls in order: the ring at the end, the items whose add returned 0 and the items
the gets returned. A get on an empty ring waits, and takes nothing here.
-/
def runQueue {α : Type} : PcQueue α → List (QueueCall α) → PcQueue α × List α × List α
  | q, [] => (q, [], [])
  | q, .add x block busy :: calls =>
      let r := runQueue (pcQueueAddItem q x block busy).2 calls
      (r.1, if (pcQueueAddItem q x block busy).1 = 0 then x :: r.2.1 else r.2.1, r.2.2)
  | q, .get :: calls =>
      match pcQueueGetItem q with
      | none => runQueue q calls
      | some (x, q') => let r := runQueue q' calls; (r.1, r.2.1, x :: r.2.2)

/-- Along any calls a valid ring stays valid, keeps its capacity, and what it held plus what
was accepted is what was delivered plus what it holds, by induction on the calls.
-/
theorem runQueue_fifo {α : Type} {q : PcQueue α} (v : q.Valid) (calls : List (QueueCall α))
    : (runQueue q calls).1.Valid ∧ (runQueue q calls).1.capacity = q.capacity
      ∧ q.contents ++ (runQueue q calls).2.1 = (runQueue q calls).2.2 ++ (runQueue q calls).1.contents := by
  induction calls generalizing q with
  | nil => simp [runQueue, v]
  | cons call calls ih =>
      cases call with
      | add x block busy =>
          rcases pcQueueAddItem_cases v x block busy with ⟨rc, contents, v'⟩ | ⟨rc, same⟩
          · obtain ⟨fv, fc, fl⟩ := ih v'
            refine ⟨fv, fc.trans (pcQueueAddItem_capacity q x block busy), ?_⟩
            simp only [runQueue, rc, if_true, ← fl, contents, List.append_assoc,
              List.singleton_append]
          · simpa [runQueue, rc, same] using ih v
      | get =>
          by_cases empty : q.count = 0
          · simpa [runQueue, pcQueueGetItem, empty] using ih v
          · obtain ⟨q', get, contents, v', cap⟩ := pcQueueGetItem_take v (Nat.pos_of_ne_zero empty)
            obtain ⟨fv, fc, fl⟩ := ih v'
            simp only [runQueue, get]
            exact ⟨fv, fc.trans cap, by rw [contents, List.cons_append, fl]; rfl⟩

/-- A queue made by `pc_queue_init` with capacity `c > 0`, after any adds and gets, is a
valid ring of capacity `c` simulating its FIFO list, and the gets have returned exactly the
accepted items, in the order they were accepted, each once, apart from those still queued.
-/
theorem pcQueue_fifo {α : Type} (items : Nat → α) {c : Nat} (pos : 0 < c)
    (calls : List (QueueCall α))
    : (runQueue (pcQueueInit items c) calls).1.Simulates
      ∧ (runQueue (pcQueueInit items c) calls).1.capacity = c
      ∧ (runQueue (pcQueueInit items c) calls).2.1
        = (runQueue (pcQueueInit items c) calls).2.2 ++ (runQueue (pcQueueInit items c) calls).1.contents := by
  obtain ⟨v, cap, fifo⟩ := runQueue_fifo (pcQueueInit_valid items pos) calls
  exact ⟨v.simulates, cap, by simpa using fifo⟩

/-- Witness: a ring of the metadata queues' 500 slots given a blocking add and a get. -/
theorem pcQueue_fifo_add_get :
    0 < 500
      ∧ (runQueue (pcQueueInit (fun _ => 0) 500) [.add 7 true false, .get]).1.Simulates
      ∧ (runQueue (pcQueueInit (fun _ => 0) 500) [.add 7 true false, .get]).1.capacity = 500
      ∧ (runQueue (pcQueueInit (fun _ => 0) 500) [.add 7 true false, .get]).2.1
        = (runQueue (pcQueueInit (fun _ => 0) 500) [.add 7 true false, .get]).2.2
          ++ (runQueue (pcQueueInit (fun _ => 0) 500) [.add 7 true false, .get]).1.contents :=
  ⟨by decide, pcQueue_fifo _ (by decide) _⟩

end Shairport.Rtsp
