import ShairportRtsp.Metadata.Dmap

/-! `metadata_multicast_process`: one datagram `type ‖ code ‖ data` for an item that fits
the socket buffer, else numbered `ssncchnk` chunks of at most `L - 24` payload bytes, where
`L` is `config.metadata_sockmsglength`. The datagrams are worked out in closed form: the
chunk count is the ceiling of `n / (L - 24)`, each chunk is the next slice of the payload,
every datagram fits the buffer, and the slices give the payload back.
-/

namespace Shairport.Rtsp

/-- The multicast sink: `metadata_sock`, negative when no socket is open, and
`config.metadata_sockmsglength`, the size of the datagram buffer `metadata_sockmsg`. The
model takes a length above the 24-byte chunk header; at 24 the source divides by zero and
below it its `int` arithmetic wraps.
-/
structure MulticastSink where
  sock : Int
  sockmsglength : Nat
  roomy : 24 < sockmsglength

/-- The chunk header `"ssncchnk" ‖ chunk_ix ‖ chunk_total ‖ type ‖ code`, each number
`htonl`'d.
-/
def chunkHeader (chunkIx chunkTotal type code : Nat) : Bytes :=
  ascii "ssncchnk" ++ be32 chunkIx ++ be32 chunkTotal ++ be32 type ++ be32 code

/-- The `do { .. } while (1)` of the chunked branch from chunk `chunkIx`, with `dataCrsr`
the bytes not yet sent (`remaining` is their number): send the next
`min (remaining, L - 24)` of them under the header, and stop once none is left.
-/
def multicastChunks (cfg : MulticastSink) (type code chunkTotal chunkIx : Nat) (dataCrsr : Bytes)
    : List Bytes :=
  let datalen := min dataCrsr.length (cfg.sockmsglength - 24)
  let msg := chunkHeader chunkIx chunkTotal type code ++ dataCrsr.take datalen
  if dataCrsr.length - datalen = 0 then [msg]
  else msg :: multicastChunks cfg type code chunkTotal (chunkIx + 1) (dataCrsr.drop datalen)
termination_by dataCrsr.length
decreasing_by
  have := cfg.roomy
  simp only [List.length_drop]
  omega

/-- `metadata_multicast_process (type, code, data, length)`: the datagrams `sendto` sends,
in order; `data` holds the item's `length` bytes.
-/
def metadataMulticastProcess (cfg : MulticastSink) (type code : Nat) (data : Bytes) : List Bytes :=
  if 0 ≤ cfg.sock ∧ data.length < cfg.sockmsglength - 8 then [be32 type ++ be32 code ++ data]
  else if 0 ≤ cfg.sock then
    let chunkTotal := data.length / (cfg.sockmsglength - 24)
    let chunkTotal :=
      if chunkTotal * (cfg.sockmsglength - 24) < data.length then chunkTotal + 1 else chunkTotal
    multicastChunks cfg type code chunkTotal 0 data
  else []

-----------------------------------------------------------------------------------------
-- The chunk count
-----------------------------------------------------------------------------------------

/-- The source's count, a quotient rounded up when it leaves a remainder, is the ceiling. -/
theorem chunkTotal_eq_ceil (n : Nat) {d : Nat} (pos : 0 < d)
    : (if n / d * d < n then n / d + 1 else n / d) = (n + d - 1) / d := by
  have split : n / d * d + n % d = n := Nat.div_add_mod' n d
  have small := Nat.mod_lt n pos
  split
  · exact (Nat.div_eq_of_lt_le (by rw [Nat.add_mul]; omega) (by rw [Nat.add_mul, Nat.add_mul]; omega)).symm
  · exact (Nat.div_eq_of_lt_le (by omega) (by rw [Nat.add_mul]; omega)).symm

/-- The ceiling's chunks cover the payload. -/
theorem le_ceil_mul (n : Nat) {d : Nat} (pos : 0 < d) : n ≤ (n + d - 1) / d * d := by
  have split : (n + d - 1) / d * d + (n + d - 1) % d = n + d - 1 := Nat.div_add_mod' _ d
  have small := Nat.mod_lt (n + d - 1) pos
  omega

/-- One more chunk for `d` more bytes. -/
theorem ceil_add_room (n : Nat) {d : Nat} (pos : 0 < d) : (n + d + d - 1) / d = (n + d - 1) / d + 1 := by
  rw [show n + d + d - 1 = n + d - 1 + d by omega, Nat.add_div_right _ pos]

-----------------------------------------------------------------------------------------
-- The loop
-----------------------------------------------------------------------------------------

section Loop

variable (cfg : MulticastSink) (type code chunkTotal : Nat)

/-- The loop from chunk `i` over a non-empty rest sends one datagram per `L - 24` bytes,
rounded up: chunk `i + j` carries the `j`-th slice of the rest. By induction on the length
of the rest.
-/
theorem multicastChunks_eq {xs : Bytes} (nonempty : xs ≠ []) (i : Nat)
    : multicastChunks cfg type code chunkTotal i xs
      = (List.range ((xs.length + (cfg.sockmsglength - 24) - 1) / (cfg.sockmsglength - 24))).map
          fun j => chunkHeader (i + j) chunkTotal type code
            ++ (xs.drop (j * (cfg.sockmsglength - 24))).take (cfg.sockmsglength - 24) := by
  have room : 0 < cfg.sockmsglength - 24 := by have := cfg.roomy; omega
  obtain ⟨len, sized⟩ : ∃ len, xs.length = len := ⟨_, rfl⟩
  induction len using Nat.strong_induction_on generalizing xs i with
  | _ len ih =>
      have filled : 0 < len := by rw [← sized]; exact List.length_pos.mpr nonempty
      rw [multicastChunks]
      split
      · rename_i done
        have one : (xs.length + (cfg.sockmsglength - 24) - 1) / (cfg.sockmsglength - 24) = 1 :=
          Nat.div_eq_of_lt_le (by omega) (by omega)
        rw [one, min_eq_left (by omega), List.take_of_length_le (le_refl _)]
        simp only [List.range_succ, List.range_zero, List.nil_append, List.map_cons, List.map_nil,
          Nat.add_zero, Nat.zero_mul, List.drop_zero,
          List.take_of_length_le (show xs.length ≤ cfg.sockmsglength - 24 by omega)]
      · rename_i more
        have rest : xs.drop (cfg.sockmsglength - 24) ≠ [] := by simp; omega
        rw [min_eq_right (by omega), ih _ (by rw [← sized]; simp; omega) rest (i + 1) rfl,
          show xs.length = xs.length - (cfg.sockmsglength - 24) + (cfg.sockmsglength - 24) by omega,
          ceil_add_room _ room, List.range_succ_eq_map]
        simp only [List.length_drop, List.map_cons, List.map_map, Nat.add_zero, Nat.zero_mul,
          List.drop_zero]
        congr 1
        refine List.map_congr_left fun j _ => ?_
        simp only [Function.comp, List.drop_drop, Nat.succ_mul]
        rw [show i + 1 + j = i + j.succ by omega, Nat.add_comm (cfg.sockmsglength - 24)]

end Loop

-----------------------------------------------------------------------------------------
-- Slices
-----------------------------------------------------------------------------------------

/-- The slice `[i d, min (n, (i + 1) d))` of the payload is the `d` bytes from `i d`, as far
as there are any.
-/
theorem slice_eq_take (data : Bytes) (d i : Nat)
    : (data.drop (i * d)).take (min data.length ((i + 1) * d) - i * d) = (data.drop (i * d)).take d := by
  have length := List.length_drop (i * d) data
  rw [show min data.length ((i + 1) * d) - i * d = min (data.length - i * d) d by
    rw [Nat.succ_mul]; omega, Nat.min_comm, ← List.take_take, ← length, List.take_length]

/-- Slices of `d` bytes, as many as cover the payload, give it back, by induction on their
number.
-/
theorem flatten_slices {d : Nat} : ∀ {k : Nat} {data : Bytes}, data.length ≤ k * d →
    ((List.range k).map fun i => (data.drop (i * d)).take d).flatten = data
  | 0, data, short => by simp at short; simp [short]
  | k + 1, data, short => by
      rw [List.range_succ_eq_map, List.map_cons, List.flatten_cons, List.map_map]
      have rest := @flatten_slices d k (data.drop d) (by simp; rw [Nat.succ_mul] at short; omega)
      simp only [Function.comp, Nat.succ_mul, Nat.zero_mul, List.drop_zero] at rest ⊢
      conv => rhs; rw [← List.take_append_drop d data]
      congr 1
      rw [← rest]
      congr 1
      refine List.map_congr_left fun j _ => ?_
      simp only [Function.comp_apply, Nat.succ_mul]
      rw [List.drop_drop, Nat.add_comm]

-----------------------------------------------------------------------------------------
-- The datagrams
-----------------------------------------------------------------------------------------

/-- With an open socket, an item of `n < L - 8` bytes goes out as one datagram
`type ‖ code ‖ payload`, and a larger one as `⌈n / (L - 24)⌉` chunks, chunk `i` carrying
`"ssncchnk"`, `i`, the count, `type` and `code`, then the payload bytes
`[i (L - 24), min (n, (i + 1) (L - 24)))`. Every datagram fits the `L`-byte buffer, and the
slices in order are the payload.
-/
theorem metadataMulticastProcess_datagrams (cfg : MulticastSink) (opened : 0 ≤ cfg.sock)
    (type code : Nat) (data : Bytes)
    : let L := cfg.sockmsglength
      let total := (data.length + (L - 24) - 1) / (L - 24)
      let slice := fun i =>
        (data.drop (i * (L - 24))).take (min data.length ((i + 1) * (L - 24)) - i * (L - 24))
      metadataMulticastProcess cfg type code data
        = (if data.length < L - 8 then [be32 type ++ be32 code ++ data]
           else (List.range total).map fun i =>
             ascii "ssncchnk" ++ be32 i ++ be32 total ++ be32 type ++ be32 code ++ slice i)
      ∧ (∀ d ∈ metadataMulticastProcess cfg type code data, d.length ≤ L)
      ∧ ((List.range total).map slice).flatten = data := by
  intro L total slice
  have room : 0 < L - 24 := by have := cfg.roomy; omega
  have slices : slice = fun i => (data.drop (i * (L - 24))).take (L - 24) :=
    funext fun i => slice_eq_take data (L - 24) i
  have datagrams : metadataMulticastProcess cfg type code data
      = (if data.length < L - 8 then [be32 type ++ be32 code ++ data]
         else (List.range total).map fun i =>
           ascii "ssncchnk" ++ be32 i ++ be32 total ++ be32 type ++ be32 code ++ slice i) := by
    unfold metadataMulticastProcess
    by_cases small : data.length < L - 8
    · simp only [if_pos (And.intro opened small), if_pos small]
    · have filled : data ≠ [] := List.ne_nil_of_length_pos (by omega)
      simp only [if_neg (fun both : _ ∧ _ => small both.2), if_pos opened, if_neg small,
        chunkTotal_eq_ceil _ room, multicastChunks_eq cfg type code _ filled, slices,
        Nat.zero_add]
      rfl
  refine ⟨datagrams, fun d sent => ?_, ?_⟩
  · rw [datagrams] at sent
    split at sent
    · simp only [List.mem_singleton] at sent
      subst sent
      simp only [List.length_append, length_be32]
      omega
    · obtain ⟨i, -, rfl⟩ := List.mem_map.mp sent
      simp only [slices, List.length_append, length_be32, List.length_take]
      have header : (ascii "ssncchnk").length = 8 := rfl
      omega
  · rw [slices]
    exact flatten_slices (le_ceil_mul _ room)

/-- Witness: a 25-byte item over a 30-byte buffer goes out in five chunks, each within the
buffer.
-/
theorem metadataMulticastProcess_datagrams_chunked :
    (0 : Int) ≤ 3
      ∧ (metadataMulticastProcess ⟨3, 30, by decide⟩ 1 2 (List.replicate 25 7)).length = 5
      ∧ ∀ d ∈ metadataMulticastProcess ⟨3, 30, by decide⟩ 1 2 (List.replicate 25 7), d.length ≤ 30 :=
  have sent := metadataMulticastProcess_datagrams ⟨3, 30, by decide⟩ (by decide) 1 2
    (List.replicate 25 7)
  ⟨by decide, by rw [sent.1]; decide, sent.2.1⟩

end Shairport.Rtsp
