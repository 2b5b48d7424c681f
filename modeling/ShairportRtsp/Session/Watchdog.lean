import ShairportRtsp.Codec.CString

/-! `player_watchdog_thread_code`, the thread `rtsp_conversation_thread_func` starts for each
connection. Every two seconds, while `config.dont_check_timeout` is 0 and `config.timeout` is
not, it reads `watchdog_bark_time`, which the player sets, and barks when at least
`config.timeout` seconds have passed since, in `uint64_t` arithmetic. The first bark stops
the conversation and cancels its thread; the third runs `config.cmd_unfixable`, once per
connection, or warns. In `rtsp.c` only the watchdog writes `watchdog_barks` and
`unfixable_error_reported`, and `rtsp_listen_loop` zeroes the record before.
-/

namespace Shairport.Rtsp

-----------------------------------------------------------------------------------------
-- The watchdog
-----------------------------------------------------------------------------------------

/-- What the watchdog reads of `config`: whether `dont_check_timeout` is set, the `int`
`timeout`, and whether `cmd_unfixable` is set.
-/
structure WatchdogConfig where
  dontCheckTimeout : Bool
  timeout : Int
  cmdUnfixable : Bool
  deriving DecidableEq, Repr

/-- The fields of `rtsp_conn_info` the watchdog writes, and the calls it makes:
`pthread_cancel (conn->thread)`, `command_execute (config.cmd_unfixable, ..)` and the
unrecoverable-error `warn`.
-/
structure Watchdog where
  watchdogBarks : Nat
  stop : Bool
  unfixableErrorReported : Bool
  cancels : Nat
  commands : Nat
  warnings : Nat
  deriving DecidableEq, Repr

/-- The record `rtsp_listen_loop` clears with `memset`. -/
def Watchdog.initial : Watchdog := ⟨0, false, false, 0, 0, 0⟩

/-- `uint64_t ct = config.timeout;` -/
def timeoutCt (timeout : Int) : UInt64 := (timeout % 2 ^ 64).toNat.toUInt64

/-- `(get_absolute_time_in_ns () - last_watchdog_bark_time) / 1000000000`. -/
def timeSinceLastBark (barkTime now : UInt64) : UInt64 := (now - barkTime) / 1000000000

/-- `conn->watchdog_barks++` and what follows: the first bark sets `conn->stop` and cancels
the conversation's thread, and the third runs `cmd_unfixable` if it is set and was not run
for the connection, or else warns.
-/
def Watchdog.bark (cfg : WatchdogConfig) (w : Watchdog) : Watchdog :=
  let w := { w with watchdogBarks := w.watchdogBarks + 1 }
  if w.watchdogBarks = 1 then { w with stop := true, cancels := w.cancels + 1 }
  else if w.watchdogBarks = 3 then
    if cfg.cmdUnfixable && !w.unfixableErrorReported then
      { w with unfixableErrorReported := true, commands := w.commands + 1 }
    else { w with warnings := w.warnings + 1 }
  else w

/-- One pass of the loop after its `usleep (2000000)`: `barkTime` is the
`watchdog_bark_time` read under `watchdog_mutex`, and `now` is what `get_absolute_time_in_ns`
returns.
-/
def Watchdog.check (cfg : WatchdogConfig) (barkTime now : UInt64) (w : Watchdog) : Watchdog :=
  if !cfg.dontCheckTimeout && cfg.timeout ≠ 0 then
    if barkTime ≠ 0 then
      if timeSinceLastBark barkTime now ≥ timeoutCt cfg.timeout then w.bark cfg else w
    else w
  else w

/-- The passes in order, each with the bark time it reads and the time it takes. -/
def Watchdog.run (cfg : WatchdogConfig) (w : Watchdog) (checks : List (UInt64 × UInt64))
    : Watchdog :=
  checks.foldl (fun w c => w.check cfg c.1 c.2) w

/-- Whether a pass barks. -/
def Barks (cfg : WatchdogConfig) (barkTime now : UInt64) : Prop :=
  cfg.dontCheckTimeout = false ∧ cfg.timeout ≠ 0 ∧ barkTime ≠ 0
    ∧ timeoutCt cfg.timeout ≤ timeSinceLastBark barkTime now

instance (cfg : WatchdogConfig) (barkTime now : UInt64) : Decidable (Barks cfg barkTime now) :=
  inferInstanceAs (Decidable (_ ∧ _))

/-- The passes of a run that bark. -/
def barkCount (cfg : WatchdogConfig) (checks : List (UInt64 × UInt64)) : Nat :=
  checks.countP fun c => decide (Barks cfg c.1 c.2)

theorem Watchdog.check_eq (cfg : WatchdogConfig) (barkTime now : UInt64) (w : Watchdog)
    : w.check cfg barkTime now = if Barks cfg barkTime now then w.bark cfg else w := by
  unfold Watchdog.check Barks
  by_cases off : cfg.dontCheckTimeout <;> by_cases zero : cfg.timeout = 0 <;>
    by_cases unset : barkTime = 0 <;> simp [off, zero, unset]

-----------------------------------------------------------------------------------------
-- What the barks count
-----------------------------------------------------------------------------------------

/-- The record after `n` barks from the cleared one: stopped and cancelled once from the
first, and the command run or the warning given once from the third.
-/
def Watchdog.afterBarks (cfg : WatchdogConfig) (n : Nat) : Watchdog :=
  ⟨n, decide (1 ≤ n), decide (3 ≤ n) && cfg.cmdUnfixable, min n 1,
    if 3 ≤ n ∧ cfg.cmdUnfixable = true then 1 else 0,
    if 3 ≤ n ∧ cfg.cmdUnfixable = false then 1 else 0⟩

/-- One more bark, by the three cases of the count it reaches. -/
theorem Watchdog.bark_afterBarks (cfg : WatchdogConfig) (n : Nat)
    : (Watchdog.afterBarks cfg n).bark cfg = Watchdog.afterBarks cfg (n + 1) := by
  unfold Watchdog.bark Watchdog.afterBarks
  dsimp only
  by_cases first : n = 0
  · subst first
    cases cfg.cmdUnfixable <;> rfl
  · by_cases third : n = 2
    · subst third
      cases cfg.cmdUnfixable <;> rfl
    · rw [if_neg (by omega), if_neg (by omega)]
      have three : 3 ≤ n ↔ 3 ≤ n + 1 := by omega
      simp only [three, Watchdog.mk.injEq, true_and, and_true]
      exact ⟨decide_eq_decide.mpr ⟨fun _ => by omega, fun _ => by omega⟩, by omega⟩

/-- A run adds one bark per pass that barks, by induction on the passes. -/
theorem Watchdog.run_afterBarks (cfg : WatchdogConfig)
    : ∀ (n : Nat) (checks : List (UInt64 × UInt64)),
        (Watchdog.afterBarks cfg n).run cfg checks = Watchdog.afterBarks cfg (n + barkCount cfg checks)
  | n, [] => rfl
  | n, (barkTime, now) :: rest => by
      rw [show (Watchdog.afterBarks cfg n).run cfg ((barkTime, now) :: rest)
          = ((Watchdog.afterBarks cfg n).check cfg barkTime now).run cfg rest from rfl,
        Watchdog.check_eq, barkCount, List.countP_cons]
      split
      · rename_i barks
        rw [Watchdog.bark_afterBarks, Watchdog.run_afterBarks, barkCount, decide_eq_true barks,
          if_pos rfl]
        congr 1
        omega
      · rename_i quiet
        rw [Watchdog.run_afterBarks, barkCount, decide_eq_false quiet]
        rfl

/-- Over every run of the watchdog on a connection, what it has done is fixed by the number
of passes that barked: the conversation is stopped and its thread cancelled once, at the
first, and never again; `cmd_unfixable` runs, or the warning is given, once, at the third,
and never again, whatever the later passes find.
-/
theorem Watchdog.run_barks (cfg : WatchdogConfig) (checks : List (UInt64 × UInt64))
    : Watchdog.initial.run cfg checks = Watchdog.afterBarks cfg (barkCount cfg checks) := by
  simpa using Watchdog.run_afterBarks cfg 0 checks

-----------------------------------------------------------------------------------------
-- The arithmetic of a pass
-----------------------------------------------------------------------------------------

theorem timeoutCt_toNat (timeout : Int) : (timeoutCt timeout).toNat = (timeout % 2 ^ 64).toNat := by
  simp only [timeoutCt, Nat.toUInt64, UInt64.ofNat, UInt64.toNat, BitVec.toNat_ofNat]
  omega

theorem timeSinceLastBark_toNat (barkTime now : UInt64)
    : (timeSinceLastBark barkTime now).toNat = (now - barkTime).toNat / 1000000000 := by
  simp [timeSinceLastBark, UInt64.toNat_div, UInt64.size]

/-- With a clock that does not go back, `uint64_t` arithmetic computes the silence: a pass
with the timeout checked and a positive `int` timeout barks exactly when at least `timeout`
whole seconds have passed since a bark time that is set.
-/
theorem barks_iff_silence {cfg : WatchdogConfig} (fits : FitsInt cfg.timeout)
    (checked : cfg.dontCheckTimeout = false) (positive : 0 < cfg.timeout) {barkTime now : UInt64}
    (set : barkTime ≠ 0) (monotone : barkTime.toNat ≤ now.toNat)
    : Barks cfg barkTime now ↔ cfg.timeout * 1000000000 ≤ now.toNat - barkTime.toNat := by
  have ct : (timeoutCt cfg.timeout).toNat = cfg.timeout.toNat := by
    rw [timeoutCt_toNat, Int.emod_eq_of_lt positive.le (by unfold FitsInt at fits; omega)]
  have since : (now - barkTime).toNat = now.toNat - barkTime.toNat := by
    rw [UInt64.toNat_sub]
    have := now.toNat_lt_size
    simp only [UInt64.size] at this ⊢
    omega
  simp only [Barks, checked, positive.ne', set, ne_eq, not_false_eq_true, true_and]
  rw [show timeoutCt cfg.timeout ≤ timeSinceLastBark barkTime now
      ↔ (timeoutCt cfg.timeout).toNat ≤ (timeSinceLastBark barkTime now).toNat from Iff.rfl,
    ct, timeSinceLastBark_toNat, since, Nat.le_div_iff_mul_le (by norm_num)]
  omega

/-- With the timeout checked, a positive `int` timeout and a clock that does not go back,
every run of the watchdog cancels the conversation exactly when one of its passes found a
bark time set and at least `timeout` seconds of silence since.
-/
theorem Watchdog.cancelled_iff_silence {cfg : WatchdogConfig} (fits : FitsInt cfg.timeout)
    (checked : cfg.dontCheckTimeout = false) (positive : 0 < cfg.timeout)
    (checks : List (UInt64 × UInt64)) (clock : ∀ c ∈ checks, c.1.toNat ≤ c.2.toNat)
    : (Watchdog.initial.run cfg checks).cancels = 1
      ↔ ∃ c ∈ checks, c.1 ≠ 0 ∧ cfg.timeout * 1000000000 ≤ c.2.toNat - c.1.toNat := by
  have counted := Watchdog.run_afterBarks cfg 0 checks
  rw [Nat.zero_add, show Watchdog.afterBarks cfg 0 = Watchdog.initial from rfl] at counted
  rw [counted, show (Watchdog.afterBarks cfg (barkCount cfg checks)).cancels
    = min (barkCount cfg checks) 1 from rfl, barkCount]
  have barked : min (checks.countP fun c => decide (Barks cfg c.1 c.2)) 1 = 1
      ↔ 0 < checks.countP fun c => decide (Barks cfg c.1 c.2) := by omega
  rw [barked, List.countP_pos_iff]
  refine exists_congr fun c => and_congr_right fun mem => ?_
  by_cases set : c.1 = 0
  · simp only [Barks, set, ne_eq, not_true_eq_false, false_and, and_false, decide_False,
      Bool.false_eq_true]
  · rw [decide_eq_true_iff, barks_iff_silence fits checked positive set (clock c mem)]
    exact ⟨fun silent => ⟨set, silent⟩, And.right⟩

/-- Witness: a timeout of 10 seconds, and ten seconds between the bark and the check. -/
theorem Watchdog.cancelled_iff_silence_ten :
    FitsInt 10 ∧ (false = false) ∧ (0 : Int) < 10
      ∧ (∀ c ∈ [((5000000000 : UInt64), (15000000000 : UInt64))], c.1.toNat ≤ c.2.toNat)
      ∧ ((Watchdog.initial.run ⟨false, 10, true⟩ [(5000000000, 15000000000)]).cancels = 1
        ↔ ∃ c ∈ [((5000000000 : UInt64), (15000000000 : UInt64))],
            c.1 ≠ 0 ∧ (10 : Int) * 1000000000 ≤ c.2.toNat - c.1.toNat) :=
  ⟨by decide, rfl, by decide, by decide,
    @Watchdog.cancelled_iff_silence ⟨false, 10, true⟩ (by decide) rfl (by decide) _ (by decide)⟩

/-- No pass barks with the timeout unchecked, zero or negative. A negative `int` timeout
passes the `config.timeout != 0` test, but as a `uint64_t` it is above `2 ^ 63`, more
seconds than the 64-bit nanosecond difference can hold.
-/
theorem not_barks_of_nonpos {cfg : WatchdogConfig} (fits : FitsInt cfg.timeout)
    (off : cfg.dontCheckTimeout = true ∨ cfg.timeout ≤ 0) (barkTime now : UInt64)
    : ¬ Barks cfg barkTime now := by
  rintro ⟨checked, nonzero, -, late⟩
  rcases off with unchecked | nonpos
  · simp [unchecked] at checked
  · have big : 2 ^ 63 ≤ (timeoutCt cfg.timeout).toNat := by
      rw [timeoutCt_toNat]
      unfold FitsInt at fits
      omega
    have small : (timeSinceLastBark barkTime now).toNat < 2 ^ 63 := by
      rw [timeSinceLastBark_toNat]
      have := (now - barkTime).toNat_lt_size
      simp only [UInt64.size] at this
      omega
    exact absurd (show (timeoutCt cfg.timeout).toNat ≤ (timeSinceLastBark barkTime now).toNat
      from late) (by omega)

/-- With the timeout unchecked, zero or negative, every run of the watchdog leaves the
connection as it was: no stop, no cancel, no command, whatever the clock and the bark times.
-/
theorem Watchdog.run_idle {cfg : WatchdogConfig} (fits : FitsInt cfg.timeout)
    (off : cfg.dontCheckTimeout = true ∨ cfg.timeout ≤ 0) (w : Watchdog)
    (checks : List (UInt64 × UInt64)) : w.run cfg checks = w := by
  induction checks generalizing w with
  | nil => rfl
  | cons c rest ih =>
      rw [show w.run cfg (c :: rest) = (w.check cfg c.1 c.2).run cfg rest from rfl,
        Watchdog.check_eq, if_neg (not_barks_of_nonpos fits off c.1 c.2), ih]

/-- Witness: with a timeout of -5 seconds, a silence of 10 ^ 9 seconds does not bark. -/
theorem Watchdog.run_idle_negative :
    FitsInt (-5) ∧ (false = true ∨ (-5 : Int) ≤ 0)
      ∧ Watchdog.initial.run ⟨false, -5, true⟩ [(1, 1000000000000000001)] = Watchdog.initial :=
  ⟨by decide, .inr (by decide),
    @Watchdog.run_idle ⟨false, -5, true⟩ (by decide) (.inr (by decide)) _ _⟩

end Shairport.Rtsp
