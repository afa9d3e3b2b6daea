import Luna.Lib.ScaledDivision
import Luna.Timer
import Luna.TimerManager

/-!
# The clocks of the child and of the manager

`task_time` of the child rounds cycles down to nanoseconds, `ns_to_cycles` of the manager
rounds nanoseconds up to cycles.  Both are given the frequency that `send_start` passes on.
-/

namespace Luna.Clocks

open ScaledDivision TimerManager

/-- No product of the conversion leaves the word, and neither does their sum. -/
structure NsToCyclesFits (hardware : Hardware) (ns : Nat) : Prop where
  seconds : ns / 1000000000 * hardware.tscFrequency < 2 ^ 64
  remainder : ns % 1000000000 * hardware.tscFrequency + 999999999 < 2 ^ 64
  sum : ns / 1000000000 * hardware.tscFrequency +
    (ns % 1000000000 * hardware.tscFrequency + 999999999) / 1000000000 < 2 ^ 64

/-- The same of `cycles_to_ns` and of `task_time`, which compute alike. -/
structure CyclesToNsFits (frequency cycles : Nat) : Prop where
  seconds : cycles / frequency * 1000000000 < 2 ^ 64
  remainder : cycles % frequency * 1000000000 < 2 ^ 64
  sum : cycles / frequency * 1000000000 + cycles % frequency * 1000000000 / frequency < 2 ^ 64

section Conversions

variable {hardware : Hardware} {frequency ns cycles : Nat}

theorem nsToCycles_fits (bounded : hardware.tscFrequency ≤ 10 ^ 10)
    (fits : ns * hardware.tscFrequency ⌈/⌉ 1000000000 < 2 ^ 64) : NsToCyclesFits hardware ns := by
  have split : ns / 1000000000 * hardware.tscFrequency +
      (ns % 1000000000 * hardware.tscFrequency + 999999999) / 1000000000 =
        ns * hardware.tscFrequency ⌈/⌉ 1000000000 := ceil_split (by decide)
  have below : ns % 1000000000 ≤ 999999999 := by omega
  have product := Nat.mul_le_mul below bounded
  constructor
  · omega
  · omega
  · omega

theorem nsToCycles_eq (bounded : hardware.tscFrequency ≤ 10 ^ 10)
    (fits : ns * hardware.tscFrequency ⌈/⌉ 1000000000 < 2 ^ 64) :
    hardware.nsToCycles ns = ns * hardware.tscFrequency ⌈/⌉ 1000000000 := by
  have exact := nsToCycles_fits bounded fits
  unfold Hardware.nsToCycles nsToCycles word
  dsimp only
  rw [Nat.mod_eq_of_lt exact.seconds, Nat.mod_eq_of_lt exact.remainder, Nat.mod_eq_of_lt exact.sum]
  exact ceil_split (by decide)

theorem cyclesToNs_fits (positive : 0 < frequency) (bounded : frequency ≤ 10 ^ 10)
    (fits : cycles * 1000000000 / frequency < 2 ^ 64) : CyclesToNsFits frequency cycles := by
  have split : cycles / frequency * 1000000000 + cycles % frequency * 1000000000 / frequency =
      cycles * 1000000000 / frequency := floor_split positive
  have below : cycles % frequency ≤ 10 ^ 10 := (Nat.mod_lt cycles positive).le.trans bounded
  have product := Nat.mul_le_mul_right 1000000000 below
  rw [← split] at fits
  exact ⟨(Nat.le_add_right _ _).trans_lt fits, product.trans_lt (by decide), fits⟩

theorem cyclesToNs_eq (bounded : hardware.tscFrequency ≤ 10 ^ 10)
    (fits : cycles * 1000000000 / hardware.tscFrequency < 2 ^ 64) :
    hardware.cyclesToNs cycles = cycles * 1000000000 / hardware.tscFrequency := by
  have exact := cyclesToNs_fits hardware.positive bounded fits
  unfold Hardware.cyclesToNs word
  dsimp only
  rw [Nat.mod_eq_of_lt exact.seconds, Nat.mod_eq_of_lt exact.remainder, Nat.mod_eq_of_lt exact.sum]
  exact floor_split hardware.positive

end Conversions

section TaskTime

variable {clock : Timer.Clock} {reading later : Nat}

/-- The cycles since `task_time_epoch`, of two words. -/
def elapsed (clock : Timer.Clock) (reading : Nat) : Nat :=
  word (reading + 2 ^ 64 - word clock.epoch)

theorem elapsed_eq (epochWord : clock.epoch < 2 ^ 64) (after : clock.epoch ≤ reading)
    (readingWord : reading < 2 ^ 64) : elapsed clock reading = reading - clock.epoch := by
  unfold elapsed word
  rw [Nat.mod_eq_of_lt epochWord]
  omega

theorem taskTime_eq (bounded : clock.frequency ≤ 10 ^ 10)
    (fits : elapsed clock reading * 1000000000 / clock.frequency < 2 ^ 64) :
    clock.taskTime reading = elapsed clock reading * 1000000000 / clock.frequency := by
  have exact := cyclesToNs_fits clock.positive bounded fits
  unfold Timer.Clock.taskTime
  rw [← elapsed]
  dsimp only
  unfold word
  rw [Nat.mod_eq_of_lt exact.remainder, Nat.mod_eq_of_lt exact.sum]
  exact floor_split clock.positive

/-- The exact time of a later reading bounds that of an earlier one. -/
theorem elapsed_floor_le (epochWord : clock.epoch < 2 ^ 64) (after : clock.epoch ≤ reading)
    (ordered : reading ≤ later) (laterWord : later < 2 ^ 64) :
    elapsed clock reading * 1000000000 / clock.frequency ≤
      elapsed clock later * 1000000000 / clock.frequency := by
  apply floor_mono
  rw [elapsed_eq epochWord after (ordered.trans_lt laterWord),
    elapsed_eq epochWord (after.trans ordered) laterWord]
  exact Nat.sub_le_sub_right ordered _

theorem taskTime_mono (bounded : clock.frequency ≤ 10 ^ 10) (epochWord : clock.epoch < 2 ^ 64)
    (after : clock.epoch ≤ reading) (ordered : reading ≤ later) (laterWord : later < 2 ^ 64)
    (fits : elapsed clock later * 1000000000 / clock.frequency < 2 ^ 64) :
    clock.taskTime reading ≤ clock.taskTime later := by
  have before := elapsed_floor_le epochWord after ordered laterWord
  rw [taskTime_eq bounded fits, taskTime_eq bounded (before.trans_lt fits)]
  exact before

end TaskTime

/-- From the child's reading to the interrupt at least the requested time passes on the
child's clock. -/
theorem taskTime_after_arm {clock : Timer.Clock} {hardware : Hardware}
    (same : hardware.tscFrequency = clock.frequency) (bounded : clock.frequency ≤ 10 ^ 10)
    (epochWord : clock.epoch < 2 ^ 64) {ns computed armed handled : Nat}
    (cyclesFit : ns * clock.frequency ⌈/⌉ 1000000000 < 2 ^ 64) (after : clock.epoch ≤ computed)
    (armedLater : computed ≤ armed) (due : armed + hardware.nsToCycles ns ≤ handled)
    (handledWord : handled < 2 ^ 64)
    (fits : elapsed clock handled * 1000000000 / clock.frequency < 2 ^ 64) :
    clock.taskTime computed + ns ≤ clock.taskTime handled := by
  rw [nsToCycles_eq (same ▸ bounded) (same ▸ cyclesFit), same] at due
  obtain ⟨span, spanEq⟩ : ∃ span, span = ns * clock.frequency ⌈/⌉ 1000000000 := ⟨_, rfl⟩
  rw [← spanEq] at due
  have ordered : computed ≤ handled := by omega
  have before := elapsed_floor_le epochWord after ordered handledWord
  rw [taskTime_eq bounded fits, taskTime_eq bounded (before.trans_lt fits)]
  have scaled : elapsed clock computed * 1000000000 / clock.frequency + ns ≤
      (elapsed clock computed + (ns * clock.frequency ⌈/⌉ 1000000000)) * 1000000000 /
        clock.frequency :=
    add_le_floor_of_ceil clock.positive (by decide)
  refine scaled.trans (floor_mono ?_)
  rw [elapsed_eq epochWord after (by omega), elapsed_eq epochWord (by omega) handledWord, ← spanEq]
  omega

/-- The conversions are exact, and a due timer of the manager is never early for the child. -/
theorem clocks_agree (clock : Timer.Clock) (hardware : Hardware)
    (same : hardware.tscFrequency = clock.frequency) (bounded : clock.frequency ≤ 10 ^ 10)
    (epochWord : clock.epoch < 2 ^ 64) :
    (∀ ns < 2 ^ 64, ns * clock.frequency ⌈/⌉ 1000000000 < 2 ^ 64 →
      hardware.nsToCycles ns = ns * clock.frequency ⌈/⌉ 1000000000 ∧
        NsToCyclesFits hardware ns) ∧
    (∀ cycles < 2 ^ 64, cycles * 1000000000 / clock.frequency < 2 ^ 64 →
      hardware.cyclesToNs cycles = cycles * 1000000000 / clock.frequency ∧
        CyclesToNsFits clock.frequency cycles) ∧
    (∀ reading < 2 ^ 64, elapsed clock reading * 1000000000 / clock.frequency < 2 ^ 64 →
      clock.taskTime reading = elapsed clock reading * 1000000000 / clock.frequency ∧
        (clock.epoch ≤ reading → elapsed clock reading = reading - clock.epoch) ∧
        ∀ earlier ≤ reading, clock.epoch ≤ earlier →
          clock.taskTime earlier ≤ clock.taskTime reading) ∧
    (∀ ns computed armed handled : Nat, ns < 2 ^ 64 → handled < 2 ^ 64 →
      ns * clock.frequency ⌈/⌉ 1000000000 < 2 ^ 64 →
      elapsed clock handled * 1000000000 / clock.frequency < 2 ^ 64 →
      clock.epoch ≤ computed → computed ≤ armed → armed + hardware.nsToCycles ns ≤ handled →
        clock.taskTime computed + ns ≤ clock.taskTime handled) := by
  refine ⟨?nsToCycles, ?cyclesToNs, ?taskTime, ?neverEarly⟩
  case nsToCycles =>
    intro ns _ fits
    rw [← same] at fits bounded ⊢
    exact ⟨nsToCycles_eq bounded fits, nsToCycles_fits bounded fits⟩
  case cyclesToNs =>
    intro cycles _ fits
    rw [← same] at fits bounded ⊢
    exact ⟨cyclesToNs_eq bounded fits, cyclesToNs_fits hardware.positive bounded fits⟩
  case taskTime =>
    intro reading readingWord fits
    refine ⟨taskTime_eq bounded fits, ?_, ?_⟩
    · intro after
      exact elapsed_eq epochWord after readingWord
    · intro earlier ordered after
      exact taskTime_mono bounded epochWord after ordered readingWord fits
  case neverEarly =>
    intro ns computed armed handled _ handledWord cyclesFit fits after armedLater due
    exact taskTime_after_arm same bounded epochWord cyclesFit after armedLater due handledWord fits

/-- One nanosecond at three gigahertz takes three cycles. -/
theorem clocks_agree_three_gigahertz :
    let clock : Timer.Clock := ⟨3000000000, 100, by decide⟩
    let hardware : Hardware := { pitHardware with tscFrequency := 3000000000, positive := by decide }
    105 + hardware.nsToCycles 1 ≤ 108 ∧ clock.taskTime 104 + 1 ≤ clock.taskTime 108 := by
  intro clock hardware
  have agreed := clocks_agree clock hardware rfl (by decide) (by decide)
  have due : 105 + hardware.nsToCycles 1 ≤ 108 := by decide
  exact ⟨due, agreed.2.2.2 1 104 105 108 (by decide) (by decide) (by decide) (by decide)
    (by decide) (by decide) due⟩

end Luna.Clocks
