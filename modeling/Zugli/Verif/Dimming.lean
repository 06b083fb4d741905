import Zugli.Verif.Settings.Texts
import Zugli.Verif.SwissTime
import Zugli.Firmware.Display.Render

/-!
# Night dimming

The brightness of a frame is the manual one but for the minutes of the night window, which is a
stretch of the day taken as a cycle.
-/

namespace Zugli

/-- Minutes of a day. -/
def dayMinutes : Int := 1440

/-- Whether a minute is in the stretch of the daily cycle from a start up to a stop. -/
def InStretch (start stop now : UInt16) : Prop :=
  ((now.toNat : Int) - start.toNat) % dayMinutes < ((stop.toNat : Int) - start.toNat) % dayMinutes

instance decidableInStretch (start stop now : UInt16) : Decidable (InStretch start stop now) :=
  inferInstanceAs (Decidable (_ < _))

/-- The window test is the stretch of the cycle, for minutes of a day. -/
theorem inWindow_iff {start stop now : UInt16} (startInDay : start.toNat < 1440)
    (stopInDay : stop.toNat < 1440) (nowInDay : now.toNat < 1440) :
    inWindow now start stop = true ↔ InStretch start stop now := by
  have same : start = stop ↔ start.toNat = stop.toNat := UInt16.toNat_inj.symm
  have less : start < stop ↔ start.toNat < stop.toNat := UInt16.lt_iff_toNat_lt
  have begun : start ≤ now ↔ start.toNat ≤ now.toNat := UInt16.le_iff_toNat_le
  have going : now < stop ↔ now.toNat < stop.toNat := UInt16.lt_iff_toNat_lt
  simp only [inWindow, InStretch, dayMinutes, same, less, begun, going]
  split_ifs with empty ordered
  · simp only [false_iff]
    omega
  · rw [decide_eq_true_eq]
    omega
  · rw [decide_eq_true_eq]
    omega

/-- No minute is in an empty stretch. -/
theorem inStretch_self (start now : UInt16) : ¬InStretch start start now := by
  unfold InStretch dayMinutes
  omega

/-- The stretch the other way round is the rest of the cycle. -/
theorem inStretch_swap {start stop now : UInt16} (startInDay : start.toNat < 1440)
    (stopInDay : stop.toNat < 1440) (given : start ≠ stop) :
    InStretch stop start now ↔ ¬InStretch start stop now := by
  have apart : start.toNat ≠ stop.toNat := fun same => given (UInt16.toNat_inj.mp same)
  unfold InStretch dayMinutes
  omega

/-- A local minute is one of a day. -/
theorem localMinutes_lt (unix : Int) : (localMinutes unix).toNat < 1440 := by
  obtain ⟨date, hour, minute, -, isHour, isMinute, counted⟩ := localMinutes_eq unix
  omega

namespace Config

/-- The manual brightness, in percent. -/
def manual (cfg : Config) : Nat := 10 * (clampU8 cfg.brightness 1 10).toNat

/-- The brightness of the night, in percent. -/
def dimmed (cfg : Config) : Nat := if cfg.offWhenDimmed then 0 else 10

/-- Whether an instant is dimmed. -/
def Night (cfg : Config) (unix : Int) : Prop :=
  cfg.autoBrightness = true ∧ InStretch cfg.reducedStart cfg.reducedEnd (localMinutes unix)

instance decidableNight (cfg : Config) (unix : Int) : Decidable (cfg.Night unix) :=
  inferInstanceAs (Decidable (_ ∧ _))

/-- The settings with the bounds of the window swapped. -/
def swapped (cfg : Config) : Config :=
  { cfg with reducedStart := cfg.reducedEnd, reducedEnd := cfg.reducedStart }

/-- The manual brightness is at least the dimmed one. -/
theorem dimmed_le_manual (cfg : Config) : cfg.dimmed ≤ cfg.manual := by
  have levels : ∀ level : UInt8, 1 ≤ (clampU8 level 1 10).toNat := by decide +kernel
  have level := levels cfg.brightness
  unfold dimmed manual
  split <;> omega

end Config

/-- The clamped level is kept as it is. -/
theorem clamped_level (level : UInt8) :
    (clampU8 (clampU8 level 1 10).toUInt32.toUInt8 1 10).toNat = (clampU8 level 1 10).toNat := by
  have levels : ∀ level : UInt8, (clampU8 (clampU8 level 1 10).toUInt32.toUInt8 1 10).toNat =
      (clampU8 level 1 10).toNat := by decide +kernel
  exact levels level

/-- The brightness of applied settings is the dimmed one at night only. -/
theorem currentBrightness_applyConfig (shared : Shared) {cfg : Config}
    (startInDay : cfg.reducedStart.toNat < 1440) (endInDay : cfg.reducedEnd.toNat < 1440)
    (unix : Int) :
    currentBrightness (shared.applyConfig cfg) (some unix) =
      if cfg.Night unix then cfg.dimmed else cfg.manual := by
  have first : (shared.applyConfig cfg).reducedStartMin = cfg.reducedStart :=
    (Web.Cfg.window_halves cfg.reducedStart cfg.reducedEnd).1
  have last : (shared.applyConfig cfg).reducedEndMin = cfg.reducedEnd :=
    (Web.Cfg.window_halves cfg.reducedStart cfg.reducedEnd).2
  have level : (clampU8 (shared.applyConfig cfg).brightness 1 10).toNat * 10 = cfg.manual := by
    rw [Config.manual, Nat.mul_comm]
    exact congrArg (10 * ·) (clamped_level cfg.brightness)
  have auto : (shared.applyConfig cfg).autoBrightnessEnabled = cfg.autoBrightness := rfl
  have off : (shared.applyConfig cfg).offWhenDimmedEnabled = cfg.offWhenDimmed := rfl
  have window := inWindow_iff startInDay endInDay (localMinutes_lt unix)
  simp only [currentBrightness, first, last, level, auto, off, Config.Night, window,
    Config.dimmed, reducedBrightness]
  by_cases dims : cfg.autoBrightness = true
  · simp only [dims, true_and, if_true]
  · simp [dims]

/-- Without a clock the brightness of applied settings is the manual one. -/
theorem currentBrightness_unsynced (shared : Shared) (cfg : Config) :
    currentBrightness (shared.applyConfig cfg) none = cfg.manual := by
  have level : (clampU8 (shared.applyConfig cfg).brightness 1 10).toNat * 10 = cfg.manual := by
    rw [Config.manual, Nat.mul_comm]
    exact congrArg (10 * ·) (clamped_level cfg.brightness)
  simp only [currentBrightness, level, ite_self]

/-- Night dimming from the settings to the panel. Within a window of minutes of the day, taken as a
cycle, the brightness is the dimmed one when dimming is on, and otherwise the manual one. It is
never above the manual one, an empty window never dims, a window the other way round dims the rest
of the minutes, and without a clock nothing is dimmed. -/
theorem nightDimming (shared : Shared) (cfg : Config) (startInDay : cfg.reducedStart.toNat < 1440)
    (endInDay : cfg.reducedEnd.toNat < 1440) :
    currentBrightness (shared.applyConfig cfg) none = cfg.manual ∧
      ∀ unix : Int,
        currentBrightness (shared.applyConfig cfg) (some unix) =
            (if cfg.Night unix then cfg.dimmed else cfg.manual) ∧
          currentBrightness (shared.applyConfig cfg) (some unix) ≤ cfg.manual ∧
          (cfg.reducedStart = cfg.reducedEnd →
            currentBrightness (shared.applyConfig cfg) (some unix) = cfg.manual) ∧
          (cfg.reducedStart ≠ cfg.reducedEnd → cfg.autoBrightness = true →
            (cfg.swapped.Night unix ↔ ¬cfg.Night unix) ∧
            currentBrightness (shared.applyConfig cfg.swapped) (some unix) =
              if cfg.Night unix then cfg.manual else cfg.dimmed) := by
  refine ⟨currentBrightness_unsynced shared cfg, fun unix => ?_⟩
  have bright := currentBrightness_applyConfig shared startInDay endInDay unix
  refine ⟨bright, ?_, fun empty => ?_, fun given auto => ?_⟩
  · have dims := cfg.dimmed_le_manual
    rw [bright]
    split <;> omega
  · have never : ¬cfg.Night unix := fun night => by
      have inside := night.2
      rw [empty] at inside
      exact inStretch_self cfg.reducedEnd _ inside
    rw [bright, if_neg never]
  · have swap : cfg.swapped.Night unix ↔ ¬cfg.Night unix := by
      have flipped := @inStretch_swap _ _ (localMinutes unix) startInDay endInDay given
      simp only [Config.Night, Config.swapped, auto, true_and, flipped]
    refine ⟨swap, ?_⟩
    have other := @currentBrightness_applyConfig shared cfg.swapped endInDay startInDay unix
    rw [other]
    by_cases night : cfg.Night unix
    · rw [if_neg (fun swapped => swap.mp swapped night), if_pos night]
      rfl
    · rw [if_pos (swap.mpr night), if_neg night]
      rfl

/-- The settings of a board that never saved any, at the Unix epoch. -/
theorem nightDimming_default :
    currentBrightness (Shared.init.applyConfig Config.default) (some 0) = 10 := by
  have night := (nightDimming .init .default (by decide) (by decide)).2 0
  exact night.1

end Zugli
