import Zugli.Verif.Settings.Changes

/-!
# Reading the settings back

The settings the board answers are those it took over: taking them over again changes nothing, and
settings within their bounds are answered as they were posted.
-/

namespace Zugli

open Json (utf8 write)
open Serde

/-- The names of written settings are short. -/
theorem Config.table_within (config : Config) : (toJson config).StringsWithin 14 :=
  stringsWithin_table (by simp (disch := decide) [Config.table, stringless_emit, entryWithin_never])

namespace Device

variable (serde : SerdeJsonCore) {scratch : Nat}

/-- The board reads its own answer as the settings it stands for. -/
theorem fromSlice_getConfig (roomy : 14 ≤ scratch) (device : Device) :
    serde.fromSlice Config scratch device.getConfig.2.body =
      some device.shared.settings.cfg.config := by
  have within := (Config.table_within device.shared.settings.cfg.config).mono roomy
  rw [Web.Cfg.getConfig_body, serde.fromSlice_write .lower within, ofJson_toJson]
  rfl

/-- The answer about the settings fits the response. -/
theorem length_getConfig (device : Device) : device.getConfig.2.body.length ≤ configJsonCap := by
  rw [Web.Cfg.getConfig_body, Json.length_utf8]
  exact Web.Cfg.size_config device.shared.settings.cfg

/-- The answer about the settings names them. -/
theorem getConfig_ne_empty (device : Device) : device.getConfig.2.body ≠ emptyJson := by
  intro empty
  have none : emptyJson = utf8 (write .lower (.obj [])) := rfl
  have document (value : Json) : (Json.utf8Decode? (utf8 (write .lower value))).bind Json.read =
      some value := by
    rw [Json.utf8Decode?_utf8, Option.bind_some, Json.read_write]
  rw [Web.Cfg.getConfig_body, none] at empty
  have same := congrArg (fun bytes => (Json.utf8Decode? bytes).bind Json.read) empty
  rw [document, document] at same
  cases same

end Device

/-- Settings within their bounds are shown as they are. -/
theorem settings_written {cfg : Config} (low : 1 ≤ cfg.brightness) (high : cfg.brightness ≤ 10)
    (view : cfg.uiMode ≤ 2) : cfg.settings.cfg.config = cfg.written := by
  have known : cfg.uiMode < 3 := Nat.lt_succ_of_le view
  have shown := @Web.Cfg.settings_config
    ⟨cfg.stripCity, cfg.showLineBadges, cfg.uiMode, cfg.brightness, cfg.autoBrightness,
      cfg.offWhenDimmed, cfg.reducedStart, cfg.reducedEnd⟩ ⟨known, low, high⟩
  exact congrArg Web.Cfg.config shown

/-- Settings that are shown the same are the same. -/
theorem Settings.cfg_injective {settings other : Settings} (same : settings.cfg = other.cfg) :
    settings = other := by
  have modes : ∀ mode view : UiMode, UInt8.ofNat (Device.modeNumber mode) =
      UInt8.ofNat (Device.modeNumber view) → mode = view := by
    intro mode view
    cases mode <;> cases view <;> decide
  obtain ⟨strip, badges, level, auto, off, mode, first, last⟩ := settings
  simp only [Settings.cfg, Web.Cfg.mk.injEq] at same
  obtain ⟨rfl, rfl, view, rfl, rfl, rfl, rfl, rfl⟩ := same
  rw [modes _ _ view]

/-- Taking over shown settings shows them again. -/
theorem settings_shown (cfg : Config) : cfg.settings.cfg.config.settings = cfg.settings :=
  Settings.cfg_injective (Web.Cfg.settings_config (Web.Cfg.valid_settings cfg))

/-- Reading the settings and posting them are inverse on the live state. The answer is the text of
the settings and never the empty object, it is read as settings that change nothing, and settings
within their bounds are read back as they were posted. -/
theorem getConfig_inverse (serde : SerdeJsonCore) (scratch : Nat) (roomy : 14 ≤ scratch) :
    (∀ (device : Device) (cfg : Config),
      let live := { device with shared := device.shared.applyConfig cfg }
      live.getConfig.2.body.length ≤ configJsonCap ∧ live.getConfig.2.body ≠ emptyJson ∧
        ∃ parsed, serde.fromSlice Config scratch live.getConfig.2.body = some parsed ∧
          (live.shared.applyConfig parsed).settings = live.shared.settings) ∧
      ∀ (device : Device) (faults : Faults) (cfg : Config), 1 ≤ cfg.brightness →
        cfg.brightness ≤ 10 → cfg.uiMode ≤ 2 →
        let posted := (device.setConfig serde faults cfg).1
        posted.getConfig.2.body = utf8 (write .lower (toJson cfg)) ∧
          serde.fromSlice Config scratch posted.getConfig.2.body = some cfg.written := by
  refine ⟨fun device cfg => ?_, fun device faults cfg low high view => ?_⟩
  · refine ⟨Device.length_getConfig _, Device.getConfig_ne_empty _, _,
      Device.fromSlice_getConfig serde roomy _, ?_⟩
    exact settings_shown cfg
  · have shown := settings_written low high view
    constructor
    · have unwritten : toJson cfg = toJson cfg.written := rfl
      rw [Web.Cfg.getConfig_body, unwritten]
      exact congrArg (fun cfg : Config => utf8 (write .lower (toJson cfg))) shown
    · rw [Device.fromSlice_getConfig serde roomy]
      exact congrArg some shown

/-- A board without a store posts and answers a level of nine. -/
theorem getConfig_inverse_posted :
    let board := Device.boot .reference none noFaults
    let cfg := { Config.default with brightness := 9, uiMode := 2 }
    let posted := (board.setConfig .reference noFaults cfg).1
    posted.getConfig.2.body = utf8 (write .lower (toJson cfg)) :=
  ((getConfig_inverse .reference 32 (by decide)).2 (Device.boot .reference none noFaults) noFaults
    { Config.default with brightness := 9, uiMode := 2 } (by decide) (by decide) (by decide)).1

end Zugli
