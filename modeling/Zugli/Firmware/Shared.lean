import Zugli.Firmware.Model

/-!
# Shared state

The process-wide statics the tasks share: the live selection, the live mirror of the settings
and of the custom layout, the transient preview, and the two wake-up latches. Instants are ticks
since boot.
-/

namespace Zugli

/-- Ticks of the timer in a second. -/
def ticksPerSecond : Nat := 1000000

/-- `PREVIEW_TTL`, how long a preview push keeps the panel on the draft. -/
def previewTtl : Nat := 15 * ticksPerSecond

/-- The statics. -/
structure Shared where
  /-- `SELECTION`. -/
  selection : Option Selection
  /-- `SELECTION_CHANGED`, set while a signal waits. -/
  selectionChanged : Bool
  /-- `REDRAW`, set while a signal waits. -/
  redraw : Bool
  /-- `STRIP_CITY`. -/
  stripCity : Bool
  /-- `SHOW_LINE_BADGES`. -/
  showLineBadges : Bool
  /-- `BRIGHTNESS_LEVEL`. -/
  brightnessLevel : UInt32
  /-- `AUTO_BRIGHTNESS`. -/
  autoBrightness : Bool
  /-- `OFF_WHEN_DIMMED`. -/
  offWhenDimmed : Bool
  /-- `REDUCED_WINDOW`, the start in the high half and the end in the low half. -/
  reducedWindow : UInt32
  /-- `UI_MODE`. -/
  uiMode : UInt8
  /-- `CUSTOM_LAYOUT`. -/
  customLayout : Option Layout
  /-- `PREVIEW_DEADLINE`, zero when no preview is armed. -/
  previewDeadline : Nat
  /-- `PREVIEW_LAYOUT`. -/
  previewLayout : Option Layout
deriving DecidableEq

namespace Shared

/-- The statics before boot. -/
def init : Shared where
  selection := none
  selectionChanged := false
  redraw := false
  stripCity := false
  showLineBadges := true
  brightnessLevel := 6
  autoBrightness := true
  offWhenDimmed := false
  reducedWindow := ((20 * 60 : UInt32) <<< 16) ||| (8 * 60)
  uiMode := 0
  customLayout := none
  previewDeadline := 0
  previewLayout := none

variable (shared : Shared)

/-- `apply_config`: push settings into the live mirror. -/
def applyConfig (cfg : Config) : Shared :=
  { shared with
    stripCity := cfg.stripCity
    showLineBadges := cfg.showLineBadges
    brightnessLevel := (clampU8 cfg.brightness 1 10).toUInt32
    autoBrightness := cfg.autoBrightness
    offWhenDimmed := cfg.offWhenDimmed
    reducedWindow := (cfg.reducedStart.toUInt32 <<< 16) ||| cfg.reducedEnd.toUInt32
    uiMode := cfg.uiMode }

/-- `apply_layout`: replace the live custom layout and ask for a redraw. -/
def applyLayout (layout : Option Layout) : Shared :=
  { shared with customLayout := layout, redraw := true }

/-- `set_preview`: show a transient layout until its deadline. -/
def setPreview (layout : Layout) (now : Nat) : Shared :=
  { shared with
    previewLayout := some layout
    previewDeadline := now + previewTtl
    redraw := true }

/-- `end_preview`: drop the transient layout. -/
def endPreview : Shared :=
  { shared with previewDeadline := 0, previewLayout := none, redraw := true }

/-- Install a selection as the live one. -/
def select (sel : Selection) : Shared := { shared with selection := some sel }

/-- `SELECTION_CHANGED.signal(())`. -/
def signalSelectionChanged : Shared := { shared with selectionChanged := true }

/-! ## Accessors -/

/-- `preview_active`. -/
def previewActive (now : Nat) : Bool :=
  shared.previewDeadline != 0 && decide (now < shared.previewDeadline)

/-- `preview_layout`, the transient layout while it is active. -/
def activePreview (now : Nat) : Option Layout :=
  if shared.previewActive now then shared.previewLayout else none

/-- `strip_city_enabled`. -/
def stripCityEnabled : Bool := shared.stripCity

/-- `line_badges_enabled`. -/
def lineBadgesEnabled : Bool := shared.showLineBadges

/-- `brightness_level`. -/
def brightness : UInt8 := shared.brightnessLevel.toUInt8

/-- `auto_brightness_enabled`. -/
def autoBrightnessEnabled : Bool := shared.autoBrightness

/-- `off_when_dimmed_enabled`. -/
def offWhenDimmedEnabled : Bool := shared.offWhenDimmed

/-- `ui_mode`. -/
def mode : UiMode := UiMode.fromU8 shared.uiMode

/-- `reduced_start_min`. -/
def reducedStartMin : UInt16 := (shared.reducedWindow >>> 16).toUInt16

/-- `reduced_end_min`. -/
def reducedEndMin : UInt16 := (shared.reducedWindow &&& 0xFFFF).toUInt16

end Shared

end Zugli
