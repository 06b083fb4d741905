import Zugli.Firmware.Display.Custom
import Zugli.Firmware.Display.Screens
import Zugli.Firmware.Shared

/-!
# Drawing the current state

The brightness of a frame, the layout cache of the render task and the dispatch from the display
state and the interface mode to a drawer.
-/

namespace Zugli

/-- `REDUCED_BRIGHTNESS`, in percent. -/
def reducedBrightness : Nat := 10

/-- `current_brightness`: the manual level, or the dimmed one inside the window. -/
def currentBrightness (shared : Shared) (nowUnix : Option Int) : Nat :=
  let base := (clampU8 shared.brightness 1 10).toNat * 10
  if shared.autoBrightnessEnabled then
    match nowUnix with
    | none => base
    | some unix =>
      if inWindow (localMinutes unix) shared.reducedStartMin shared.reducedEndMin then
        if shared.offWhenDimmedEnabled then 0 else reducedBrightness
      else base
  else base

/-- The layouts the departures screen is drawn from. -/
structure LayoutCache where
  /-- The live preview, if one is active. -/
  preview : Option Layout
  /-- The saved layout, if no preview is active. -/
  custom : Option Layout
deriving DecidableEq

/-- `refresh_layout_cache` at an instant. -/
def refreshLayoutCache (shared : Shared) (now : Nat) : LayoutCache :=
  match shared.activePreview now with
  | some preview => ⟨some preview, none⟩
  | none => ⟨none, shared.customLayout⟩

/-- What the panel is drawn from besides its state. -/
structure Panel where
  /-- The graphics crate's text. -/
  textLit : TextRaster
  /-- The statics. -/
  shared : Shared
  /-- The clock, if it has synced. -/
  nowUnix : Option Int

namespace Panel

/-- The canvas of a frame: its brightness is picked once. -/
def canvas (panel : Panel) : Canvas where
  textLit := panel.textLit
  stripCity := panel.shared.stripCityEnabled
  lineBadges := panel.shared.lineBadgesEnabled
  brightness := currentBrightness panel.shared panel.nowUnix
  nowUnix := panel.nowUnix

/-- Draw the departures screen from the cached layouts. -/
def drawDeparturesScreen (panel : Panel) (layout : LayoutCache) (station : List Char)
    (deps : List Departure) (frame : UInt32) (fb : FrameBuffer) : FrameBuffer × Bool :=
  match layout.preview with
  | some preview =>
    if preview.e.val.isEmpty then panel.canvas.drawDepartures fb station deps frame
    else panel.canvas.drawCustomLayout fb preview station deps frame
  | none =>
    match panel.shared.mode with
    | .focus => panel.canvas.drawFocus fb deps frame
    | .default => panel.canvas.drawDepartures fb station deps frame
    | .custom =>
      match layout.custom with
      | some custom =>
        if custom.e.val.isEmpty then panel.canvas.drawDepartures fb station deps frame
        else panel.canvas.drawCustomLayout fb custom station deps frame
      | none => panel.canvas.drawDepartures fb station deps frame

/-- `draw_state`. -/
def drawState (panel : Panel) (state : DisplayState) (layout : LayoutCache) (frame : UInt32)
    (fb : FrameBuffer) : FrameBuffer × Bool :=
  match state with
  | .provisioning => panel.canvas.drawProvisioning fb frame
  | .connecting => panel.canvas.drawConnecting fb frame
  | .idleAddress octets => panel.canvas.drawIdle fb octets frame
  | .departures station deps =>
    panel.drawDeparturesScreen layout station.chars deps.val frame fb
  | .offline => panel.canvas.drawOffline fb frame

end Panel

end Zugli
