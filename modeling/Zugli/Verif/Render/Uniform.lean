import Zugli.Firmware.Display.Task
import Zugli.Verif.Render.Alike

/-!
# Uniform dimming

The brightness settings and the night window choose a level for a frame. What the level changes is
the strength of the picture and nothing else: a board run at full strength goes through the same
steps and draws the same frames.
-/

namespace Zugli

/-! ## Full strength -/

/-- A colour with each channel scaled. -/
def Color.dimmed (percent : Nat) (color : Color) : Color :=
  let s (channel : UInt8) : UInt8 := .ofNat (channel.toNat * percent / 100)
  ⟨s color.r, s color.g, s color.b⟩

/-- At its full strength a colour is itself. -/
theorem Color.dimmed_full (color : Color) : color.dimmed 100 = color := by
  have channel (value : UInt8) : UInt8.ofNat (value.toNat * 100 / 100) = value := by
    rw [Nat.mul_div_cancel _ (by decide), UInt8.ofNat_toNat]
  simp only [dimmed, channel]

/-- An unlit colour stays unlit. -/
theorem Color.dimmed_off (percent : Nat) : Color.off.dimmed percent = .off := by
  simp [dimmed, off]

/-- At no strength every colour is unlit. -/
theorem Color.dimmed_zero (color : Color) : color.dimmed 0 = .off := by
  simp [dimmed, off]

/-- The settings with the manual brightness at its highest and without dimming. -/
def Config.atFull (cfg : Config) : Config := { cfg with brightness := 10, autoBrightness := false }

/-- The statics with the manual brightness at its highest and without dimming. -/
def Shared.atFull (shared : Shared) : Shared :=
  { shared with brightnessLevel := 10, autoBrightness := false }

/-- A frame from the statics at full strength. -/
def Frame.atFull (frame : Frame) : Frame := { frame with shared := frame.shared.atFull }

/-- The brightness a frame is drawn at. -/
def Frame.level (frame : Frame) : Nat := currentBrightness frame.shared frame.nowUnix

/-- A frame's canvas and the one at full strength keep the image and its dimmed one together. -/
theorem Panel.alike_atFull (panel : Panel) :
    Canvas.Alike panel.canvas { panel with shared := panel.shared.atFull }.canvas
      fun fb full =>
        fb = full.map (Color.dimmed (currentBrightness panel.shared panel.nowUnix)) where
  textLit := rfl
  stripCity := rfl
  lineBadges := rfl
  nowUnix := rfl
  paint := fun region color same => by
    have whole : { panel with shared := panel.shared.atFull }.canvas.scaled color = color :=
      color.dimmed_full
    rw [same, Raster.map_paint, whole]
    rfl

/-- A panel draws what it draws at full strength, dimmed to its level, and animates alike. -/
theorem Panel.drawState_dims (panel : Panel) (state : DisplayState) (layout : LayoutCache)
    (counter : UInt32) :
    let full := { panel with shared := panel.shared.atFull }
    panel.drawState state layout counter erased =
      ((full.drawState state layout counter erased).1.map
          (Color.dimmed (currentBrightness panel.shared panel.nowUnix)),
        (full.drawState state layout counter erased).2) := by
  have dark : (erased : FrameBuffer) =
      erased.map (Color.dimmed (currentBrightness panel.shared panel.nowUnix)) := by
    rw [erased, Raster.map_blank, Color.dimmed_off]
  have both := panel.alike_atFull.drawState rfl state layout counter dark
  exact Prod.ext both.1 both.2

/-- A frame is the one at full strength, dimmed to its level, and animates alike. -/
theorem Frame.draw_dims (textLit : TextRaster) (frame : Frame) :
    frame.draw textLit =
      ((frame.atFull.draw textLit).1.map (Color.dimmed frame.level),
        (frame.atFull.draw textLit).2) :=
  (Panel.mk textLit frame.shared frame.nowUnix).drawState_dims frame.state frame.layout
    frame.counter

/-! ## A board at full strength -/

namespace Display

/-- An event with its settings at full strength. -/
def Event.atFull : Event → Event
  | .applies cfg => .applies cfg.atFull
  | event => event

/-- The board with its statics and frames at full strength. -/
def atFull (d : Display) : Display :=
  { d with
    shared := d.shared.atFull
    handed := d.handed.map Frame.atFull
    shown := d.shown.map Frame.atFull }

variable (d : Display) (textLit : TextRaster)

/-- An access does not touch the brightness. -/
theorem access_atFull (access : Access) : (d.access access).atFull = d.atFull.access access := by
  cases access <;> rfl

/-- A handler does not touch the brightness. -/
theorem handle_atFull : d.handle.atFull = d.atFull.handle := by
  unfold handle
  have same : d.atFull.handling = d.handling := rfl
  rw [same]
  split
  · rfl
  · rfl
  · rw [← access_atFull]
    rfl

/-- A refresh of the layout cache does not read the brightness. -/
theorem refresh_atFull (next : AfterRefresh) (stage : Refreshing) :
    (d.refresh next stage).atFull = d.atFull.refresh next stage := by
  cases stage with
  | loading => rfl
  | comparing deadline =>
    simp only [refresh]
    have clock : d.atFull.now = d.now := rfl
    rw [clock]
    split <;> rfl
  | cloningPreview =>
    simp only [refresh]
    have preview : d.atFull.shared.previewLayout = d.shared.previewLayout := rfl
    rw [preview]
    split <;> rfl
  | cloningCustom => rfl

/-- The render task goes on alike at full strength. -/
theorem render_atFull (nowUnix : Option Int) :
    d.atFull.render textLit nowUnix =
      ((d.render textLit nowUnix).1.atFull, (d.render textLit nowUnix).2.map Frame.atFull) := by
  have task : d.atFull.task = d.task := rfl
  unfold render
  rw [task]
  split
  case h_1 next stage _ => exact congrArg (·, none) (d.refresh_atFull next stage).symm
  case h_2 => rfl
  case h_3 =>
    have clock : d.atFull.now = d.now := rfl
    rw [clock]
    split <;> rfl
  case h_4 | h_5 | h_6 => rfl
  case h_7 =>
    have animates : ((d.frame nowUnix).draw textLit).2 =
        ((d.frame nowUnix).atFull.draw textLit).2 := by
      rw [(d.frame nowUnix).draw_dims textLit]
    have handed : d.atFull.hand textLit (d.frame nowUnix).atFull =
        (d.hand textLit (d.frame nowUnix)).atFull := by
      rw [hand, ← animates]
      rfl
    exact congrArg (·, some (d.frame nowUnix).atFull) handed
  case h_8 animating _ =>
    have handed : d.atFull.handed = d.handed.map Frame.atFull := rfl
    rw [handed]
    cases d.handed with
    | some frame => rfl
    | none => rfl
  all_goals rfl

/-- A wait ends alike at full strength. -/
theorem wake_atFull (arm : Arm) : (d.wake arm).atFull = d.atFull.wake arm := by
  have task : d.atFull.task = d.task := rfl
  have display : d.atFull.display = d.display := rfl
  have clock : d.atFull.now = d.now := rfl
  have latch : d.atFull.shared.redraw = d.shared.redraw := rfl
  unfold wake
  rw [task, display, clock, latch]
  split
  case h_1 | h_3 | h_6 => split <;> rfl
  case h_2 | h_4 | h_5 | h_7 => split <;> rfl
  case h_8 => rfl

/-- One step at full strength mirrors the step. -/
theorem step_atFull (event : Event) :
    d.atFull.step textLit event.atFull =
      ((d.step textLit event).1.atFull, (d.step textLit event).2.map Frame.atFull) := by
  cases event with
  | passes ticks => rfl
  | signals state => rfl
  | applies cfg => rfl
  | accepts request =>
    have same : d.atFull.handling = d.handling := rfl
    simp only [Event.atFull, step]
    rw [same]
    split <;> rfl
  | handles => exact congrArg (·, none) d.handle_atFull.symm
  | renders nowUnix => exact d.render_atFull textLit nowUnix
  | wakes arm => exact congrArg (·, none) (d.wake_atFull arm).symm
  | exchanges =>
    have handed : d.atFull.handed = d.handed.map Frame.atFull := rfl
    simp only [Event.atFull, step, exchange]
    rw [handed]
    cases d.handed <;> rfl

/-- The brightness settings and the night dimming decide the strength of the picture and nothing
else. Take any run of the board on any settings and the run of the same events with every setting
of the brightness at its highest and no dimming. Both go through the same steps, draw at the same
steps, hand over the same states, layouts and frame counters, and animate alike. Each frame of the
first is the frame of the second with every channel of every pixel scaled to the level of the
settings in force, and dark throughout when that is zero. -/
theorem brightness_only_dims (cfg : Config) (layout : Option Layout) (events : List Event) :
    after textLit cfg.atFull layout (events.map Event.atFull) =
        ((after textLit cfg layout events).1.atFull,
          (after textLit cfg layout events).2.map fun entry =>
            (entry.1.atFull, entry.2.map Frame.atFull)) ∧
      ∀ frame : Frame,
        frame.draw textLit =
            ((frame.atFull.draw textLit).1.map (Color.dimmed frame.level),
              (frame.atFull.draw textLit).2) ∧
          frame.atFull.level = 100 ∧
          (frame.level = 0 → (frame.draw textLit).1 = erased) := by
  refine ⟨?_, fun frame => ⟨frame.draw_dims textLit, rfl, fun dark => ?_⟩⟩
  · exact Machine.run_mirror atFull Event.atFull (Option.map Frame.atFull)
      (fun d event => d.step_atFull textLit event) (boot cfg layout) events
  · have dims := congrArg Prod.fst (frame.draw_dims textLit)
    rw [dark] at dims
    rw [dims]
    funext row column
    exact Color.dimmed_zero _

end Display

end Zugli
