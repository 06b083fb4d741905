import Zugli.Firmware.Display.Render
import Zugli.Firmware.Tasks
import Zugli.Lib.Runs

/-!
# The render task

The render task runs on the second core, the HTTP handlers on the first. What the two share are
the preview's deadline and layout, the saved layout, the settings and the latches. A step is one
access to these by either side: an atomic load or store, a critical section or a signal, with the
reading of the clock in front of a store counted to the store. The handlers run one at a time.
-/

namespace Zugli

/-- `FRAME_MS`, in ticks. -/
def frameTicks : Nat := 50 * ticksPerSecond / 1000

/-- `BRIGHTNESS_REFRESH_SECS`, in ticks. -/
def brightnessRefresh : Nat := 60 * ticksPerSecond

/-! ## Accesses -/

/-- One access of `apply_layout`, `set_preview`, `end_preview` or their callers. -/
inductive Access where
  /-- `CUSTOM_LAYOUT` is replaced. -/
  | replaceLayout (layout : Option Layout)
  /-- `PREVIEW_LAYOUT` is replaced. -/
  | replacePreview (layout : Layout)
  /-- `PREVIEW_DEADLINE` is armed. -/
  | armDeadline
  /-- `PREVIEW_DEADLINE` is cleared. -/
  | clearDeadline
  /-- `PREVIEW_LAYOUT` is taken. -/
  | takePreview
  /-- `REDRAW` is signalled. -/
  | signalRedraw
  /-- `SELECTION_CHANGED` is signalled. -/
  | signalSelectionChanged
deriving DecidableEq

namespace Access

/-- What an access leaves in the statics. -/
def run (shared : Shared) (now : Nat) : Access → Shared
  | .replaceLayout layout => { shared with customLayout := layout }
  | .replacePreview layout => { shared with previewLayout := some layout }
  | .armDeadline => { shared with previewDeadline := now + previewTtl }
  | .clearDeadline => { shared with previewDeadline := 0 }
  | .takePreview => { shared with previewLayout := none }
  | .signalRedraw => { shared with redraw := true }
  | .signalSelectionChanged => shared.signalSelectionChanged

/-- Whether a mirror is updated without a latch once an access is done. -/
def leaves (updated : Bool) : Access → Bool
  | .signalRedraw => false
  | .signalSelectionChanged => updated
  | _ => true

/-- Run accesses in a row at one instant. -/
def runAll (shared : Shared) (now : Nat) (accesses : List Access) : Shared :=
  accesses.foldl (fun shared access => access.run shared now) shared

/-- `apply_layout`. -/
def applyLayout (layout : Option Layout) : List Access := [.replaceLayout layout, .signalRedraw]

/-- `set_preview`. -/
def setPreview (layout : Layout) : List Access :=
  [.replacePreview layout, .armDeadline, .signalRedraw]

/-- `end_preview`. -/
def endPreview : List Access := [.clearDeadline, .takePreview, .signalRedraw]

end Access

/-- A request that changes what is drawn. -/
inductive LayoutRequest where
  /-- `POST /layout`, once it has persisted. -/
  | setLayout (layout : Layout)
  /-- `POST /preview`. -/
  | setPreview (layout : Layout)
  /-- `POST /preview/end`. -/
  | endPreview
deriving DecidableEq

namespace LayoutRequest

/-- What its handler does to the statics, in order. -/
def accesses : LayoutRequest → List Access
  | .setLayout layout =>
    Access.applyLayout (Saving.savedLayout layout) ++ Access.endPreview ++ [.signalSelectionChanged]
  | .setPreview layout => Access.setPreview layout.sanitize
  | .endPreview => Access.endPreview

/-- The request as the server handles it in one go. -/
def toRequest : LayoutRequest → Request
  | .setLayout layout => .setLayout layout
  | .setPreview layout => .setPreview layout
  | .endPreview => .endPreview

end LayoutRequest

/-! ## Frames -/

/-- What the render task finds as it starts a frame. -/
structure FrameStart where
  /-- When the deadline is read. -/
  instant : Nat
  /-- The deadline, zero when none is armed. -/
  deadline : Nat
  /-- Which push armed it. -/
  push : Nat
deriving DecidableEq

/-- A frame starts at or after the deadline that is armed. -/
def FrameStart.Late (start : FrameStart) : Prop :=
  start.deadline ≠ 0 ∧ start.deadline ≤ start.instant

/-- What a frame is drawn from. -/
structure Frame where
  /-- The state. -/
  state : DisplayState
  /-- The layouts. -/
  layout : LayoutCache
  /-- Which push its preview is, if it has one. -/
  push : Nat
  /-- The frame counter. -/
  counter : UInt32
  /-- The statics, read for the settings only. -/
  shared : Shared
  /-- The clock, if it has synced. -/
  nowUnix : Option Int
  /-- How the frame started. -/
  start : FrameStart
deriving DecidableEq

/-- `erase` and `draw_state`: the image of a frame, and whether it is animating. -/
def Frame.draw (textLit : TextRaster) (frame : Frame) : FrameBuffer × Bool :=
  (Panel.mk textLit frame.shared frame.nowUnix).drawState frame.state frame.layout frame.counter
    erased

/-! ## The render task -/

/-- What follows a refresh of the layout cache. -/
inductive AfterRefresh where
  /-- The inner loop begins a frame. -/
  | begins
  /-- The frame under way, whose preview was reverted, is drawn. -/
  | draws
deriving DecidableEq

/-- Where `refresh_layout_cache` is. -/
inductive Refreshing where
  /-- Before the load of the deadline. -/
  | loading
  /-- Before the comparison of the clock with the loaded deadline. -/
  | comparing (deadline : Nat)
  /-- Before the clone of the preview. -/
  | cloningPreview
  /-- Before the clone of the saved layout. -/
  | cloningCustom
deriving DecidableEq

/-- Where `render_task` is. -/
inductive RenderPoint where
  /-- It waits for the first state. -/
  | starting
  /-- It refreshes the layout cache. -/
  | refreshing (next : AfterRefresh) (stage : Refreshing)
  /-- Before the load of the deadline that starts a frame. -/
  | beginning
  /-- Before the comparison of the clock with that deadline. -/
  | checking
  /-- In `end_preview`, before the deadline is cleared. -/
  | clearing
  /-- In `end_preview`, before the preview is taken. -/
  | taking
  /-- In `end_preview`, before the redraw is signalled. -/
  | signalling
  /-- Before the frame is drawn. -/
  | drawing
  /-- The frame is handed to the panel driver; the other buffer is awaited. -/
  | handing (animating : Bool)
  /-- On a static screen, blocked until the instant, a state or a redraw. -/
  | resting (wakeAt : Nat)
  /-- On an animating screen, blocked until the instant, a state or a redraw. -/
  | pausing (wakeAt : Nat)
deriving DecidableEq

/-- `render_task` with its locals. -/
structure RenderTask where
  /-- `state`, once there is one. -/
  state : DisplayState
  /-- `frame`. -/
  frame : UInt32
  /-- `pending`. -/
  pending : Option DisplayState
  /-- `layout_cache`. -/
  layoutCache : LayoutCache
  /-- Which push the cached preview is. -/
  push : Nat
  /-- How the frame under way started. -/
  start : FrameStart
  /-- Where it is. -/
  point : RenderPoint
deriving DecidableEq

namespace RenderTask

/-- Before the first state. -/
def init : RenderTask where
  state := .connecting
  frame := 0
  pending := none
  layoutCache := ⟨none, none⟩
  push := 0
  start := ⟨0, 0, 0⟩
  point := .starting

variable (task : RenderTask)

/-- Enter the inner loop for a state. -/
def enter (state : DisplayState) : RenderTask :=
  { task with state, frame := 0, pending := none, point := .refreshing .begins .loading }

/-- Go on after a refresh. -/
def refreshed (next : AfterRefresh) (layoutCache : LayoutCache) (push : Nat) : RenderTask :=
  { task with
    layoutCache
    push
    point := match next with
      | .begins => .beginning
      | .draws => .drawing }

/-- Block until a timer, a state or a redraw. -/
def block (shared : Shared) (now : Nat) (animating : Bool) : RenderTask :=
  if animating then { task with point := .pausing (now + frameTicks) }
  else
    let refresh := now + brightnessRefresh
    let wakeAt := if shared.previewDeadline = 0 then refresh else min shared.previewDeadline refresh
    { task with point := .resting wakeAt }

/-- Go on once the other buffer is back: a parked state is applied when a pass is over. -/
def frameShown (shared : Shared) (now : Nat) (animating : Bool) : RenderTask :=
  match task.pending with
  | some next =>
    if Canvas.connectCycleDone task.frame then task.enter next
    else task.block shared now animating
  | none => task.block shared now animating

/-- Take a state on an animating screen: the startup animation finishes its pass first. -/
def takeState (next : DisplayState) : RenderTask :=
  if task.state = .connecting ∧ ¬Canvas.connectCycleDone task.frame then
    { task with pending := some next, point := .beginning }
  else task.enter next

end RenderTask

/-! ## Both cores -/

/-- A handler at work. -/
structure Handling where
  /-- Its request. -/
  request : LayoutRequest
  /-- What is left to do. -/
  rest : List Access
  /-- Whether a mirror is updated and the latch is still to come. -/
  updated : Bool
deriving DecidableEq

/-- The render task, the handler at work and what they share. -/
structure Display where
  /-- The clock. -/
  now : Nat
  /-- The statics. -/
  shared : Shared
  /-- `DISPLAY`, while a state waits. -/
  display : Option DisplayState
  /-- `render_task`. -/
  task : RenderTask
  /-- The request being handled. -/
  handling : Option Handling
  /-- The frame handed to the panel driver and not taken yet. -/
  handed : Option Frame
  /-- The frame on the panel. -/
  shown : Option Frame
  /-- How many previews have been pushed. -/
  pushes : Nat
  /-- Which push armed the deadline last. -/
  armedPush : Nat
  /-- When the deadline was armed last. -/
  armedAt : Nat
  /-- The request completed last. -/
  completed : Option LayoutRequest
deriving DecidableEq

/-- What a wait of the render task ends with. -/
inductive Arm where
  /-- The timer. -/
  | timer
  /-- `DISPLAY`. -/
  | display
  /-- `REDRAW`. -/
  | redraw
deriving DecidableEq

namespace Display

/-- What happens next. -/
inductive Event where
  /-- Time passes. -/
  | passes (ticks : Nat)
  /-- A state is signalled. -/
  | signals (state : DisplayState)
  /-- Settings are pushed into their mirror. -/
  | applies (cfg : Config)
  /-- A request arrives, and is handled if none is. -/
  | accepts (request : LayoutRequest)
  /-- The handler makes its next access, or answers. -/
  | handles
  /-- The render task goes on to its next access; what the wall clock says. -/
  | renders (nowUnix : Option Int)
  /-- A wait of the render task ends with one of the arms that are ready. -/
  | wakes (arm : Arm)
  /-- The panel driver takes the frame handed to it and gives the other buffer back. -/
  | exchanges
deriving DecidableEq

/-- The board as it comes up with its persisted settings and layout. -/
def boot (cfg : Config) (layout : Option Layout) : Display where
  now := 0
  shared := (Shared.init.applyConfig cfg).applyLayout layout
  display := none
  task := RenderTask.init
  handling := none
  handed := none
  shown := none
  pushes := 0
  armedPush := 0
  armedAt := 0
  completed := none

variable (textLit : TextRaster) (d : Display)

/-- Make one access. -/
def access (access : Access) : Display :=
  let d := { d with shared := access.run d.shared d.now }
  match access with
  | .replacePreview _ => { d with pushes := d.pushes + 1 }
  | .armDeadline => { d with armedPush := d.pushes, armedAt := d.now }
  | _ => d

/-- The handler's next access, or its answer. -/
def handle : Display :=
  match d.handling with
  | none => d
  | some ⟨request, [], _⟩ => { d with handling := none, completed := some request }
  | some ⟨request, access :: rest, updated⟩ =>
    { d.access access with handling := some ⟨request, rest, access.leaves updated⟩ }

/-- The render task goes on to a point. -/
def goTo (point : RenderPoint) : Display := { d with task := { d.task with point } }

/-- `refresh_layout_cache`, one access. -/
def refresh (next : AfterRefresh) : Refreshing → Display
  | .loading => d.goTo (.refreshing next (.comparing d.shared.previewDeadline))
  | .comparing deadline =>
    if deadline != 0 && decide (d.now < deadline) then d.goTo (.refreshing next .cloningPreview)
    else d.goTo (.refreshing next .cloningCustom)
  | .cloningPreview =>
    match d.shared.previewLayout with
    | some preview => { d with task := d.task.refreshed next ⟨some preview, none⟩ d.pushes }
    | none => d.goTo (.refreshing next .cloningCustom)
  | .cloningCustom =>
    { d with task := d.task.refreshed next ⟨none, d.shared.customLayout⟩ d.task.push }

/-- Load the deadline that starts a frame. -/
def begin : Display :=
  let start := ⟨d.now, d.shared.previewDeadline, d.armedPush⟩
  let point := if start.deadline = 0 then .drawing else .checking
  { d with task := { d.task with start, point } }

/-- The frame the render task draws at this point. -/
def frame (nowUnix : Option Int) : Frame where
  state := d.task.state
  layout := d.task.layoutCache
  push := d.task.push
  counter := d.task.frame
  shared := d.shared
  nowUnix := nowUnix
  start := d.task.start

/-- Draw a frame and hand it to the panel driver. -/
def hand (frame : Frame) : Display :=
  { d.goTo (.handing (frame.draw textLit).2) with handed := some frame }

/-- `render_task`, one access; the frame it draws, if it does. -/
def render (nowUnix : Option Int) : Display × Option Frame :=
  match d.task.point with
  | .refreshing next stage => (d.refresh next stage, none)
  | .beginning => (d.begin, none)
  | .checking =>
    (if d.task.start.deadline ≤ d.now then d.goTo .clearing else d.goTo .drawing, none)
  | .clearing => ((d.access .clearDeadline).goTo .taking, none)
  | .taking => ((d.access .takePreview).goTo .signalling, none)
  | .signalling => ((d.access .signalRedraw).goTo (.refreshing .draws .loading), none)
  | .drawing => (d.hand textLit (d.frame nowUnix), some (d.frame nowUnix))
  | .handing animating =>
    match d.handed with
    | some _ => (d, none)
    | none => ({ d with task := d.task.frameShown d.shared d.now animating }, none)
  | .starting | .resting _ | .pausing _ => (d, none)

/-- A wait ends with an arm, if that is ready. -/
def wake (arm : Arm) : Display :=
  match d.task.point, arm with
  | .starting, .display =>
    match d.display with
    | some state => { d with display := none, task := d.task.enter state }
    | none => d
  | .resting wakeAt, .timer =>
    if wakeAt ≤ d.now then { d with task := d.task.enter d.task.state } else d
  | .resting _, .display =>
    match d.display with
    | some next => { d with display := none, task := d.task.enter next }
    | none => d
  | .resting _, .redraw =>
    if d.shared.redraw then
      { d with shared := { d.shared with redraw := false }, task := d.task.enter d.task.state }
    else d
  | .pausing wakeAt, .timer =>
    if wakeAt ≤ d.now then
      { d with task := { d.task with frame := d.task.frame + 1, point := .beginning } }
    else d
  | .pausing _, .display =>
    match d.display with
    | some next => { d with display := none, task := d.task.takeState next }
    | none => d
  | .pausing _, .redraw =>
    if d.shared.redraw then
      { d.goTo (.refreshing .begins .loading) with shared := { d.shared with redraw := false } }
    else d
  | _, _ => d

/-- The panel driver takes the frame handed to it. -/
def exchange : Display :=
  match d.handed with
  | some frame => { d with handed := none, shown := some frame }
  | none => d

/-- One step; the frame drawn in it, if one is. -/
def step (d : Display) : Event → Display × Option Frame
  | .passes ticks => ({ d with now := d.now + ticks }, none)
  | .signals state => ({ d with display := some state }, none)
  | .applies cfg => ({ d with shared := d.shared.applyConfig cfg }, none)
  | .accepts request =>
    match d.handling with
    | none => ({ d with handling := some ⟨request, request.accesses, false⟩ }, none)
    | some _ => (d, none)
  | .handles => (d.handle, none)
  | .renders nowUnix => d.render textLit nowUnix
  | .wakes arm => (d.wake arm, none)
  | .exchanges => (d.exchange, none)

/-- The board after events, and the frames drawn on the way. -/
def after (cfg : Config) (layout : Option Layout) (events : List Event) :
    Display × List (Event × Option Frame) :=
  Machine.run (step textLit) (boot cfg layout) events

end Display

end Zugli
