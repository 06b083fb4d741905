import Zugli.Firmware.Display.Task

/-!
# Two framebuffers

The render task draws into one framebuffer while the panel driver sends the other to the panel.
Two one-slot signals carry the buffers to and fro, and a signal overwrites what waits in its slot.
Both tasks run on the second core, the driver at the higher priority: between two of its waits
nothing of the render task happens.
-/

namespace Zugli

/-- The framebuffers `main` allocates. -/
inductive PanelBuffer where
  /-- The one the render task starts with. -/
  | fb0
  /-- The one the driver starts with. -/
  | fb1
deriving DecidableEq

/-- The framebuffer beside one. -/
def PanelBuffer.other : PanelBuffer → PanelBuffer
  | .fb0 => .fb1
  | .fb1 => .fb0

/-- Where `hub75_task` is. -/
inductive HubPoint where
  /-- It waits for the first framebuffer of the render task. -/
  | starting
  /-- At the head of its loop, as the start of a transfer failed. -/
  | turning
  /-- It waits for a transfer to end. -/
  | transferring
deriving DecidableEq

/-- The framebuffers, the signals between the two tasks and what each task holds. -/
structure Buffers (Image : Type) where
  /-- What is drawn in each framebuffer. -/
  image : PanelBuffer → Image
  /-- `ex_b`, on which the render task signals. -/
  toPanel : Option PanelBuffer
  /-- `ex_a`, on which the driver signals. -/
  toRender : Option PanelBuffer
  /-- `fb` of `render_task`, unless it awaits one. -/
  render : Option PanelBuffer
  /-- `fb` of `hub75_task`. -/
  hub : PanelBuffer
  /-- Where the driver is. -/
  hubPoint : HubPoint

namespace Buffers

variable {Image : Type}

/-- Both framebuffers blank, one with each task. -/
def start (blank : Image) : Buffers Image where
  image := fun _ => blank
  toPanel := none
  toRender := none
  render := some .fb0
  hub := .fb1
  hubPoint := .starting

/-- What either task does next. -/
inductive Event (Image : Type) where
  /-- The render task draws in its framebuffer. -/
  | draws (change : Image → Image)
  /-- The render task signals its framebuffer and goes on to await one. -/
  | hands
  /-- The render task takes the framebuffer it awaits. -/
  | regains
  /-- The driver goes on to its next wait; whether the transfer it has waited for went through, and
  whether the one it begins starts. -/
  | turns (whole starts : Bool)

/-- What is seen of an event from outside. -/
inductive Sight (Image : Type) where
  /-- An image is handed to the driver. -/
  | handed (image : Image)
  /-- An attempt at a transfer of an image ends; whether the whole image went through. -/
  | ended (image : Image) (whole : Bool)

variable (buffers : Buffers Image)

/-- Draw in the framebuffer the render task holds. -/
def draw (change : Image → Image) : Buffers Image :=
  match buffers.render with
  | some own =>
    { buffers with image := fun other =>
        if other = own then change (buffers.image own) else buffers.image other }
  | none => buffers

/-- `tx.signal(fb)` of the render task. -/
def hand : Buffers Image :=
  match buffers.render with
  | some own => { buffers with toPanel := some own, render := none }
  | none => buffers

/-- `fb = rx.wait().await` of the render task, once a framebuffer is there. -/
def regain : Buffers Image :=
  match buffers.render, buffers.toRender with
  | none, some own => { buffers with toRender := none, render := some own }
  | _, _ => buffers

/-- The driver takes a framebuffer and signals the one it held. -/
def swap (new : PanelBuffer) : Buffers Image :=
  { buffers with toPanel := none, toRender := some buffers.hub, hub := new }

/-- The driver begins a transfer of its framebuffer. -/
def begin (starts : Bool) : Buffers Image :=
  { buffers with hubPoint := if starts then .transferring else .turning }

/-- The driver goes on to its next wait: it takes a framebuffer if one has been signalled, and
begins a transfer. -/
def turn (starts : Bool) : Buffers Image :=
  match buffers.hubPoint, buffers.toPanel with
  | .starting, none => buffers
  | _, some new => (buffers.swap new).begin starts
  | _, none => buffers.begin starts

/-- One event. -/
def step (buffers : Buffers Image) : Event Image → Buffers Image × Unit
  | .draws change => (buffers.draw change, ())
  | .hands => (buffers.hand, ())
  | .regains => (buffers.regain, ())
  | .turns _ starts => (buffers.turn starts, ())

/-- The image of the transfer under way. -/
def underway : List Image :=
  if buffers.hubPoint = .transferring then [buffers.image buffers.hub] else []

/-- The image of the transfer that has failed to start. -/
def unstarted : List Image :=
  if buffers.hubPoint = .turning then [buffers.image buffers.hub] else []

/-- What is seen of an event. -/
def sights (buffers : Buffers Image) : Event Image → List (Sight Image)
  | .draws _ | .regains => []
  | .hands => (buffers.render.map fun own => .handed (buffers.image own)).toList
  | .turns whole starts =>
    (buffers.underway.map fun image => .ended image whole) ++
      (buffers.turn starts).unstarted.map fun image => .ended image false

/-- What the panel shows, once a framebuffer has come. -/
def onPanel : Option Image :=
  if buffers.hubPoint = .starting then none else some (buffers.image buffers.hub)

end Buffers

/-! ## The render task on two framebuffers -/

/-- The board with both framebuffers; of its two places for a frame under way none is used. -/
structure Screen where
  /-- The render task, the handlers and what they share. -/
  display : Display
  /-- The framebuffers. -/
  buffers : Buffers FrameBuffer

namespace Screen

/-- What happens next. -/
inductive Event where
  /-- What happens to the board; the driver's turn begins a transfer. -/
  | board (event : Display.Event)
  /-- The driver's turn fails to begin one. -/
  | misfires

/-- The board as it comes up. -/
def boot (cfg : Config) (layout : Option Layout) : Screen := ⟨.boot cfg layout, .start erased⟩

variable (textLit : TextRaster) (screen : Screen)

/-- The two places for a frame under way, cleared. -/
def unframed (d : Display) : Display := { d with handed := none, shown := none }

/-- `render_task`, one access. -/
def render (nowUnix : Option Int) : Screen × Option Frame :=
  let d := screen.display
  match d.task.point with
  | .drawing =>
    let frame := d.frame nowUnix
    let drawn := screen.buffers.draw fun _ => (frame.draw textLit).1
    (⟨unframed (d.render textLit nowUnix).1, drawn.hand⟩, some frame)
  | .handing animating =>
    match screen.buffers.toRender with
    | some _ =>
      (⟨{ d with task := d.task.frameShown d.shared d.now animating }, screen.buffers.regain⟩, none)
    | none => (screen, none)
  | _ => (⟨(d.render textLit nowUnix).1, screen.buffers⟩, (d.render textLit nowUnix).2)

/-- One step; the frame drawn in it, if one is. -/
def step (screen : Screen) : Event → Screen × Option Frame
  | .board (.renders nowUnix) => screen.render textLit nowUnix
  | .board .exchanges => ({ screen with buffers := screen.buffers.turn true }, none)
  | .board event =>
    (⟨(screen.display.step textLit event).1, screen.buffers⟩, (screen.display.step textLit event).2)
  | .misfires => ({ screen with buffers := screen.buffers.turn false }, none)

end Screen

end Zugli
