import Zugli.Firmware.Display.Task

/-!
# Both cores

The tasks of the first core and the render task on the second. `DISPLAY` carries the states from
the one to the other and keeps the last one that is not taken yet. The settings, the layouts and
the panel driver reach the render task as they do on its own.
-/

namespace Zugli

open Serde

/-- The tasks of a connected board and its render task. -/
structure Cores where
  /-- Those of the first core. -/
  tasks : Tasks
  /-- What the render task is concerned with. -/
  display : Display

namespace Cores

/-- What happens next. -/
inductive Event where
  /-- A step on the first core. -/
  | first (event : Tasks.Event)
  /-- A step of the render task or around it; states are signalled by the first core only. -/
  | second (event : Display.Event)

/-- The state that an effect signals, if it does. -/
def signal? : Effect → Option DisplayState
  | .display state => some state
  | .stored _ => none

/-- The states that a step of the first core signals, in order. -/
def signals (effects : List Effect) : List DisplayState := effects.filterMap signal?

variable (serde : SerdeJsonCore) (sorting : UnstableSort) (textLit : TextRaster)

/-- A connected board that has booted: the startup animation is signalled before any task runs. -/
def start (device : Device) : Cores where
  tasks := .start device
  display := { Display.boot .default none with
    shared := device.shared
    display := some .connecting }

/-- One step; the frame drawn in it, if one is. -/
def step (cores : Cores) : Event → Cores × Option Frame
  | .first event =>
    let (tasks, effects) := cores.tasks.step serde sorting event
    (⟨tasks, { cores.display with
      display := (signals effects).getLast?.or cores.display.display }⟩, none)
  | .second (.signals _) => (cores, none)
  | .second event =>
    let (display, frame) := cores.display.step textLit event
    (⟨cores.tasks, display⟩, frame)

end Cores

end Zugli
