import Zugli.Firmware.PowerLoss
import Zugli.Firmware.Provisioning

/-!
# The life of a board

`main` reads the credentials from flash and spawns either the tasks of the portal or those of a
connected running. A board runs them until it resets itself or the power fails, possibly during a
save, and then comes up again from what is in flash.
-/

namespace Zugli

open Serde

/-- The tasks `main` has spawned. -/
inductive Running (Method : Type) where
  /-- `boot_provisioning`. -/
  | provisioning (portal : Provisioning Method)
  /-- `boot_connected`, with the configuration requested of the radio. -/
  | connected (creds : WifiCreds) (radio : RadioConfig Method) (tasks : Tasks)

/-- The save the manager is about to run. -/
def Manager.pending : Manager → List Store.Call
  | .saving creds => [.saveWifi creds]
  | _ => []

/-- The save the button is about to run. -/
def Button.pending : Button → List Store.Call
  | .wiping => [.clearAll]
  | _ => []

/-- The save a handler is about to run. -/
def Handler.pending (handler : Handler) : List Store.Call :=
  if handler.persisted then [] else [handler.request.call]

/-- Whether the server of a connected board has a route for the request. -/
def Saving.served : Saving → Bool
  | .save _ | .setConfig _ | .setLayout _ => true
  | .saveWifi _ => false

/-- Whether the event can happen to a connected running. -/
def Tasks.Event.served : Tasks.Event → Bool
  | .accept request => request.served
  | _ => true

namespace Running

variable {Method : Type}

/-- What happens next. -/
inductive Event (Method : Type) where
  /-- An event of the portal. -/
  | provisioning (event : Provisioning.Event Method)
  /-- An event of a connected running. -/
  | connected (event : Tasks.Event)
  /-- A board that has been reset comes up; which flash calls fail. -/
  | restarts (faults : Faults)
  /-- The power fails, during one of the saves about to run or between them, and comes back;
  which flash calls of the boot fail. -/
  | powerFails (during : Option (Nat × Store.Cut)) (faults : Faults)

/-- What a step does to the outside. -/
inductive Effect (Method : Type) where
  /-- The first state of the display is signalled. -/
  | shows (state : DisplayState)
  /-- An effect of the portal. -/
  | provisioning (effect : Provisioning.Effect Method)
  /-- An effect of a connected board. -/
  | connected (effect : Zugli.Effect)
deriving DecidableEq

variable (serde : SerdeJsonCore) (sorting : UnstableSort) (wpa2Personal : Method)

/-- `apply_sta`. -/
def applySta (creds : WifiCreds) : RadioConfig Method :=
  .station (some (staConfig creds (.other wpa2Personal)))

/-- `main`, from the flash store on: the persisted selection is installed on a connected board
only. -/
def boot (store : Option Store) (faults : Faults) : Running Method × List (Effect Method) :=
  let device := Device.boot serde store faults
  match ((store.map fun store => store.loadBoot serde faults).getD Persisted.default).wifi with
  | none =>
    (.provisioning (.start { device with shared := { device.shared with selection := none } }),
      [.shows .provisioning])
  | some creds =>
    (.connected creds (applySta wpa2Personal creds) (.start device), [.shows .connecting])

variable (running : Running Method)

/-- The store and the shared statics. -/
def device : Running Method → Device
  | .provisioning portal => portal.device
  | .connected _ _ tasks => tasks.device

/-- The saves about to run. -/
def pending : Running Method → List Store.Call
  | .provisioning portal => portal.manager.pending ++ portal.button.pending
  | .connected _ _ tasks => tasks.handlers.flatMap Handler.pending ++ tasks.button.pending

/-- Whether it has reset itself. -/
def isReset : Running Method → Bool
  | .provisioning portal => portal.isReset
  | .connected _ _ tasks => decide (tasks.button = .reset)

/-- What a loss of power leaves of the store. -/
def storeAfter (during : Option (Nat × Store.Cut)) : Option Store :=
  match during with
  | none => running.device.store
  | some (index, cut) =>
    match running.pending[index]? with
    | none => running.device.store
    | some saved => running.device.store.map fun store => store.callUntil serde cut saved

/-- One step; an event of the other arm changes nothing. -/
def step : Event Method → Running Method × List (Effect Method)
  | .provisioning event =>
    match running with
    | .provisioning portal =>
      let (portal, effects) := portal.step serde wpa2Personal event
      (.provisioning portal, effects.map .provisioning)
    | .connected .. => (running, [])
  | .connected event =>
    match running with
    | .provisioning _ => (running, [])
    | .connected creds radio tasks =>
      if event.served then
        let (tasks, effects) := tasks.step serde sorting event
        (.connected creds radio tasks, effects.map .connected)
      else (running, [])
  | .restarts faults =>
    if running.isReset then boot serde wpa2Personal running.device.store faults else (running, [])
  | .powerFails during faults => boot serde wpa2Personal (running.storeAfter serde during) faults

end Running

end Zugli
