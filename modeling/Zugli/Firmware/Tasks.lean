import Zugli.Firmware.Httpd
import Zugli.Firmware.Poll

/-!
# The tasks of the first core

The HTTP handlers that persist, the network task, the poll task and the task of the BOOT button
share one executor: a task runs from one await point to the next without another in between. A step
is such a section of one task; which task is next is given from outside, and so are the network,
the button and the clock. A lock is never held across an await point, so a task that waits for one
is simply run later.
-/

namespace Zugli

open Serde

/-- An IPv4 address. -/
abbrev Octets := UInt8 × UInt8 × UInt8 × UInt8

/-- A request that persists something and then sets the live state. -/
inductive Saving where
  /-- `POST /save`. -/
  | save (sel : Selection)
  /-- `POST /config`. -/
  | setConfig (cfg : Config)
  /-- `POST /layout`. -/
  | setLayout (layout : Layout)
  /-- The credentials of a network the captive portal joined. -/
  | saveWifi (creds : WifiCreds)
deriving DecidableEq

namespace Saving

/-- The layout `set_layout` saves, none when it is empty. -/
def savedLayout (layout : Layout) : Option Layout :=
  if layout.sanitize.e.val.isEmpty then none else some layout.sanitize

/-- What it persists. -/
def call : Saving → Store.Call
  | .save sel => .saveSelection sel
  | .setConfig cfg => .saveConfig cfg
  | .setLayout layout => .saveLayout (savedLayout layout)
  | .saveWifi creds => .saveWifi creds

/-- What it sets once that is done. -/
def apply (shared : Shared) : Saving → Shared
  | .save sel => (shared.select sel).signalSelectionChanged
  | .setConfig cfg => (shared.applyConfig cfg).signalSelectionChanged
  | .setLayout layout =>
    ((shared.applyLayout (savedLayout layout)).endPreview).signalSelectionChanged
  | .saveWifi _ => shared

end Saving

/-- Where a handler waits. -/
structure Handler where
  /-- Its request. -/
  request : Saving
  /-- Whether it has persisted. -/
  persisted : Bool
deriving DecidableEq

/-- Where `net_ready_task` waits. -/
inductive NetReady where
  /-- For the network to come up. -/
  | starting
  /-- For the lock of the selection, with the address of the device. -/
  | addressed (octets : Octets)
  /-- For the first clock sample. -/
  | syncing
  /-- For a later clock sample. -/
  | resyncing
deriving DecidableEq

/-- Where `button_task` waits. -/
inductive Button where
  /-- For the button to go down. -/
  | released
  /-- For the button to be held long enough. -/
  | held (start : Nat)
  /-- For the lock of the store. -/
  | wiping
  /-- Before the reset. -/
  | wiped (since : Nat)
  /-- The board has been reset. -/
  | reset
deriving DecidableEq

/-- `HOLD`, in ticks. -/
def hold : Nat := 3 * ticksPerSecond

/-- The delay between the wipe and the reset, in ticks. -/
def resetDelay : Nat := 200 * ticksPerSecond / 1000

/-- The tasks and what they share. -/
structure Tasks where
  /-- The store and the shared statics. -/
  device : Device
  /-- `DEVICE_IP`, all zeros before it is known. -/
  deviceIp : Octets
  /-- `BOOT_UNIX`, zero before the first clock sample. -/
  bootUnix : Int64
  /-- `poll_task`. -/
  poll : PollTask
  /-- `net_ready_task`. -/
  netReady : NetReady
  /-- `button_task`. -/
  button : Button
  /-- Requests being handled. -/
  handlers : List Handler

/-- What a step does to the outside. -/
inductive Effect where
  /-- `DISPLAY` is signalled. -/
  | display (state : DisplayState)
  /-- A save is run on the store. -/
  | stored (call : Store.Call)
deriving DecidableEq

namespace Tasks

/-- What happens next. -/
inductive Event where
  /-- A request arrives. -/
  | accept (request : Saving)
  /-- A handler goes on to its next await point; which flash calls fail on the way. -/
  | handle (index : Nat) (faults : Faults)
  /-- The network is up, for `net_ready_task`, with the address if there is one. -/
  | configured (octets : Option Octets)
  /-- `net_ready_task` gets the lock of the selection. -/
  | addressChecked
  /-- A clock sample, if the exchange succeeds. -/
  | synced (now : Nat) (unix : Option Int64)
  /-- The network is up, for `poll_task`. -/
  | networkUp
  /-- `poll_task` gets the lock of the selection. -/
  | polls (now : Nat)
  /-- Its fetch ends. -/
  | fetched (now : Nat) (attempt : Attempt)
  /-- Its timer fires. -/
  | timer (now : Nat)
  /-- It takes the signal of a changed selection. -/
  | woken
  /-- The button is sampled. -/
  | sampled (now : Nat) (low : Bool)
  /-- `button_task` gets the lock of the store; which flash calls fail. -/
  | wipes (now : Nat) (faults : Faults)
  /-- Its delay is over. -/
  | resets (now : Nat)

variable (serde : SerdeJsonCore) (sorting : UnstableSort)

/-- The tasks as they are spawned, on a board that has booted. -/
def start (device : Device) : Tasks where
  device := device
  deviceIp := (0, 0, 0, 0)
  bootUnix := 0
  poll := .start
  netReady := .starting
  button := .released
  handlers := []

variable (tasks : Tasks)

/-- `device_ip`. -/
def ip : Option Octets := if tasks.deviceIp = (0, 0, 0, 0) then none else some tasks.deviceIp

/-- Seconds since boot, as a machine integer. -/
def uptime (now : Nat) : Int64 := .ofNat (now / ticksPerSecond)

/-- `now_unix`. -/
def nowUnix (now : Nat) : Option Int64 :=
  if tasks.bootUnix = 0 then none else some (tasks.bootUnix + uptime now)

/-- `set_clock`. -/
def setClock (now : Nat) (unix : Int64) : Tasks := { tasks with bootUnix := unix - uptime now }

/-- `SELECTION_CHANGED.signal(())`. -/
def signalSelectionChanged : Tasks :=
  { tasks with device := { tasks.device with shared := tasks.device.shared.signalSelectionChanged } }

/-- The signal of a changed selection is taken. -/
def takeSelectionChanged : Tasks :=
  { tasks with
    device := { tasks.device with shared := { tasks.device.shared with selectionChanged := false } } }

/-- Keep what the poll task made of a step. -/
def polled (stepped : PollTask × List DisplayState) : Tasks × List Effect :=
  ({ tasks with poll := stepped.1 }, stepped.2.map .display)

/-- A handler persists, or sets the live state and answers. -/
def handleOne (index : Nat) (faults : Faults) : Tasks × List Effect :=
  match tasks.handlers[index]? with
  | none => (tasks, [])
  | some handler =>
    let request := handler.request
    if handler.persisted then
      ({ tasks with
          device := { tasks.device with shared := request.apply tasks.device.shared }
          handlers := tasks.handlers.eraseIdx index }, [])
    else
      ({ tasks with
          device := (tasks.device.persist fun store =>
            Store.call serde store faults request.call).1
          handlers := tasks.handlers.set index ⟨request, true⟩ }, [.stored request.call])

/-! ## The network task -/

/-- The network is up: record the address, if there is one. -/
def configured (octets : Option Octets) : Tasks :=
  match tasks.netReady with
  | .starting =>
    match octets with
    | some octets => { tasks with deviceIp := octets, netReady := .addressed octets }
    | none => { tasks with netReady := .syncing }
  | _ => tasks

/-- Show the address if nothing is selected. -/
def addressChecked : Tasks × List Effect :=
  match tasks.netReady with
  | .addressed octets =>
    ({ tasks with netReady := .syncing },
      if tasks.device.shared.selection.isNone then [.display (.idleAddress octets)] else [])
  | _ => (tasks, [])

/-- A clock sample; the first one asks for a new poll. -/
def synced (now : Nat) (unix : Int64) : Tasks :=
  match tasks.netReady with
  | .syncing => { (tasks.setClock now unix).signalSelectionChanged with netReady := .resyncing }
  | .resyncing => tasks.setClock now unix
  | _ => tasks

/-! ## The poll task -/

/-- The poll task goes on to read the selection. -/
def restart : Tasks := { tasks with poll := { tasks.poll with pc := .reading } }

/-- The network is up: start polling. -/
def networkUp : Tasks := if tasks.poll.pc = .starting then tasks.restart else tasks

/-- The poll task reads the selection. -/
def polls (now : Nat) : Tasks × List Effect :=
  if tasks.poll.pc = .reading then
    tasks.polled (tasks.poll.read now tasks.device.shared.selection tasks.ip)
  else (tasks, [])

/-- Its fetch ends. -/
def fetched (now : Nat) (attempt : Attempt) : Tasks × List Effect :=
  match tasks.poll.pc with
  | .fetching sel =>
    tasks.polled (tasks.poll.fetched serde sorting now (tasks.nowUnix now) sel attempt)
  | _ => (tasks, [])

/-- Its timer fires. -/
def timer (now : Nat) : Tasks :=
  match tasks.poll.pc with
  | .waiting _ wakeAt => if wakeAt ≤ now then tasks.restart else tasks
  | _ => tasks

/-- It takes the signal of a changed selection. -/
def woken : Tasks :=
  match tasks.poll.pc with
  | .waiting _ _ =>
    if tasks.device.shared.selectionChanged then tasks.takeSelectionChanged.restart else tasks
  | _ => tasks

/-! ## The button task -/

/-- The button is sampled. -/
def sampled (now : Nat) (low : Bool) : Button :=
  match tasks.button with
  | .released => if low then .held now else .released
  | .held start =>
    if !low then .released else if hold ≤ now - start then .wiping else .held start
  | other => other

/-- Wipe the store. -/
def wipes (now : Nat) (faults : Faults) : Tasks × List Effect :=
  if tasks.button = .wiping then
    ({ tasks with
        device := (tasks.device.persist fun store =>
          Store.call serde store faults .clearAll).1
        button := .wiped now }, [.stored .clearAll])
  else (tasks, [])

/-- Reset the board once the delay is over. -/
def resets (now : Nat) : Button :=
  match tasks.button with
  | .wiped since => if since + resetDelay ≤ now then .reset else .wiped since
  | other => other

/-! ## Steps -/

/-- One step; a step that cannot be taken changes nothing. -/
def stepRunning : Event → Tasks × List Effect
  | .accept request => ({ tasks with handlers := tasks.handlers ++ [⟨request, false⟩] }, [])
  | .handle index faults => tasks.handleOne serde index faults
  | .configured octets => (tasks.configured octets, [])
  | .addressChecked => tasks.addressChecked
  | .synced now unix => (unix.elim tasks (tasks.synced now), [])
  | .networkUp => (tasks.networkUp, [])
  | .polls now => tasks.polls now
  | .fetched now attempt => tasks.fetched serde sorting now attempt
  | .timer now => (tasks.timer now, [])
  | .woken => (tasks.woken, [])
  | .sampled now low => ({ tasks with button := tasks.sampled now low }, [])
  | .wipes now faults => tasks.wipes serde now faults
  | .resets now => ({ tasks with button := tasks.resets now }, [])

/-- One step; a board that has been reset takes none. -/
def step (event : Event) : Tasks × List Effect :=
  if tasks.button = .reset then (tasks, []) else tasks.stepRunning serde sorting event

end Tasks

end Zugli
