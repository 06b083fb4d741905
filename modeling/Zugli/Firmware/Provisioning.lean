import Zugli.Firmware.Portal
import Zugli.Firmware.Tasks

/-!
# Provisioning

The tasks of a board without credentials: the WiFi manager, the handlers of the setup page that
signal it and the BOOT button. They share one executor, so a step is a section of one task up to
its next await point. The radio answers from outside: what a scan finds and whether a connect
succeeds. Of its controller the configuration requested last is kept.
-/

namespace Zugli

open Serde
open Json (utf8)

/-! ## Radio configurations -/

/-- `SETUP_SSID`. -/
def setupSsid : String := "Zügli-Setup"

/-- `StationConfig`, as far as it is set. -/
structure StationConfig (Method : Type) where
  /-- `ssid`. -/
  ssid : String
  /-- `password`. -/
  password : String
  /-- `auth_method`. -/
  authMethod : AuthenticationMethod Method
deriving DecidableEq

/-- `AccessPointConfig`, as far as it is set. -/
structure AccessPointConfig (Method : Type) where
  /-- `ssid`. -/
  ssid : String
  /-- `auth_method`. -/
  authMethod : AuthenticationMethod Method
deriving DecidableEq

/-- `WifiConfig`; a default station configuration is none. -/
inductive RadioConfig (Method : Type) where
  /-- `Station`. -/
  | station (sta : Option (StationConfig Method))
  /-- `AccessPointStation`. -/
  | accessPointStation (sta : Option (StationConfig Method)) (ap : AccessPointConfig Method)
deriving DecidableEq

section Configs

variable {Method : Type}

/-- `sta_config`: an empty password forces an open network. -/
def staConfig (creds : WifiCreds) (auth : AuthenticationMethod Method) : StationConfig Method where
  ssid := creds.ssid.val
  password := creds.password.val
  authMethod := if creds.password.isEmpty then .none else auth

/-- `ap_config`. -/
def apConfig : AccessPointConfig Method := ⟨setupSsid, .none⟩

end Configs

/-! ## The WiFi manager -/

/-- Where `portal_wifi_task` waits. -/
inductive Manager where
  /-- For the scan before the access point is up. -/
  | scanning
  /-- For credentials or a rescan. -/
  | waiting
  /-- For a scan with the access point up. -/
  | rescanning
  /-- Before a join, until the response to the phone is flushed. -/
  | flushing (creds : WifiCreds) (wakeAt : Nat)
  /-- For an attempt to join. -/
  | joining (creds : WifiCreds) (attempt : Nat)
  /-- After a failed attempt. -/
  | pausing (creds : WifiCreds) (attempt : Nat) (wakeAt : Nat)
  /-- For the lock of the store. -/
  | saving (creds : WifiCreds)
  /-- Before the reset. -/
  | saved (creds : WifiCreds) (wakeAt : Nat)
  /-- The board has been reset. -/
  | reset
deriving DecidableEq

/-- The delay before a join, in ticks. -/
def flushDelay : Nat := 800 * ticksPerSecond / 1000

/-- The delay after a failed attempt, in ticks. -/
def attemptDelay : Nat := ticksPerSecond

/-- The delay before the reset, in ticks. -/
def savedDelay : Nat := ticksPerSecond

/-- Attempts to join a network. -/
def joinAttempts : Nat := 4

/-- The tasks of the portal and what they share. -/
structure Provisioning (Method : Type) where
  /-- The clock. -/
  now : Nat
  /-- The store and the shared statics. -/
  device : Device
  /-- `SCAN_CACHE`. -/
  scanCache : HVec (CachedNet Method) 16
  /-- `CONNECT_REQ`, while credentials wait. -/
  connectReq : Option WifiCreds
  /-- Whether `RESCAN_REQ` is signalled. -/
  rescanReq : Bool
  /-- The configuration requested of the radio last. -/
  radio : RadioConfig Method
  /-- `portal_wifi_task`. -/
  manager : Manager
  /-- `button_task`. -/
  button : Button

namespace Provisioning

/-- What happens next. -/
inductive Event (Method : Type) where
  /-- Time passes. -/
  | passes (ticks : Nat)
  /-- `POST /connect`. -/
  | connects (creds : WifiCreds)
  /-- `GET /scan`. -/
  | lists
  /-- A scan ends; a failed one has found nothing. -/
  | scanned (found : List (AccessPoint Method))
  /-- The manager takes a signal. -/
  | selects
  /-- A timer of the manager fires. -/
  | wakes
  /-- An attempt to join ends. -/
  | joins (succeeds : Bool)
  /-- The manager gets the lock of the store; which flash calls fail. -/
  | saves (faults : Faults)
  /-- The button is sampled. -/
  | sampled (low : Bool)
  /-- `button_task` gets the lock of the store; which flash calls fail. -/
  | wipes (faults : Faults)
  /-- Its delay is over. -/
  | resets

/-- What a step does to the outside. -/
inductive Effect (Method : Type) where
  /-- A request is answered. -/
  | answers (body : List UInt8)
  /-- A configuration is requested of the radio. -/
  | configures (config : RadioConfig Method)
  /-- The manager logs which credentials it tries. -/
  | tries (creds : WifiCreds)
  /-- A connect is started with the configuration in force. -/
  | connects
  /-- A save is run on the store. -/
  | stored (call : Store.Call)
deriving DecidableEq

section Steps

variable {Method : Type}

/-- The tasks as they are spawned, on a board that has booted; the first scan is under way. -/
def start (device : Device) : Provisioning Method where
  now := 0
  device := device
  scanCache := .empty
  connectReq := none
  rescanReq := false
  radio := .station none
  manager := .scanning
  button := .released

variable (serde : SerdeJsonCore) (wpa2Personal : Method) (p : Provisioning Method)

/-- Request a configuration of the radio and go on to a point. -/
def configure (config : RadioConfig Method) (manager : Manager) :
    Provisioning Method × List (Effect Method) :=
  ({ p with radio := config, manager }, [.configures config])

/-- Bring the access point up with an idle station, and wait. -/
def advertise : Provisioning Method × List (Effect Method) :=
  p.configure (.accessPointStation none apConfig) .waiting

/-- What the list of networks is made of. -/
def portal : Portal where
  scanCache := ⟨p.scanCache.val.map CachedNet.toNetInfo, by
    rw [List.length_map]
    exact p.scanCache.fits⟩
  rescanReq := p.rescanReq

/-- `scan_handler`. -/
def lists : Provisioning Method × List (Effect Method) :=
  let (portal, body) := p.portal.scanHandler
  ({ p with rescanReq := portal.rescanReq }, [.answers (utf8 body.chars)])

/-- A scan ends: merge what it has found. -/
def scanned (found : List (AccessPoint Method)) : Provisioning Method × List (Effect Method) :=
  match p.manager with
  | .scanning => { p with scanCache := refreshScan p.scanCache found }.advertise
  | .rescanning =>
    ({ p with scanCache := refreshScan p.scanCache found, manager := .waiting }, [])
  | _ => (p, [])

/-- The manager takes a signal; credentials go first. -/
def selects : Provisioning Method × List (Effect Method) :=
  match p.manager, p.connectReq with
  | .waiting, some creds =>
    ({ p with connectReq := none, manager := .flushing creds (p.now + flushDelay) }, [.tries creds])
  | .waiting, none =>
    if p.rescanReq then ({ p with rescanReq := false, manager := .rescanning }, []) else (p, [])
  | _, _ => (p, [])

/-- The method to join a network with: the scanned one, or WPA2. -/
def joinAuth (creds : WifiCreds) : AuthenticationMethod Method :=
  (scannedAuth p.scanCache creds.ssid).getD (.other wpa2Personal)

/-- A timer of the manager fires. -/
def wakes : Provisioning Method × List (Effect Method) :=
  match p.manager with
  | .flushing creds wakeAt =>
    if wakeAt ≤ p.now then
      let config := .station (some (staConfig creds (p.joinAuth wpa2Personal creds)))
      ({ p with radio := config, manager := .joining creds 0 }, [.configures config, .connects])
    else (p, [])
  | .pausing creds attempt wakeAt =>
    if wakeAt ≤ p.now then
      if attempt + 1 < joinAttempts then
        ({ p with manager := .joining creds (attempt + 1) }, [.connects])
      else p.advertise
    else (p, [])
  | .saved _ wakeAt => if wakeAt ≤ p.now then ({ p with manager := .reset }, []) else (p, [])
  | _ => (p, [])

/-- An attempt to join ends. -/
def joins (succeeds : Bool) : Manager :=
  match p.manager with
  | .joining creds attempt =>
    if succeeds then .saving creds else .pausing creds attempt (p.now + attemptDelay)
  | other => other

/-- The manager persists the credentials it joined with; whether that fails is only logged. -/
def saves (faults : Faults) : Provisioning Method × List (Effect Method) :=
  match p.manager with
  | .saving creds =>
    ({ p with
        device := (p.device.persist fun store =>
          Store.call serde store faults (.saveWifi creds)).1
        manager := .saved creds (p.now + savedDelay) }, [.stored (.saveWifi creds)])
  | _ => (p, [])

/-- The button is sampled. -/
def sampled (low : Bool) : Button :=
  match p.button with
  | .released => if low then .held p.now else .released
  | .held start =>
    if !low then .released else if hold ≤ p.now - start then .wiping else .held start
  | other => other

/-- Wipe the store. -/
def wipes (faults : Faults) : Provisioning Method × List (Effect Method) :=
  if p.button = .wiping then
    ({ p with
        device := (p.device.persist fun store => Store.call serde store faults .clearAll).1
        button := .wiped p.now }, [.stored .clearAll])
  else (p, [])

/-- Reset the board once the delay is over. -/
def resets : Button :=
  match p.button with
  | .wiped since => if since + resetDelay ≤ p.now then .reset else .wiped since
  | other => other

/-- One step; a step that cannot be taken changes nothing. -/
def stepRunning : Event Method → Provisioning Method × List (Effect Method)
  | .passes ticks => ({ p with now := p.now + ticks }, [])
  | .connects creds => ({ p with connectReq := some creds }, [.answers okJson])
  | .lists => p.lists
  | .scanned found => p.scanned found
  | .selects => p.selects
  | .wakes => p.wakes wpa2Personal
  | .joins succeeds => ({ p with manager := p.joins succeeds }, [])
  | .saves faults => p.saves serde faults
  | .sampled low => ({ p with button := p.sampled low }, [])
  | .wipes faults => p.wipes serde faults
  | .resets => ({ p with button := p.resets }, [])

/-- The board has been reset. -/
def isReset : Bool := decide (p.manager = .reset ∨ p.button = .reset)

/-- One step; a board that has been reset takes none. -/
def step (event : Event Method) : Provisioning Method × List (Effect Method) :=
  if p.isReset then (p, []) else p.stepRunning serde wpa2Personal event

end Steps

end Provisioning

end Zugli
