import Zugli.Firmware.Shared
import Zugli.Firmware.Storage

/-!
# The configuration server

The handlers of the config page, one request at a time. A handler that persists logs the
outcome and answers the same either way: what it sets in memory applies until the next restart.
Request bodies are taken as parsed.
-/

namespace Zugli

open Json (utf8)
open Serde

/-- The board: its flash store, when it was found, the shared statics, and `JSON_TX_IN_USE`. -/
structure Device where
  /-- `STORE`. -/
  store : Option Store
  /-- The shared statics. -/
  shared : Shared
  /-- `JSON_TX_IN_USE`. -/
  jsonTxInUse : Bool

/-- What a handler answers. -/
structure Reply where
  /-- The outcome of the persist it logs, if it persists. -/
  persisted : Option SaveResult
  /-- The bytes of the response body. -/
  body : List UInt8
deriving DecidableEq

/-- A route of the server with its parsed body. -/
inductive Request where
  /-- `POST /save`. -/
  | save (sel : Selection)
  /-- `GET /selection`. -/
  | getSelection
  /-- `GET /config`. -/
  | getConfig
  /-- `POST /config`. -/
  | setConfig (cfg : Config)
  /-- `GET /layout`. -/
  | getLayout
  /-- `POST /layout`. -/
  | setLayout (layout : Layout)
  /-- `POST /preview`. -/
  | setPreview (layout : Layout)
  /-- `POST /preview/end`. -/
  | endPreview
deriving DecidableEq

/-- `CONFIG_JSON_CAP`. -/
def configJsonCap : Nat := 224

/-- The body of an empty object. -/
def emptyJson : List UInt8 := utf8 "\x7b\x7d".toList

/-- `ok`: the acknowledgement of every changing route. -/
def okJson : List UInt8 := utf8 "\x7b\"ok\":true\x7d".toList

namespace Device

variable (serde : SerdeJsonCore) (device : Device)

/-- `storage::persist`: run a save on the store, if there is one. -/
def persist (save : Store → Store × SaveResult) : Device × SaveResult :=
  match device.store with
  | none => (device, .err)
  | some store => ({ device with store := some (save store).1 }, (save store).2)

/-- `raw_json`: serialize into the shared buffer, or answer an empty object. -/
def rawJson {α : Type} [Serialize α] (value : α) : List UInt8 :=
  if device.jsonTxInUse then emptyJson
  else
    match (serde.toSlice value layoutMaxBytes).getD [] with
    | [] => emptyJson
    | body => body

/-- `save`: persist the selection and make it live. -/
def save (faults : Faults) (sel : Selection) : Device × Reply :=
  let (device, result) := device.persist fun store => store.saveSelection serde faults sel
  let shared := (device.shared.select sel).signalSelectionChanged
  ({ device with shared }, ⟨some result, okJson⟩)

/-- `get_selection`: the live selection. -/
def getSelection : Device × Reply :=
  match device.shared.selection with
  | some sel => (device, ⟨none, device.rawJson serde sel⟩)
  | none => (device, ⟨none, emptyJson⟩)

/-- A boolean as `write!` formats it. -/
def showBool (value : Bool) : String := if value then "true" else "false"

/-- `UiMode as u8`. -/
def modeNumber : UiMode → Nat
  | .default => 0
  | .focus => 1
  | .custom => 2

/-- `get_config`: the live settings. -/
def getConfig : Device × Reply :=
  let shared := device.shared
  let body := "\x7b\"stripCity\":" ++ showBool shared.stripCityEnabled ++
    ",\"showLineBadges\":" ++ showBool shared.lineBadgesEnabled ++
    ",\"brightness\":" ++ Nat.repr shared.brightness.toNat ++
    ",\"autoBrightness\":" ++ showBool shared.autoBrightnessEnabled ++
    ",\"offWhenDimmed\":" ++ showBool shared.offWhenDimmedEnabled ++
    ",\"reducedStart\":" ++ Nat.repr shared.reducedStartMin.toNat ++
    ",\"reducedEnd\":" ++ Nat.repr shared.reducedEndMin.toNat ++
    ",\"uiMode\":" ++ Nat.repr (modeNumber shared.mode) ++ "\x7d"
  (device, ⟨none, if body.utf8ByteSize ≤ configJsonCap then utf8 body.toList else emptyJson⟩)

/-- `set_config`: persist the settings and apply them. -/
def setConfig (faults : Faults) (cfg : Config) : Device × Reply :=
  let (device, result) := device.persist fun store => store.saveConfig serde faults cfg
  let shared := (device.shared.applyConfig cfg).signalSelectionChanged
  ({ device with shared }, ⟨some result, okJson⟩)

/-- `get_layout`: the persisted layout, or the default one. -/
def getLayout (faults : Faults) : Device × Reply :=
  let layout := (device.store.bind fun store => store.loadLayout serde faults).getD Layout.default
  (device, ⟨none, device.rawJson serde layout⟩)

/-- `set_layout`: clamp a layout, persist it, or clear the saved one when it is empty, and make
it live. -/
def setLayout (faults : Faults) (layout : Layout) : Device × Reply :=
  let layout := layout.sanitize
  let saved := if layout.e.val.isEmpty then none else some layout
  let (device, result) := device.persist fun store => store.saveLayout serde faults saved
  let shared := ((device.shared.applyLayout saved).endPreview).signalSelectionChanged
  ({ device with shared }, ⟨some result, okJson⟩)

/-- `set_preview`: clamp a layout and show it for a while. -/
def setPreview (now : Nat) (layout : Layout) : Device × Reply :=
  ({ device with shared := device.shared.setPreview layout.sanitize now }, ⟨none, okJson⟩)

/-- `end_preview`. -/
def endPreview : Device × Reply :=
  ({ device with shared := device.shared.endPreview }, ⟨none, okJson⟩)

/-- Handle one request at an instant. -/
def handle (faults : Faults) (now : Nat) : Request → Device × Reply
  | .save sel => device.save serde faults sel
  | .getSelection => device.getSelection serde
  | .getConfig => device.getConfig
  | .setConfig cfg => device.setConfig serde faults cfg
  | .getLayout => device.getLayout serde faults
  | .setLayout layout => device.setLayout serde faults layout
  | .setPreview layout => device.setPreview now layout
  | .endPreview => device.endPreview

/-- The start of `main`: apply the persisted settings and layout, then install the selection. -/
def boot (store : Option Store) (faults : Faults) : Device :=
  let loaded := (store.map fun store => store.loadBoot serde faults).getD Persisted.default
  let shared := (Shared.init.applyConfig loaded.config).applyLayout loaded.layout
  let shared :=
    match loaded.selection with
    | some sel => shared.select sel
    | none => shared
  { store, shared, jsonTxInUse := false }

end Device

end Zugli
