import Zugli.Firmware.Derive
import Zugli.Lib.Nor

/-!
# Persistence in the `nvs` partition

Everything persisted is one record in one sector: a magic word, a length word and a JSON
payload, padded to a whole word. Every save reads the record whole, changes one field and
writes it whole back. Each flash call may return an error; a call that does has changed
nothing.
-/

namespace Zugli

open Serde

/-- `MAGIC`, the first word of a record. -/
def magic : Nat := 0x5A474C32

/-- `STORE_SECTOR`, the offset of the record in the partition. -/
def storeSector : Nat := 0

/-- `MAX_PAYLOAD`, the largest JSON payload of a record. -/
def maxPayload : Nat := 3072

/-- Size of the scratch buffer for decoding escapes. -/
def unescapeSize : Nat := 256

/-- The flash calls of one operation whose results it uses. -/
inductive FlashCall where
  /-- Read the header of the record. -/
  | header
  /-- Read its payload. -/
  | payload
  /-- Erase its sector. -/
  | erase
  /-- Write the record. -/
  | write
deriving DecidableEq

/-- Which flash calls of one operation return an error. -/
abbrev Faults := FlashCall → Bool

/-- Working flash. -/
def noFaults : Faults := fun _ => false

/-- The result of a flash call that may fail. -/
def attempt {α : Type} (faults : Faults) (call : FlashCall) (result : Option α) : Option α :=
  if faults call then none else result

/-- `Result<(), ()>` of a save. -/
inductive SaveResult where
  /-- The record was written. -/
  | ok
  /-- The save failed. -/
  | err
deriving DecidableEq

/-- The flash chip and the offset of the `nvs` partition on it. -/
structure Store where
  /-- Bytes on the chip. -/
  {capacity : Nat}
  /-- The chip. -/
  flash : Nor.Chip capacity
  /-- Where the partition starts. -/
  nvsOffset : Nat
  /-- Partitions start at sectors. -/
  aligned : Nor.sectorSize ∣ nvsOffset
  /-- The first sector of the partition is on the chip. -/
  inside : nvsOffset + Nor.sectorSize ≤ capacity

namespace Store

variable (serde : SerdeJsonCore) (store : Store) (faults : Faults)

/-- `read_record`: decode the record of a sector, if there is a valid one. -/
def readRecord (α : Type) [Deserialize α] (sector magic : Nat) : Option α := do
  let base := store.nvsOffset + sector
  let header ← attempt faults .header (store.flash.read base 8)
  let foundMagic := Nor.fromLeBytes (header.take 4)
  let len := Nor.fromLeBytes (header.drop 4)
  if foundMagic ≠ magic then none
  else if len = 0 ∨ maxPayload < len then none
  else
    let readLen := (len + 3) / 4 * 4
    let scratch ← attempt faults .payload (store.flash.read (base + 8) readLen)
    serde.fromSlice α unescapeSize (scratch.take len)

/-- The bytes of a record: magic, length, payload and zeros up to a whole word. -/
def recordBytes (magic : Nat) (payload : List UInt8) : List UInt8 :=
  let total := (8 + payload.length + 3) / 4 * 4
  (Nor.toLeBytes magic ++ Nor.toLeBytes payload.length ++ payload).rightpad total 0

/-- `write_record`: encode a value, erase the sector and write the record. -/
def writeRecord {α : Type} [Serialize α] (sector magic : Nat) (value : α) : Store × SaveResult :=
  match serde.toSlice value maxPayload with
  | none => (store, .err)
  | some payload =>
    let base := store.nvsOffset + sector
    match attempt faults .erase (store.flash.erase base (base + Nor.sectorSize)) with
    | none => (store, .err)
    | some erased =>
      match attempt faults .write (erased.write base (recordBytes magic payload)) with
      | none => ({ store with flash := erased }, .err)
      | some written => ({ store with flash := written }, .ok)

/-- `read_all`: the record, or the default one if none or invalid. -/
def readAll : Persisted :=
  (readRecord serde store faults Persisted storeSector magic).getD Persisted.default

/-- `write_all`: write the record back. -/
def writeAll (all : Persisted) : Store × SaveResult :=
  writeRecord serde store faults storeSector magic all

/-- `update`: read the record, mutate it, write it back. -/
def update (f : Persisted → Persisted) : Store × SaveResult :=
  writeAll serde store faults (f (readAll serde store faults))

/-- `load_boot`: the four parts of the record, with the settings migrated. -/
def loadBoot : Persisted :=
  let all := readAll serde store faults
  { all with config := all.config.migrate }

/-- `save_wifi`. -/
def saveWifi (creds : WifiCreds) : Store × SaveResult :=
  update serde store faults fun all => { all with wifi := some creds }

/-- `clear_all`: wipe everything. -/
def clearAll : Store × SaveResult := writeAll serde store faults Persisted.default

/-- `save_selection`. -/
def saveSelection (sel : Selection) : Store × SaveResult :=
  update serde store faults fun all => { all with selection := some sel }

/-- `save_config`. -/
def saveConfig (cfg : Config) : Store × SaveResult :=
  update serde store faults fun all => { all with config := cfg }

/-- `load_layout`. -/
def loadLayout : Option Layout := (readAll serde store faults).layout

/-- `save_layout`: persist a custom layout, or clear it. -/
def saveLayout (layout : Option Layout) : Store × SaveResult :=
  update serde store faults fun all => { all with layout := layout }

/-- A call that changes the record. -/
inductive Call where
  /-- `save_wifi`. -/
  | saveWifi (creds : WifiCreds)
  /-- `save_selection`. -/
  | saveSelection (sel : Selection)
  /-- `save_config`. -/
  | saveConfig (cfg : Config)
  /-- `save_layout`. -/
  | saveLayout (layout : Option Layout)
  /-- `clear_all`. -/
  | clearAll
deriving DecidableEq

/-- Run one call. -/
def call : Call → Store × SaveResult
  | .saveWifi creds => saveWifi serde store faults creds
  | .saveSelection sel => saveSelection serde store faults sel
  | .saveConfig cfg => saveConfig serde store faults cfg
  | .saveLayout layout => saveLayout serde store faults layout
  | .clearAll => clearAll serde store faults

end Store

end Zugli
