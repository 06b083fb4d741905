import Zugli.Firmware.Storage

/-!
# Saves the power fails during

A save erases the sector of the record and then writes the new record, with no second copy in
between. The power may fail before the erase, which leaves the old record, or at any time after
it, when some of the bytes of the new record have landed and the others are still blank. An erase
and the write of a single byte are taken as indivisible.
-/

namespace Zugli

open Serde

namespace Store

/-- Where the power fails during a save. -/
inductive Cut where
  /-- Before the sector is erased. -/
  | untouched
  /-- After the erase, when these bytes of the record have landed. -/
  | torn (landed : Nat → Bool)

variable (serde : SerdeJsonCore) (store : Store)

/-- `write_record` up to the loss of power. -/
def writeRecordUntil {α : Type} [Serialize α] (landed : Nat → Bool) (sector magic : Nat)
    (value : α) : Store :=
  match serde.toSlice value maxPayload with
  | none => store
  | some payload =>
    let base := store.nvsOffset + sector
    match store.flash.erase base (base + Nor.sectorSize) with
    | none => store
    | some erased =>
      match erased.writeWhere landed base (recordBytes magic payload) with
      | none => { store with flash := erased }
      | some written => { store with flash := written }

/-- `update` up to the loss of power. -/
def updateUntil (cut : Cut) (f : Persisted → Persisted) : Store :=
  match cut with
  | .untouched => store
  | .torn landed =>
    writeRecordUntil serde store landed storeSector magic (f (readAll serde store noFaults))

/-- One call up to the loss of power. -/
def callUntil (cut : Cut) : Call → Store
  | .saveWifi creds => updateUntil serde store cut fun all => { all with wifi := some creds }
  | .saveSelection sel =>
    updateUntil serde store cut fun all => { all with selection := some sel }
  | .saveConfig cfg => updateUntil serde store cut fun all => { all with config := cfg }
  | .saveLayout layout => updateUntil serde store cut fun all => { all with layout := layout }
  | .clearAll => updateUntil serde store cut fun _ => Persisted.default

/-- What happens to a store over time. -/
inductive PowerEvent where
  /-- A save that runs to its end. -/
  | save (saved : Call)
  /-- A save the power fails during. -/
  | cut (saved : Call) (cut : Cut)
  /-- The board comes up. -/
  | powerUp

/-- What such an event answers. -/
inductive PowerOutcome where
  /-- The result of a save. -/
  | saved (result : SaveResult)
  /-- Nothing: the power failed. -/
  | lost
  /-- The boot view. -/
  | booted (boot : Persisted)
deriving DecidableEq

/-- One event on flash that works while it has power. -/
def powered : PowerEvent → Store × PowerOutcome
  | .save saved =>
    let (after, result) := call serde store noFaults saved
    (after, .saved result)
  | .cut saved cut => (callUntil serde store cut saved, .lost)
  | .powerUp => (store, .booted (loadBoot serde store noFaults))

end Store

end Zugli
