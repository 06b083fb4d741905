import Zugli.Firmware.Storage

/-!
# The flash record

A sector that holds a record reads back as its payload, and a save that succeeds leaves such a
sector. Every string of a record is short enough for the scratch buffer, so with the round trip
of the derived serialization reading back a record returns the value saved, and reading an
older record with missing members returns their defaults.
-/

namespace Zugli

open Json (Path prune utf8 write)
open Serde

/-! ## Strings of a record -/

/-- A type whose values are written with strings of at most `unescapeSize` bytes. -/
class ShortStrings (α : Type) [Serialize α] : Prop where
  /-- Its strings fit the scratch buffer. -/
  within : ∀ value : α, (toJson value).StringsWithin unescapeSize

/-- A field that is always written. -/
theorem emit_within {α : Type} [Serialize α] [ShortStrings α] {name : String} (field : α)
    (short : name.utf8ByteSize ≤ unescapeSize) : EntryWithin unescapeSize (emit name field) :=
  entryWithin_emit short (ShortStrings.within field)

/-- A field that may be skipped. -/
theorem emitUnless_within {α : Type} [Serialize α] [ShortStrings α] {skip : α → Bool}
    {name : String} (field : α) (short : name.utf8ByteSize ≤ unescapeSize) :
    EntryWithin unescapeSize (emitUnless skip name field) :=
  entryWithin_emitUnless skip short (ShortStrings.within field)

instance {α : Type} [Serialize α] [Stringless α] : ShortStrings α :=
  ⟨fun value => Stringless.stringless _ value⟩

/-- A string of a small capacity. -/
theorem shortStrings_string {capacity : Nat} (small : capacity ≤ unescapeSize) :
    ShortStrings (HString capacity) :=
  ⟨fun value => Nat.le_trans value.fits small⟩

instance : ShortStrings (HString 12) := shortStrings_string (by decide)

instance : ShortStrings (HString 16) := shortStrings_string (by decide)

instance : ShortStrings (HString 24) := shortStrings_string (by decide)

instance : ShortStrings (HString maxTextLen) := shortStrings_string (by decide)

instance : ShortStrings (HString 32) := shortStrings_string (by decide)

instance : ShortStrings (HString 48) := shortStrings_string (by decide)

instance : ShortStrings (HString 64) := shortStrings_string (by decide)

instance {α : Type} [Serialize α] [ShortStrings α] : ShortStrings (Option α) :=
  ⟨fun value => by
    cases value with
    | none => trivial
    | some value => exact ShortStrings.within value⟩

instance {α : Type} [Serialize α] [ShortStrings α] {capacity : Nat} :
    ShortStrings (HVec α capacity) :=
  ⟨fun items => by
    simp only [toJson, Json.StringsWithin, Json.StringsAll, Json.itemsAll_iff, List.mem_map,
      forall_exists_index, and_imp, forall_apply_eq_imp_iff₂]
    exact fun item _ => ShortStrings.within item⟩

instance : ShortStrings Conn :=
  ⟨fun conn => stringsWithin_table (by simp (disch := decide) [Conn.table, emit_within])⟩

instance : ShortStrings WifiCreds :=
  ⟨fun creds => stringsWithin_table (by simp (disch := decide) [WifiCreds.table, emit_within])⟩

instance : ShortStrings Selection :=
  ⟨fun sel => stringsWithin_table (by simp (disch := decide) [Selection.table, emit_within])⟩

instance : ShortStrings Config :=
  ⟨fun config => stringsWithin_table
    (by simp (disch := decide) [Config.table, emit_within, entryWithin_never])⟩

instance : ShortStrings Element :=
  ⟨fun el => stringsWithin_table
    (by simp (disch := decide) [Element.table, emit_within, emitUnless_within])⟩

instance : ShortStrings Layout :=
  ⟨fun layout => stringsWithin_table (by simp (disch := decide) [Layout.table, emit_within])⟩

instance : ShortStrings Persisted :=
  ⟨fun all => stringsWithin_table (by simp (disch := decide) [Persisted.table, emit_within])⟩

/-! ## Reading and writing a record -/

/-- With nothing deleted every member of a selection keeps its value. -/
theorem Selection.reset_none (sel : Selection) : Selection.reset (fun _ => false) sel = sel := rfl

/-- With nothing deleted every member of a layout keeps its value. -/
theorem Layout.reset_none (layout : Layout) : Layout.reset (fun _ => false) layout = layout := by
  have same : (layout.e.mapIdx fun _ => Element.reset fun _ => false) = layout.e :=
    HVec.mapIdx_id layout.e
  simp only [Layout.reset, Bool.false_eq_true, ↓reduceIte]
  exact congrArg (Layout.mk layout.v) same

/-- A type that is read back as it was written. -/
theorem ofJson_toJson {α : Type} [Serialize α] [Deserialize α] [Tolerant α] (value : α) :
    ofJson (toJson value) = some (Tolerant.reset (fun _ => false) value) := by
  have whole := Tolerant.ofJson_prune (fun _ => false) value (by simp)
  rwa [Json.prune_none] at whole

namespace Persisted

/-- What is read back of a record: the legacy flag is not written. -/
def written (all : Persisted) : Persisted := { all with config := all.config.written }

/-- With nothing deleted every member keeps its value. -/
theorem reset_none (all : Persisted) : Persisted.reset (fun _ => false) all = all.written := by
  have layouts : all.layout.map (Layout.reset fun _ => false) = all.layout := by
    cases all.layout with
    | none => rfl
    | some layout => exact congrArg some layout.reset_none
  have selection : all.selection.map (Selection.reset fun _ => false) = all.selection := by
    cases all.selection <;> rfl
  have below : ∀ step, Json.under step (fun _ => false) = fun _ => false := fun _ => rfl
  simp only [Persisted.reset, below, layouts, selection, Bool.false_eq_true, ↓reduceIte]
  rfl

end Persisted

namespace Store

/-- The sector of a store starts with the record of a payload. -/
def Holds (store : Store) (payload : List UInt8) : Prop :=
  let record := recordBytes magic payload
  Nor.slice store.flash.image store.nvsOffset record.length = record

/-- A record is its header and payload, padded to a whole word. -/
theorem length_recordBytes (payload : List UInt8) :
    (recordBytes magic payload).length = (8 + payload.length + 3) / 4 * 4 := by
  simp only [recordBytes, List.rightpad, List.length_append, List.length_replicate,
    Nor.length_toLeBytes]
  omega

/-- The first word of a record is the magic word. -/
theorem recordBytes_magic (payload : List UInt8) :
    ((recordBytes magic payload).take 8).take 4 = Nor.toLeBytes magic := by
  simp [recordBytes, Nor.toLeBytes, List.rightpad]

/-- The second word of a record is the length of its payload. -/
theorem recordBytes_len (payload : List UInt8) :
    ((recordBytes magic payload).take 8).drop 4 = Nor.toLeBytes payload.length := by
  simp [recordBytes, Nor.toLeBytes, List.rightpad]

/-- The payload of a record follows its header. -/
theorem recordBytes_payload (payload : List UInt8) (length : Nat)
    (whole : payload.length ≤ length) :
    (((recordBytes magic payload).drop 8).take length).take payload.length = payload := by
  rw [List.take_take, Nat.min_eq_left whole]
  simp [recordBytes, Nor.toLeBytes, List.rightpad]

/-- A sector starts at a word. -/
theorem wordSize_dvd_nvsOffset (store : Store) : Nor.wordSize ∣ store.nvsOffset :=
  Nat.dvd_trans (by decide) store.aligned

variable (serde : SerdeJsonCore)

section Reading

variable {store : Store} {payload : List UInt8}

/-- A sector that holds a record is read as the payload of the record. -/
theorem readRecord_of_holds (α : Type) [Deserialize α] (holds : store.Holds payload)
    (filled : payload ≠ []) (fits : payload.length ≤ maxPayload) :
    readRecord serde store noFaults α storeSector magic =
      serde.fromSlice α unescapeSize payload := by
  have offset := store.wordSize_dvd_nvsOffset
  have inside := store.inside
  have total := length_recordBytes payload
  have positive : payload.length ≠ 0 := by simpa using filled
  have sector : Nor.sectorSize = 4096 := rfl
  have bound : maxPayload = 3072 := rfl
  set image := store.flash.image
  have headerBytes : store.flash.read store.nvsOffset 8 =
      some ((recordBytes magic payload).take 8) := by
    rw [Nor.Chip.read_aligned _ offset (by decide) (by omega)]
    have part := Nor.slice_part image store.nvsOffset 0 8 (recordBytes magic payload).length
      (by omega)
    rw [Nat.add_zero, List.drop_zero, holds] at part
    rw [part]
  have payloadBytes : store.flash.read (store.nvsOffset + 8) ((payload.length + 3) / 4 * 4) =
      some (((recordBytes magic payload).drop 8).take ((payload.length + 3) / 4 * 4)) := by
    have words : Nor.wordSize ∣ (payload.length + 3) / 4 * 4 := Nat.dvd_mul_left 4 _
    rw [Nor.Chip.read_aligned _ (Nat.dvd_add offset (by decide)) words (by omega)]
    have part := Nor.slice_part image store.nvsOffset 8 ((payload.length + 3) / 4 * 4)
      (recordBytes magic payload).length (by omega)
    rw [holds] at part
    rw [part]
  have foundMagic : Nor.fromLeBytes (Nor.toLeBytes magic) = magic :=
    Nor.fromLeBytes_toLeBytes (by decide)
  have foundLen : Nor.fromLeBytes (Nor.toLeBytes payload.length) = payload.length :=
    Nor.fromLeBytes_toLeBytes (by omega)
  have valid : ¬(payload.length = 0 ∨ maxPayload < payload.length) := by omega
  simp only [readRecord, attempt, noFaults, storeSector, Nat.add_zero, headerBytes, payloadBytes,
    Option.bind_eq_bind, Option.bind_some, Bool.false_eq_true, ↓reduceIte, recordBytes_magic,
    recordBytes_len, foundMagic, foundLen, ne_eq, not_true_eq_false, valid]
  rw [recordBytes_payload payload _ (by omega)]

/-- A record with members missing is read as the value with their defaults. -/
theorem readRecord_prune {all : Persisted} {drop : Path → Bool}
    (declared : ∀ path, drop path = true → Persisted.defaulted path = true)
    (fits : serde.len all ≤ maxPayload)
    (holds : store.Holds (utf8 (write serde.style (prune drop (toJson all))))) :
    readRecord serde store noFaults Persisted storeSector magic =
      some (Persisted.reset drop all) := by
  have length : (utf8 (write serde.style (prune drop (toJson all)))).length =
      (prune drop (toJson all)).size serde.style := Json.length_utf8 _
  have positive := Json.size_pos serde.style (prune drop (toJson all))
  have shorter := Json.size_prune_le serde.style (toJson all) drop
  have filled : utf8 (write serde.style (prune drop (toJson all))) ≠ [] := by
    intro empty
    rw [empty, List.length_nil] at length
    omega
  have short : (utf8 (write serde.style (prune drop (toJson all)))).length ≤ maxPayload := by
    rw [length]
    exact Nat.le_trans shorter fits
  have strings := Json.stringsAll_prune _ drop (ShortStrings.within all)
  rw [readRecord_of_holds serde Persisted holds filled short, serde.fromSlice_write _ strings]
  exact Tolerant.ofJson_prune drop all declared

/-- A record as it was written is read as the value, without its legacy flag. -/
theorem readRecord_of_value {all : Persisted} (fits : serde.len all ≤ maxPayload)
    (holds : store.Holds (utf8 (write serde.style (toJson all)))) :
    readRecord serde store noFaults Persisted storeSector magic = some all.written := by
  rw [← Json.prune_none (toJson all)] at holds
  have declared : ∀ path : Path, (fun _ => false) path = true →
      Persisted.defaulted path = true := by simp
  rw [readRecord_prune serde declared fits holds, Persisted.reset_none]

/-- The same for the whole record. -/
theorem readAll_of_holds {all : Persisted} (fits : serde.len all ≤ maxPayload)
    (holds : store.Holds (utf8 (write serde.style (toJson all)))) :
    readAll serde store noFaults = all.written := by
  rw [readAll, readRecord_of_value serde fits holds]
  rfl

end Reading

section Writing

variable (store : Store) {faults : Faults} {all : Persisted}

/-- A record over the payload limit is not written. -/
theorem writeAll_overflow (overflows : maxPayload < serde.len all) :
    writeAll serde store faults all = (store, .err) := by
  simp only [writeAll, writeRecord, serde.toSlice_of_lt overflows]

/-- A save whose erase fails changes nothing. -/
theorem writeAll_eraseFault (fault : faults .erase = true) :
    writeAll serde store faults all = (store, .err) := by
  simp only [writeAll, writeRecord, attempt, fault, ↓reduceIte]
  cases serde.toSlice all maxPayload <;> rfl

/-- The erase of the sector of a record succeeds on working flash. -/
theorem erase_sector : store.flash.erase store.nvsOffset (store.nvsOffset + Nor.sectorSize) =
    some ⟨Nor.erased store.flash.image store.nvsOffset (store.nvsOffset + Nor.sectorSize)⟩ :=
  Nor.Chip.erase_aligned _ store.aligned (Nat.dvd_add store.aligned (Nat.dvd_refl _))
    (Nat.le_add_right _ _) store.inside

/-- A save whose write fails leaves a sector without a record. -/
theorem writeAll_writeFault (fits : serde.len all ≤ maxPayload) (erases : faults .erase = false)
    (fault : faults .write = true) : ∃ left, writeAll serde store faults all = (left, .err) ∧
      readAll serde left noFaults = Persisted.default := by
  simp only [writeAll, writeRecord, attempt, serde.toSlice_of_le fits, storeSector, Nat.add_zero,
    erases, fault, erase_sector, Bool.false_eq_true, ↓reduceIte]
  refine ⟨_, rfl, ?_⟩
  have inside := store.inside
  have header : (8 : Nat) ≤ Nor.sectorSize := by decide
  simp only [readAll, readRecord, attempt, noFaults, storeSector, Nat.add_zero,
    Nor.Chip.read_aligned _ store.wordSize_dvd_nvsOffset (show Nor.wordSize ∣ 8 by decide)
      (show store.nvsOffset + 8 ≤ store.capacity by omega),
    Nor.slice_erased store.flash.image (Nat.add_le_add_left header store.nvsOffset)]
  rfl

/-- A save on working flash whose record fits leaves a sector that holds it. -/
theorem writeAll_ok (fits : serde.len all ≤ maxPayload) (erases : faults .erase = false)
    (writes : faults .write = false) : ∃ after, writeAll serde store faults all = (after, .ok) ∧
      readAll serde after noFaults = all.written := by
  have length : (utf8 (write serde.style (toJson all))).length = serde.len all :=
    Json.length_utf8 _
  have total := length_recordBytes (utf8 (write serde.style (toJson all)))
  have sector : Nor.sectorSize = 4096 := rfl
  have bound : maxPayload = 3072 := rfl
  have inside := store.inside
  have words : Nor.wordSize ∣ (recordBytes magic (utf8 (write serde.style (toJson all)))).length :=
    total ▸ Nat.dvd_mul_left 4 _
  simp only [writeAll, writeRecord, attempt, serde.toSlice_of_le fits, storeSector, Nat.add_zero,
    erases, writes, erase_sector, Bool.false_eq_true, ↓reduceIte,
    Nor.Chip.write_aligned _ store.wordSize_dvd_nvsOffset words
      (show store.nvsOffset + (recordBytes magic _).length ≤ store.capacity by omega)]
  refine ⟨_, rfl, readAll_of_holds serde fits ?_⟩
  refine Nor.slice_programmed ?_
  intro index small
  have within : store.nvsOffset + index < store.nvsOffset + Nor.sectorSize := by omega
  simp [Nor.erased, within]

end Writing

/-! ## Records of other versions -/

/-- An erased chip of one sector. -/
def blank : Store where
  capacity := Nor.sectorSize
  flash := ⟨fun _ => 0xFF⟩
  nvsOffset := 0
  aligned := Nat.dvd_zero _
  inside := Nat.le_refl _

/-- A chip of one sector with the record of a payload. -/
def holding (payload : List UInt8) : Store where
  capacity := Nor.sectorSize
  flash := ⟨Nor.programmed (fun _ => 0xFF) 0 (recordBytes magic payload)⟩
  nvsOffset := 0
  aligned := Nat.dvd_zero _
  inside := Nat.le_refl _

/-- It holds that record. -/
theorem holds_holding (payload : List UInt8) : (holding payload).Holds payload := by
  simp only [Holds, holding]
  exact Nor.slice_programmed fun _ _ => rfl

/-- It is read as the document of its payload. -/
theorem readAll_holding (style : Json.Style) {value : Json}
    (within : value.StringsWithin unescapeSize) (short : value.size style ≤ maxPayload) :
    readAll serde (holding (utf8 (write style value))) noFaults =
      (ofJson value).getD Persisted.default := by
  have length : (utf8 (write style value)).length = value.size style := Json.length_utf8 _
  have positive := Json.size_pos style value
  have filled : utf8 (write style value) ≠ [] := by
    intro empty
    rw [empty, List.length_nil] at length
    omega
  rw [readAll, readRecord_of_holds serde Persisted (holds_holding _) filled (length ▸ short),
    serde.fromSlice_write style within]

/-- A record any of whose defaulted members were deleted is read as the value with exactly
those members at their defaults, and with none deleted as the value itself. -/
theorem reads_any_subset (all : Persisted) (drop : Path → Bool)
    (declared : ∀ path, drop path = true → Persisted.defaulted path = true)
    (fits : serde.len all ≤ maxPayload) (store : Store)
    (holds : store.Holds (utf8 (write serde.style (prune drop (toJson all))))) :
    readRecord serde store noFaults Persisted storeSector magic =
        some (Persisted.reset drop all) ∧
      ((∀ path, drop path = false) → Persisted.reset drop all = all.written) := by
  refine ⟨readRecord_prune serde declared fits holds, ?_⟩
  intro nothing
  obtain rfl : drop = fun _ => false := funext nothing
  exact Persisted.reset_none all

/-- A record without `brightness`, `layout.e[0].k` and `layout.v`. -/
theorem reads_without_three_members :
    let el : Element := ⟨1, 2, 3, 0, 0, 2, 0, none, 0, .empty, 0, 0, false, 1, 0, 0⟩
    let all : Persisted := ⟨none, none, { Config.default with brightness := 9 },
      some ⟨2, [el], by decide⟩⟩
    let drop := fun path => [[Json.Step.key "config", .key "brightness"],
      [.key "layout", .key "e", .item 0, .key "k"], [.key "layout", .key "v"]].contains path
    let left := prune drop (toJson all)
    readRecord .reference (holding (utf8 (write .upper left))) noFaults Persisted storeSector
        magic = some (Persisted.reset drop all) ∧
      ((∀ path, drop path = false) → Persisted.reset drop all = all.written) := by
  intro el all drop left
  refine reads_any_subset .reference all drop ?_ (by decide +kernel) _ (holds_holding _)
  intro path chosen
  simp only [drop, List.contains_cons, List.contains_nil, Bool.or_false, Bool.or_eq_true,
    beq_iff_eq] at chosen
  rcases chosen with rfl | rfl | rfl <;> rfl

end Store

end Zugli
