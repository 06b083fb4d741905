import Zugli.Firmware.PowerLoss
import Zugli.Verif.Storage

/-!
# Power loss

A record is read only if its magic word, its length word and every byte of its payload are the
ones that were written: a blank byte in the magic word makes another word, a blank byte in the
length word makes a longer payload, and a payload with a blank byte or with zeros behind it is no
document. So a save the power fails during is not half done: the next boot shows the slots before
it, the slots after it, or an empty store, and which of them is decided by where it failed.
-/

namespace Zugli

open Json (utf8 write)
open Serde

namespace Store

variable (serde : SerdeJsonCore)

/-! ## Reading bytes -/

/-- What a record is read as, byte by byte. -/
def decode (α : Type) [Deserialize α] (bytes : Nat → UInt8) : Option α :=
  let word (start : Nat) := Nor.fromLeBytes ((List.range 4).map fun index => bytes (start + index))
  if word 0 ≠ magic then none
  else if word 4 = 0 ∨ maxPayload < word 4 then none
  else serde.fromSlice α unescapeSize ((List.range (word 4)).map fun index => bytes (8 + index))

/-- On working flash a record is read from the bytes of its sector. -/
theorem readRecord_eq_decode (α : Type) [Deserialize α] (store : Store) :
    readRecord serde store noFaults α storeSector magic =
      decode serde α fun index => store.flash.image (store.nvsOffset + index) := by
  have offset := store.wordSize_dvd_nvsOffset
  have inside := store.inside
  have sector : Nor.sectorSize = 4096 := rfl
  have bound : maxPayload = 3072 := rfl
  set image := store.flash.image with named
  have header := Nor.Chip.read_aligned store.flash offset (show Nor.wordSize ∣ 8 by decide)
    (show store.nvsOffset + 8 ≤ store.capacity by omega)
  have first : (Nor.slice image store.nvsOffset 8).take 4 =
      (List.range 4).map fun index => image (store.nvsOffset + (0 + index)) := rfl
  have second : (Nor.slice image store.nvsOffset 8).drop 4 =
      (List.range 4).map fun index => image (store.nvsOffset + (4 + index)) := rfl
  simp only [readRecord, decode, attempt, noFaults, storeSector, Nat.add_zero, header,
    Option.bind_eq_bind, Option.bind_some, Bool.false_eq_true, ↓reduceIte, ← named, first, second]
  set len := Nor.fromLeBytes ((List.range 4).map fun index =>
    image (store.nvsOffset + (4 + index)))
  split_ifs with other invalid
  · rfl
  · rfl
  · have words : Nor.wordSize ∣ (len + 3) / 4 * 4 := Nat.dvd_mul_left 4 _
    have payload := Nor.Chip.read_aligned store.flash
      (Nat.dvd_add offset (show Nor.wordSize ∣ 8 by decide)) words
      (show store.nvsOffset + 8 + (len + 3) / 4 * 4 ≤ store.capacity by omega)
    have part := Nor.slice_part image (store.nvsOffset + 8) 0 len ((len + 3) / 4 * 4) (by omega)
    rw [List.drop_zero, Nat.add_zero] at part
    simp only [payload, Option.bind_some, ← named, ← part]
    simp only [Nor.slice, Nat.add_assoc]

/-- Bytes that agree in a sector are read as the same record. -/
theorem decode_congr {α : Type} [Deserialize α] {left right : Nat → UInt8}
    (same : ∀ index < Nor.sectorSize, left index = right index) :
    decode serde α left = decode serde α right := by
  have sector : Nor.sectorSize = 4096 := rfl
  have bound : maxPayload = 3072 := rfl
  have word : ∀ start ≤ 4, (List.range 4).map (fun index => left (start + index)) =
      (List.range 4).map fun index => right (start + index) := by
    intro start low
    apply List.map_congr_left
    intro index small
    have below := List.mem_range.mp small
    exact same _ (by omega)
  simp only [decode, word 0 (by decide), word 4 (by decide)]
  set len := Nor.fromLeBytes ((List.range 4).map fun index => right (4 + index))
  split_ifs with other invalid
  · rfl
  · rfl
  · have payload : (List.range len).map (fun index => left (8 + index)) =
        (List.range len).map fun index => right (8 + index) := by
      apply List.map_congr_left
      intro index small
      have below := List.mem_range.mp small
      exact same _ (by omega)
    rw [payload]

/-! ## Torn records -/

/-- The bytes of a record some of which have landed on a blank sector. -/
def torn (landed : Nat → Bool) (record : List UInt8) (index : Nat) : UInt8 :=
  if landed index then record.getD index 0xFF else 0xFF

section Torn

variable {landed : Nat → Bool} {payload : List UInt8}

/-- A byte of a torn record is the one written or blank. -/
theorem torn_cases (landed : Nat → Bool) (record : List UInt8) (index : Nat) :
    torn landed record index = record.getD index 0xFF ∨ torn landed record index = 0xFF := by
  by_cases there : landed index = true
  · exact .inl (if_pos there)
  · exact .inr (if_neg there)

/-- The first eight bytes of a record, its payload and the zeros behind it. -/
theorem recordBytes_eq (payload : List UInt8) : ∃ count,
    recordBytes magic payload = 0x32 :: 0x4C :: 0x47 :: 0x5A :: UInt8.ofNat payload.length ::
      UInt8.ofNat (payload.length / 256) :: UInt8.ofNat (payload.length / 65536) ::
      UInt8.ofNat (payload.length / 16777216) :: (payload ++ List.replicate count 0) := by
  refine ⟨(8 + payload.length + 3) / 4 * 4 - (8 + payload.length), ?_⟩
  simp only [recordBytes, List.rightpad, List.length_append, Nor.length_toLeBytes]
  rfl

/-- A byte of the payload of a record. -/
theorem recordBytes_getD {index : Nat} (inside : index < payload.length) :
    (recordBytes magic payload).getD (8 + index) 0xFF = payload.getD index 0xFF := by
  obtain ⟨count, bytes⟩ := recordBytes_eq payload
  have place : 8 + index = index + 8 := Nat.add_comm 8 index
  rw [bytes, place]
  simp only [List.getD_eq_getElem?_getD, List.getElem?_cons_succ]
  rw [List.getElem?_append_left inside]

/-- A record whose header and payload have landed is read as its payload. -/
theorem decode_torn_whole {α : Type} [Deserialize α] (filled : payload ≠ [])
    (short : payload.length ≤ maxPayload)
    (whole : ∀ index < 8 + payload.length, torn landed (recordBytes magic payload) index =
      (recordBytes magic payload).getD index 0xFF) :
    decode serde α (torn landed (recordBytes magic payload)) =
      serde.fromSlice α unescapeSize payload := by
  have positive : payload.length ≠ 0 := by simpa using filled
  have bound : maxPayload = 3072 := rfl
  obtain ⟨count, bytes⟩ := recordBytes_eq payload
  have first : (List.range 4).map (fun index =>
      torn landed (recordBytes magic payload) (0 + index)) = Nor.toLeBytes magic := by
    have landedFirst : ∀ index < 4, torn landed (recordBytes magic payload) (0 + index) =
        (recordBytes magic payload).getD (0 + index) 0xFF :=
      fun index small => whole _ (by omega)
    rw [List.map_congr_left fun index small => landedFirst index (List.mem_range.mp small), bytes]
    rfl
  have second : (List.range 4).map (fun index =>
      torn landed (recordBytes magic payload) (4 + index)) = Nor.toLeBytes payload.length := by
    have landedSecond : ∀ index < 4, torn landed (recordBytes magic payload) (4 + index) =
        (recordBytes magic payload).getD (4 + index) 0xFF :=
      fun index small => whole _ (by omega)
    rw [List.map_congr_left fun index small => landedSecond index (List.mem_range.mp small), bytes]
    rfl
  have rest : (List.range payload.length).map (fun index =>
      torn landed (recordBytes magic payload) (8 + index)) = payload := by
    apply List.ext_getElem
    · simp
    · intro index _ inside
      rw [List.getElem_map, List.getElem_range, whole _ (by omega), recordBytes_getD inside,
        List.getD_eq_getElem _ _ inside]
  have foundMagic : Nor.fromLeBytes (Nor.toLeBytes magic) = magic :=
    Nor.fromLeBytes_toLeBytes (by decide)
  have foundLen : Nor.fromLeBytes (Nor.toLeBytes payload.length) = payload.length :=
    Nor.fromLeBytes_toLeBytes (by omega)
  have valid : ¬(payload.length = 0 ∨ maxPayload < payload.length) := by omega
  simp only [decode, first, second, foundMagic, foundLen, ne_eq, not_true_eq_false, ↓reduceIte,
    valid, rest]

/-- The length word of a torn record is at least the one written, or out of range. -/
theorem torn_length (short : payload.length ≤ maxPayload) {len : Nat} (inRange : len ≤ maxPayload)
    (read : Nor.fromLeBytes ((List.range 4).map fun index =>
      torn landed (recordBytes magic payload) (4 + index)) = len) :
    payload.length ≤ len ∧ (len = payload.length → ∀ index < 4,
      torn landed (recordBytes magic payload) (4 + index) =
        (recordBytes magic payload).getD (4 + index) 0xFF) := by
  have bound : maxPayload = 3072 := rfl
  obtain ⟨count, bytes⟩ := recordBytes_eq payload
  obtain ⟨byte, value⟩ : ∃ byte : Nat → Nat, ∀ index,
      (torn landed (recordBytes magic payload) (4 + index)).toNat = byte index := ⟨_, fun _ => rfl⟩
  have written : ∀ index < 4,
      byte index = payload.length / 256 ^ index % 256 ∨ byte index = 255 := by
    intro index small
    rw [← value]
    obtain there | ones := torn_cases landed (recordBytes magic payload) (4 + index)
    · left
      rw [there, bytes]
      interval_cases index <;> simp
    · exact .inr (by rw [ones]; rfl)
  have one := written 0 (by decide)
  have two := written 1 (by decide)
  have three := written 2 (by decide)
  have four := written 3 (by decide)
  have sum : byte 0 + 256 * (byte 1 + 256 * (byte 2 + 256 * byte 3)) = len := by
    simp only [← value]
    exact read
  norm_num only at one two three four
  refine ⟨by omega, ?_⟩
  intro equal index small
  have same : byte index = payload.length / 256 ^ index % 256 := by
    interval_cases index <;> norm_num only <;> omega
  rw [← UInt8.toNat_inj, value, same, bytes]
  interval_cases index <;> simp

/-- A torn magic word is another word. -/
theorem torn_magic (read : Nor.fromLeBytes ((List.range 4).map fun index =>
      torn landed (recordBytes magic payload) (0 + index)) = magic) :
    ∀ index < 4, torn landed (recordBytes magic payload) index =
      (recordBytes magic payload).getD index 0xFF := by
  have back := Nor.toLeBytes_fromLeBytes (torn landed (recordBytes magic payload) 0)
    (torn landed (recordBytes magic payload) 1) (torn landed (recordBytes magic payload) 2)
    (torn landed (recordBytes magic payload) 3)
  have word : Nor.fromLeBytes [torn landed (recordBytes magic payload) 0,
      torn landed (recordBytes magic payload) 1, torn landed (recordBytes magic payload) 2,
      torn landed (recordBytes magic payload) 3] = magic := read
  rw [word] at back
  obtain ⟨count, bytes⟩ := recordBytes_eq payload
  have magicBytes : Nor.toLeBytes magic = [0x32, 0x4C, 0x47, 0x5A] := rfl
  simp only [magicBytes, List.cons.injEq, and_true] at back
  intro index small
  rw [bytes] at back ⊢
  interval_cases index
  · exact back.1.symm
  · exact back.2.1.symm
  · exact back.2.2.1.symm
  · exact back.2.2.2.symm

/-- What is read behind the header of a torn record is what is left of its payload and of the zeros
behind it. -/
theorem torn_payload {len : Nat} (longer : payload.length ≤ len) :
    SerdeJsonCore.Torn (payload ++ List.replicate (len - payload.length) 0)
      ((List.range len).map fun index => torn landed (recordBytes magic payload) (8 + index)) := by
  obtain ⟨count, bytes⟩ := recordBytes_eq payload
  apply List.forall₂_iff_get.mpr
  constructor
  · simp only [List.length_map, List.length_range, List.length_append, List.length_replicate]
    omega
  · intro index inside _
    simp only [List.get_eq_getElem, List.getElem_map, List.getElem_range]
    obtain there | ones := torn_cases landed (recordBytes magic payload) (8 + index)
    · by_cases early : index < payload.length
      · left
        rw [there, recordBytes_getD early, List.getD_eq_getElem _ _ early,
          List.getElem_append_left early]
      · have place : 8 + index = index + 8 := Nat.add_comm 8 index
        rw [List.getElem_append_right (Nat.le_of_not_lt early), List.getElem_replicate, there,
          bytes, place]
        simp only [List.getD_eq_getElem?_getD, List.getElem?_cons_succ,
          List.getElem?_append_right (Nat.le_of_not_lt early), List.getElem?_replicate]
        split_ifs
        · exact .inl rfl
        · exact .inr rfl
    · exact .inr ones

/-- A record with a gap in its header or its payload is not read. -/
theorem decode_torn_gap {α : Type} [Serialize α] [Deserialize α] (strict : serde.Strict α)
    {value : α} (within : (toJson value).StringsWithin unescapeSize)
    (text : payload = utf8 (write serde.style (toJson value)))
    (short : payload.length ≤ maxPayload)
    (gap : ∃ index < 8 + payload.length, torn landed (recordBytes magic payload) index ≠
      (recordBytes magic payload).getD index 0xFF) :
    decode serde α (torn landed (recordBytes magic payload)) = none := by
  rw [decode]
  split_ifs with other invalid
  · rfl
  · rfl
  · have header := torn_magic (not_not.mp other)
    set len := Nor.fromLeBytes ((List.range 4).map fun index =>
      torn landed (recordBytes magic payload) (4 + index)) with named
    have inRange : len ≤ maxPayload := Nat.le_of_not_lt (not_or.mp invalid).2
    obtain ⟨longer, exact⟩ := torn_length short inRange named.symm
    have refused : ∀ (padding : Nat) (bytes : List UInt8),
        SerdeJsonCore.Torn (payload ++ List.replicate padding 0) bytes → bytes ≠ payload →
          serde.fromSlice α unescapeSize bytes = none := by
      rw [text]
      exact fun padding bytes => strict.refuses_torn unescapeSize value padding bytes within
    apply refused _ _ (torn_payload longer)
    intro read
    -- A payload read whole leaves no byte of the record that could be missing.
    have equal : len = payload.length := by
      have lengths := congrArg List.length read
      rwa [List.length_map, List.length_range] at lengths
    obtain ⟨index, inside, missing⟩ := gap
    apply missing
    rcases Nat.lt_or_ge index 4 with first | later
    · exact header index first
    · rcases Nat.lt_or_ge index 8 with second | behind
      · obtain ⟨rest, rfl⟩ := Nat.exists_eq_add_of_le later
        exact exact equal rest (by omega)
      · obtain ⟨rest, rfl⟩ := Nat.exists_eq_add_of_le behind
        have held : rest < payload.length := by omega
        have found := congrArg (fun bytes => bytes[rest]?) read
        simp only [List.getElem?_map, List.getElem?_range (equal ▸ held), Option.map_some,
          List.getElem?_eq_getElem held, Option.some.injEq] at found
        rw [found, recordBytes_getD held, List.getD_eq_getElem _ _ held]

end Torn

/-! ## Saves the power fails during -/

/-- Whether the header and the payload of a record have landed. -/
def landsWhole (landed : Nat → Bool) (all : Persisted) : Bool :=
  let record := recordBytes magic (utf8 (write serde.style (toJson all)))
  (List.range (8 + (utf8 (write serde.style (toJson all))).length)).all fun index =>
    torn landed record index == record.getD index 0xFF

/-- The legacy flag is not written. -/
@[simp] theorem landsWhole_written (landed : Nat → Bool) (all : Persisted) :
    landsWhole serde landed all.written = landsWhole serde landed all := rfl

/-- A record over the payload limit is not written. -/
theorem writeRecordUntil_overflow (store : Store) (landed : Nat → Bool) {all : Persisted}
    (overflows : maxPayload < serde.len all) :
    writeRecordUntil serde store landed storeSector magic all = store := by
  simp only [writeRecordUntil, serde.toSlice_of_lt overflows]

/-- After a loss of power the record is read whole, or not at all. -/
theorem readAll_writeRecordUntil (strict : serde.Strict Persisted) (store : Store)
    (landed : Nat → Bool) {all : Persisted} (room : serde.len all ≤ maxPayload) :
    readAll serde (writeRecordUntil serde store landed storeSector magic all) noFaults =
      if landsWhole serde landed all then all.written else Persisted.default := by
  set payload := utf8 (write serde.style (toJson all)) with text
  have length : payload.length = serde.len all := Json.length_utf8 _
  have total := length_recordBytes payload
  have sector : Nor.sectorSize = 4096 := rfl
  have bound : maxPayload = 3072 := rfl
  have inside := store.inside
  have words : Nor.wordSize ∣ (recordBytes magic payload).length :=
    total ▸ Nat.dvd_mul_left 4 _
  have short : payload.length ≤ maxPayload := length ▸ room
  have filled : payload ≠ [] := by
    intro empty
    have positive := Json.size_pos serde.style (toJson all)
    rw [empty, List.length_nil] at length
    simp only [SerdeJsonCore.len] at length
    omega
  have left : writeRecordUntil serde store landed storeSector magic all =
      { store with flash := ⟨Nor.programmedWhere landed (Nor.erased store.flash.image
        store.nvsOffset (store.nvsOffset + Nor.sectorSize)) store.nvsOffset
        (recordBytes magic payload)⟩ } := by
    simp only [writeRecordUntil, serde.toSlice_of_le room, storeSector, Nat.add_zero, erase_sector,
      ← text, Nor.Chip.writeWhere_aligned landed _ store.wordSize_dvd_nvsOffset words
        (show store.nvsOffset + (recordBytes magic payload).length ≤ store.capacity by omega)]
  have bytes : ∀ index < Nor.sectorSize,
      Nor.programmedWhere landed (Nor.erased store.flash.image store.nvsOffset
        (store.nvsOffset + Nor.sectorSize)) store.nvsOffset (recordBytes magic payload)
        (store.nvsOffset + index) = torn landed (recordBytes magic payload) index := by
    intro index small
    apply Nor.programmedWhere_blank
    have within : store.nvsOffset + index < store.nvsOffset + Nor.sectorSize := by omega
    simp [Nor.erased, within]
  have strings : (toJson all).StringsWithin unescapeSize := ShortStrings.within all
  have back : serde.fromSlice Persisted unescapeSize payload = some all.written := by
    rw [text, serde.fromSlice_write _ strings, ofJson_toJson]
    exact congrArg some all.reset_none
  rw [left, readAll, readRecord_eq_decode, decode_congr serde bytes]
  by_cases whole : landsWhole serde landed all = true
  · have every := whole
    simp only [landsWhole, List.all_eq_true, List.mem_range, beq_iff_eq, ← text] at every
    rw [if_pos whole, decode_torn_whole serde filled short every, back]
    rfl
  · have gap := whole
    simp only [landsWhole, List.all_eq_true, List.mem_range, beq_iff_eq, ← text] at gap
    push Not at gap
    rw [if_neg whole, decode_torn_gap serde strict strings text short gap]
    rfl

/-- A call the power fails during writes its record back as a whole call does. -/
theorem callUntil_eq (store : Store) (cut : Cut) (saved : Call) :
    callUntil serde store cut saved = match cut with
      | .untouched => store
      | .torn landed => writeRecordUntil serde store landed storeSector magic
          (saved.record (readAll serde store noFaults)) := by
  cases cut <;> cases saved <;> rfl

end Store

/-! ## The slots -/

namespace Slots

open Store (Call Cut PowerEvent PowerOutcome)

/-- What a save leaves that the power fails during: the slots before it, the slots after it when
its record has landed, or nothing. -/
def cut (fits : Persisted → Bool) (whole : (Nat → Bool) → Persisted → Bool) (slots : Persisted)
    (saved : Call) : Cut → Persisted
  | .untouched => slots
  | .torn landed =>
    if fits (assign saved slots) then
      if whole landed (assign saved slots) then assign saved slots else Persisted.default
    else slots

/-- One event. -/
def powered (fits : Persisted → Bool) (whole : (Nat → Bool) → Persisted → Bool)
    (slots : Persisted) : PowerEvent → Persisted × PowerOutcome
  | .save saved => ((step fits slots saved).1, .saved (step fits slots saved).2)
  | .cut saved failed => (cut fits whole slots saved failed, .lost)
  | .powerUp => (slots, .booted slots)

/-- A loss of power brings no legacy flag back. -/
theorem cut_legacy {fits : Persisted → Bool} {whole : (Nat → Bool) → Persisted → Bool}
    {slots : Persisted} (modern : slots.config.focusViewLegacy = false) (saved : Call)
    (failed : Cut) : (cut fits whole slots saved failed).config.focusViewLegacy = false := by
  have assigned : (assign saved slots).config.focusViewLegacy = false := by
    cases saved <;> first | exact modern | rfl
  cases failed with
  | untouched => exact modern
  | torn landed =>
    rw [cut]
    split_ifs
    · exact assigned
    · rfl
    · exact modern

end Slots

namespace Store

variable (serde : SerdeJsonCore)

/-- An event on the store is the event on its slots. -/
theorem powered_refines (strict : serde.Strict Persisted) {store : Store} {slots : Persisted}
    (related : Refines serde store slots) (event : PowerEvent) :
    Refines serde (powered serde store event).1
        (Slots.powered (fits serde) (landsWhole serde) slots event).1 ∧
      (powered serde store event).2 =
        (Slots.powered (fits serde) (landsWhole serde) slots event).2 := by
  cases event with
  | powerUp => exact ⟨related, congrArg PowerOutcome.booted (loadBoot_of_refines related)⟩
  | save saved =>
    obtain ⟨next, answer⟩ := step_refines related saved
    exact ⟨next, congrArg PowerOutcome.saved answer⟩
  | cut saved failed =>
    refine ⟨⟨?_, Slots.cut_legacy related.2 saved failed⟩, rfl⟩
    simp only [powered, Slots.powered, callUntil_eq]
    cases failed with
    | untouched => exact related.1
    | torn landed =>
      have same : slots.written = slots := written_of_modern related.2
      have assigned := record_written saved slots
      rw [same] at assigned
      rw [related.1]
      simp only [Slots.cut, ← assigned, fits_written, landsWhole_written]
      cases room : fits serde (saved.record slots) with
      | false =>
        rw [writeRecordUntil_overflow serde store landed (lt_len_of_not_fits serde room)]
        exact related.1
      | true =>
        rw [readAll_writeRecordUntil serde strict store landed (len_le_of_fits serde room)]
        rfl

/-- Through any saves, losses of power and boots the store answers as the four slots do, of which
a loss of power before the erase leaves the values before the save, and one after it the values
after the save or none at all. No loss of power divides an erase. -/
theorem power_loss_whole (strict : serde.Strict Persisted) (store : Store)
    (events : List PowerEvent) (modern : (readAll serde store noFaults).config.focusViewLegacy = false) :
    let run := Machine.run (powered serde) store events
    let slots := Machine.run (Slots.powered (fits serde) (landsWhole serde))
      (loadBoot serde store noFaults) events
    run.2 = slots.2 ∧ loadBoot serde run.1 noFaults = slots.1 := by
  have start : Refines serde store (readAll serde store noFaults) := ⟨rfl, modern⟩
  rw [loadBoot_of_refines start]
  have stepped : ∀ store slots event, Refines serde store slots →
      Refines serde (powered serde store event).1
          (Slots.powered (fits serde) (landsWhole serde) slots event).1 ∧
        (powered serde store event).2 =
          (Slots.powered (fits serde) (landsWhole serde) slots event).2 :=
    fun _ _ event related => powered_refines serde strict related event
  obtain ⟨last, answers⟩ := Machine.run_simulation stepped start events
  exact ⟨answers, loadBoot_of_refines last⟩

/-- A save torn after a hundred bytes empties an erased chip's store. -/
theorem power_loss_whole_blank :
    let bright := { Config.default with brightness := 9 }
    let dim := { Config.default with brightness := 2 }
    let events := [PowerEvent.save (.saveConfig bright),
      .cut (.saveConfig dim) (.torn fun index => decide (index < 100)), .powerUp]
    let run := Machine.run (powered .reference) blank events
    let slots := Machine.run (Slots.powered (fits .reference) (landsWhole .reference))
      (loadBoot .reference blank noFaults) events
    run.2 = slots.2 ∧ loadBoot .reference run.1 noFaults = slots.1 := by
  intro bright dim events
  have start : Refines .reference blank Persisted.default := refines_blank
  exact power_loss_whole .reference (SerdeJsonCore.reference_strict Persisted) blank events
    (by rw [start.1]; rfl)

end Store

end Zugli
