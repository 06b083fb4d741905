import Zugli.Verif.Storage

/-!
# Saves on failing flash

A save reads the whole record and writes it whole back, so what a failing flash call does to the
other fields depends on which call fails. A read that fails is taken for an empty record; a
write that fails comes after the erase. `keeps_others_iff` is the exact condition under which
the other fields are still there once flash works again.
-/

namespace Zugli

open Json (utf8 write)
open Serde

namespace Store

/-- A call that saves one field leaves the other fields of the boot view as they were. -/
def Call.Keeps : Call → Persisted → Persisted → Prop
  | .saveWifi _, before, after => after.selection = before.selection ∧
      after.config = before.config ∧ after.layout = before.layout
  | .saveSelection _, before, after => after.wifi = before.wifi ∧
      after.config = before.config ∧ after.layout = before.layout
  | .saveConfig _, before, after => after.wifi = before.wifi ∧
      after.selection = before.selection ∧ after.layout = before.layout
  | .saveLayout _, before, after => after.wifi = before.wifi ∧
      after.selection = before.selection ∧ after.config = before.config
  | .clearAll, _, _ => True

/-- The boot view of a record. -/
def booted (all : Persisted) : Persisted := { all with config := all.config.migrate }

section Views

variable {saved : Call}

/-- Nothing changes when nothing happens. -/
theorem Call.keeps_refl (view : Persisted) : saved.Keeps view view := by
  cases saved <;> simp [Call.Keeps]

/-- A call leaves the fields of a record it does not write to as they are. -/
theorem Call.keeps_record (before all : Persisted) :
    saved.Keeps before (booted (saved.record all).written) ↔
      saved.Keeps before (booted all.written) := by
  cases saved <;> rfl

/-- Writing back a record keeps the boot view of the other fields unless a legacy flag was
pending. -/
theorem Call.keeps_written {all : Persisted}
    (settled : saved.setsConfig = true ∨ ¬all.config.LegacyPending) :
    saved.Keeps (booted all) (booted all.written) := by
  rcases settled with sets | settled
  · cases saved <;> simp_all [Call.setsConfig, Call.Keeps, booted, Persisted.written]
  · have same : all.config.written.migrate = all.config.migrate := by
      rw [Config.migrate_of_not_pending settled, Config.migrate_written]
    cases saved <;> simp [Call.Keeps, booted, Persisted.written, same]

/-- A pending legacy flag is lost from the boot view, which is then not the default either. -/
theorem Call.not_keeps_of_pending {all other : Persisted} (sets : saved.setsConfig = false)
    (pending : all.config.LegacyPending) (view : other.config.uiMode = 0) :
    ¬saved.Keeps (booted all) other := by
  have focus := Config.migrate_uiMode_of_pending pending
  have changed : other.config ≠ all.config.migrate := by
    intro same
    rw [same, focus] at view
    exact absurd view (by decide)
  cases saved <;> simp_all [Call.setsConfig, Call.Keeps, booted]

end Views

section Cases

variable (serde : SerdeJsonCore) (store : Store) {faults : Faults}

/-- A read that fails is taken for an empty record. -/
theorem readAll_of_fault (fault : faults .header = true ∨ faults .payload = true) :
    readAll serde store faults = Persisted.default := by
  have none : readRecord serde store faults Persisted storeSector magic = none := by
    simp only [readRecord, attempt]
    rcases fault with header | payload
    · simp [header]
    · simp only [payload, ↓reduceIte, Option.bind_eq_bind, Option.bind_none]
      cases (if faults .header = true then none else store.flash.read _ 8) with
      | none => rfl
      | some header =>
        simp only [Option.bind_some]
        split <;> [rfl; split <;> rfl]
  rw [readAll, none]
  rfl

/-- Reads that do not fail return the record. -/
theorem readAll_of_reads (header : faults .header = false) (payload : faults .payload = false) :
    readAll serde store faults = readAll serde store noFaults := by
  simp only [readAll, readRecord, attempt, header, payload, noFaults]
  rfl

end Cases

/-! ## The exact condition -/

/-- The record a save works on: a read that fails is taken for an empty one. -/
def found (faults : Faults) (all : Persisted) : Persisted :=
  if faults .header || faults .payload then Persisted.default else all

section Outcome

variable (serde : SerdeJsonCore) {store : Store} {all : Persisted} (faults : Faults)

/-- The record read by a save. -/
theorem readAll_eq_found (valid : readAll serde store noFaults = all) :
    readAll serde store faults = found faults all := by
  cases header : faults .header with
  | true => simpa [found, header] using readAll_of_fault serde store (.inl header)
  | false =>
    cases payload : faults .payload with
    | true => simpa [found, header, payload] using readAll_of_fault serde store (.inr payload)
    | false => simpa [found, header, payload, valid] using readAll_of_reads serde store header payload

/-- What the boot shows after a save, by the flash calls that failed. -/
theorem call_cases (valid : readAll serde store noFaults = all) (saved : Call) :
    let boot := loadBoot serde (call serde store faults saved).1 noFaults
    ((maxPayload < bytes serde.style (saved.record (found faults all)) ∨ faults .erase = true) ∧
        boot = booted all) ∨
      (bytes serde.style (saved.record (found faults all)) ≤ maxPayload ∧
        faults .erase = false ∧ faults .write = true ∧ boot = Persisted.default) ∨
      (bytes serde.style (saved.record (found faults all)) ≤ maxPayload ∧
        faults .erase = false ∧ faults .write = false ∧
        boot = booted (saved.record (found faults all)).written) := by
  intro boot
  have wrote := call_eq serde store faults saved
  rw [readAll_eq_found serde faults valid] at wrote
  have unchanged : loadBoot serde store noFaults = booted all := by rw [loadBoot, valid]; rfl
  by_cases full : maxPayload < bytes serde.style (saved.record (found faults all))
  · have tooLong : maxPayload < serde.len (saved.record (found faults all)) := by
      rwa [len_eq_bytes]
    refine .inl ⟨.inl full, ?_⟩
    simp only [boot, wrote, writeAll_overflow serde store tooLong, unchanged]
  · have room : serde.len (saved.record (found faults all)) ≤ maxPayload := by
      rw [len_eq_bytes]
      omega
    have short := Nat.le_of_not_lt full
    cases erases : faults .erase with
    | true =>
      refine .inl ⟨.inr rfl, ?_⟩
      simp only [boot, wrote, writeAll_eraseFault serde store erases, unchanged]
    | false =>
      cases writes : faults .write with
      | true =>
        obtain ⟨left, outcome, empty⟩ := writeAll_writeFault serde store room erases writes
        refine .inr (.inl ⟨short, rfl, rfl, ?_⟩)
        simp only [boot, wrote, outcome, loadBoot, empty]
        rfl
      | false =>
        obtain ⟨after, outcome, holds⟩ := writeAll_ok serde store room erases writes
        refine .inr (.inr ⟨short, rfl, rfl, ?_⟩)
        simp only [boot, wrote, outcome, loadBoot, holds]
        rfl

end Outcome

/-- Once flash works again, a save with any failing calls has kept the other fields of a valid
record exactly when its new record was too long, the erase failed, or every call succeeded and
no legacy flag was pending; or when there was nothing to lose. -/
theorem keeps_others_iff (serde : SerdeJsonCore) (store : Store) (all : Persisted)
    (valid : readRecord serde store noFaults Persisted storeSector magic = some all)
    (saved : Call) (faults : Faults) :
    saved.Keeps (loadBoot serde store noFaults)
        (loadBoot serde (call serde store faults saved).1 noFaults) ↔
      maxPayload < bytes serde.style (saved.record (found faults all)) ∨
        faults .erase = true ∨
        (faults .header = false ∧ faults .payload = false ∧ faults .write = false ∧
          (saved.setsConfig = true ∨ ¬all.config.LegacyPending)) ∨
        saved.Keeps (loadBoot serde store noFaults) Persisted.default := by
  have read : readAll serde store noFaults = all := by rw [readAll, valid]; rfl
  have before : loadBoot serde store noFaults = booted all := by rw [loadBoot, read]; rfl
  have emptied : booted Persisted.default.written = Persisted.default := rfl
  rw [before]
  rcases call_cases serde faults read saved with
    ⟨cause, after⟩ | ⟨short, erases, writes, after⟩ | ⟨short, erases, writes, after⟩
  · rw [after]
    have kept : saved.Keeps (booted all) (booted all) := Call.keeps_refl _
    rcases cause with full | erase
    · simp [kept, full]
    · simp [kept, erase]
  · rw [after]
    simp [erases, writes, Nat.not_lt.mpr short]
  · rw [after, Call.keeps_record]
    simp only [Nat.not_lt.mpr short, erases, writes, Bool.false_eq_true, false_or, true_and]
    by_cases fault : faults .header || faults .payload
    · have lost : ¬(faults .header = false ∧ faults .payload = false ∧
          (saved.setsConfig = true ∨ ¬all.config.LegacyPending)) := by
        rintro ⟨header, payload, _⟩
        simp [header, payload] at fault
      simp [found, fault, emptied, lost]
    · have reads : faults .header = false ∧ faults .payload = false := by simpa using fault
      simp only [found, reads, Bool.or_self, Bool.false_eq_true, ↓reduceIte, true_and]
      by_cases settled : saved.setsConfig = true ∨ ¬all.config.LegacyPending
      · simp [settled, Call.keeps_written settled]
      · have sets : saved.setsConfig = false := by
          simpa using fun sets => settled (.inl sets)
        have pending : all.config.LegacyPending := by
          by_contra none
          exact settled (.inr none)
        have view : (booted all.written).config.uiMode = 0 := by
          simpa [booted, Persisted.written] using pending.1
        simp [settled, Call.not_keeps_of_pending sets pending view,
          Call.not_keeps_of_pending sets pending (rfl : Persisted.default.config.uiMode = 0)]

/-- A record with credentials and nothing else. -/
def credentialsOnly : Persisted := { Persisted.default with wifi := some longCreds }

/-- A chip with that record. -/
def credentialsChip : Store := holding (utf8 (write .upper (toJson credentialsOnly)))

/-- It is read back. -/
theorem readRecord_credentialsChip :
    readRecord .reference credentialsChip noFaults Persisted storeSector magic =
      some credentialsOnly :=
  readRecord_of_value .reference (by decide +kernel) (holds_holding _)

/-- A save on working flash. -/
theorem keeps_credentials_on_working_flash :
    (Call.saveLayout none).Keeps (loadBoot .reference credentialsChip noFaults)
        (loadBoot .reference (call .reference credentialsChip noFaults (.saveLayout none)).1
          noFaults) ↔
      maxPayload < bytes .upper ((Call.saveLayout none).record (found noFaults credentialsOnly)) ∨
        noFaults .erase = true ∨
        (noFaults .header = false ∧ noFaults .payload = false ∧ noFaults .write = false ∧
          ((Call.saveLayout none).setsConfig = true ∨
            ¬credentialsOnly.config.LegacyPending)) ∨
        (Call.saveLayout none).Keeps (loadBoot .reference credentialsChip noFaults)
          Persisted.default :=
  keeps_others_iff .reference credentialsChip credentialsOnly readRecord_credentialsChip _ _

/-- A header read that fails during a save makes an empty record of everything else. -/
theorem header_fault_empties {store : Store} {all : Persisted}
    (valid : readAll .reference store noFaults = all) :
    (loadBoot .reference (call .reference store (· == .header) (.saveLayout none)).1
      noFaults) = Persisted.default := by
  have room : bytes .upper Persisted.default ≤ maxPayload := by decide +kernel
  rcases call_cases .reference (· == .header) valid (.saveLayout none) with
    ⟨full | erase, _⟩ | ⟨_, _, write, _⟩ | ⟨_, _, _, boot⟩
  · exact absurd full (Nat.not_lt.mpr room)
  · cases erase
  · cases write
  · exact boot

/-- Clearing the layout while the header read fails loses the stored credentials. -/
theorem credentials_lost_by_header_fault :
    let boot := loadBoot .reference credentialsChip noFaults
    let after := (call .reference credentialsChip (· == .header) (.saveLayout none)).1
    readRecord .reference credentialsChip noFaults Persisted storeSector magic =
        some credentialsOnly ∧
      boot.wifi = some longCreds ∧ (loadBoot .reference after noFaults).wifi = none := by
  have valid := readRecord_credentialsChip
  have read : readAll .reference credentialsChip noFaults = credentialsOnly := by
    rw [readAll, valid]
    rfl
  refine ⟨valid, ?_, ?_⟩
  · rw [loadBoot, read]
    rfl
  · rw [header_fault_empties read]
    rfl

end Store

end Zugli
