import Zugli.Spec.Bytes
import Zugli.Spec.Slots
import Zugli.Verif.Record

/-!
# The store over whole runs

On working flash the store refines the four slots, so every slot reads back its last successful
save. The other results say exactly when three promises of the sources are kept: that a legacy
focus view survives other saves, that a failing flash call leaves other fields alone, and that
the payload limit never refuses a save.
-/

namespace Zugli

open Json (utf8 write)
open Serde

namespace Store

variable (serde : SerdeJsonCore)

/-! ## One save -/

/-- The record a call writes back, from the record it read. -/
def Call.record : Call → Persisted → Persisted
  | .saveWifi creds, all => { all with wifi := some creds }
  | .saveSelection sel, all => { all with selection := some sel }
  | .saveConfig cfg, all => { all with config := cfg }
  | .saveLayout layout, all => { all with layout := layout }
  | .clearAll, _ => Persisted.default

/-- Every call reads the record, changes it and writes it back. -/
theorem call_eq (store : Store) (faults : Faults) (saved : Call) :
    call serde store faults saved =
      writeAll serde store faults (saved.record (readAll serde store faults)) := by
  cases saved <;> rfl

/-- What is read back of the record is the slots after the save. -/
theorem record_written (saved : Call) (all : Persisted) :
    (saved.record all).written = Slots.assign saved all.written := by
  cases saved <;> rfl

/-- Whether a record is within the payload limit. -/
def fits (all : Persisted) : Bool := decide (bytes serde.style all ≤ maxPayload)

@[simp] theorem fits_written (all : Persisted) : fits serde all.written = fits serde all := rfl

/-- A record within the limit, by its length. -/
theorem len_le_of_fits {all : Persisted} (room : fits serde all = true) :
    serde.len all ≤ maxPayload := by
  rw [len_eq_bytes]
  exact of_decide_eq_true room

/-- A record over the limit, by its length. -/
theorem lt_len_of_not_fits {all : Persisted} (full : fits serde all = false) :
    maxPayload < serde.len all := by
  rw [len_eq_bytes]
  exact Nat.lt_of_not_le (of_decide_eq_false full)

/-- A record without a legacy flag is read back as it is. -/
theorem written_of_modern {all : Persisted} (modern : all.config.focusViewLegacy = false) :
    all.written = all := by
  obtain ⟨wifi, selection, config, layout⟩ := all
  cases config
  simp_all [Persisted.written, Config.written]

/-- One call on working flash. -/
def step (store : Store) (saved : Call) : Store × SaveResult := call serde store noFaults saved

/-- On working flash a call writes its record when that fits, and otherwise does nothing. -/
theorem step_cases (store : Store) (saved : Call) :
    (fits serde (saved.record (readAll serde store noFaults)) = true ∧
        ∃ after, step serde store saved = (after, .ok) ∧ readAll serde after noFaults =
          Slots.assign saved (readAll serde store noFaults).written) ∨
      fits serde (saved.record (readAll serde store noFaults)) = false ∧
        step serde store saved = (store, .err) := by
  rw [step, call_eq]
  cases room : fits serde (saved.record (readAll serde store noFaults)) with
  | false => exact .inr ⟨rfl, writeAll_overflow serde store (lt_len_of_not_fits serde room)⟩
  | true =>
    obtain ⟨after, wrote, found⟩ :=
      @writeAll_ok serde store noFaults _ (len_le_of_fits serde room) rfl rfl
    exact .inl ⟨rfl, after, wrote, found.trans (record_written saved _)⟩

/-! ## Refinement of the four slots -/

/-- A store that stands for four slots. -/
def Refines (store : Store) (slots : Persisted) : Prop :=
  readAll serde store noFaults = slots ∧ slots.config.focusViewLegacy = false

section Refinement

variable {serde} {store : Store} {slots : Persisted}

/-- At boot a store shows its slots. -/
theorem loadBoot_of_refines (related : Refines serde store slots) :
    loadBoot serde store noFaults = slots := by
  have settled : ¬slots.config.LegacyPending := by simp [Config.LegacyPending, related.2]
  have same : slots.written = slots := written_of_modern related.2
  rw [loadBoot, related.1]
  simp only [Config.migrate_of_not_pending settled]
  exact same

/-- A call on the store is the call on its slots. -/
theorem step_refines (related : Refines serde store slots) (saved : Call) :
    Refines serde (step serde store saved).1 (Slots.step (fits serde) slots saved).1 ∧
      (step serde store saved).2 = (Slots.step (fits serde) slots saved).2 := by
  have same : slots.written = slots := written_of_modern related.2
  have assigned := record_written saved slots
  have modern : (Slots.step (fits serde) slots saved).1.config.focusViewLegacy = false :=
    Slots.step_legacy related.2 saved
  have outcome := step_cases serde store saved
  rw [related.1, ← fits_written, assigned, same] at outcome
  obtain ⟨room, after, wrote, found⟩ | ⟨full, refused⟩ := outcome
  · have taken : Slots.step (fits serde) slots saved = (Slots.assign saved slots, .ok) :=
      if_pos room
    rw [taken] at modern ⊢
    rw [wrote]
    exact ⟨⟨found, modern⟩, rfl⟩
  · have ignored : Slots.step (fits serde) slots saved = (slots, .err) := if_neg (by simp [full])
    rw [ignored, refused]
    exact ⟨related, rfl⟩

/-- A run of the store is the run of its slots. -/
theorem run_refines (related : Refines serde store slots) (calls : List Call) :
    Refines serde (Machine.run (step serde) store calls).1
        (Machine.run (Slots.step (fits serde)) slots calls).1 ∧
      (Machine.run (step serde) store calls).2 =
        (Machine.run (Slots.step (fits serde)) slots calls).2 := by
  have stepped : ∀ store slots saved, Refines serde store slots →
      Refines serde (step serde store saved).1 (Slots.step (fits serde) slots saved).1 ∧
        (step serde store saved).2 = (Slots.step (fits serde) slots saved).2 :=
    fun _ _ saved refines => step_refines refines saved
  exact Machine.run_simulation stepped related calls

/-- A call that fails on working flash leaves the store as it was. -/
theorem step_err (store : Store) (saved : Call) (failed : (step serde store saved).2 = .err) :
    (step serde store saved).1 = store := by
  obtain ⟨_, after, wrote, _⟩ | ⟨_, refused⟩ := step_cases serde store saved
  · rw [wrote] at failed
    cases failed
  · rw [refused]

/-- A sector whose first word is not the magic word holds the default record. -/
theorem readAll_of_wrong_magic
    (other : Nor.fromLeBytes (Nor.slice store.flash.image store.nvsOffset 4) ≠ magic) :
    readAll serde store noFaults = Persisted.default := by
  have inside := store.inside
  have sector : Nor.sectorSize = 4096 := rfl
  have first := Nor.slice_part store.flash.image store.nvsOffset 0 4 8 (by decide)
  rw [Nat.add_zero, List.drop_zero] at first
  rw [first] at other
  simp only [readAll, readRecord, attempt, noFaults, storeSector, Nat.add_zero,
    Nor.Chip.read_aligned store.flash store.wordSize_dvd_nvsOffset (show Nor.wordSize ∣ 8 by decide)
      (show store.nvsOffset + 8 ≤ store.capacity by omega), Option.bind_eq_bind, Option.bind_some,
    Bool.false_eq_true, ↓reduceIte, ne_eq, other, not_false_eq_true, Option.getD_none]

/-- An erased chip stands for default slots. -/
theorem refines_blank : Refines serde blank Persisted.default :=
  ⟨readAll_of_wrong_magic (by decide), rfl⟩

end Refinement

/-- After any calls on working flash, each part of the boot view is the argument of the last
call on it that succeeded, and otherwise its first value, which is the default when the sector
has no record; a call that failed left the store alone. -/
theorem boot_reads_last_ok (store : Store) (calls : List Call)
    (modern : (readAll serde store noFaults).config.focusViewLegacy = false) :
    let history := (Machine.run (step serde) store calls).2
    let start := loadBoot serde store noFaults
    let boot := loadBoot serde (Machine.run (step serde) store calls).1 noFaults
    boot.wifi = (Machine.lastWrite Slots.wifiWrite history).getD start.wifi ∧
      boot.selection = (Machine.lastWrite Slots.selectionWrite history).getD start.selection ∧
      boot.config = (Machine.lastWrite Slots.configWrite history).getD start.config ∧
      boot.layout = (Machine.lastWrite Slots.layoutWrite history).getD start.layout ∧
      boot.config.focusViewLegacy = false ∧
      (Nor.fromLeBytes (Nor.slice store.flash.image store.nvsOffset 4) ≠ magic →
        start = Persisted.default) ∧
      ∀ earlier saved, earlier ++ [saved] <+: calls →
        let before := (Machine.run (step serde) store earlier).1
        (step serde before saved).2 = .err → (step serde before saved).1 = before := by
  have related : Refines serde store (readAll serde store noFaults) := ⟨rfl, modern⟩
  obtain ⟨last, history⟩ := run_refines related calls
  obtain ⟨wifi, selection, config, layout⟩ :=
    Slots.run_slots (fits serde) (readAll serde store noFaults) calls
  simp only [loadBoot_of_refines related, loadBoot_of_refines last, history]
  exact ⟨wifi, selection, config, layout, last.2, readAll_of_wrong_magic,
    fun earlier saved _ failed => step_err _ saved failed⟩

/-- Settings saved, wiped and saved again on an erased chip. -/
theorem boot_reads_resaved_config :
    let dim := { Config.default with brightness := 2 }
    let bright := { Config.default with brightness := 9 }
    let run := Machine.run (step .reference) blank [.saveConfig dim, .clearAll, .saveConfig bright]
    (loadBoot .reference run.1 noFaults).config =
      (Machine.lastWrite Slots.configWrite run.2).getD Config.default := by
  intro dim bright run
  have related : Refines .reference blank Persisted.default := refines_blank
  have modern : (readAll .reference blank noFaults).config.focusViewLegacy = false := by
    rw [related.1]
    rfl
  have config := (boot_reads_last_ok .reference blank
    [.saveConfig dim, .clearAll, .saveConfig bright] modern).2.2.1
  rwa [loadBoot_of_refines related] at config

/-! ## The legacy focus view -/

/-- What happens to a store over time. -/
inductive Event where
  /-- A save. -/
  | save (saved : Call)
  /-- A restart of the board. -/
  | reboot

/-- What an event answers. -/
inductive Outcome where
  /-- The result of a save. -/
  | saved (result : SaveResult)
  /-- The boot view of a restart. -/
  | booted (boot : Persisted)
deriving DecidableEq

/-- One event on working flash; a restart writes nothing. -/
def live (store : Store) : Event → Store × Outcome
  | .save saved => ((step serde store saved).1, .saved (step serde store saved).2)
  | .reboot => (store, .booted (loadBoot serde store noFaults))

/-- A restart leaves the store alone. -/
@[simp] theorem live_reboot (store : Store) : (live serde store .reboot).1 = store := rfl

/-- A save changes the store as its call does. -/
@[simp] theorem live_save (store : Store) (saved : Call) :
    (live serde store (.save saved)).1 = (step serde store saved).1 := rfl

/-- Whether a call sets the settings. -/
def Call.setsConfig : Call → Bool
  | .saveConfig _ | .clearAll => true
  | .saveWifi _ | .saveSelection _ | .saveLayout _ => false

/-- A call that does not set the settings writes them back without their legacy flag. -/
theorem assign_config {saved : Call} (other : saved.setsConfig = false) (slots : Persisted) :
    (Slots.assign saved slots).config = slots.config := by
  cases saved <;> first | rfl | cases other

/-- The settings of a record that lost its legacy flag before it was folded forward. -/
def Forgotten (store : Store) : Prop :=
  (readAll serde store noFaults).config.uiMode = 0 ∧
    (readAll serde store noFaults).config.focusViewLegacy = false

/-- A lost flag stays lost. -/
theorem live_forgotten {event : Event}
    (other : ∀ saved, event = .save saved → saved.setsConfig = false) (store : Store)
    (lost : Forgotten serde store) : Forgotten serde (live serde store event).1 := by
  cases event with
  | reboot => exact lost
  | save saved =>
    simp only [live]
    obtain ⟨_, after, wrote, found⟩ | ⟨_, refused⟩ := step_cases serde store saved
    · rw [wrote, Forgotten, found, assign_config (other saved rfl)]
      exact ⟨lost.1, rfl⟩
    · rwa [refused]

/-- The first save that succeeds loses a pending flag. -/
theorem step_forgets {store : Store} {saved : Call} (other : saved.setsConfig = false)
    (pending : (readAll serde store noFaults).config.LegacyPending)
    (succeeded : (step serde store saved).2 = .ok) :
    Forgotten serde (step serde store saved).1 := by
  obtain ⟨_, after, wrote, found⟩ | ⟨_, refused⟩ := step_cases serde store saved
  · rw [wrote, Forgotten, found, assign_config other]
    exact ⟨pending.1, rfl⟩
  · rw [refused] at succeeded
    cases succeeded

/-- In a run of saves that succeed and do not set the settings, with any restarts, a legacy
focus view is still shown at boot exactly when no save has happened yet. -/
theorem legacy_focus_iff_no_save (store : Store) (events : List Event)
    (pending : (readAll serde store noFaults).config.LegacyPending)
    (succeeded : ∀ entry ∈ (Machine.run (live serde) store events).2, entry.2 ≠ .saved .err)
    (others : ∀ saved, Event.save saved ∈ events → saved.setsConfig = false) :
    (loadBoot serde (Machine.run (live serde) store events).1 noFaults).config.uiMode = 1 ↔
      ∀ event ∈ events, event = .reboot := by
  induction events with
  | nil =>
    have focus : (loadBoot serde store noFaults).config.uiMode = 1 :=
      Config.migrate_uiMode_of_pending pending
    simpa using focus
  | cons event events ih =>
    rw [Machine.run_cons_history, List.forall_mem_cons] at succeeded
    have later : ∀ saved, Event.save saved ∈ events → saved.setsConfig = false :=
      fun saved inside => others saved (List.mem_cons_of_mem _ inside)
    rw [Machine.run_cons_state]
    cases event with
    | reboot => simpa using ih succeeded.2 later
    | save saved =>
      have other := others saved List.mem_cons_self
      have ok : (step serde store saved).2 = .ok := by
        cases result : (step serde store saved).2 with
        | ok => rfl
        | err => exact absurd (congrArg Outcome.saved result) succeeded.1
      rw [live_save]
      have lost : Forgotten serde
          (Machine.run (live serde) (step serde store saved).1 events).1 := by
        refine Machine.run_invariant ?_ (step_forgets serde other pending ok)
        rintro event inside state forgotten
        exact live_forgotten serde (fun saved here => later saved (here ▸ inside)) state forgotten
      have settled : ¬(readAll serde (Machine.run (live serde) (step serde store saved).1
          events).1 noFaults).config.LegacyPending := by
        simp [Config.LegacyPending, lost.2]
      rw [loadBoot]
      simp only [Config.migrate_of_not_pending settled, Config.written, lost.1]
      simp

/-- A record that predates `uiMode`, with the focus view on. -/
def legacyRecord : Json :=
  .obj [("wifi", .null), ("selection", .null), ("config", .obj [("focusView", .bool true)])]

/-- What such a record holds. -/
theorem readAll_legacyRecord : readAll .reference (holding (utf8 (write .upper legacyRecord)))
    noFaults = { Persisted.default with config.focusViewLegacy := true } := by
  have within : legacyRecord.StringsWithin unescapeSize := by
    simp only [legacyRecord, Json.StringsWithin, Json.StringsAll, Json.MembersAll]
    decide
  rw [readAll_holding .reference .upper within (by decide)]
  rfl

/-- It shows the focus view through any restarts. -/
theorem legacy_focus_after_reboots :
    let store := holding (utf8 (write .upper legacyRecord))
    let run := Machine.run (live .reference) store [.reboot, .reboot]
    (loadBoot .reference run.1 noFaults).config.uiMode = 1 ↔
      ∀ event ∈ [Event.reboot, .reboot], event = .reboot := by
  have pending : (readAll .reference (holding (utf8 (write .upper legacyRecord)))
      noFaults).config.LegacyPending := by
    rw [readAll_legacyRecord]
    exact ⟨rfl, rfl⟩
  exact legacy_focus_iff_no_save .reference _ [.reboot, .reboot] pending
    (by simp [live]) (by simp)

/-- Saving credentials over a pending flag succeeds and turns the focus view off. -/
theorem save_wifi_loses_focus {store : Store} (start : readAll .reference store noFaults =
    { Persisted.default with config.focusViewLegacy := true }) {creds : WifiCreds}
    (room : fits .reference { Persisted.default with wifi := some creds } = true) :
    (step .reference store (.saveWifi creds)).2 = .ok ∧
      (loadBoot .reference store noFaults).config.uiMode = 1 ∧
      (loadBoot .reference (step .reference store (.saveWifi creds)).1 noFaults).config.uiMode =
        0 := by
  have outcome := step_cases .reference store (.saveWifi creds)
  rw [start] at outcome
  obtain ⟨_, after, wrote, found⟩ | ⟨full, _⟩ := outcome
  · rw [wrote, loadBoot, loadBoot, start, found]
    exact ⟨rfl, rfl, rfl⟩
  · rw [← fits_written, record_written] at full
    exact absurd (full.symm.trans room) (by decide)

/-- Saving credentials over the legacy record succeeds, and the next restart no longer shows the
focus view. -/
theorem legacy_focus_lost_by_save_wifi :
    let store := holding (utf8 (write .upper legacyRecord))
    let creds := ⟨⟨"home", by decide⟩, ⟨"secret", by decide⟩⟩
    let run := Machine.run (live .reference) store [.reboot, .save (.saveWifi creds), .reboot]
    (readAll .reference store noFaults).config.LegacyPending ∧
      (∀ entry ∈ run.2, entry.2 ≠ .saved .err) ∧
      (loadBoot .reference store noFaults).config.uiMode = 1 ∧
      (loadBoot .reference run.1 noFaults).config.uiMode = 0 := by
  have pending : (readAll .reference (holding (utf8 (write .upper legacyRecord)))
      noFaults).config.LegacyPending := by
    rw [readAll_legacyRecord]
    exact ⟨rfl, rfl⟩
  have room : fits .reference { Persisted.default with
      wifi := some ⟨⟨"home", by decide⟩, ⟨"secret", by decide⟩⟩ } = true := by decide +kernel
  obtain ⟨ok, before, after⟩ := save_wifi_loses_focus readAll_legacyRecord room
  refine ⟨pending, ?_, before, ?_⟩
  · simp [live, ok]
  · simpa only [Machine.run_cons_state, Machine.run_nil, live_reboot, live_save] using after

/-! ## The payload limit -/

/-- Every call of a run succeeds exactly when the slots after each of them take at most
`maxPayload` bytes. -/
theorem all_ok_iff_bytes_fit (store : Store) (calls : List Call)
    (modern : (readAll serde store noFaults).config.focusViewLegacy = false) :
    (∀ entry ∈ (Machine.run (step serde) store calls).2, entry.2 = .ok) ↔
      ∀ earlier ≠ [], earlier <+: calls →
        bytes serde.style (earlier.foldl (fun slots saved => Slots.assign saved slots)
          (loadBoot serde store noFaults)) ≤ maxPayload := by
  have related : Refines serde store (readAll serde store noFaults) := ⟨rfl, modern⟩
  rw [(run_refines related calls).2, Slots.run_all_ok, loadBoot_of_refines related]
  simp only [fits, decide_eq_true_eq]

/-- Saving a layout of one element on an erased chip. -/
theorem layout_of_one_ok :
    let saved := Call.saveLayout (some (denseLayout 1 (by decide)))
    (∀ entry ∈ (Machine.run (step .reference) blank [saved]).2, entry.2 = .ok) ↔
      ∀ earlier ≠ [], earlier <+: [saved] →
        bytes .upper (earlier.foldl (fun slots saved => Slots.assign saved slots)
          (loadBoot .reference blank noFaults)) ≤ maxPayload :=
  have blankSlots : Refines .reference blank Persisted.default := refines_blank
  all_ok_iff_bytes_fit .reference blank _ (by rw [blankSlots.1]; rfl)

/-- Credentials with plain letters up to their capacity. -/
def longCreds : WifiCreds where
  ssid := ⟨"abcdefghijklmnopqrstuvwxyzabcdef", by decide⟩
  password := ⟨"abcdefghijklmnopqrstuvwxyzabcdefabcdefghijklmnopqrstuvwxyzabcdef", by decide⟩

/-- A selection with plain letters up to its capacity. -/
def longSelection : Selection where
  stopId := ⟨"abcdefghijklmnopqrstuvwx", by decide⟩
  stopName := ⟨"abcdefghijklmnopqrstuvwxyzabcdefabcdefghijklmnopqrstuvwxyzabcdef", by decide⟩
  allConnections := false
  connections :=
    ⟨List.replicate maxConns
      { line := ⟨"abcdefghijklmnop", by decide⟩
        category := ⟨"abcdefghijkl", by decide⟩
        destination := ⟨"abcdefghijklmnopqrstuvwxyzabcdefabcdefghijklmnop", by decide⟩ },
      by simp⟩

/-- Credentials and a selection are saved, and a sanitized layout of sixteen elements is then
refused for lack of room. -/
theorem layout_refused_for_room :
    let layout := denseLayout maxElements (by decide)
    let calls := [Call.saveWifi longCreds, .saveSelection longSelection, .saveLayout (some layout)]
    layout.sanitize = layout ∧
      (Machine.run (step .reference) blank calls).2.map Prod.snd = [.ok, .ok, .err] := by
  refine ⟨sanitize_denseLayout _ _, ?_⟩
  have blankSlots : Refines .reference blank Persisted.default := refines_blank
  rw [(run_refines blankSlots _).2]
  decide +kernel

end Store

end Zugli
