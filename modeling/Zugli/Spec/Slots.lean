import Zugli.Firmware.Storage
import Zugli.Lib.Runs

/-!
# Four independent slots

What the store is for: four slots, each holding the argument of the last successful save on it.
A save either takes effect on its own slot or, when the four values together are too long, on
nothing. Flash, records and texts do not occur.
-/

namespace Zugli

open Store (Call)

namespace Slots

/-- The slots after a save: its argument in its own slot. -/
def assign : Call → Persisted → Persisted
  | .saveWifi creds, slots => { slots with wifi := some creds }
  | .saveSelection sel, slots => { slots with selection := some sel }
  | .saveConfig cfg, slots => { slots with config := cfg.written }
  | .saveLayout layout, slots => { slots with layout := layout }
  | .clearAll, _ => Persisted.default

/-- One save, refused when the values would be too long. -/
def step (fits : Persisted → Bool) (slots : Persisted) (call : Call) : Persisted × SaveResult :=
  if fits (assign call slots) then (assign call slots, .ok) else (slots, .err)

/-- What a call that succeeded writes to the credentials. -/
def wifiWrite : Call → SaveResult → Option (Option WifiCreds)
  | .saveWifi creds, .ok => some (some creds)
  | .clearAll, .ok => some none
  | _, _ => none

/-- What a call that succeeded writes to the selection. -/
def selectionWrite : Call → SaveResult → Option (Option Selection)
  | .saveSelection sel, .ok => some (some sel)
  | .clearAll, .ok => some none
  | _, _ => none

/-- What a call that succeeded writes to the settings; the legacy flag is never kept. -/
def configWrite : Call → SaveResult → Option Config
  | .saveConfig cfg, .ok => some { cfg with focusViewLegacy := false }
  | .clearAll, .ok => some Config.default
  | _, _ => none

/-- What a call that succeeded writes to the layout. -/
def layoutWrite : Call → SaveResult → Option (Option Layout)
  | .saveLayout layout, .ok => some layout
  | .clearAll, .ok => some none
  | _, _ => none

section Frame

variable {fits : Persisted → Bool}

/-- A call either takes effect or is refused. -/
theorem step_cases (fits : Persisted → Bool) (slots : Persisted) (call : Call) :
    step fits slots call = (assign call slots, .ok) ∧ fits (assign call slots) = true ∨
      step fits slots call = (slots, .err) ∧ fits (assign call slots) = false := by
  by_cases fitting : fits (assign call slots) = true
  · exact .inl ⟨if_pos fitting, fitting⟩
  · exact .inr ⟨if_neg fitting, by simpa using fitting⟩

/-- A call changes the credentials exactly as its write says. -/
theorem step_wifi (slots : Persisted) (call : Call) : (step fits slots call).1.wifi =
    (wifiWrite call (step fits slots call).2).getD slots.wifi := by
  obtain ⟨outcome, _⟩ | ⟨outcome, _⟩ := step_cases fits slots call
  all_goals rw [outcome]; cases call <;> rfl

/-- A call changes the selection exactly as its write says. -/
theorem step_selection (slots : Persisted) (call : Call) : (step fits slots call).1.selection =
    (selectionWrite call (step fits slots call).2).getD slots.selection := by
  obtain ⟨outcome, _⟩ | ⟨outcome, _⟩ := step_cases fits slots call
  all_goals rw [outcome]; cases call <;> rfl

/-- A call changes the settings exactly as its write says. -/
theorem step_config (slots : Persisted) (call : Call) : (step fits slots call).1.config =
    (configWrite call (step fits slots call).2).getD slots.config := by
  obtain ⟨outcome, _⟩ | ⟨outcome, _⟩ := step_cases fits slots call
  all_goals rw [outcome]; cases call <;> rfl

/-- A call changes the layout exactly as its write says. -/
theorem step_layout (slots : Persisted) (call : Call) : (step fits slots call).1.layout =
    (layoutWrite call (step fits slots call).2).getD slots.layout := by
  obtain ⟨outcome, _⟩ | ⟨outcome, _⟩ := step_cases fits slots call
  all_goals rw [outcome]; cases call <;> rfl

/-- The legacy flag stays forgotten. -/
theorem step_legacy {slots : Persisted} (modern : slots.config.focusViewLegacy = false)
    (call : Call) : (step fits slots call).1.config.focusViewLegacy = false := by
  obtain ⟨outcome, _⟩ | ⟨outcome, _⟩ := step_cases fits slots call
  · rw [outcome]
    cases call <;> first | exact modern | rfl
  · rw [outcome]
    exact modern

/-- After a run every slot reads its last successful write. -/
theorem run_slots (fits : Persisted → Bool) (slots : Persisted) (calls : List Call) :
    let (last, history) := Machine.run (step fits) slots calls
    last.wifi = (Machine.lastWrite wifiWrite history).getD slots.wifi ∧
      last.selection = (Machine.lastWrite selectionWrite history).getD slots.selection ∧
      last.config = (Machine.lastWrite configWrite history).getD slots.config ∧
      last.layout = (Machine.lastWrite layoutWrite history).getD slots.layout :=
  have always : ∀ (_ : Persisted) (_ : Call), True → True := fun _ _ _ => trivial
  ⟨Machine.read_run always (fun slots call _ => step_wifi slots call) trivial calls,
    Machine.read_run always (fun slots call _ => step_selection slots call) trivial calls,
    Machine.read_run always (fun slots call _ => step_config slots call) trivial calls,
    Machine.read_run always (fun slots call _ => step_layout slots call) trivial calls⟩

/-- When every prefix of the calls fits, every call succeeds; and only then. -/
theorem run_all_ok (fits : Persisted → Bool) (slots : Persisted) (calls : List Call) :
    (∀ entry ∈ (Machine.run (step fits) slots calls).2, entry.2 = .ok) ↔
      ∀ earlier ≠ [], earlier <+: calls →
        fits (earlier.foldl (fun slots call => assign call slots) slots) = true := by
  induction calls generalizing slots with
  | nil =>
    simp only [Machine.run_nil, List.not_mem_nil, false_implies, implies_true, true_iff]
    intro earlier filled shorter
    exact absurd (List.prefix_nil.mp shorter) filled
  | cons call calls ih =>
    have first : (step fits slots call).2 = .ok ↔ fits (assign call slots) = true := by
      by_cases fitting : fits (assign call slots) = true <;> simp [step, fitting]
    rw [Machine.run_cons_history, List.forall_mem_cons, first]
    constructor
    · rintro ⟨fitting, others⟩ earlier filled shorter
      obtain ⟨rest, rfl, inner⟩ := (List.prefix_cons_iff.mp shorter).resolve_left filled
      have next : (step fits slots call).1 = assign call slots := by simp [step, fitting]
      rw [ih, next] at others
      by_cases last : rest = []
      · simpa [last] using fitting
      · exact others rest last inner
    · intro every
      have fitting : fits (assign call slots) = true := by
        simpa using every [call] (by simp) (by simp)
      have next : (step fits slots call).1 = assign call slots := by simp [step, fitting]
      refine ⟨fitting, ?_⟩
      rw [ih, next]
      intro rest filled inner
      exact every (call :: rest) (by simp) (by simpa using inner)

end Frame

end Slots

end Zugli
