import Zugli.Firmware.Provisioning
import Zugli.Lib.Runs

/-!
# The button that wipes

`button_task` runs on a connected board and in the portal. On both it wipes the store when the
button has read low in every sample of three seconds, and only then, and it resets the board only
after it has wiped the store.
-/

namespace Zugli

/-! ## Samples -/

/-- Since when the samples at the end of a list are low. -/
def lowSince (samples : List (Nat × Bool)) : Option Nat :=
  (samples.reverse.takeWhile Prod.snd).getLast?.map Prod.fst

/-- Once, the button had read low in every sample for as long as `HOLD`. -/
def HeldLong (samples : List (Nat × Bool)) : Prop :=
  ∃ earlier now later start, samples = earlier ++ (now, true) :: later ∧
    lowSince (earlier ++ [(now, true)]) = some start ∧ hold ≤ now - start

/-- A low sample goes on from the low samples before it. -/
theorem lowSince_low (samples : List (Nat × Bool)) (now : Nat) :
    lowSince (samples ++ [(now, true)]) = some ((lowSince samples).getD now) := by
  unfold lowSince
  rw [List.reverse_append, List.reverse_singleton, List.singleton_append,
    List.takeWhile_cons_of_pos rfl, List.getLast?_cons]
  cases (samples.reverse.takeWhile Prod.snd).getLast? with
  | none => rfl
  | some first => rfl

/-- A high sample ends the low samples before it. -/
theorem lowSince_high (samples : List (Nat × Bool)) (now : Nat) :
    lowSince (samples ++ [(now, false)]) = none := by
  unfold lowSince
  rw [List.reverse_append, List.reverse_singleton, List.singleton_append,
    List.takeWhile_cons_of_neg Bool.false_ne_true]
  rfl

/-- What was held long stays so. -/
theorem HeldLong.snoc {samples : List (Nat × Bool)} (long : HeldLong samples)
    (sample : Nat × Bool) : HeldLong (samples ++ [sample]) := by
  obtain ⟨earlier, now, later, start, rfl, since, enough⟩ := long
  exact ⟨earlier, now, later ++ [sample], start, by simp, since, enough⟩

/-- A sample that makes the button held long is low, and the low samples before it began long
ago. -/
theorem heldLong_snoc {samples : List (Nat × Bool)} {now : Nat} {low : Bool}
    (short : ¬HeldLong samples) :
    HeldLong (samples ++ [(now, low)]) ↔
      low = true ∧ hold ≤ now - (lowSince samples).getD now := by
  constructor
  · rintro ⟨earlier, moment, later, start, split, since, enough⟩
    rcases Machine.snoc_split split with ⟨-, rfl, same⟩ | ⟨rest, -, rfl⟩
    · obtain ⟨rfl, rfl⟩ := Prod.mk.inj same
      rw [lowSince_low] at since
      exact ⟨rfl, Option.some.inj since ▸ enough⟩
    · exact absurd ⟨earlier, moment, rest, start, rfl, since, enough⟩ short
  · rintro ⟨rfl, enough⟩
    exact ⟨samples, now, [], _, rfl, lowSince_low samples now, enough⟩

/-! ## What is seen of the button -/

/-- What is seen of a task of the button. -/
inductive ButtonSight where
  /-- It samples the button. -/
  | sampled (now : Nat) (low : Bool)
  /-- It wipes the store. -/
  | wiped
deriving DecidableEq

namespace ButtonSight

/-- The sample, if it is one. -/
def sample? : ButtonSight → Option (Nat × Bool)
  | .sampled now low => some (now, low)
  | .wiped => none

/-- The samples, in order. -/
def samples (seen : List ButtonSight) : List (Nat × Bool) := seen.filterMap sample?

/-- How often the store was wiped. -/
def wipes (seen : List ButtonSight) : Nat := seen.count .wiped

end ButtonSight

open ButtonSight (samples wipes)

namespace Button

/-- The button is sampled. -/
def sample (now : Nat) (low : Bool) : Button → Button
  | .released => if low then .held now else .released
  | .held start =>
    if !low then .released else if hold ≤ now - start then .wiping else .held start
  | other => other

/-- What a step can do to a task of the button. -/
inductive Move : Button → List ButtonSight → Button → Prop where
  /-- Nothing. -/
  | still (button : Button) : Move button [] button
  /-- It samples the button. -/
  | sampled (button : Button) (now : Nat) (low : Bool) :
    Move button [.sampled now low] (button.sample now low)
  /-- It wipes the store. -/
  | wipes (now : Nat) : Move .wiping [.wiped] (.wiped now)
  /-- It resets the board. -/
  | resets (since : Nat) : Move (.wiped since) [] .reset

/-- Where a task stands, by what was seen of it. -/
def Stands (button : Button) (seen : List ButtonSight) : Prop :=
  match button with
  | .released => lowSince (samples seen) = none ∧ ¬HeldLong (samples seen) ∧ wipes seen = 0
  | .held start => lowSince (samples seen) = some start ∧ ¬HeldLong (samples seen) ∧ wipes seen = 0
  | .wiping => HeldLong (samples seen) ∧ wipes seen = 0
  | .wiped _ | .reset => HeldLong (samples seen) ∧ wipes seen = 1

/-- The store is wiped once when the button was held long, and the board is reset after that. -/
def WipesWhenHeld (button : Button) (seen : List ButtonSight) : Prop :=
  (HeldLong (samples seen) ↔ button = .wiping ∨ wipes seen = 1) ∧ wipes seen ≤ 1 ∧
    (button = .reset → wipes seen = 1)

variable {button next : Button} {seen more : List ButtonSight}

/-- A sample moves the task as the low samples before it tell. -/
theorem Stands.sampled (stands : button.Stands seen) (now : Nat) (low : Bool) :
    (button.sample now low).Stands (seen ++ [.sampled now low]) := by
  have taken : samples (seen ++ [.sampled now low]) = samples seen ++ [(now, low)] := by
    simp [samples, ButtonSight.sample?]
  have unwiped : wipes (seen ++ [.sampled now low]) = wipes seen := by
    simp [wipes]
  cases button with
  | released =>
    obtain ⟨since, short, none⟩ := stands
    have never : ¬HeldLong (samples seen ++ [(now, low)]) := by
      rw [heldLong_snoc short, since]
      rintro ⟨-, enough⟩
      exact absurd enough (by simp [hold, ticksPerSecond])
    cases low with
    | false =>
      show lowSince _ = Option.none ∧ _
      rw [taken, unwiped]
      exact ⟨lowSince_high _ now, never, none⟩
    | true =>
      show lowSince _ = some now ∧ _
      rw [taken, unwiped, lowSince_low, since]
      exact ⟨rfl, never, none⟩
  | held start =>
    obtain ⟨since, short, none⟩ := stands
    have long := @heldLong_snoc (samples seen) now low short
    rw [since, Option.getD_some] at long
    cases low with
    | false =>
      show lowSince _ = Option.none ∧ _
      rw [taken, unwiped]
      exact ⟨lowSince_high _ now, fun held => Bool.false_ne_true (long.mp held).1, none⟩
    | true =>
      by_cases enough : hold ≤ now - start
      · have wiping : Button.sample now true (.held start) = .wiping := if_pos enough
        rw [wiping]
        show HeldLong _ ∧ _
        rw [taken, unwiped]
        exact ⟨long.mpr ⟨rfl, enough⟩, none⟩
      · have still : Button.sample now true (.held start) = .held start := if_neg enough
        rw [still]
        show lowSince _ = some start ∧ _
        rw [taken, unwiped, lowSince_low, since]
        exact ⟨rfl, fun held => enough (long.mp held).2, none⟩
  | wiping =>
    show HeldLong _ ∧ _
    rw [taken, unwiped]
    exact ⟨stands.1.snoc _, stands.2⟩
  | wiped | reset =>
    show HeldLong _ ∧ _
    rw [taken, unwiped]
    exact ⟨stands.1.snoc _, stands.2⟩

/-- Every step keeps a task where it should stand. -/
theorem Move.stands (move : Move button more next) (stands : button.Stands seen) :
    next.Stands (seen ++ more) := by
  cases move with
  | still =>
    rw [List.append_nil]
    exact stands
  | sampled _ now low => exact stands.sampled now low
  | wipes now =>
    obtain ⟨long, none⟩ := stands
    show HeldLong _ ∧ _
    have same : samples (seen ++ [.wiped]) = samples seen := by
      simp [samples, ButtonSight.sample?]
    have once : ButtonSight.wipes (seen ++ [.wiped]) = ButtonSight.wipes seen + 1 := by
      simp [ButtonSight.wipes]
    rw [same, once, none]
    exact ⟨long, rfl⟩
  | resets since =>
    rw [List.append_nil]
    exact stands

/-- A task that stands where it should wipes the store when the button was held long. -/
theorem Stands.wipesWhenHeld (stands : button.Stands seen) : button.WipesWhenHeld seen := by
  cases button with
  | released | held =>
    obtain ⟨-, short, none⟩ := stands
    exact ⟨by simp [short, none], by rw [none]; exact Nat.zero_le 1, Button.noConfusion⟩
  | wiping =>
    obtain ⟨long, none⟩ := stands
    exact ⟨by simp [long], by rw [none]; exact Nat.zero_le 1, Button.noConfusion⟩
  | wiped | reset =>
    obtain ⟨long, once⟩ := stands
    exact ⟨by simp [long, once], by rw [once], fun _ => once⟩

end Button

/-! ## Both tasks -/

open Serde

section Runs

variable (serde : SerdeJsonCore)

namespace Tasks

variable (sorting : UnstableSort) (tasks : Tasks)

/-- The wipe, if the effect is one. -/
def wipe? : Effect → Option ButtonSight
  | .stored .clearAll => some .wiped
  | _ => none

/-- What is seen of the button of a connected board. -/
def buttonSights (event : Event) : List ButtonSight :=
  if tasks.button = .reset then []
  else
    match event with
    | .sampled now low => [.sampled now low]
    | _ => (tasks.step serde sorting event).2.filterMap wipe?

/-- The call of a request is no wipe. -/
theorem wipe?_call (request : Saving) : wipe? (.stored request.call) = none := by
  cases request <;> rfl

/-- Signals of the display are no wipe. -/
theorem wipe?_display (states : List DisplayState) :
    (states.map Effect.display).filterMap wipe? = [] := by
  rw [List.filterMap_map, List.filterMap_eq_nil_iff]
  exact fun state _ => rfl

/-- A step of a connected board moves its button. -/
theorem step_button (event : Event) :
    Button.Move tasks.button (tasks.buttonSights serde sorting event)
      (tasks.step serde sorting event).1.button := by
  unfold buttonSights step
  by_cases reset : tasks.button = .reset
  · rw [if_pos reset, if_pos reset]
    exact .still _
  · rw [if_neg reset, if_neg reset]
    cases event with
    | sampled now low => exact .sampled tasks.button now low
    | accept request => exact .still _
    | handle index faults =>
      simp only [stepRunning, handleOne]
      split
      · exact .still _
      · split
        · exact .still _
        · rw [List.filterMap_cons, wipe?_call]
          exact .still _
    | wipes now faults =>
      simp only [stepRunning, wipes]
      split
      case isTrue wiping =>
        rw [wiping]
        exact .wipes now
      case isFalse => exact .still _
    | resets now =>
      show Button.Move tasks.button [] (tasks.resets now)
      unfold resets
      split
      case h_1 since wiped =>
        rw [wiped]
        split
        · exact .resets since
        · exact .still _
      case h_2 => exact .still _
    | synced now unix =>
      cases unix with
      | none => exact .still _
      | some unix =>
        show Button.Move tasks.button [] (tasks.synced now unix).button
        unfold synced
        split <;> exact .still _
    | configured octets =>
      show Button.Move tasks.button [] (tasks.configured octets).button
      unfold configured
      split
      · split <;> exact .still _
      · exact .still _
    | addressChecked =>
      simp only [stepRunning, addressChecked]
      split
      · dsimp only
        split <;> exact .still _
      · exact .still _
    | networkUp =>
      show Button.Move tasks.button [] tasks.networkUp.button
      unfold networkUp
      split <;> exact .still _
    | polls now =>
      simp only [stepRunning, polls]
      split
      · simp only [polled, wipe?_display]
        exact .still _
      · exact .still _
    | fetched now attempt =>
      simp only [stepRunning, fetched]
      split
      · simp only [polled, wipe?_display]
        exact .still _
      · exact .still _
    | timer now =>
      show Button.Move tasks.button [] (tasks.timer now).button
      unfold timer
      split
      · split <;> exact .still _
      · exact .still _
    | woken =>
      show Button.Move tasks.button [] tasks.woken.button
      unfold woken
      split
      · split <;> exact .still _
      · exact .still _

end Tasks

namespace Provisioning

variable {Method : Type} (wpa2Personal : Method) (p : Provisioning Method)

/-- The wipe, if the effect is one. -/
def wipe? : Effect Method → Option ButtonSight
  | .stored .clearAll => some .wiped
  | _ => none

/-- What is seen of the button in the portal. -/
def buttonSights (event : Event Method) : List ButtonSight :=
  if p.isReset then []
  else
    match event with
    | .sampled low => [.sampled p.now low]
    | _ => (p.step serde wpa2Personal event).2.filterMap wipe?

/-- A step of the portal moves its button. -/
theorem step_button (event : Event Method) :
    Button.Move p.button (p.buttonSights serde wpa2Personal event)
      (p.step serde wpa2Personal event).1.button := by
  unfold buttonSights step
  by_cases reset : p.isReset = true
  · rw [if_pos reset, if_pos reset]
    exact .still _
  · rw [if_neg reset, if_neg reset]
    cases event with
    | sampled low => exact .sampled p.button p.now low
    | passes | connects | lists | joins => exact .still _
    | scanned found =>
      simp only [stepRunning, scanned]
      split <;> exact .still _
    | selects =>
      simp only [stepRunning, selects]
      split
      · exact .still _
      · split <;> exact .still _
      · exact .still _
    | wakes =>
      simp only [stepRunning, wakes]
      split
      · split <;> exact .still _
      · split
        · split <;> exact .still _
        · exact .still _
      · split <;> exact .still _
      · exact .still _
    | saves faults =>
      simp only [stepRunning, saves]
      split <;> exact .still _
    | wipes faults =>
      simp only [stepRunning, wipes]
      split
      case isTrue wiping =>
        rw [wiping]
        exact .wipes p.now
      case isFalse => exact .still _
    | resets =>
      show Button.Move p.button [] p.resets
      unfold resets
      split
      case h_1 since wiped =>
        rw [wiped]
        split
        · exact .resets since
        · exact .still _
      case h_2 => exact .still _

end Provisioning

end Runs

end Zugli
