import Mathlib

/-!
# Runs of a machine

A machine takes an input in a state and answers with an output. A run feeds it a list of inputs
and keeps the history of what it answered. What one step preserves, a run preserves; what a
slot of the state reads after a run is the last value the history wrote to it.
-/

namespace Machine

variable {State Input Output : Type}

/-- Feed inputs in order; the last state, and each input with its output. -/
def run (step : State → Input → State × Output) : State → List Input →
    State × List (Input × Output)
  | state, [] => (state, [])
  | state, input :: inputs =>
    let (next, output) := step state input
    let (last, history) := run step next inputs
    (last, (input, output) :: history)

/-- What an observer of the steps notes during a run, in order. -/
def observed {Seen : Type} (step : State → Input → State × Output)
    (observe : State → Input → List Seen) : State → List Input → List Seen
  | _, [] => []
  | state, input :: inputs =>
    observe state input ++ observed step observe (step state input).1 inputs

/-- Everything noted was allowed by what was noted before it. -/
inductive Traced {Seen : Type} (Allowed : List Seen → Seen → Prop) : List Seen → Prop where
  /-- Nothing yet. -/
  | nil : Traced Allowed []
  /-- One thing more. -/
  | snoc {seen : List Seen} {next : Seen} : Traced Allowed seen → Allowed seen next →
    Traced Allowed (seen ++ [next])

/-- The last value a history writes to a slot. -/
def lastWrite {Value : Type} (writes : Input → Output → Option Value)
    (history : List (Input × Output)) : Option Value :=
  history.reverse.findSome? fun entry => writes entry.1 entry.2

section Laws

variable {step : State → Input → State × Output}

@[simp] theorem run_nil (state : State) : run step state [] = (state, []) := rfl

@[simp] theorem run_cons_state (state : State) (input : Input) (inputs : List Input) :
    (run step state (input :: inputs)).1 = (run step (step state input).1 inputs).1 := rfl

@[simp] theorem run_cons_history (state : State) (input : Input) (inputs : List Input) :
    (run step state (input :: inputs)).2 =
      (input, (step state input).2) :: (run step (step state input).1 inputs).2 := rfl

/-- A property of the state that each input of a run preserves holds after it. -/
theorem run_invariant {Holds : State → Prop} {inputs : List Input}
    (preserved : ∀ input ∈ inputs, ∀ state, Holds state → Holds (step state input).1)
    {state : State} (start : Holds state) : Holds (run step state inputs).1 := by
  induction inputs generalizing state with
  | nil => exact start
  | cons input inputs ih =>
    have next := preserved input List.mem_cons_self state start
    exact ih (fun other inside => preserved other (List.mem_cons_of_mem _ inside)) next

/-- A property that each accepted answer preserves holds after a run of accepted answers. -/
theorem run_invariant_of_accepted {Holds : State → Prop} {Accepts : Output → Prop}
    (preserved : ∀ state input, Holds state → Accepts (step state input).2 →
      Holds (step state input).1) {state : State} {inputs : List Input} (start : Holds state)
    (accepted : ∀ entry ∈ (run step state inputs).2, Accepts entry.2) :
    Holds (run step state inputs).1 := by
  induction inputs generalizing state with
  | nil => exact start
  | cons input inputs ih =>
    rw [run_cons_history, List.forall_mem_cons] at accepted
    exact ih (preserved state input start accepted.1) accepted.2

/-- The state after two lists of inputs in a row. -/
theorem run_append_state (state : State) (earlier later : List Input) :
    (run step state (earlier ++ later)).1 = (run step (run step state earlier).1 later).1 := by
  induction earlier generalizing state with
  | nil => rfl
  | cons input earlier previous => exact previous (step state input).1

/-- The history of two lists of inputs in a row. -/
theorem run_append_history (state : State) (earlier later : List Input) :
    (run step state (earlier ++ later)).2 =
      (run step state earlier).2 ++ (run step (run step state earlier).1 later).2 := by
  induction earlier generalizing state with
  | nil => rfl
  | cons input earlier previous =>
    rw [List.cons_append, run_cons_history, run_cons_history, run_cons_state, List.cons_append,
      previous (step state input).1]

/-- What is noted during two lists of inputs in a row. -/
theorem observed_append {Seen : Type} {observe : State → Input → List Seen} (state : State)
    (earlier later : List Input) :
    observed step observe state (earlier ++ later) =
      observed step observe state earlier ++
        observed step observe (run step state earlier).1 later := by
  induction earlier generalizing state with
  | nil => rfl
  | cons input earlier previous =>
    rw [List.cons_append, observed, observed, previous, run_cons_state, List.append_assoc]

/-- A relation between the state and what was noted before it, which each step carries on, holds
after a run. -/
theorem observed_invariant {Seen : Type} {observe : State → Input → List Seen}
    {Holds : State → List Seen → Prop}
    (carried : ∀ state input seen, Holds state seen →
      Holds (step state input).1 (seen ++ observe state input))
    {state : State} {seen : List Seen} (start : Holds state seen) (inputs : List Input) :
    Holds (run step state inputs).1 (seen ++ observed step observe state inputs) := by
  induction inputs generalizing state seen with
  | nil =>
    rw [observed, List.append_nil]
    exact start
  | cons input inputs previous =>
    have next := previous (carried state input seen start)
    rw [List.append_assoc] at next
    exact next

/-- What the outputs of a run hold, in order, is noted during it. -/
theorem observed_outputs {Seen : Type} (holds : Output → Option Seen) (state : State)
    (inputs : List Input) :
    observed step (fun state input => (holds (step state input).2).toList) state inputs =
      (run step state inputs).2.filterMap fun entry => holds entry.2 := by
  induction inputs generalizing state with
  | nil => rfl
  | cons input inputs previous =>
    rw [observed, previous, run_cons_history, List.filterMap_cons]
    cases holds (step state input).2 with
    | none => rfl
    | some seen => rfl

/-- A list and one item more, split at one of the items. -/
theorem snoc_split {Item : Type} {list before mid : List Item} {last item : Item}
    (split : list ++ [last] = before ++ item :: mid) :
    (mid = [] ∧ list = before ∧ last = item) ∨
      ∃ rest, mid = rest ++ [last] ∧ list = before ++ item :: rest := by
  rcases List.eq_nil_or_concat mid with rfl | ⟨rest, other, rfl⟩
  · obtain ⟨front, same⟩ := List.append_inj' split rfl
    exact .inl ⟨rfl, front, (List.cons.inj same).1⟩
  · rw [List.concat_eq_append, ← List.cons_append, ← List.append_assoc] at split
    obtain ⟨front, same⟩ := List.append_inj' split rfl
    obtain rfl := (List.cons.inj same).1
    exact .inr ⟨rest, List.concat_eq_append, front⟩

/-- What was noted was allowed at its time. -/
theorem Traced.allowed {Seen : Type} {Allowed : List Seen → Seen → Prop}
    {seen before after : List Seen} {next : Seen} (traced : Traced Allowed seen)
    (split : seen = before ++ next :: after) : Allowed before next := by
  induction traced generalizing before after with
  | nil => exact absurd split (by simp)
  | snoc earlier allowed previous =>
    rcases snoc_split split with ⟨_, rfl, rfl⟩ | ⟨rest, _, front⟩
    · exact allowed
    · exact previous front

/-- Every input of a run meets a condition on it and on the state before it. -/
def Along (step : State → Input → State × Output) (Meets : State → Input → Prop) :
    State → List Input → Prop
  | _, [] => True
  | state, input :: inputs => Meets state input ∧ Along step Meets (step state input).1 inputs

instance Along.decidable {Meets : State → Input → Prop}
    [∀ state input, Decidable (Meets state input)] :
    ∀ (state : State) (inputs : List Input), Decidable (Along step Meets state inputs)
  | _, [] => .isTrue trivial
  | state, input :: inputs =>
    have : Decidable (Along step Meets (step state input).1 inputs) :=
      Along.decidable (step state input).1 inputs
    inferInstanceAs (Decidable (Meets state input ∧ Along step Meets (step state input).1 inputs))

/-- A condition that always holds is met along every list of inputs. -/
theorem along_trivial (state : State) (inputs : List Input) :
    Along step (fun _ _ => True) state inputs := by
  induction inputs generalizing state with
  | nil => trivial
  | cons input inputs previous => exact ⟨trivial, previous (step state input).1⟩

/-- A condition along two lists of inputs in a row. -/
theorem along_append {Meets : State → Input → Prop} (state : State) (earlier later : List Input) :
    Along step Meets state (earlier ++ later) ↔
      Along step Meets state earlier ∧ Along step Meets (run step state earlier).1 later := by
  induction earlier generalizing state with
  | nil => simp [Along]
  | cons input earlier previous =>
    rw [List.cons_append, Along, Along, run_cons_state, previous, and_assoc]

/-- Where each thing noted lowers a rank that no step raises, no more is noted along a run than the
rank allows. -/
theorem observed_length_le {Seen : Type} {observe : State → Input → List Seen}
    {Meets : State → Input → Prop} {rank : State → Nat}
    (lowers : ∀ state input, Meets state input →
      (observe state input).length + rank (step state input).1 ≤ rank state)
    {state : State} {inputs : List Input} (along : Along step Meets state inputs) :
    (observed step observe state inputs).length ≤ rank state := by
  induction inputs generalizing state with
  | nil => exact Nat.zero_le _
  | cons input inputs previous =>
    have rest := previous along.2
    have first := lowers state input along.1
    rw [observed, List.length_append]
    omega

/-- A property that each input meeting a condition preserves holds after a run along it. -/
theorem run_invariant_along {Holds : State → Prop} {Meets : State → Input → Prop}
    (preserved : ∀ state input, Holds state → Meets state input → Holds (step state input).1)
    {state : State} {inputs : List Input} (start : Holds state)
    (along : Along step Meets state inputs) : Holds (run step state inputs).1 := by
  induction inputs generalizing state with
  | nil => exact start
  | cons input inputs previous =>
    have next : Holds (step state input).1 := preserved state input start along.1
    exact previous next along.2

/-- What each input meeting a condition answers, a run along it answers throughout. -/
theorem history_along {Holds : State → Prop} {Meets : State → Input → Prop}
    {Answers : Input → Output → Prop} {inputs : List Input}
    (stepped : ∀ input ∈ inputs, ∀ state, Holds state → Meets state input →
      Holds (step state input).1 ∧ Answers input (step state input).2)
    {state : State} (start : Holds state) (along : Along step Meets state inputs) :
    ∀ entry ∈ (run step state inputs).2, Answers entry.1 entry.2 := by
  induction inputs generalizing state with
  | nil => exact fun entry member => absurd member List.not_mem_nil
  | cons input inputs previous =>
    obtain ⟨next, answered⟩ := stepped input List.mem_cons_self state start along.1
    rw [run_cons_history, List.forall_mem_cons]
    exact ⟨answered, previous (fun other inside => stepped other (List.mem_cons_of_mem _ inside))
      next along.2⟩

/-- A slot that each input meeting a condition overwrites or leaves alone reads its last write. -/
theorem read_run_along {Value : Type} {Holds : State → Prop} {Meets : State → Input → Prop}
    {slot : State → Value} {writes : Input → Output → Option Value}
    (stepped : ∀ state input, Holds state → Meets state input → Holds (step state input).1 ∧
      slot (step state input).1 = (writes input (step state input).2).getD (slot state))
    {state : State} {inputs : List Input} (start : Holds state)
    (along : Along step Meets state inputs) :
    slot (run step state inputs).1 =
      (lastWrite writes (run step state inputs).2).getD (slot state) := by
  induction inputs generalizing state with
  | nil => rfl
  | cons input inputs previous =>
    obtain ⟨next, wrote⟩ := stepped state input start along.1
    rw [run_cons_state, run_cons_history, previous next along.2, wrote]
    simp only [lastWrite, List.reverse_cons, List.findSome?_append, List.findSome?_singleton]
    cases List.findSome? (fun entry : Input × Output => writes entry.1 entry.2)
      (run step (step state input).1 inputs).2.reverse with
    | none => simp
    | some value => rfl

/-- A slot that each step overwrites or leaves alone reads its last write. -/
theorem read_run {Value : Type} {Holds : State → Prop} {slot : State → Value}
    {writes : Input → Output → Option Value}
    (preserved : ∀ state input, Holds state → Holds (step state input).1)
    (stepped : ∀ state input, Holds state →
      slot (step state input).1 = (writes input (step state input).2).getD (slot state))
    {state : State} (start : Holds state) (inputs : List Input) :
    slot (run step state inputs).1 =
      (lastWrite writes (run step state inputs).2).getD (slot state) :=
  read_run_along (fun state input holds _ => ⟨preserved state input holds, stepped state input holds⟩)
    start (along_trivial state inputs)

/-- Machines that stay related and answer alike have related runs with one history. -/
theorem run_simulation {Abstract : Type} {other : Abstract → Input → Abstract × Output}
    {Related : State → Abstract → Prop}
    (stepped : ∀ state abstract input, Related state abstract →
      Related (step state input).1 (other abstract input).1 ∧
        (step state input).2 = (other abstract input).2)
    {state : State} {abstract : Abstract} (start : Related state abstract)
    (inputs : List Input) :
    Related (run step state inputs).1 (run other abstract inputs).1 ∧
      (run step state inputs).2 = (run other abstract inputs).2 := by
  induction inputs generalizing state abstract with
  | nil => exact ⟨start, rfl⟩
  | cons input inputs ih =>
    obtain ⟨related, alike⟩ := stepped state abstract input start
    obtain ⟨last, history⟩ := ih related
    exact ⟨last, by simp only [run_cons_history, alike, history]⟩

/-- A run on inputs that stand for others is a run on the others. -/
theorem run_map {Other : Type} (stands : Other → Input) (state : State) (others : List Other) :
    run step state (others.map stands) =
      ((run (fun state other => step state (stands other)) state others).1,
        (run (fun state other => step state (stands other)) state others).2.map
          fun entry => (stands entry.1, entry.2)) := by
  induction others generalizing state with
  | nil => rfl
  | cons other others previous =>
    have rest := previous (step state (stands other)).1
    apply Prod.ext
    · rw [List.map_cons, run_cons_state, rest, run_cons_state]
    · rw [List.map_cons, run_cons_history, rest, run_cons_history, List.map_cons]

/-- A machine that mirrors each step of another mirrors its runs. -/
theorem run_mirror {State' Input' Output' : Type} {other : State' → Input' → State' × Output'}
    (state' : State → State') (input' : Input → Input') (output' : Output → Output')
    (stepped : ∀ state input, other (state' state) (input' input) =
      (state' (step state input).1, output' (step state input).2))
    (state : State) (inputs : List Input) :
    run other (state' state) (inputs.map input') =
      (state' (run step state inputs).1,
        (run step state inputs).2.map fun entry => (input' entry.1, output' entry.2)) := by
  induction inputs generalizing state with
  | nil => rfl
  | cons input inputs previous =>
    have rest := previous (step state input).1
    apply Prod.ext
    · rw [List.map_cons, run_cons_state, stepped, rest, run_cons_state]
    · rw [List.map_cons, run_cons_history, stepped, rest, run_cons_history, List.map_cons]

end Laws

end Machine
