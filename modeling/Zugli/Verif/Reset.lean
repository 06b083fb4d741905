import Zugli.Verif.Poll

/-!
# The factory reset over whole runs

The wipe empties the record and the board goes on running until its reset. What a restart then
finds is what the saves of that time left: nothing, exactly when none of them left anything.
-/

namespace Zugli

open Serde
open Store (Call)

/-- The default record fits, however its names are spelled. -/
theorem fits_default (serde : SerdeJsonCore) : Store.fits serde Persisted.default = true := by
  have names : ∀ name : String, Json.quoteSize serde.style name ≤ 2 + 6 * name.toList.length :=
    Json.quoteSize_le serde.style
  have wifi := names "wifi"
  have selection := names "selection"
  have config := names "config"
  have layout := names "layout"
  have stripCity := names "stripCity"
  have showLineBadges := names "showLineBadges"
  have brightness := names "brightness"
  have autoBrightness := names "autoBrightness"
  have offWhenDimmed := names "offWhenDimmed"
  have reducedStart := names "reducedStart"
  have reducedEnd := names "reducedEnd"
  have uiMode := names "uiMode"
  have limit : maxPayload = 3072 := rfl
  have numbers : digits 6 = 1 ∧ digits 1200 = 4 ∧ digits 480 = 3 ∧ digits 0 = 1 := by decide
  show decide (bytes serde.style Persisted.default ≤ maxPayload) = true
  rw [decide_eq_true_eq]
  simp [bytes, objectBytes, listBytes, counted, Persisted.default, Config.default] at *
  omega

namespace Tasks

/-- Which flash calls fail in an event. -/
def Event.faults : Event → Faults
  | .handle _ faults | .wipes _ faults => faults
  | _ => noFaults

/-- The save an effect runs, if it runs one. -/
def Effect.call? : Effect → Option Call
  | .stored call => some call
  | .display _ => none

/-- The saves of a run, in order. -/
def calls (history : List (Event × List Effect)) : List Call :=
  history.flatMap fun entry => entry.2.filterMap Effect.call?

/-- What the next boot loads. -/
def nextBoot (serde : SerdeJsonCore) (tasks : Tasks) : Persisted :=
  (tasks.device.store.map fun store => store.loadBoot serde noFaults).getD Persisted.default

section Saves

variable {serde : SerdeJsonCore} {sorting : UnstableSort}

/-- What a step can mean to the store. -/
inductive StoreMove (serde : SerdeJsonCore) (faults : Faults) (tasks after : Tasks)
    (effects : List Effect) : Prop where
  /-- The store is left alone. -/
  | still (store : after.device.store = tasks.device.store)
    (silent : effects.filterMap Effect.call? = [])
  /-- A save is run on it. -/
  | saved (call : Call)
    (device : after.device.store =
      (tasks.device.persist fun store => Store.call serde store faults call).1.store)
    (stored : effects = [.stored call])

/-- Signals of the display run no save. -/
theorem filterMap_display (states : List DisplayState) :
    (states.map Effect.display).filterMap Effect.call? = [] := by
  rw [List.filterMap_map, List.filterMap_eq_nil_iff]
  exact fun state _ => rfl

/-- Every step is one of these. -/
theorem step_store (tasks : Tasks) (event : Event) :
    StoreMove serde event.faults tasks (tasks.step serde sorting event).1
      (tasks.step serde sorting event).2 := by
  by_cases reset : tasks.button = .reset
  · rw [step, if_pos reset]
    exact .still rfl rfl
  · rw [step, if_neg reset]
    cases event with
    | accept request =>
      show StoreMove serde _ tasks
        { tasks with handlers := tasks.handlers ++ [⟨request, false⟩] } []
      exact .still rfl rfl
    | handle index faults =>
      show StoreMove serde faults tasks (tasks.handleOne serde index faults).1
        (tasks.handleOne serde index faults).2
      unfold handleOne
      split
      · exact .still rfl rfl
      next handler _ =>
        dsimp only
        split
        · exact .still rfl rfl
        · exact .saved handler.request.call rfl rfl
    | configured octets =>
      show StoreMove serde _ tasks (tasks.configured octets) []
      unfold configured
      split
      · split
        · exact .still rfl rfl
        · exact .still rfl rfl
      · exact .still rfl rfl
    | addressChecked =>
      show StoreMove serde _ tasks tasks.addressChecked.1 tasks.addressChecked.2
      unfold addressChecked
      split
      · refine .still rfl ?_
        dsimp only
        split <;> rfl
      · exact .still rfl rfl
    | synced now unix =>
      cases unix with
      | none => exact .still rfl rfl
      | some unix =>
        show StoreMove serde _ tasks (tasks.synced now unix) []
        unfold synced
        split <;> exact .still rfl rfl
    | networkUp =>
      show StoreMove serde _ tasks tasks.networkUp []
      unfold networkUp
      split <;> exact .still rfl rfl
    | polls now =>
      show StoreMove serde _ tasks (tasks.polls now).1 (tasks.polls now).2
      unfold polls
      split
      · exact .still rfl (filterMap_display _)
      · exact .still rfl rfl
    | fetched now attempt =>
      show StoreMove serde _ tasks (tasks.fetched serde sorting now attempt).1
        (tasks.fetched serde sorting now attempt).2
      unfold fetched
      split
      · exact .still rfl (filterMap_display _)
      · exact .still rfl rfl
    | timer now =>
      show StoreMove serde _ tasks (tasks.timer now) []
      unfold timer
      split
      · split <;> exact .still rfl rfl
      · exact .still rfl rfl
    | woken =>
      show StoreMove serde _ tasks tasks.woken []
      unfold woken
      split
      · split <;> exact .still rfl rfl
      · exact .still rfl rfl
    | sampled now low =>
      show StoreMove serde _ tasks { tasks with button := tasks.sampled now low } []
      exact .still rfl rfl
    | wipes now faults =>
      show StoreMove serde faults tasks (tasks.wipes serde now faults).1
        (tasks.wipes serde now faults).2
      unfold wipes
      split
      · exact .saved .clearAll rfl rfl
      · exact .still rfl rfl
    | resets now =>
      show StoreMove serde _ tasks { tasks with button := tasks.resets now } []
      exact .still rfl rfl

/-- On working flash a run does to the store what its saves do to it, one after the other. -/
theorem run_store (tasks : Tasks) (events : List Event)
    (working : ∀ event ∈ events, event.faults = noFaults) :
    (Machine.run (step serde sorting) tasks events).1.device.store =
      tasks.device.store.map fun store => (Machine.run (Store.step serde) store
        (calls (Machine.run (step serde sorting) tasks events).2)).1 := by
  induction events generalizing tasks with
  | nil => cases store : tasks.device.store <;> simp [calls, store]
  | cons event events previous =>
    rw [List.forall_mem_cons] at working
    have rest := previous (tasks.step serde sorting event).1 working.2
    have split : calls (Machine.run (step serde sorting) tasks (event :: events)).2 =
        (tasks.step serde sorting event).2.filterMap Effect.call? ++
          calls (Machine.run (step serde sorting) (tasks.step serde sorting event).1 events).2 :=
      rfl
    rw [Machine.run_cons_state, rest, split]
    have stepped : StoreMove serde event.faults tasks (tasks.step serde sorting event).1
        (tasks.step serde sorting event).2 := step_store tasks event
    rw [working.1] at stepped
    cases stepped with
    | still store silent => rw [store, silent, List.nil_append]
    | saved call device stored =>
      rw [device, stored]
      cases found : tasks.device.store with
      | none => simp [Device.persist, found]
      | some store =>
        simp only [Device.persist, found, Option.map_some]
        rfl

end Saves

/-- A wipe on working flash succeeds, whatever the record was. -/
theorem wipe_refines (serde : SerdeJsonCore) (store : Store) :
    Store.Refines serde (Store.step serde store .clearAll).1 Persisted.default := by
  obtain ⟨_, after, wrote, found⟩ | ⟨full, _⟩ := Store.step_cases serde store .clearAll
  · rw [wrote]
    exact ⟨found, rfl⟩
  · rw [show Call.clearAll.record _ = Persisted.default from rfl, fits_default] at full
    cases full

/-- The store after the step of a wipe. -/
theorem store_wipes {serde : SerdeJsonCore} {sorting : UnstableSort} {tasks : Tasks} (now : Nat)
    (wiping : tasks.button = .wiping) :
    (tasks.step serde sorting (.wipes now noFaults)).1.device.store =
      tasks.device.store.map fun store => (Store.step serde store .clearAll).1 := by
  have running : tasks.button ≠ .reset := by simp [wiping]
  rw [step, if_neg running]
  show (tasks.wipes serde now noFaults).1.device.store = _
  rw [wipes, if_pos wiping]
  simp only [Device.persist]
  cases found : tasks.device.store with
  | none => exact found
  | some store => rfl

/-- The parts of a record decide whether it is the default one. -/
theorem eq_default_iff (all : Persisted) : all = Persisted.default ↔
    all.wifi = none ∧ all.selection = none ∧ all.config = Config.default ∧ all.layout = none := by
  obtain ⟨wifi, selection, config, layout⟩ := all
  simp [Persisted.default]

/-- The next boot after a wipe on working flash loads what the saves since make of empty slots. -/
theorem nextBoot_after_wipe (serde : SerdeJsonCore) (sorting : UnstableSort) (device : Device)
    (earlier later : List Event) (now : Nat)
    (working : ∀ event ∈ earlier ++ .wipes now noFaults :: later, event.faults = noFaults)
    (wiping : (after serde sorting device earlier).button = .wiping) :
    let wiped := after serde sorting device (earlier ++ [.wipes now noFaults])
    let saves := calls (Machine.run (step serde sorting) wiped later).2
    nextBoot serde (after serde sorting device (earlier ++ .wipes now noFaults :: later)) =
      (device.store.map fun _ =>
        (Machine.run (Slots.step (Store.fits serde)) Persisted.default saves).1).getD
          Persisted.default := by
  intro wiped saves
  rw [List.forall_mem_append, List.forall_mem_cons] at working
  have before := @run_store serde sorting (start device) earlier working.1
  have since := @run_store serde sorting wiped later working.2.2
  have wipe : wiped.device.store = (after serde sorting device earlier).device.store.map fun store =>
      (Store.step serde store .clearAll).1 := by
    rw [show wiped = _ from after_append_singleton earlier _]
    exact store_wipes now wiping
  have whole : after serde sorting device (earlier ++ .wipes now noFaults :: later) =
      (Machine.run (step serde sorting) wiped later).1 := by
    rw [List.append_cons, after, Machine.run_append_state]
    rfl
  rw [whole, nextBoot, since, wipe, show (after serde sorting device earlier).device.store = _
    from before, show (start device).device.store = device.store from rfl]
  cases device.store with
  | none => rfl
  | some store =>
    simp only [Option.map_some, Option.getD_some]
    exact Store.loadBoot_of_refines (Store.run_refines (wipe_refines serde _) saves).1

/-- On working flash the next boot after a wipe loads exactly nothing when no save since has left
anything: of the saves that succeed, none stores credentials or a selection, the last that stores
settings stores the default ones, and the last that stores a layout stores none. -/
theorem reset_leaves_nothing_iff (serde : SerdeJsonCore) (sorting : UnstableSort) (device : Device)
    (earlier later : List Event) (now : Nat)
    (working : ∀ event ∈ earlier ++ .wipes now noFaults :: later, event.faults = noFaults)
    (wiping : (after serde sorting device earlier).button = .wiping) :
    let wiped := after serde sorting device (earlier ++ [.wipes now noFaults])
    let saves := calls (Machine.run (step serde sorting) wiped later).2
    let outcomes := (Machine.run (Slots.step (Store.fits serde)) Persisted.default saves).2
    nextBoot serde (after serde sorting device (earlier ++ .wipes now noFaults :: later)) =
        Persisted.default ↔
      device.store = none ∨
        (Machine.lastWrite Slots.wifiWrite outcomes).getD none = none ∧
          (Machine.lastWrite Slots.selectionWrite outcomes).getD none = none ∧
          (Machine.lastWrite Slots.configWrite outcomes).getD Config.default = Config.default ∧
          (Machine.lastWrite Slots.layoutWrite outcomes).getD none = none := by
  intro wiped saves outcomes
  rw [nextBoot_after_wipe serde sorting device earlier later now working wiping]
  cases device.store with
  | none => simp
  | some store =>
    obtain ⟨wifi, selection, config, layout⟩ :=
      Slots.run_slots (Store.fits serde) Persisted.default saves
    rw [Option.map_some, Option.getD_some, eq_default_iff, wifi, selection, config, layout]
    simp only [reduceCtorEq, false_or]
    rfl

/-- A board on an erased chip. -/
def erased : Device := ⟨some Store.blank, Shared.init, false⟩

/-- The button held for as long as it takes. -/
def heldDown : List Event := [.sampled 0 true, .sampled hold true]

/-- A selection of all connections of a stop. -/
def anyStop : Selection := ⟨⟨"8503000", by decide⟩, ⟨"HB", by decide⟩, true, .empty⟩

/-- A selection saved before the wipe is gone after the reset, also when an empty layout is saved in
between. -/
theorem reset_leaves_nothing_emptied :
    let earlier := [.accept (.save anyStop), .handle 0 noFaults, .handle 0 noFaults] ++ heldDown
    let later := [.accept (.setLayout ⟨1, .empty⟩), .handle 0 noFaults,
      .resets (hold + resetDelay)]
    let wiped := after .reference .reference erased (earlier ++ [.wipes hold noFaults])
    calls (Machine.run (step .reference .reference) (start erased) earlier).2 =
        [.saveSelection anyStop] ∧
      calls (Machine.run (step .reference .reference) wiped later).2 = [.saveLayout none] ∧
      nextBoot .reference
          (after .reference .reference erased (earlier ++ .wipes hold noFaults :: later)) =
        Persisted.default := by
  intro earlier later wiped
  have saved : calls (Machine.run (step .reference .reference) wiped later).2 =
      [.saveLayout none] := by decide +kernel
  refine ⟨by decide +kernel, saved, ?_⟩
  refine (reset_leaves_nothing_iff .reference .reference erased earlier later hold
    (by simp [earlier, later, heldDown, Event.faults]) (by decide +kernel)).mpr (.inr ?_)
  rw [saved]
  decide +kernel

/-- A selection that is saved between the wipe and the reset is there after the reset. -/
theorem selection_survives_reset :
    let earlier := .accept (.save anyStop) :: heldDown
    let later := [Event.handle 0 noFaults, .resets (hold + resetDelay)]
    let tasks := after .reference .reference erased (earlier ++ .wipes hold noFaults :: later)
    tasks.button = .reset ∧ (nextBoot .reference tasks).selection = some anyStop := by
  intro earlier later tasks
  have wiping : (after .reference .reference erased earlier).button = .wiping := by decide +kernel
  have loaded := nextBoot_after_wipe .reference .reference erased earlier later hold
    (by simp [earlier, later, heldDown, Event.faults]) wiping
  refine ⟨by decide +kernel, ?_⟩
  rw [show nextBoot .reference tasks = _ from loaded]
  decide +kernel

end Tasks

end Zugli
