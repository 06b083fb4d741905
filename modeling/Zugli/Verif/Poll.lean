import Zugli.Firmware.Tasks
import Zugli.Verif.Httpd

/-!
# The poll task over whole runs

Whatever the order in which the tasks run, a poll task that waits, with no signal left, has polled
the current selection; a board it shows is that of the selection it read; and the address screen
is never asked for once a selection is set.
-/

namespace Zugli

open Serde

/-! ## The handlers in two sections -/

namespace Saving

/-- The request of the server with this body, if it is one of the server's. -/
def request : Saving → Option Request
  | .save sel => some (.save sel)
  | .setConfig cfg => some (.setConfig cfg)
  | .setLayout layout => some (.setLayout layout)
  | .saveWifi _ => none

/-- A handler's two sections, one after the other, do what the handler does. -/
theorem handle_eq (serde : SerdeJsonCore) (device : Device) (faults : Faults) (now : Nat)
    {saving : Saving} {request : Request} (served : saving.request = some request) :
    let stored := (device.persist fun store => Store.call serde store faults saving.call).1
    (device.handle serde faults now request).1 =
      { stored with shared := saving.apply stored.shared } := by
  cases saving <;> cases served <;> rfl

end Saving

/-! ## One section of the poll task -/

namespace PollTask

/-- After a fetch the task waits, having polled its selection; it shows a board of that stop, or
that it is offline. -/
theorem fetched_spec (serde : SerdeJsonCore) (sorting : UnstableSort) (task : PollTask) (now : Nat)
    (nowUnix : Option Int64) (sel : Selection) (attempt : Attempt) :
    (∃ wakeAt, (task.fetched serde sorting now nowUnix sel attempt).1.pc =
        .waiting (some sel) wakeAt) ∧
      ∀ state ∈ (task.fetched serde sorting now nowUnix sel attempt).2,
        state = .offline ∨ ∃ deps, state = .departures sel.stopName deps := by
  unfold fetched
  split
  next deps found =>
    refine ⟨⟨_, rfl⟩, ?_⟩
    intro state shown
    exact .inr ⟨deps, List.mem_singleton.mp shown⟩
  next nothing =>
    refine ⟨⟨_, rfl⟩, ?_⟩
    intro state shown
    refine .inl ?_
    simp only [offlineIfPersistent] at shown
    split at shown
    · exact List.mem_singleton.mp shown
    · exact absurd shown List.not_mem_nil

/-- With nothing selected the address may be shown, else nothing is. -/
theorem read_spec (task : PollTask) (now : Nat) (selection : Option Selection)
    (deviceIp : Option Octets) :
    ∀ state ∈ (task.read now selection deviceIp).2,
      selection = none ∧ ∃ octets, state = .idleAddress octets := by
  intro state shown
  cases selection with
  | none =>
    cases deviceIp with
    | none => exact absurd shown List.not_mem_nil
    | some octets => exact ⟨rfl, octets, List.mem_singleton.mp shown⟩
  | some sel => exact absurd shown List.not_mem_nil

end PollTask

namespace Tasks

section Moves

variable (serde : SerdeJsonCore) (sorting : UnstableSort)

/-- What a step can mean to the poll task. -/
inductive PollMove (tasks : Tasks) (event : Event) (after : Tasks) (effects : List Effect) :
    Prop where
  /-- Another task runs; it may signal a changed selection. -/
  | other (poll : after.poll = tasks.poll)
    (selection : after.device.shared.selection = tasks.device.shared.selection)
    (signalled : tasks.device.shared.selectionChanged = true →
      after.device.shared.selectionChanged = true)
    (boards : ∀ station deps, .display (.departures station deps) ∉ effects)
    (address : ∀ octets, .display (.idleAddress octets) ∈ effects →
      tasks.device.shared.selection = none)
  /-- A selection is set, and the change signalled. -/
  | selected (poll : after.poll = tasks.poll)
    (selection : after.device.shared.selection.isSome = true)
    (signalled : after.device.shared.selectionChanged = true) (silent : effects = [])
  /-- The poll task reads the selection. -/
  | read (now : Nat) (polls : event = .polls now) (pc : tasks.poll.pc = .reading)
    (stepped : (after, effects) =
      tasks.polled (tasks.poll.read now tasks.device.shared.selection tasks.ip))
  /-- Its fetch ends. -/
  | fetched (now : Nat) (attempt : Attempt) (sel : Selection) (pc : tasks.poll.pc = .fetching sel)
    (stepped : (after, effects) =
      tasks.polled (tasks.poll.fetched serde sorting now (tasks.nowUnix now) sel attempt))
  /-- It starts over. -/
  | restarted (pc : after.poll.pc = .reading)
    (selection : after.device.shared.selection = tasks.device.shared.selection)
    (silent : effects = [])

variable {serde sorting}

/-- A step that leaves the poll task, the selection and its signal alone, and shows nothing. -/
theorem pollMove_of_still {tasks after : Tasks} {event : Event} (poll : after.poll = tasks.poll)
    (selection : after.device.shared.selection = tasks.device.shared.selection)
    (signalled : tasks.device.shared.selectionChanged = true →
      after.device.shared.selectionChanged = true) :
    PollMove serde sorting tasks event after [] :=
  .other poll selection signalled (fun _ _ => List.not_mem_nil) fun _ member => nomatch member

/-- A step that changes nothing. -/
theorem pollMove_refl (tasks : Tasks) (event : Event) :
    PollMove serde sorting tasks event tasks [] :=
  pollMove_of_still rfl rfl id

/-- A handler leaves the poll task alone, and signals when it sets a selection. -/
theorem pollMove_handleOne (tasks : Tasks) (index : Nat) (faults : Faults) :
    PollMove serde sorting tasks (.handle index faults) (tasks.handleOne serde index faults).1
      (tasks.handleOne serde index faults).2 := by
  unfold handleOne
  cases found : tasks.handlers[index]? with
  | none => exact pollMove_refl tasks _
  | some handler =>
    obtain ⟨request, persisted⟩ := handler
    cases persisted with
    | false =>
      refine .other rfl ?_ ?_ (by simp) (by simp)
      · exact congrArg Shared.selection (Device.persist_shared tasks.device _)
      · exact fun signalled =>
          (congrArg Shared.selectionChanged (Device.persist_shared tasks.device _)).trans signalled
    | true =>
      cases request with
      | save sel => exact .selected rfl rfl rfl rfl
      | setConfig cfg => exact pollMove_of_still rfl rfl fun _ => rfl
      | setLayout layout => exact pollMove_of_still rfl rfl fun _ => rfl
      | saveWifi creds => exact pollMove_of_still rfl rfl id

/-- `net_ready_task` shows the address only when nothing is selected. -/
theorem pollMove_addressChecked (tasks : Tasks) :
    PollMove serde sorting tasks .addressChecked tasks.addressChecked.1
      tasks.addressChecked.2 := by
  unfold addressChecked
  split
  · refine .other rfl rfl id ?_ ?_
    · intro station deps
      dsimp only
      split <;> simp
    · intro octets
      dsimp only
      split
      next unset => exact fun _ => Option.isNone_iff_eq_none.mp unset
      next => exact fun member => absurd member List.not_mem_nil
  · exact pollMove_refl tasks _

variable (serde sorting)

/-- Every step is one of these. -/
theorem step_moves (tasks : Tasks) (event : Event) :
    PollMove serde sorting tasks event (tasks.step serde sorting event).1
      (tasks.step serde sorting event).2 := by
  by_cases reset : tasks.button = .reset
  · rw [step, if_pos reset]
    exact pollMove_refl tasks event
  · rw [step, if_neg reset]
    cases event with
    | accept request =>
      show PollMove serde sorting tasks _
        { tasks with handlers := tasks.handlers ++ [⟨request, false⟩] } []
      exact pollMove_of_still rfl rfl id
    | handle index faults =>
      show PollMove serde sorting tasks _ (tasks.handleOne serde index faults).1
        (tasks.handleOne serde index faults).2
      exact pollMove_handleOne tasks index faults
    | configured octets =>
      show PollMove serde sorting tasks _ (tasks.configured octets) []
      unfold configured
      split
      · split
        · exact pollMove_of_still rfl rfl id
        · exact pollMove_of_still rfl rfl id
      · exact pollMove_refl tasks _
    | addressChecked =>
      show PollMove serde sorting tasks _ tasks.addressChecked.1 tasks.addressChecked.2
      exact pollMove_addressChecked tasks
    | synced now unix =>
      cases unix with
      | none => exact pollMove_refl tasks _
      | some unix =>
        show PollMove serde sorting tasks _ (tasks.synced now unix) []
        unfold synced
        split
        · exact pollMove_of_still rfl rfl fun _ => rfl
        · exact pollMove_of_still rfl rfl id
        · exact pollMove_refl tasks _
    | networkUp =>
      show PollMove serde sorting tasks _ tasks.networkUp []
      unfold networkUp
      split
      · exact .restarted rfl rfl rfl
      · exact pollMove_refl tasks _
    | polls now =>
      show PollMove serde sorting tasks _ (tasks.polls now).1 (tasks.polls now).2
      unfold polls
      split
      next pc => exact .read now rfl pc rfl
      next => exact pollMove_refl tasks _
    | fetched now attempt =>
      show PollMove serde sorting tasks _ (tasks.fetched serde sorting now attempt).1
        (tasks.fetched serde sorting now attempt).2
      unfold fetched
      split
      next sel pc => exact .fetched now attempt sel pc rfl
      next => exact pollMove_refl tasks _
    | timer now =>
      show PollMove serde sorting tasks _ (tasks.timer now) []
      unfold timer
      split
      · split
        · exact .restarted rfl rfl rfl
        · exact pollMove_refl tasks _
      · exact pollMove_refl tasks _
    | woken =>
      show PollMove serde sorting tasks _ tasks.woken []
      unfold woken
      split
      · split
        · exact .restarted rfl rfl rfl
        · exact pollMove_refl tasks _
      · exact pollMove_refl tasks _
    | sampled now low =>
      show PollMove serde sorting tasks _ { tasks with button := tasks.sampled now low } []
      exact pollMove_of_still rfl rfl id
    | wipes now faults =>
      show PollMove serde sorting tasks _ (tasks.wipes serde now faults).1
        (tasks.wipes serde now faults).2
      unfold wipes
      split
      · refine .other rfl ?_ ?_ (by simp) (by simp)
        · exact congrArg Shared.selection (Device.persist_shared tasks.device _)
        · exact fun signalled =>
            (congrArg Shared.selectionChanged (Device.persist_shared tasks.device _)).trans signalled
      · exact pollMove_refl tasks _
    | resets now =>
      show PollMove serde sorting tasks _ { tasks with button := tasks.resets now } []
      exact pollMove_of_still rfl rfl id

/-! ## The selection that was polled -/

variable {serde sorting}

/-- What the poll task polls is the current selection, or a change is signalled. -/
def Follows (tasks : Tasks) : Prop :=
  match tasks.poll.pc with
  | .waiting polled _ =>
    tasks.device.shared.selectionChanged = true ∨ polled = tasks.device.shared.selection
  | .fetching sel =>
    tasks.device.shared.selectionChanged = true ∨ tasks.device.shared.selection = some sel
  | .starting | .reading => True

/-- A signal is enough to follow the selection. -/
theorem follows_of_signalled {tasks : Tasks}
    (signalled : tasks.device.shared.selectionChanged = true) : Follows tasks := by
  unfold Follows
  split
  · exact .inl signalled
  · exact .inl signalled
  · trivial
  · trivial

/-- A step keeps following the selection. -/
theorem step_follows (tasks : Tasks) (event : Event) (follows : Follows tasks) :
    Follows (tasks.step serde sorting event).1 := by
  cases step_moves serde sorting tasks event with
  | other poll selection signalled boards address =>
    by_cases changed : tasks.device.shared.selectionChanged = true
    · exact follows_of_signalled (signalled changed)
    · unfold Follows at follows ⊢
      rw [poll, selection]
      split at follows
      next polled wakeAt pc => exact .inr (follows.resolve_left changed)
      next sel pc => exact .inr (follows.resolve_left changed)
      next => trivial
      next => trivial
  | selected poll selection signalled silent => exact follows_of_signalled signalled
  | read now polls pc stepped =>
    have after := congrArg Prod.fst stepped
    simp only at after
    rw [after]
    cases held : tasks.device.shared.selection with
    | none => exact .inr held.symm
    | some sel => exact .inr held
  | fetched now attempt sel pc stepped =>
    have after := congrArg Prod.fst stepped
    simp only at after
    rw [after]
    obtain ⟨⟨wakeAt, waits⟩, _⟩ := PollTask.fetched_spec serde sorting tasks.poll now
      (tasks.nowUnix now) sel attempt
    simp only [Follows, pc] at follows
    simp only [Follows, polled, waits]
    exact follows.imp_right Eq.symm
  | restarted pc selection silent =>
    rw [Follows, pc]
    trivial

end Moves

section Runs

variable (serde : SerdeJsonCore) (sorting : UnstableSort) (device : Device)

/-- The tasks after events, from a board that has booted. -/
def after (events : List Event) : Tasks :=
  (Machine.run (step serde sorting) (start device) events).1

variable {serde sorting device}

@[simp] theorem after_nil : after serde sorting device [] = start device := rfl

/-- One event more is one step more. -/
theorem after_append_singleton (events : List Event) (event : Event) :
    after serde sorting device (events ++ [event]) =
      ((after serde sorting device events).step serde sorting event).1 := by
  rw [after, Machine.run_append_state]
  rfl

/-- The selection is followed after any events. -/
theorem after_follows (events : List Event) : Follows (after serde sorting device events) := by
  have fresh : Follows (start device) := trivial
  exact Machine.run_invariant (fun event _ tasks follows => step_follows tasks event follows) fresh

/-! ## The station of a board -/

/-- A fetch for a selection goes on, and the selection was the current one when it began. -/
def ReadFor (serde : SerdeJsonCore) (sorting : UnstableSort) (device : Device)
    (events : List Event) (sel : Selection) : Prop :=
  ∃ before now since, events = before ++ .polls now :: since ∧
    (after serde sorting device before).poll.pc = .reading ∧
    (after serde sorting device before).device.shared.selection = some sel ∧
    ∀ middle, middle <+: since →
      (after serde sorting device (before ++ .polls now :: middle)).poll.pc = .fetching sel

/-- A fetch is for the selection read last. -/
theorem readFor_of_fetching (events : List Event) {sel : Selection}
    (fetching : (after serde sorting device events).poll.pc = .fetching sel) :
    ReadFor serde sorting device events sel := by
  induction events using List.reverseRecOn with
  | nil => cases fetching
  | append_singleton events event previous =>
    -- a step that leaves the poll task alone goes on with the same fetch
    have goOn : (after serde sorting device events).poll.pc = .fetching sel →
        ReadFor serde sorting device (events ++ [event]) sel := by
      intro earlier
      obtain ⟨before, now, since, split, pc, held, going⟩ := previous earlier
      refine ⟨before, now, since ++ [event], by simp [split], pc, held, ?_⟩
      intro middle shorter
      obtain inner | whole := List.prefix_concat_iff.mp shorter |>.symm
      · exact going middle inner
      · rw [whole]
        rw [split, List.append_assoc, List.cons_append] at fetching
        exact fetching
    have fetched := fetching
    rw [after_append_singleton] at fetching
    cases step_moves serde sorting (after serde sorting device events) event with
    | other poll => exact goOn (poll ▸ fetching)
    | selected poll => exact goOn (poll ▸ fetching)
    | read now polls pc stepped =>
      have next := congrArg Prod.fst stepped
      simp only at next
      rw [next] at fetching
      cases held : (after serde sorting device events).device.shared.selection with
      | none =>
        rw [held] at fetching
        cases fetching
      | some other =>
        rw [held] at fetching
        have same : other = sel := by simpa [polled, PollTask.read] using fetching
        refine ⟨events, now, [], by rw [polls], pc, by rw [held, same], ?_⟩
        intro middle shorter
        rw [List.prefix_nil.mp shorter, ← polls]
        exact fetched
    | fetched now attempt other pc stepped =>
      have next := congrArg Prod.fst stepped
      simp only at next
      obtain ⟨⟨wakeAt, waits⟩, _⟩ := PollTask.fetched_spec serde sorting
        (after serde sorting device events).poll now
        ((after serde sorting device events).nowUnix now) other attempt
      rw [next] at fetching
      simp only [polled, waits] at fetching
      cases fetching
    | restarted pc =>
      rw [pc] at fetching
      cases fetching

/-- A board is shown for the selection being fetched. -/
theorem fetching_of_departures {tasks : Tasks} {event : Event} {station : HString 64}
    {deps : HVec Departure 3}
    (shown : .display (.departures station deps) ∈ (tasks.step serde sorting event).2) :
    ∃ sel, tasks.poll.pc = .fetching sel ∧ station = sel.stopName := by
  cases step_moves serde sorting tasks event with
  | other poll selection signalled boards => exact absurd shown (boards station deps)
  | selected poll selection signalled silent =>
    rw [silent] at shown
    exact absurd shown List.not_mem_nil
  | read now polls pc stepped =>
    have effects := congrArg Prod.snd stepped
    simp only [polled] at effects
    rw [effects] at shown
    obtain ⟨state, listed, same⟩ := List.mem_map.mp shown
    obtain ⟨_, octets, address⟩ := PollTask.read_spec _ _ _ _ state listed
    rw [address] at same
    cases same
  | fetched now attempt sel pc stepped =>
    have effects := congrArg Prod.snd stepped
    simp only [polled] at effects
    rw [effects] at shown
    obtain ⟨state, listed, same⟩ := List.mem_map.mp shown
    obtain ⟨_, states⟩ := PollTask.fetched_spec serde sorting tasks.poll now (tasks.nowUnix now) sel
      attempt
    refine ⟨sel, pc, ?_⟩
    obtain offline | ⟨found, board⟩ := states state listed
    · rw [offline] at same
      cases same
    · rw [board] at same
      cases same
      rfl
  | restarted pc selection silent =>
    rw [silent] at shown
    exact absurd shown List.not_mem_nil

/-! ## The address screen -/

/-- A step that asks for the address screen finds nothing selected, and leaves it so. -/
theorem none_of_idleAddress {tasks : Tasks} {event : Event} {octets : Octets}
    (shown : .display (.idleAddress octets) ∈ (tasks.step serde sorting event).2) :
    tasks.device.shared.selection = none ∧
      (tasks.step serde sorting event).1.device.shared.selection = none := by
  cases step_moves serde sorting tasks event with
  | other poll selection signalled boards address =>
    have unset := address octets shown
    exact ⟨unset, selection.trans unset⟩
  | selected poll selection signalled silent =>
    rw [silent] at shown
    exact absurd shown List.not_mem_nil
  | read now polls pc stepped =>
    have effects := congrArg Prod.snd stepped
    have next := congrArg Prod.fst stepped
    simp only [polled] at effects next
    rw [effects] at shown
    obtain ⟨state, listed, _⟩ := List.mem_map.mp shown
    obtain ⟨unset, _⟩ := PollTask.read_spec _ _ _ _ state listed
    refine ⟨unset, ?_⟩
    rw [next]
    exact unset
  | fetched now attempt sel pc stepped =>
    have effects := congrArg Prod.snd stepped
    simp only [polled] at effects
    rw [effects] at shown
    obtain ⟨state, listed, same⟩ := List.mem_map.mp shown
    obtain ⟨_, states⟩ := PollTask.fetched_spec serde sorting tasks.poll now (tasks.nowUnix now) sel
      attempt
    obtain offline | ⟨found, board⟩ := states state listed
    · rw [offline] at same
      cases same
    · rw [board] at same
      cases same
  | restarted pc selection silent =>
    rw [silent] at shown
    exact absurd shown List.not_mem_nil

/-- A selection stays set. -/
theorem step_selected {tasks : Tasks} (event : Event)
    (set : tasks.device.shared.selection.isSome = true) :
    (tasks.step serde sorting event).1.device.shared.selection.isSome = true := by
  cases step_moves serde sorting tasks event with
  | other poll selection => rwa [selection]
  | selected poll selection => exact selection
  | read now polls pc stepped =>
    have next := congrArg Prod.fst stepped
    simp only [polled] at next
    rwa [next]
  | fetched now attempt sel pc stepped =>
    have next := congrArg Prod.fst stepped
    simp only [polled] at next
    rwa [next]
  | restarted pc selection => rwa [selection]

/-- Once a selection is set, no step asks for the address screen. -/
theorem no_idleAddress {tasks : Tasks} (set : tasks.device.shared.selection.isSome = true)
    (events : List Event) : ∀ entry ∈ (Machine.run (step serde sorting) tasks events).2,
      ∀ octets, .display (.idleAddress octets) ∉ entry.2 := by
  have along : Machine.Along (step serde sorting) (fun _ _ => True) tasks events := by
    induction events generalizing tasks with
    | nil => trivial
    | cons event events previous => exact ⟨trivial, previous (step_selected event set)⟩
  refine @Machine.history_along _ _ _ _
    (fun tasks => tasks.device.shared.selection.isSome = true) (fun _ _ => True)
    (fun _ effects => ∀ octets, .display (.idleAddress octets) ∉ effects) events ?_ _ set along
  intro event _ tasks set _
  refine ⟨step_selected event set, fun octets shown => ?_⟩
  have unset := (none_of_idleAddress shown).1
  rw [unset] at set
  cases set

variable (serde sorting device)

/-- After any events, from any boot: a poll task that waits, with no change signalled, has polled
the current selection; every board is that of the selection read for its poll; and from the step
that sets a selection on, the address screen is not asked for. -/
theorem poll_task_follows_selection (events : List Event) :
    (∀ polled wakeAt, (after serde sorting device events).poll.pc = .waiting polled wakeAt →
        (after serde sorting device events).device.shared.selectionChanged = false →
        polled = (after serde sorting device events).device.shared.selection) ∧
      ∀ earlier event later, events = earlier ++ event :: later →
        (∀ station deps, .display (.departures station deps) ∈
            ((after serde sorting device earlier).step serde sorting event).2 →
          ∃ sel, ReadFor serde sorting device earlier sel ∧ station = sel.stopName) ∧
        ((after serde sorting device (earlier ++ [event])).device.shared.selection.isSome = true →
          ∀ entry ∈ (Machine.run (step serde sorting) (after serde sorting device earlier)
            (event :: later)).2, ∀ octets, .display (.idleAddress octets) ∉ entry.2) := by
  constructor
  · intro polled wakeAt pc silent
    have follows : Follows (after serde sorting device events) := after_follows events
    simp only [Follows, pc, silent, Bool.false_eq_true, false_or] at follows
    exact follows
  · intro earlier event later _
    constructor
    · intro station deps shown
      obtain ⟨sel, fetching, named⟩ := fetching_of_departures shown
      exact ⟨sel, readFor_of_fetching earlier fetching, named⟩
    · intro set
      rw [after_append_singleton] at set
      rw [Machine.run_cons_history, List.forall_mem_cons]
      refine ⟨fun octets shown => ?_, no_idleAddress set later⟩
      have unset := (none_of_idleAddress shown).2
      rw [unset] at set
      cases set

end Runs

end Tasks

end Zugli
