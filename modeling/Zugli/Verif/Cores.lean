import Zugli.Firmware.Cores
import Zugli.Verif.Departures
import Zugli.Verif.Reset
import Zugli.Verif.Render.Connecting
import Zugli.Verif.Render.Sign
import Zugli.Verif.Render.Still

/-!
# What is fetched is shown

The states that the first core signals reach the panel in order: a frame is of a state that was
signalled, and a panel at rest shows the last one. The departures among them are those of a body
that was fetched for the selection read before.
-/

namespace Zugli

open Serde

namespace Display

variable {textLit : TextRaster} {d other : Display} {states : List DisplayState}

/-! ## The states on their way to the panel -/

/-- The last state that reached the render task, or waits for it. -/
def latest (d : Display) : Option DisplayState :=
  d.display.or (d.task.pending.or (if d.task.point = .starting then none else some d.task.state))

/-- The states on their way to the panel were signalled, and the last one signalled is the last one
of them. -/
structure Traces (d : Display) (states : List DisplayState) : Prop where
  /-- The last one. -/
  latest : d.latest = states.getLast?
  /-- The state of the task. -/
  state : d.task.point ≠ .starting → d.task.state ∈ states
  /-- A state is parked during the startup animation only. -/
  parked : ∀ state ∈ d.task.pending, state ∈ states ∧ d.task.state = .connecting
  /-- The task has nothing parked as it starts. -/
  starting : d.task.point = .starting → d.task.pending = none
  /-- The frame on its way. -/
  handed : ∀ frame ∈ d.handed, frame.state ∈ states
  /-- The frame on the panel. -/
  shown : ∀ frame ∈ d.shown, frame.state ∈ states

/-- Only the task, the signal and the two frames matter. -/
theorem Traces.congr (traces : d.Traces states) (task : other.task = d.task)
    (display : other.display = d.display) (handed : other.handed = d.handed)
    (shown : other.shown = d.shown) : other.Traces states where
  latest := by
    unfold Display.latest
    rw [task, display]
    exact traces.latest
  state := task ▸ traces.state
  parked := task ▸ traces.parked
  starting := task ▸ traces.starting
  handed := handed ▸ traces.handed
  shown := shown ▸ traces.shown

/-- A state that is signalled is the last one. -/
theorem Traces.signals (traces : d.Traces states) (more : List DisplayState) :
    { d with display := more.getLast?.or d.display }.Traces (states ++ more) where
  latest := by
    have before := traces.latest
    unfold Display.latest at before ⊢
    rw [List.getLast?_append, Option.or_assoc, before]
  state running := List.mem_append_left more (traces.state running)
  parked state waits :=
    have parked := traces.parked state waits
    ⟨List.mem_append_left more parked.1, parked.2⟩
  starting := traces.starting
  handed frame found := List.mem_append_left more (traces.handed frame found)
  shown frame found := List.mem_append_left more (traces.shown frame found)

/-- The task goes on to a point other than its start. -/
theorem Traces.goesOn (traces : d.Traces states) (running : d.task.point ≠ .starting)
    (state : other.task.state = d.task.state) (pending : other.task.pending = d.task.pending)
    (point : other.task.point ≠ .starting) (display : other.display = d.display)
    (handed : other.handed = d.handed) (shown : other.shown = d.shown) :
    other.Traces states where
  latest := by
    have before := traces.latest
    unfold Display.latest at before ⊢
    rw [if_neg running] at before
    rw [if_neg point, display, pending, state]
    exact before
  state _ := state ▸ traces.state running
  parked := by
    rw [pending, state]
    exact traces.parked
  starting start := absurd start point
  handed := handed ▸ traces.handed
  shown := shown ▸ traces.shown

/-- The task enters the last state. -/
theorem Traces.enters (traces : d.Traces states) {entered : DisplayState}
    (last : d.latest = some entered) (task : other.task = d.task.enter entered)
    (display : other.display = none) (handed : other.handed = d.handed)
    (shown : other.shown = d.shown) : other.Traces states where
  latest := by
    rw [← traces.latest, last]
    unfold Display.latest
    rw [task, display]
    rfl
  state _ := by
    rw [task]
    exact List.mem_of_getLast? (traces.latest ▸ last)
  parked := by
    rw [task]
    exact fun state waits => absurd waits (Option.not_mem_none state)
  starting := by
    rw [task]
    exact fun start => RenderPoint.noConfusion start
  handed := handed ▸ traces.handed
  shown := shown ▸ traces.shown

/-- The task enters the state that was parked. -/
theorem Traces.unparks (traces : d.Traces states) {parked : DisplayState}
    (waits : d.task.pending = some parked) :
    { d with task := d.task.enter parked }.Traces states where
  latest := by
    rw [← traces.latest]
    unfold Display.latest
    rw [waits]
    rfl
  state _ := (traces.parked parked waits).1
  parked state waits := absurd waits (Option.not_mem_none state)
  starting start := RenderPoint.noConfusion start
  handed := traces.handed
  shown := traces.shown

/-! ## Steps of the render task -/

/-- A refresh goes on. -/
theorem refresh_traces (after : AfterRefresh) (stage : Refreshing) (traces : d.Traces states)
    (running : d.task.point ≠ .starting) : (d.refresh after stage).Traces states := by
  cases stage with
  | loading => exact traces.goesOn running rfl rfl RenderPoint.noConfusion rfl rfl rfl
  | comparing deadline =>
    simp only [refresh]
    split
    · exact traces.goesOn running rfl rfl RenderPoint.noConfusion rfl rfl rfl
    · exact traces.goesOn running rfl rfl RenderPoint.noConfusion rfl rfl rfl
  | cloningPreview =>
    simp only [refresh]
    split
    · cases after <;> exact traces.goesOn running rfl rfl RenderPoint.noConfusion rfl rfl rfl
    · exact traces.goesOn running rfl rfl RenderPoint.noConfusion rfl rfl rfl
  | cloningCustom =>
    cases after <;> exact traces.goesOn running rfl rfl RenderPoint.noConfusion rfl rfl rfl

/-- A screen that rests is not the startup animation. -/
theorem Paced.not_connecting {last : Option Frame} (paced : d.Paced textLit last) {wakeAt : Nat}
    (rests : d.task.point = .resting wakeAt) : d.task.state ≠ .connecting := by
  intro connecting
  have waits : d.Waits textLit last false ∧ wakeAt ≤ d.now + brightnessRefresh := by
    simpa only [Paced, rests] using paced
  obtain ⟨⟨frame, -, -, state, -, still⟩, -⟩ := waits
  rw [draw_connecting (state.trans connecting)] at still
  cases still

/-- Nothing is parked on a screen that rests. -/
theorem Traces.unparked (traces : d.Traces states) {last : Option Frame}
    (paced : d.Paced textLit last) {wakeAt : Nat} (rests : d.task.point = .resting wakeAt) :
    d.task.pending = none := by
  cases pending : d.task.pending with
  | none => rfl
  | some state => exact absurd (traces.parked state pending).2 (paced.not_connecting rests)

/-- The render task goes on. -/
theorem render_traces (nowUnix : Option Int) (traces : d.Traces states) :
    (d.render textLit nowUnix).1.Traces states := by
  unfold render
  split
  case h_1 after stage point =>
    exact refresh_traces after stage traces (point ▸ RenderPoint.noConfusion)
  case h_2 point =>
    refine traces.goesOn (point ▸ RenderPoint.noConfusion) rfl rfl ?_ rfl rfl rfl
    simp only [begin]
    split <;> exact RenderPoint.noConfusion
  case h_3 point =>
    have running : d.task.point ≠ .starting := point ▸ RenderPoint.noConfusion
    simp only
    split
    · exact traces.goesOn running rfl rfl RenderPoint.noConfusion rfl rfl rfl
    · exact traces.goesOn running rfl rfl RenderPoint.noConfusion rfl rfl rfl
  case h_4 point | h_5 point | h_6 point =>
    have running : d.task.point ≠ .starting := point ▸ RenderPoint.noConfusion
    exact traces.goesOn running rfl rfl RenderPoint.noConfusion rfl rfl rfl
  case h_7 point =>
    have running : d.task.point ≠ .starting := point ▸ RenderPoint.noConfusion
    have handed : (d.goTo (.handing (d.frame nowUnix |>.draw textLit).2)).Traces states :=
      traces.goesOn running rfl rfl RenderPoint.noConfusion rfl rfl rfl
    exact { handed with
      handed := fun frame found => by
        obtain rfl := Option.some.inj found
        exact traces.state running }
  case h_8 animating point =>
    have running : d.task.point ≠ .starting := point ▸ RenderPoint.noConfusion
    split
    · exact traces
    · have blocks : { d with task := d.task.block d.shared d.now animating }.Traces states := by
        refine traces.goesOn running ?_ ?_ ?_ rfl rfl rfl
        · simp only [RenderTask.block]
          split <;> rfl
        · simp only [RenderTask.block]
          split <;> rfl
        · simp only [RenderTask.block]
          split <;> exact RenderPoint.noConfusion
      simp only [RenderTask.frameShown]
      split
      case h_1 next waits =>
        split
        · exact traces.unparks waits
        · exact blocks
      case h_2 => exact blocks
  case h_9 | h_10 | h_11 => exact traces

/-- The task takes the state that was signalled. -/
theorem Traces.takes (traces : d.Traces states) {next : DisplayState}
    (waits : d.display = some next) :
    { d with display := none, task := d.task.enter next }.Traces states := by
  have last : d.latest = some next := by
    unfold Display.latest
    rw [waits, Option.some_or]
  exact traces.enters last rfl rfl rfl rfl

/-- The startup animation parks the state that was signalled. -/
theorem Traces.parks (traces : d.Traces states) {next : DisplayState}
    (waits : d.display = some next) (running : d.task.point ≠ .starting)
    (connecting : d.task.state = .connecting) :
    { d with
      display := none
      task := { d.task with pending := some next, point := .beginning } }.Traces states := by
  have last : states.getLast? = some next := by
    rw [← traces.latest]
    unfold Display.latest
    rw [waits, Option.some_or]
  constructor
  case latest => rw [last]; rfl
  case state => exact fun _ => traces.state running
  case parked =>
    intro state parked
    obtain rfl := Option.some.inj parked
    exact ⟨List.mem_of_getLast? last, connecting⟩
  case starting => exact fun start => RenderPoint.noConfusion start
  case handed => exact traces.handed
  case shown => exact traces.shown

/-- A wait ends. -/
theorem wake_traces {last : Option Frame} (arm : Arm) (paced : d.Paced textLit last)
    (traces : d.Traces states) : (d.wake arm).Traces states := by
  -- A screen that rests begins again in its own state.
  have again {wakeAt : Nat} (rests : d.task.point = .resting wakeAt) (shared : Shared) :
      { d with shared, task := d.task.enter d.task.state }.Traces states := by
    refine traces.goesOn (rests ▸ RenderPoint.noConfusion) rfl ?_ RenderPoint.noConfusion rfl rfl
      rfl
    exact (traces.unparked paced rests).symm
  unfold wake
  split
  case h_1 | h_3 =>
    split
    case h_1 next waits => exact traces.takes waits
    case h_2 => exact traces
  case h_2 wakeAt point =>
    split
    · exact again point d.shared
    · exact traces
  case h_4 wakeAt point =>
    split
    · exact again point { d.shared with redraw := false }
    · exact traces
  case h_5 wakeAt point =>
    split
    · exact traces.goesOn (point ▸ RenderPoint.noConfusion) rfl rfl RenderPoint.noConfusion rfl rfl
        rfl
    · exact traces
  case h_6 wakeAt point =>
    split
    case h_1 next waits =>
      unfold RenderTask.takeState
      split
      case isTrue connecting =>
        exact traces.parks waits (point ▸ RenderPoint.noConfusion) connecting.1
      case isFalse => exact traces.takes waits
    case h_2 => exact traces
  case h_7 wakeAt point =>
    split
    · exact traces.goesOn (point ▸ RenderPoint.noConfusion) rfl rfl RenderPoint.noConfusion rfl rfl
        rfl
    · exact traces
  case h_8 => exact traces

/-- A frame is drawn of the state of the task. -/
theorem render_state (nowUnix : Option Int) (traces : d.Traces states) :
    ∀ frame ∈ (d.render textLit nowUnix).2, frame.state ∈ states := by
  intro frame drawn
  unfold render at drawn
  split at drawn
  case h_7 point =>
    obtain rfl := Option.some.inj drawn
    exact traces.state (point ▸ RenderPoint.noConfusion)
  case h_8 =>
    split at drawn <;> exact absurd drawn (Option.not_mem_none frame)
  all_goals exact absurd drawn (Option.not_mem_none frame)

/-- A handler signals no state of the display. -/
theorem handle_display (d : Display) : d.handle.display = d.display := by
  unfold handle
  split
  case h_3 request a rest updated working => cases a <;> rfl
  all_goals rfl

/-- Every step keeps the states in order, and draws frames of states that were signalled. -/
theorem step_traces {last : Option Frame} (event : Event)
    (elsewhere : ∀ state, event ≠ .signals state)
    (paced : d.Paced textLit last) (traces : d.Traces states) :
    (d.step textLit event).1.Traces states ∧
      ∀ frame ∈ (d.step textLit event).2, frame.state ∈ states := by
  have silent {next : Display} (kept : next.Traces states) :
      next.Traces states ∧ ∀ frame ∈ (none : Option Frame), frame.state ∈ states :=
    ⟨kept, fun frame drawn => absurd drawn (Option.not_mem_none frame)⟩
  cases event with
  | passes ticks => exact silent (traces.congr rfl rfl rfl rfl)
  | signals state => exact absurd rfl (elsewhere state)
  | applies cfg => exact silent (traces.congr rfl rfl rfl rfl)
  | accepts request =>
    simp only [step]
    split
    · exact silent (traces.congr rfl rfl rfl rfl)
    · exact silent traces
  | handles =>
    obtain ⟨task, handed, shown⟩ := handle_frames (d := d)
    exact silent (traces.congr task d.handle_display handed shown)
  | renders nowUnix => exact ⟨render_traces nowUnix traces, render_state nowUnix traces⟩
  | wakes arm => exact silent (wake_traces arm paced traces)
  | exchanges =>
    simp only [step, exchange]
    split
    case h_1 frame handed =>
      exact silent { traces with
        handed := fun other found => absurd found (Option.not_mem_none other)
        shown := fun other found => by
          obtain rfl := Option.some.inj found
          exact traces.handed frame handed }
    case h_2 => exact silent traces

end Display

/-! ## Fetches -/

/-- A body that was fetched. -/
structure Fetch where
  /-- The selection it was fetched for. -/
  sel : Selection
  /-- The clock, if it had synced. -/
  nowUnix : Option Int64
  /-- The body. -/
  bytes : List UInt8

/-- The departures of a stop come from the body. -/
def Fetch.Gives (serde : SerdeJsonCore) (sorting : UnstableSort) (fetch : Fetch)
    (station : HString 64) (deps : HVec Departure 3) : Prop :=
  station = fetch.sel.stopName ∧
    parseDepartures serde sorting fetch.nowUnix fetch.bytes fetch.sel = some deps

namespace Tasks

variable (serde : SerdeJsonCore) (sorting : UnstableSort) (tasks : Tasks)

/-- The body that is fetched in a step, if one is. -/
def fetch? : Event → Option Fetch
  | .fetched now (.body bytes) =>
    match tasks.poll.pc with
    | .fetching sel => some ⟨sel, tasks.nowUnix now, bytes⟩
    | _ => none
  | _ => none

/-- Departures are signalled when a body that gives them is fetched. -/
theorem fetch_of_departures {event : Event} {station : HString 64} {deps : HVec Departure 3}
    (signalled : .display (.departures station deps) ∈ (tasks.step serde sorting event).2) :
    ∃ fetch ∈ tasks.fetch? event, fetch.Gives serde sorting station deps := by
  obtain ⟨sel, fetching, named⟩ := fetching_of_departures signalled
  by_cases reset : tasks.button = .reset
  · rw [step, if_pos reset] at signalled
    exact absurd signalled List.not_mem_nil
  rw [step, if_neg reset] at signalled
  cases event with
  | fetched now attempt =>
    simp only [stepRunning, fetched, fetching, polled, PollTask.fetched] at signalled
    split at signalled
    case h_1 given parsed =>
      obtain ⟨-, rfl⟩ : station = sel.stopName ∧ deps = given := by simpa using signalled
      cases attempt with
      | body bytes =>
        have fetched : tasks.fetch? (.fetched now (.body bytes)) =
            some ⟨sel, tasks.nowUnix now, bytes⟩ := by rw [fetch?, fetching]
        exact ⟨_, fetched, named, parsed⟩
      | failed | timedOut => cases parsed
    case h_2 =>
      simp only [PollTask.offlineIfPersistent] at signalled
      split at signalled <;> simp at signalled
  | addressChecked =>
    simp only [stepRunning, addressChecked] at signalled
    split at signalled
    · split at signalled <;> simp at signalled
    · exact absurd signalled List.not_mem_nil
  | polls now =>
    simp [stepRunning, polls, fetching] at signalled
  | handle index faults =>
    simp only [stepRunning, handleOne] at signalled
    split at signalled
    · exact absurd signalled List.not_mem_nil
    · split at signalled <;> simp at signalled
  | wipes now faults =>
    simp only [stepRunning, wipes] at signalled
    split at signalled <;> simp at signalled
  | _ => exact absurd signalled List.not_mem_nil

end Tasks

namespace Cores

variable (serde : SerdeJsonCore) (sorting : UnstableSort) (textLit : TextRaster)

/-- What is seen of a board. -/
inductive Sight where
  /-- A body is fetched. -/
  | fetches (fetch : Fetch)
  /-- A state is signalled. -/
  | signals (state : DisplayState)
  /-- A frame is drawn. -/
  | draws (frame : Frame)

/-- What is seen of a step. -/
def sights (cores : Cores) (event : Event) : List Sight :=
  match event with
  | .first event =>
    (cores.tasks.fetch? event).toList.map .fetches ++
      (signals (cores.tasks.step serde sorting event).2).map .signals
  | .second _ => (cores.step serde sorting textLit event).2.toList.map .draws

/-- The state, if one is signalled. -/
def Sight.signal? : Sight → Option DisplayState
  | .signals state => some state
  | _ => none

/-- The states signalled, from the startup animation on. -/
def signalled (seen : List Sight) : List DisplayState := .connecting :: seen.filterMap Sight.signal?

/-- A frame is of a state that was signalled before, and departures are of a body fetched before. -/
def Allowed (earlier : List Sight) : Sight → Prop
  | .draws frame => frame.state ∈ signalled earlier ∧
    ∀ station deps, frame.state = .departures station deps →
      ∃ fetch, .fetches fetch ∈ earlier ∧ fetch.Gives serde sorting station deps
  | _ => True

/-- Departures that were signalled were fetched before. -/
def Honest (seen : List Sight) : Prop :=
  ∀ station deps, .departures station deps ∈ signalled seen →
    ∃ fetch, .fetches fetch ∈ seen ∧ fetch.Gives serde sorting station deps

/-- What holds of a board and what was seen of it. -/
structure Faithful (cores : Cores) (seen : List Sight) : Prop where
  /-- The states are on their way to the panel. -/
  traces : cores.display.Traces (signalled seen)
  /-- The render task keeps its pace. -/
  paced : ∃ last, cores.display.Paced textLit last
  /-- The panel shows what the task waits on. -/
  presents : cores.display.Presents
  /-- Departures were fetched. -/
  honest : Honest serde sorting seen
  /-- Frames are of what was fetched. -/
  traced : Machine.Traced (Allowed serde sorting) seen

variable {serde sorting textLit} {cores : Cores} {seen : List Sight}

/-- Fetches signal nothing by themselves. -/
theorem signalled_first (fetched : Option Fetch) (states : List DisplayState) :
    signalled (seen ++ (fetched.toList.map .fetches ++ states.map .signals)) =
      signalled seen ++ states := by
  unfold signalled
  have none : (fetched.toList.map Sight.fetches).filterMap Sight.signal? = [] := by
    cases fetched <;> rfl
  have all : (states.map Sight.signals).filterMap Sight.signal? = states := by
    rw [List.filterMap_map]
    exact List.filterMap_some
  rw [List.filterMap_append, List.filterMap_append, none, all, List.nil_append, List.cons_append]

/-- A drawn frame signals nothing. -/
theorem signalled_second (drawn : Option Frame) :
    signalled (seen ++ drawn.toList.map .draws) = signalled seen := by
  unfold signalled
  have none : (drawn.toList.map Sight.draws).filterMap Sight.signal? = [] := by
    cases drawn <;> rfl
  rw [List.filterMap_append, none, List.append_nil]

/-- What is allowed at any time goes on with what was seen. -/
theorem traced_append {more : List Sight} (traced : Machine.Traced (Allowed serde sorting) seen)
    (any : ∀ sight ∈ more, ∀ earlier, Allowed serde sorting earlier sight) :
    Machine.Traced (Allowed serde sorting) (seen ++ more) := by
  induction more generalizing seen with
  | nil =>
    rw [List.append_nil]
    exact traced
  | cons sight more previous =>
    obtain ⟨first, others⟩ := List.forall_mem_cons.mp any
    have next := previous (traced.snoc (first seen)) others
    rw [List.append_assoc] at next
    exact next

/-- A step on the first core. -/
theorem Faithful.first (faithful : cores.Faithful serde sorting textLit seen)
    (event : Tasks.Event) :
    (cores.step serde sorting textLit (.first event)).1.Faithful serde sorting textLit
      (seen ++ cores.sights serde sorting textLit (.first event)) := by
  obtain ⟨last, paced⟩ := faithful.paced
  constructor
  case traces =>
    rw [sights, signalled_first]
    exact faithful.traces.signals _
  case paced => exact ⟨last, paced.congr rfl rfl (Nat.le_refl _)⟩
  case presents => exact faithful.presents
  case honest =>
    intro station deps found
    rw [sights, signalled_first, List.mem_append] at found
    rcases found with before | now
    · obtain ⟨fetch, there, gives⟩ := faithful.honest station deps before
      exact ⟨fetch, List.mem_append_left _ there, gives⟩
    · obtain ⟨effect, emitted, state⟩ := List.mem_filterMap.mp now
      cases effect with
      | display state' =>
        obtain rfl := Option.some.inj state
        obtain ⟨fetch, fetched, gives⟩ :=
          Tasks.fetch_of_departures serde sorting cores.tasks emitted
        refine ⟨fetch, List.mem_append_right _ (List.mem_append_left _ ?_), gives⟩
        exact List.mem_map.mpr ⟨fetch, Option.mem_toList.mpr fetched, rfl⟩
      | stored call => cases state
  case traced =>
    refine traced_append faithful.traced fun sight there earlier => ?_
    rcases List.mem_append.mp there with fetched | signalled
    · obtain ⟨_, _, rfl⟩ := List.mem_map.mp fetched
      trivial
    · obtain ⟨_, _, rfl⟩ := List.mem_map.mp signalled
      trivial

/-- A step on the second core. -/
theorem Faithful.second (faithful : cores.Faithful serde sorting textLit seen)
    (event : Display.Event) :
    (cores.step serde sorting textLit (.second event)).1.Faithful serde sorting textLit
      (seen ++ cores.sights serde sorting textLit (.second event)) := by
  obtain ⟨last, paced⟩ := faithful.paced
  by_cases signals : ∃ state, event = .signals state
  · obtain ⟨state, rfl⟩ := signals
    show cores.Faithful serde sorting textLit (seen ++ [])
    rw [List.append_nil]
    exact faithful
  · have elsewhere : ∀ state, event ≠ .signals state := fun state same => signals ⟨state, same⟩
    have stepped : cores.step serde sorting textLit (.second event) =
        (⟨cores.tasks, (cores.display.step textLit event).1⟩,
          (cores.display.step textLit event).2) := by
      cases event with
      | signals state => exact absurd rfl (elsewhere state)
      | _ => rfl
    obtain ⟨traces, drawn⟩ := Display.step_traces event elsewhere paced faithful.traces
    rw [sights, stepped]
    constructor
    case traces =>
      rw [signalled_second]
      exact traces
    case paced => exact ⟨_, (Display.step_paced event paced).1⟩
    case presents => exact Display.step_presents event faithful.presents
    case honest =>
      intro station deps found
      rw [signalled_second] at found
      obtain ⟨fetch, there, gives⟩ := faithful.honest station deps found
      exact ⟨fetch, List.mem_append_left _ there, gives⟩
    case traced =>
      cases drawnNow : (cores.display.step textLit event).2 with
      | none =>
        rw [Option.toList_none, List.map_nil, List.append_nil]
        exact faithful.traced
      | some frame =>
        have signalledBefore := drawn frame drawnNow
        exact faithful.traced.snoc ⟨signalledBefore, fun station deps state =>
          faithful.honest station deps (state ▸ signalledBefore)⟩

/-- A board that has booted has drawn nothing. -/
theorem start_faithful (device : Device) : (start device).Faithful serde sorting textLit [] := by
  constructor
  case traces =>
    constructor
    case latest => rfl
    case state => exact fun running => absurd rfl running
    case parked => exact fun state waits => absurd waits (Option.not_mem_none state)
    case starting => exact fun _ => rfl
    case handed => exact fun frame found => absurd found (Option.not_mem_none frame)
    case shown => exact fun frame found => absurd found (Option.not_mem_none frame)
  case paced => exact ⟨none, .inl rfl⟩
  case presents => exact rfl
  case honest =>
    intro station deps found
    cases List.mem_singleton.mp found
  case traced => exact .nil

/-- A screen that rests with no state waiting shows the last one that was signalled. -/
theorem Faithful.shows (faithful : cores.Faithful serde sorting textLit seen) {wakeAt : Nat}
    (rests : cores.display.task.point = .resting wakeAt) (waiting : cores.display.display = none) :
    cores.display.shown.map Frame.state = (signalled seen).getLast? := by
  obtain ⟨last, paced⟩ := faithful.paced
  have unparked := faithful.traces.unparked paced rests
  obtain ⟨frame, -, shown, state, -, -⟩ : cores.display.Waits textLit last false := by
    have waits := paced
    simp only [Display.Paced, rests] at waits
    exact waits.1
  have handed : cores.display.handed = none := faithful.presents.handed (by rw [rests]; rfl)
  rw [handed, Option.none_or] at shown
  calc cores.display.shown.map Frame.state
      = some cores.display.task.state := by rw [shown, Option.map_some, state]
    _ = cores.display.latest := by
        rw [Display.latest, waiting, unparked, Option.none_or, Option.none_or, rests,
          if_neg fun start => RenderPoint.noConfusion start]
    _ = (signalled seen).getLast? := faithful.traces.latest

/-- A board with a stop selected. -/
def selected : Device :=
  ⟨some Store.blank, { Shared.init with selection := some Tasks.anyStop }, false⟩

/-- Its clock syncs, it fetches a tram, and a frame is drawn. -/
def showsTram : List Event :=
  [.first (.configured (some (192, 168, 1, 20))), .first .addressChecked,
    .first (.synced 0 (some 1700000000)), .first .networkUp, .first (.polls 0),
    .first (.fetched 0 (.body (stationboardText [service "T" "7" "Zoo" (some 1700000300)]))),
    .second (.wakes .display)] ++ (Display.drawsFrame 5).map .second

end Cores

end Zugli
