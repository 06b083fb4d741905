import Zugli.Spec.Playing
import Zugli.Verif.Render.Fresh

/-!
# The startup animation

Each access of the render task is a turn of its play, or none. So from a start of the connecting
screen on the frames of a pass are drawn in order before another state is, whatever states arrive,
redraws are latched and timers run down, and no state is shown late.
-/

namespace Zugli

open Machine (Traced)

/-- The phase at a point of the render task. -/
def RenderPoint.phase : RenderPoint → Phase
  | .starting => .unstarted
  | .refreshing .. | .beginning | .checking | .clearing | .taking | .signalling | .drawing => .ahead
  | .handing animating => .behind animating
  | .resting _ => .behind false
  | .pausing _ => .behind true

/-- The play of the render task. -/
def RenderTask.play (task : RenderTask) : Play :=
  ⟨task.point.phase, task.state, task.frame, task.pending⟩

namespace Display

/-- The state that a step receives from `DISPLAY`. -/
def receives (d : Display) : Event → Option DisplayState
  | .wakes .display =>
    match d.task.point with
    | .starting | .resting _ | .pausing _ => d.display
    | .refreshing .. | .beginning | .checking | .clearing | .taking | .signalling | .drawing
    | .handing _ => none
  | _ => none

/-- Whether a step enters the inner loop: it goes to the refresh of the layout cache there, and not
because of a redraw on an animating screen. -/
def opens (d next : Display) (event : Event) : Bool :=
  decide (next.task.point = .refreshing .begins .loading) &&
    decide (d.task.point ≠ .refreshing .begins .loading) &&
    match event with
    | .wakes .redraw => decide (d.task.point.phase ≠ .behind true)
    | _ => true

/-- What is seen of the render task in a step. -/
def sights (textLit : TextRaster) (d : Display) (event : Event) : List Sight :=
  let next := (d.step textLit event).1
  let drawn := (d.step textLit event).2
  (d.receives event).toList.map .received ++
    ((if d.opens next event then [.entered next.task.state] else []) ++
      drawn.toList.map fun frame => .drawn frame.state frame.counter)

variable {textLit : TextRaster} {d : Display}

/-- The inner loop is not entered where it stands. -/
theorem opens_same {next : Display} (event : Event) (same : next.task.point = d.task.point) :
    d.opens next event = false := by
  unfold opens
  rw [same]
  by_cases stands : d.task.point = .refreshing .begins .loading
  · simp [stands]
  · simp [stands]

/-- The inner loop is entered with its refresh only. -/
theorem opens_elsewhere {next : Display} (event : Event)
    (elsewhere : next.task.point ≠ .refreshing .begins .loading) :
    d.opens next event = false := by
  simp [opens, elsewhere]

/-- A step that is not seen is no turn, or repeats or goes on to a frame. -/
theorem turn_unseen {event : Event} {play : Play}
    (received : d.receives event = none)
    (closed : d.opens (d.step textLit event).1 event = false)
    (undrawn : (d.step textLit event).2 = none)
    (ends : (d.step textLit event).1.task.play = play) (turn : Turn d.task.play [] play) :
    Turn d.task.play (d.sights textLit event) (d.step textLit event).1.task.play := by
  have unseen : d.sights textLit event = [] := by
    simp only [sights, received, closed, undrawn]
    rfl
  rw [unseen, ends]
  exact turn

/-- A step that leaves the render task alone is no turn of it. -/
theorem turn_same {event : Event} (received : d.receives event = none)
    (undrawn : (d.step textLit event).2 = none)
    (same : (d.step textLit event).1.task = d.task) :
    Turn d.task.play (d.sights textLit event) (d.step textLit event).1.task.play :=
  turn_unseen received (opens_same event (by rw [same])) undrawn (by rw [same]) (.still _)

/-- A step that enters the inner loop is a turn with what it receives. -/
theorem turn_enter {event : Event} (state : DisplayState)
    (ends : (d.step textLit event).1.task = d.task.enter state)
    (opened : d.opens (d.step textLit event).1 event = true)
    (undrawn : (d.step textLit event).2 = none)
    (turn : Turn d.task.play ((d.receives event).toList.map .received ++ [.entered state])
      (.opening state)) :
    Turn d.task.play (d.sights textLit event) (d.step textLit event).1.task.play := by
  have seen : d.sights textLit event =
      (d.receives event).toList.map .received ++ [.entered state] := by
    simp only [sights, opened, undrawn, ends, RenderTask.enter]
    rfl
  rw [seen, ends]
  exact turn

/-- The play at a point. -/
theorem play_eq {task : RenderTask} {point : RenderPoint} (stands : task.point = point) :
    task.play = ⟨point.phase, task.state, task.frame, task.pending⟩ := by
  rw [RenderTask.play, stands]

/-- A refresh of the layout cache is no turn. -/
theorem refresh_still {after : AfterRefresh} {stage : Refreshing}
    (point : d.task.point = .refreshing after stage) :
    (d.refresh after stage).task.play = d.task.play ∧
      (d.refresh after stage).task.point ≠ .refreshing .begins .loading := by
  rw [play_eq point]
  cases stage with
  | loading => exact ⟨rfl, by simp [refresh, goTo]⟩
  | comparing deadline =>
    simp only [refresh]
    split
    · exact ⟨rfl, by simp [goTo]⟩
    · exact ⟨rfl, by simp [goTo]⟩
  | cloningPreview =>
    simp only [refresh]
    split
    · cases after <;> exact ⟨rfl, by simp [RenderTask.refreshed]⟩
    · exact ⟨rfl, by simp [goTo]⟩
  | cloningCustom => cases after <;> exact ⟨rfl, by simp [refresh, RenderTask.refreshed]⟩

/-- The connecting screen is animating. -/
theorem draw_connecting {frame : Frame} (connecting : frame.state = .connecting) :
    (frame.draw textLit).2 = true := by
  rw [Frame.draw, connecting]
  rfl

/-- A frame that is shown is gone on from as the parked state says. -/
theorem frameShown_turn (task : RenderTask) (shared : Shared) (now : Nat) {animating : Bool}
    (point : task.point = .handing animating) :
    ((task.frameShown shared now animating).play = task.play ∧
        (task.frameShown shared now animating).point ≠ .refreshing .begins .loading) ∨
      ∃ next, task.pending = some next ∧ Canvas.connectCycleDone task.frame = true ∧
        task.frameShown shared now animating = task.enter next := by
  have blocked : (task.block shared now animating).play = task.play ∧
      (task.block shared now animating).point ≠ .refreshing .begins .loading := by
    rw [play_eq point]
    cases animating with
    | true => exact ⟨rfl, by simp [RenderTask.block]⟩
    | false => exact ⟨rfl, by simp [RenderTask.block]⟩
  unfold RenderTask.frameShown
  split
  next next pending =>
    split
    next done => exact .inr ⟨next, pending, done, rfl⟩
    next => exact .inl blocked
  next => exact .inl blocked

/-- An access of the render task is one of its turns. -/
theorem render_turn (nowUnix : Option Int) :
    Turn d.task.play (d.sights textLit (.renders nowUnix))
      (d.step textLit (.renders nowUnix)).1.task.play := by
  cases point : d.task.point with
  | starting | resting wakeAt | pausing wakeAt =>
    exact turn_same rfl (by simp [step, render, point]) (by simp [step, render, point])
  | refreshing after stage =>
    obtain ⟨still, elsewhere⟩ := refresh_still point
    have stepped : d.step textLit (.renders nowUnix) = (d.refresh after stage, none) := by
      simp [step, render, point]
    refine turn_unseen rfl ?_ (by rw [stepped]) (by rw [stepped]; exact still) (.still _)
    rw [stepped]
    exact opens_elsewhere _ elsewhere
  | beginning =>
    have stepped : d.step textLit (.renders nowUnix) = (d.begin, none) := by
      simp [step, render, point]
    refine turn_unseen rfl ?_ (by rw [stepped]) ?_ (.still _)
    · rw [stepped]
      refine opens_elsewhere _ ?_
      simp only [begin]
      split <;> simp
    · rw [stepped, play_eq point]
      simp only [begin]
      split <;> rfl
  | checking =>
    refine turn_unseen rfl ?_ (by simp [step, render, point]) ?_ (.still _)
    · refine opens_elsewhere _ ?_
      simp only [step, render, point]
      split <;> simp [goTo]
    · rw [play_eq point]
      simp only [step, render, point]
      split <;> rfl
  | clearing | taking | signalling =>
    refine turn_unseen rfl (opens_elsewhere _ ?_) (by simp [step, render, point]) ?_ (.still _)
    · simp [step, render, point, goTo]
    · rw [play_eq point]
      simp only [step, render, point]
      rfl
  | drawing =>
    have closed : d.opens (d.step textLit (.renders nowUnix)).1 (.renders nowUnix) = false := by
      refine opens_elsewhere _ ?_
      simp [step, render, point, hand, goTo]
    have seen : d.sights textLit (.renders nowUnix) = [.drawn d.task.state d.task.frame] := by
      simp only [sights, closed]
      simp [receives, step, render, point, frame]
    rw [seen, play_eq point]
    simp only [step, render, point]
    exact .draws _ _ _ _ fun connecting => draw_connecting connecting
  | handing animating =>
    cases handed : d.handed with
    | some waiting =>
      exact turn_same rfl (by simp [step, render, point, handed])
        (by simp [step, render, point, handed])
    | none =>
      have stepped : d.step textLit (.renders nowUnix) =
          ({ d with task := d.task.frameShown d.shared d.now animating }, none) := by
        simp [step, render, point, handed]
      rcases frameShown_turn d.task d.shared d.now point with
        ⟨still, elsewhere⟩ | ⟨next, pending, done, enters⟩
      · refine turn_unseen rfl ?_ (by rw [stepped]) (by rw [stepped]; exact still) (.still _)
        rw [stepped]
        exact opens_elsewhere _ elsewhere
      · refine turn_enter next (by rw [stepped]; exact enters) ?_ (by rw [stepped]) ?_
        · rw [stepped, enters]
          simp [opens, RenderTask.enter, point]
        · rw [play_eq point, pending]
          exact .applies animating d.task.state next d.task.frame done

/-- A wait for a state goes on while there is none. -/
theorem turn_unsignalled (waiting : d.display = none) :
    Turn d.task.play (d.sights textLit (.wakes .display))
      (d.step textLit (.wakes .display)).1.task.play := by
  have received : d.receives (.wakes .display) = none := by
    cases point : d.task.point <;> simp [receives, point, waiting]
  refine turn_same received rfl ?_
  cases point : d.task.point <;> simp [step, wake, point, waiting]

/-- The end of the wait for the first state is a turn of the render task. -/
theorem starting_turn (arm : Arm) (point : d.task.point = .starting) :
    Turn d.task.play (d.sights textLit (.wakes arm)) (d.step textLit (.wakes arm)).1.task.play := by
  cases arm with
  | timer => exact turn_same rfl rfl (by simp [step, wake, point])
  | redraw => exact turn_same rfl rfl (by simp [step, wake, point])
  | display =>
    cases waiting : d.display with
    | none => exact turn_unsignalled waiting
    | some next =>
      have received : d.receives (.wakes .display) = some next := by
        simp [receives, point, waiting]
      have enters : (d.step textLit (.wakes .display)).1.task = d.task.enter next := by
        simp [step, wake, point, waiting]
      refine turn_enter next enters ?_ rfl ?_
      · simp [opens, enters, point, RenderTask.enter]
      · rw [play_eq point, received]
        exact .starts ..

/-- The end of a wait on a screen that stands still is a turn of the render task. -/
theorem resting_turn (arm : Arm) {wakeAt : Nat} (point : d.task.point = .resting wakeAt) :
    Turn d.task.play (d.sights textLit (.wakes arm)) (d.step textLit (.wakes arm)).1.task.play := by
  have entered : Turn d.task.play [.entered d.task.state] (.opening d.task.state) := by
    rw [play_eq point]
    exact .again ..
  cases arm with
  | timer =>
    by_cases passed : wakeAt ≤ d.now
    · have enters : (d.step textLit (.wakes .timer)).1.task = d.task.enter d.task.state := by
        simp [step, wake, point, passed]
      refine turn_enter d.task.state enters ?_ rfl entered
      simp [opens, enters, point, RenderTask.enter]
    · exact turn_same rfl rfl (by simp [step, wake, point, passed])
  | redraw =>
    by_cases signalled : d.shared.redraw = true
    · have enters : (d.step textLit (.wakes .redraw)).1.task = d.task.enter d.task.state := by
        simp [step, wake, point, signalled]
      refine turn_enter d.task.state enters ?_ rfl entered
      simp [opens, enters, point, RenderTask.enter, RenderPoint.phase]
    · exact turn_same rfl rfl (by simp [step, wake, point, signalled])
  | display =>
    cases waiting : d.display with
    | none => exact turn_unsignalled waiting
    | some next =>
      have received : d.receives (.wakes .display) = some next := by
        simp [receives, point, waiting]
      have enters : (d.step textLit (.wakes .display)).1.task = d.task.enter next := by
        simp [step, wake, point, waiting]
      refine turn_enter next enters ?_ rfl ?_
      · simp [opens, enters, point, RenderTask.enter]
      · rw [play_eq point, received]
        exact .takes _ _ _ _ _ Bool.noConfusion

/-- The end of a wait on an animating screen is a turn of the render task. -/
theorem pausing_turn (arm : Arm) {wakeAt : Nat} (point : d.task.point = .pausing wakeAt) :
    Turn d.task.play (d.sights textLit (.wakes arm)) (d.step textLit (.wakes arm)).1.task.play := by
  cases arm with
  | timer =>
    by_cases passed : wakeAt ≤ d.now
    · have advanced : Turn d.task.play []
          ⟨.ahead, d.task.state, d.task.frame + 1, d.task.pending⟩ := by
        rw [play_eq point]
        exact .advances ..
      refine turn_unseen rfl (opens_elsewhere _ ?_) rfl ?_ advanced
      · simp [step, wake, point, passed]
      · simp only [step, wake, point, if_pos passed]
        rfl
    · exact turn_same rfl rfl (by simp [step, wake, point, passed])
  | redraw =>
    by_cases signalled : d.shared.redraw = true
    · have repeated : Turn d.task.play []
          ⟨.ahead, d.task.state, d.task.frame, d.task.pending⟩ := by
        rw [play_eq point]
        exact .repeats ..
      refine turn_unseen rfl ?_ rfl ?_ repeated
      · simp [opens, point, RenderPoint.phase]
      · simp only [step, wake, point, if_pos signalled]
        rfl
    · exact turn_same rfl rfl (by simp [step, wake, point, signalled])
  | display =>
    cases waiting : d.display with
    | none => exact turn_unsignalled waiting
    | some next =>
      have received : d.receives (.wakes .display) = some next := by
        simp [receives, point, waiting]
      have stepped : (d.step textLit (.wakes .display)).1.task = d.task.takeState next := by
        simp [step, wake, point, waiting]
      by_cases parks : d.task.state = .connecting ∧ ¬Canvas.connectCycleDone d.task.frame
      · have closed : d.opens (d.step textLit (.wakes .display)).1 (.wakes .display) = false := by
          refine opens_elsewhere _ ?_
          rw [stepped, RenderTask.takeState, if_pos parks]
          simp
        have seen : d.sights textLit (.wakes .display) = [.received next] := by
          simp only [sights, received, closed]
          rfl
        rw [seen, stepped, RenderTask.takeState, if_pos parks, play_eq point, parks.1]
        exact .parks ..
      · have enters : (d.step textLit (.wakes .display)).1.task = d.task.enter next := by
          rw [stepped, RenderTask.takeState, if_neg parks]
        refine turn_enter next enters ?_ rfl ?_
        · simp [opens, enters, RenderTask.enter, point]
        · rw [play_eq point, received]
          refine .takes _ _ _ _ _ fun _ connecting => ?_
          by_contra unfinished
          exact parks ⟨connecting, unfinished⟩

/-- The end of a wait is a turn of the render task. -/
theorem wake_turn (arm : Arm) :
    Turn d.task.play (d.sights textLit (.wakes arm)) (d.step textLit (.wakes arm)).1.task.play := by
  cases point : d.task.point with
  | starting => exact starting_turn arm point
  | resting wakeAt => exact resting_turn arm point
  | pausing wakeAt => exact pausing_turn arm point
  | refreshing | beginning | checking | clearing | taking | signalling | drawing | handing =>
    refine turn_same ?_ rfl ?_
    · cases arm <;> simp [receives, point]
    · cases arm <;> simp [step, wake, point]

/-- A step of the render task is one of its turns. -/
theorem step_turn (event : Event) :
    Turn d.task.play (d.sights textLit event) (d.step textLit event).1.task.play := by
  cases event with
  | passes ticks => exact turn_same rfl rfl rfl
  | signals state => exact turn_same rfl rfl rfl
  | applies cfg => exact turn_same rfl rfl rfl
  | accepts request =>
    refine turn_same rfl ?_ ?_
    · simp only [step]
      split <;> rfl
    · simp only [step]
      split <;> rfl
  | handles =>
    refine turn_same rfl rfl ?_
    simp only [step, handle]
    split
    · rfl
    · rfl
    · exact access_task d _
  | renders nowUnix => exact render_turn nowUnix
  | wakes arm => exact wake_turn arm
  | exchanges =>
    refine turn_same rfl rfl ?_
    simp only [step, exchange]
    split <;> rfl

variable (textLit)

/-- What is seen of the render task during events, from a boot. -/
def seen (cfg : Config) (layout : Option Layout) (events : List Event) : List Sight :=
  Machine.observed (step textLit) (sights textLit) (boot cfg layout) events

/-- What is seen of the render task was allowed at its time. -/
theorem seen_traced (cfg : Config) (layout : Option Layout) (events : List Event) :
    Traced Allowed (seen textLit cfg layout events) := by
  have started : Tracks (boot cfg layout).task.play [] ∧ Traced Allowed [] := by
    refine ⟨⟨fun _ => rfl, fun other => absurd rfl other, fun other => absurd rfl other,
      fun waits => absurd rfl waits, fun still => ?_, fun _ behind => ?_, passed_zero _,
      Quiet.prompt (.inl rfl) _⟩, .nil⟩
    · cases still
    · cases behind
  have carried : ∀ (d : Display) (event : Event) (seen : List Sight),
      Tracks d.task.play seen ∧ Traced Allowed seen →
      Tracks (d.step textLit event).1.task.play (seen ++ d.sights textLit event) ∧
        Traced Allowed (seen ++ d.sights textLit event) :=
    fun d event seen held => (step_turn event).tracks held.1 held.2
  exact (Machine.observed_invariant carried started events).2

/-- Whatever states are signalled, redraws latched and timers run down, from a start of the
connecting screen on all the frames of a pass are drawn, in order, before a frame of another state
is; the state that is entered is always the one received last; and a state received elsewhere than
on the connecting screen is the next to be drawn. -/
theorem connecting_finishes_pass (cfg : Config) (layout : Option Layout) (events : List Event) :
    (∀ before mid state counter after,
      seen textLit cfg layout events =
        before ++ Sight.entered .connecting :: (mid ++ Sight.drawn state counter :: after) →
      state ≠ .connecting →
      (List.range Canvas.connectCycleFrames).Sublist (connectingFrames mid)) ∧
    (∀ before state after,
      seen textLit cfg layout events = before ++ Sight.entered state :: after →
      lastReceived before = some state) ∧
    ∀ before received mid state counter after,
      seen textLit cfg layout events =
        before ++ Sight.received received :: (mid ++ Sight.drawn state counter :: after) →
      (∀ sight ∈ mid, sight.isDrawn = false) → lastEntered before ≠ some .connecting →
      state = received := by
  have traced := seen_traced textLit cfg layout events
  refine ⟨?_, ?_, ?_⟩
  · intro before mid state counter after split elsewhere
    rw [← List.cons_append, ← List.append_assoc] at split
    exact (traced.allowed split).1 elsewhere before mid rfl
  · intro before state after split
    exact traced.allowed split
  · intro before received mid state counter after split undrawn elsewhere
    rw [← List.cons_append, ← List.append_assoc] at split
    exact (traced.allowed split).2 before received mid rfl undrawn elsewhere

/-- A state that arrives in the first frame is parked. -/
example :
    seen noText .default none
      ([.signals .connecting, .wakes .display] ++ renderings 5 ++
        [.exchanges, .renders none, .signals quietBoard, .wakes .display] ++ renderings 2) =
      [Sight.received .connecting, Sight.entered .connecting, Sight.drawn .connecting 0,
        Sight.received quietBoard, Sight.drawn .connecting 0] := by
  decide +kernel

end Display

end Zugli
