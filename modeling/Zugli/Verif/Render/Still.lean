import Zugli.Verif.Render.Current

/-!
# Screens that stand still

Besides the picture a drawer says whether anything on it is animating, and the render task blocks
on a screen that is not. A screen that is not animating is the same at every frame counter, so that
nothing is missed while the task is blocked.
-/

namespace Zugli

/-- A drawing that is not animating at one frame is the same at every frame. -/
def Steady (draw : UInt32 → FrameBuffer × Bool) : Prop :=
  ∀ frame, (draw frame).2 = false → ∀ other, draw other = draw frame

namespace Steady

/-- What does not depend on the frame is steady. -/
theorem const (drawn : FrameBuffer × Bool) : Steady fun _ => drawn := fun _ _ _ => rfl

/-- What is always animating is steady. -/
theorem animating {draw : UInt32 → FrameBuffer} : Steady fun frame => (draw frame, true) :=
  fun _ still => Bool.noConfusion still

/-- A choice that does not depend on the frame. -/
theorem ite {condition : Prop} [Decidable condition] {left right : UInt32 → FrameBuffer × Bool}
    (first : Steady left) (second : Steady right) :
    Steady fun frame => if condition then left frame else right frame := by
  by_cases holds : condition
  · simpa only [holds, if_true] using first
  · simpa only [holds, if_false] using second

/-- One drawing on top of another. -/
theorem andThen {below : UInt32 → FrameBuffer × Bool}
    {above : FrameBuffer → UInt32 → FrameBuffer × Bool} (first : Steady below)
    (second : ∀ fb, Steady (above fb)) :
    Steady fun frame => ((above (below frame).1 frame).1,
      (below frame).2 || (above (below frame).1 frame).2) := by
  intro frame still other
  obtain ⟨under, upper⟩ := Bool.or_eq_false_iff.mp still
  have same := first frame under other
  have same' := second (below frame).1 frame upper other
  simp only [same, same']

/-- What is drawn after a steady drawing, without regard to the frame. -/
theorem map {below : UInt32 → FrameBuffer × Bool} (first : Steady below)
    (finish : FrameBuffer → FrameBuffer) :
    Steady fun frame => (finish (below frame).1, (below frame).2) := by
  intro frame still other
  simp only [first frame still other]

end Steady

namespace Canvas

variable (canvas : Canvas) (fb : FrameBuffer)

/-- A marquee is steady. -/
theorem drawMarquee_steady (text : List Char) (x0 y avail : Int) (font : MonoFont) (color : Color) :
    Steady (canvas.drawMarquee fb text x0 y avail font color) :=
  (Steady.const _).ite .animating

/-- A clipped marquee is steady. -/
theorem drawMarqueeClipped_steady (text : List Char) (x0 bandY avail bandH y : Int)
    (font : MonoFont) (color : Color) :
    Steady (canvas.drawMarqueeClipped fb text x0 bandY avail bandH y font color) :=
  (Steady.const _).ite .animating

/-- A row of segments is steady. -/
theorem drawSegmentsRow_steady (segs : List Segment) (x0 y avail space : Int) :
    Steady (canvas.drawSegmentsRow fb segs x0 y avail space) :=
  (Steady.const _).ite .animating

/-- A row of the board is steady. -/
theorem drawRow_steady (dep : Departure) (i : Nat) : Steady (canvas.drawRow fb dep i) :=
  (canvas.drawMarqueeClipped_steady _ _ _ _ _ _ _ _ _).ite (.const _)

/-- The rows of the board are steady. -/
theorem drawRows_steady (deps : List Departure) (i : Nat) {below : UInt32 → FrameBuffer × Bool}
    (before : Steady below) : Steady fun frame => canvas.drawRows frame deps i (below frame) := by
  induction deps generalizing i below with
  | nil => exact before
  | cons dep rest previous =>
    exact previous (i + 1) (before.andThen fun fb => canvas.drawRow_steady fb dep i)

/-- The board is steady. -/
theorem drawDepartures_steady (station : List Char) (deps : List Departure) :
    Steady (canvas.drawDepartures fb station deps) := by
  have title := canvas.drawMarquee_steady fb (canvas.city station) 1 0 (cols - 2) .font6x10 .amber
  have ruled := title.map fun fb => canvas.rule fb 11 .accent
  have empty := ruled.map fun fb => canvas.centered fb "no service".toList 32 .font5x7 .dim
  exact empty.ite (canvas.drawRows_steady (deps.take 3) 0 ruled)

/-- The focus view is steady. -/
theorem drawFocus_steady (deps : List Departure) : Steady (canvas.drawFocus fb deps) := by
  cases deps with
  | nil => exact .const _
  | cons next others =>
    have label := canvas.drawLineLabel fb next.line.chars 1 1
    have heading : Steady fun frame =>
        if 0 < (cols : Int) - 1 - ((canvas.drawLineLabel fb next.line.chars 1 1).2 + 2) then
          canvas.drawMarqueeClipped (canvas.drawLineLabel fb next.line.chars 1 1).1
            (canvas.city next.destination.chars)
            ((canvas.drawLineLabel fb next.line.chars 1 1).2 + 2) 1
            (cols - 1 - ((canvas.drawLineLabel fb next.line.chars 1 1).2 + 2)) 11 4 .font5x7 .amber
            frame
        else ((canvas.drawLineLabel fb next.line.chars 1 1).1, false) :=
      (canvas.drawMarqueeClipped_steady _ _ _ _ _ _ _ _ _).ite (.const _)
    have counted := heading.map fun fb => canvas.drawBigMinutes fb next.minutes 33
    cases others with
    | nil => exact counted
    | cons after _ => exact counted.andThen fun fb => canvas.drawSegmentsRow_steady fb _ 1 57 _ 4

/-- A placed text is steady. -/
theorem placeText_steady (text : List Char) (el : Element) (allowMarquee : Bool) :
    Steady (canvas.placeText fb text el allowMarquee) :=
  (Steady.const _).ite .animating

/-- A field of a departure is steady. -/
theorem drawDepField_steady (el : Element) (deps : List Departure) :
    Steady (canvas.drawDepField fb el deps) := by
  unfold drawDepField
  cases deps[min el.di.toNat 2]? with
  | none => exact .const _
  | some dep =>
    have text (text : List Char) := canvas.placeText_steady fb text el true
    exact ((Steady.const _).ite (text _)).ite ((text _).ite ((Steady.const _).ite (text _)))

/-- An element is steady. -/
theorem drawElement_steady (station : List Char) (deps : List Departure) (el : Element) :
    Steady fun frame => canvas.drawElement fb station deps frame el := by
  unfold drawElement
  split
  · exact canvas.placeText_steady fb _ el true
  · exact canvas.drawDepField_steady fb el deps
  · exact canvas.placeText_steady fb _ el true
  all_goals exact .const _

/-- A custom layout is steady. -/
theorem drawCustomLayout_steady (layout : Layout) (station : List Char) (deps : List Departure) :
    Steady (canvas.drawCustomLayout fb layout station deps) := by
  have elements (els : List Element) {below : UInt32 → FrameBuffer × Bool} (before : Steady below) :
      Steady fun frame => els.foldl (fun drawn el =>
        ((canvas.drawElement drawn.1 station deps frame el).1,
          drawn.2 || (canvas.drawElement drawn.1 station deps frame el).2)) (below frame) := by
    induction els generalizing below with
    | nil => exact before
    | cons el rest previous =>
      exact previous (before.andThen fun fb => canvas.drawElement_steady fb station deps el)
  exact elements layout.e.val (.const (fb, false))

end Canvas

/-- Every screen is steady. -/
theorem Panel.drawState_steady (panel : Panel) (state : DisplayState) (layout : LayoutCache)
    (fb : FrameBuffer) : Steady fun frame => panel.drawState state layout frame fb := by
  cases state with
  | provisioning => exact panel.canvas.drawMarquee_steady _ _ _ _ _ _ _
  | connecting => exact .animating
  | idleAddress octets => exact panel.canvas.drawMarquee_steady _ _ _ _ _ _ _
  | offline => exact .animating
  | departures station deps =>
    have board := panel.canvas.drawDepartures_steady fb station.chars deps.val
    have custom (layout : Layout) :=
      panel.canvas.drawCustomLayout_steady fb layout station.chars deps.val
    unfold drawState drawDeparturesScreen
    cases layout.preview with
    | some preview => exact board.ite (custom preview)
    | none =>
      cases panel.shared.mode with
      | focus => exact panel.canvas.drawFocus_steady fb deps.val
      | default => exact board
      | custom =>
        cases layout.custom with
        | none => exact board
        | some layout => exact board.ite (custom layout)

/-- A frame that does not animate is the same at every counter. -/
theorem Frame.draw_steady (textLit : TextRaster) (frame : Frame)
    (still : (frame.draw textLit).2 = false) (counter : UInt32) :
    { frame with counter }.draw textLit = frame.draw textLit :=
  (Panel.mk textLit frame.shared frame.nowUnix).drawState_steady frame.state frame.layout erased
    frame.counter still counter

/-! ## Pacing -/

namespace Display

variable {textLit : TextRaster} {d next : Display} {last : Option Frame}

/-- A frame of a screen follows the one drawn last: it begins the screen, or it is the same frame
of the same screen or the next one. -/
def Follows (last : Option Frame) (state : DisplayState) (counter : UInt32) : Prop :=
  counter = 0 ∨ ∃ frame ∈ last, state = frame.state ∧
    (counter = frame.counter ∨ counter = frame.counter + 1)

/-- The task waits on the frame drawn last, which is on the panel or on its way there. -/
def Waits (textLit : TextRaster) (d : Display) (last : Option Frame) (animating : Bool) : Prop :=
  ∃ frame ∈ last, d.handed.or d.shown = some frame ∧ frame.state = d.task.state ∧
    frame.counter = d.task.frame ∧ (frame.draw textLit).2 = animating

/-- The task waits on the frame drawn last, for as long as its screen allows, or the frame it goes
on to draw follows that one. -/
def Paced (textLit : TextRaster) (d : Display) (last : Option Frame) : Prop :=
  match d.task.point with
  | .handing animating => d.Waits textLit last animating
  | .resting wakeAt => d.Waits textLit last false ∧ wakeAt ≤ d.now + brightnessRefresh
  | .pausing wakeAt => d.Waits textLit last true ∧ wakeAt ≤ d.now + frameTicks
  | .starting | .refreshing .. | .beginning | .checking | .clearing | .taking | .signalling
  | .drawing => Follows last d.task.state d.task.frame

/-- The frame that is waited on is followed by itself. -/
theorem Waits.follows {animating : Bool} (waits : d.Waits textLit last animating) :
    Follows last d.task.state d.task.frame := by
  obtain ⟨frame, drawn, -, state, counter, -⟩ := waits
  exact .inr ⟨frame, drawn, state.symm, .inl counter.symm⟩

/-- The frame that is waited on is followed by the next. -/
theorem Waits.follows_next {animating : Bool} (waits : d.Waits textLit last animating) :
    Follows last d.task.state (d.task.frame + 1) := by
  obtain ⟨frame, drawn, -, state, counter, -⟩ := waits
  exact .inr ⟨frame, drawn, state.symm, .inr (congrArg (· + 1) counter.symm)⟩

/-- Wherever the task is, its frame follows the one drawn last. -/
theorem Paced.follows (paced : d.Paced textLit last) :
    Follows last d.task.state d.task.frame := by
  unfold Paced at paced
  split at paced
  case h_1 => exact paced.follows
  case h_2 | h_3 => exact paced.1.follows
  all_goals exact paced

/-- A refresh of the layout cache leaves the frame as it is. -/
theorem refresh_paced (after : AfterRefresh) (stage : Refreshing)
    (follows : Follows last d.task.state d.task.frame) :
    (d.refresh after stage).Paced textLit last := by
  cases stage with
  | loading => exact follows
  | comparing deadline =>
    simp only [refresh]
    split <;> exact follows
  | cloningPreview =>
    simp only [refresh]
    split
    · cases after <;> exact follows
    · exact follows
  | cloningCustom => cases after <;> exact follows

/-- Once its frame is shown the task waits on it. -/
theorem block_paced {animating : Bool} (waits : d.Waits textLit last animating) :
    { d with task := d.task.block d.shared d.now animating }.Paced textLit last := by
  cases animating with
  | true => exact ⟨waits, Nat.le_refl _⟩
  | false =>
    refine ⟨waits, ?_⟩
    split
    · exact Nat.le_refl _
    · exact Nat.min_le_right _ _

/-- The render task draws the frame that follows and waits on it. -/
theorem render_paced (nowUnix : Option Int) (paced : d.Paced textLit last) :
    (d.render textLit nowUnix).1.Paced textLit ((d.render textLit nowUnix).2.or last) ∧
      ∀ frame ∈ (d.render textLit nowUnix).2, Follows last frame.state frame.counter := by
  have follows := paced.follows
  unfold render
  split
  case h_1 after stage _ =>
    exact ⟨refresh_paced after stage follows, fun _ none => absurd none (Option.not_mem_none _)⟩
  case h_2 =>
    refine ⟨?_, fun _ none => absurd none (Option.not_mem_none _)⟩
    simp only [begin]
    split <;> exact follows
  case h_3 =>
    refine ⟨?_, fun _ none => absurd none (Option.not_mem_none _)⟩
    split <;> exact follows
  case h_4 | h_5 | h_6 =>
    exact ⟨follows, fun _ none => absurd none (Option.not_mem_none _)⟩
  case h_7 =>
    refine ⟨⟨_, rfl, rfl, rfl, rfl, rfl⟩, fun frame drawn => ?_⟩
    obtain rfl := Option.some.inj drawn
    exact follows
  case h_8 animating point =>
    have waits : d.Waits textLit last animating := by
      simpa only [Paced, point] using paced
    split
    · exact ⟨paced, fun _ none => absurd none (Option.not_mem_none _)⟩
    · refine ⟨?_, fun _ none => absurd none (Option.not_mem_none _)⟩
      have blocked := block_paced waits
      simp only [RenderTask.frameShown]
      split
      · split
        · exact .inl rfl
        · exact blocked
      · exact blocked
  all_goals exact ⟨paced, fun _ none => absurd none (Option.not_mem_none _)⟩

/-- A wait ends with a new screen, with the next frame or with the same frame again. -/
theorem wake_paced (arm : Arm) (paced : d.Paced textLit last) :
    (d.wake arm).Paced textLit last := by
  have follows := paced.follows
  unfold wake
  split
  case h_1 | h_2 | h_3 | h_4 =>
    split
    · exact .inl rfl
    · exact paced
  case h_5 wakeAt point =>
    have waits : d.Waits textLit last true ∧ wakeAt ≤ d.now + frameTicks := by
      simpa only [Paced, point] using paced
    split
    · exact waits.1.follows_next
    · exact paced
  case h_6 =>
    split
    · unfold RenderTask.takeState
      split
      · exact follows
      · exact .inl rfl
    · exact paced
  case h_7 =>
    split
    · exact follows
    · exact paced
  case h_8 => exact paced

/-- A handler takes no time of the clock. -/
theorem handle_now (d : Display) : d.handle.now = d.now := by
  unfold handle
  split
  case h_3 request a rest updated working => exact access_now d a
  all_goals rfl

/-- What the task waits on does not depend on anything but its own state and the two frames. -/
theorem Paced.congr {other : Display} (paced : d.Paced textLit last)
    (task : other.task = d.task) (frames : other.handed.or other.shown = d.handed.or d.shown)
    (later : d.now ≤ other.now) : other.Paced textLit last := by
  have waits {animating : Bool} (waits : d.Waits textLit last animating) :
      other.Waits textLit last animating := by
    unfold Waits
    rw [task, frames]
    exact waits
  unfold Paced at paced ⊢
  rw [task]
  split at paced
  case h_1 => exact waits paced
  case h_2 | h_3 =>
    exact ⟨waits paced.1, Nat.le_trans paced.2 (Nat.add_le_add_right later _)⟩
  all_goals exact paced

/-- Once no frame is on its way, the one the task waits on is on the panel. -/
theorem Waits.shown {animating : Bool} (waits : d.Waits textLit last animating)
    (presented : d.handed = none ∧ ∃ frame, d.shown = some frame ∧
      frame.layout = d.task.layoutCache) :
    ∃ frame, frame ∈ d.shown ∧ frame.layout = d.task.layoutCache ∧ frame.state = d.task.state ∧
      (frame.draw textLit).2 = animating := by
  obtain ⟨frame, -, found, state, -, flag⟩ := waits
  obtain ⟨taken, other, shown, layout⟩ := presented
  rw [taken, Option.none_or, shown] at found
  obtain rfl := Option.some.inj found
  exact ⟨other, shown, layout, state, flag⟩

/-- Every step keeps the pace, and a frame drawn in it follows the one drawn last. -/
theorem step_paced (event : Event) (paced : d.Paced textLit last) :
    (d.step textLit event).1.Paced textLit ((d.step textLit event).2.or last) ∧
      ∀ frame ∈ (d.step textLit event).2, Follows last frame.state frame.counter := by
  have silent {other : Display} (kept : other.Paced textLit last) :
      other.Paced textLit ((none : Option Frame).or last) ∧
        ∀ frame ∈ (none : Option Frame), Follows last frame.state frame.counter :=
    ⟨kept, fun frame drawn => absurd drawn (Option.not_mem_none frame)⟩
  cases event with
  | renders nowUnix => exact render_paced nowUnix paced
  | passes ticks => exact silent (paced.congr rfl rfl (Nat.le_add_right ..))
  | signals state => exact silent (paced.congr rfl rfl (Nat.le_refl _))
  | applies cfg => exact silent (paced.congr rfl rfl (Nat.le_refl _))
  | accepts request =>
    simp only [step]
    split
    · exact silent (paced.congr rfl rfl (Nat.le_refl _))
    · exact silent paced
  | handles =>
    obtain ⟨task, handed, shown⟩ := handle_frames (d := d)
    exact silent (paced.congr task (congrArg₂ Option.or handed shown)
      (Nat.le_of_eq d.handle_now.symm))
  | wakes arm => exact silent (wake_paced arm paced)
  | exchanges =>
    simp only [step, exchange]
    split
    case h_1 frame handed =>
      refine silent (paced.congr rfl ?_ (Nat.le_refl _))
      rw [handed, Option.none_or, Option.some_or]
    case h_2 => exact silent paced

/-- The frames drawn so far followed one another, and the task keeps the pace. -/
theorem run_paced (cfg : Config) (saved : Option Layout) (events : List Event) :
    (after textLit cfg saved events).1.Paced textLit
        ((after textLit cfg saved events).2.filterMap (·.2)).getLast? ∧
      Machine.Traced (fun earlier next => Follows earlier.getLast? next.state next.counter)
        ((after textLit cfg saved events).2.filterMap (·.2)) := by
  have carried : ∀ (d : Display) event seen, (d.Paced textLit seen.getLast? ∧
      Machine.Traced (fun earlier next => Follows earlier.getLast? next.state next.counter) seen) →
      (d.step textLit event).1.Paced textLit
          (seen ++ (d.step textLit event).2.toList).getLast? ∧
        Machine.Traced (fun earlier next => Follows earlier.getLast? next.state next.counter)
          (seen ++ (d.step textLit event).2.toList) := by
    intro d event seen ⟨paced, traced⟩
    obtain ⟨kept, follows⟩ := step_paced event paced
    cases drawn : (d.step textLit event).2 with
    | none =>
      rw [drawn] at kept
      rw [Option.toList_none, List.append_nil]
      exact ⟨kept, traced⟩
    | some frame =>
      rw [drawn] at kept follows
      rw [Option.toList_some, List.getLast?_concat]
      exact ⟨kept, traced.snoc (follows frame rfl)⟩
  have booted : (boot cfg saved).Paced textLit ([] : List Frame).getLast? := .inl rfl
  have ran := Machine.observed_invariant carried ⟨booted, .nil⟩ events
  have noted : Machine.observed (step textLit) (fun d event => (d.step textLit event).2.toList)
      (boot cfg saved) events = (after textLit cfg saved events).2.filterMap (·.2) :=
    Machine.observed_outputs id (boot cfg saved) events
  rw [List.nil_append, noted] at ran
  exact ran

/-- The render task never blocks on a picture that would go on moving, and never lets one jump. In
every state that is reached, whatever the handlers, the panel driver and the signals do in
between: a task that is blocked without a frame timer has on the panel a frame of its state and its
layouts that is the same picture at every frame counter, and it goes on within a minute; a task
that is blocked with one has a frame on the panel that animates at every counter, and it goes on
within a frame. Each frame drawn begins a screen, or it is of the same screen as the frame before
and its counter is the same or the next. -/
theorem still_or_paced (textLit : TextRaster) (cfg : Config) (saved : Option Layout)
    (events : List Event) :
    let reached := after textLit cfg saved events
    (∀ wakeAt, reached.1.task.point = .resting wakeAt → ∃ frame ∈ reached.1.shown,
      frame.state = reached.1.task.state ∧ frame.layout = reached.1.task.layoutCache ∧
        wakeAt ≤ reached.1.now + brightnessRefresh ∧
        ∀ counter, { frame with counter }.draw textLit = ((frame.draw textLit).1, false)) ∧
    (∀ wakeAt, reached.1.task.point = .pausing wakeAt → ∃ frame ∈ reached.1.shown,
      frame.state = reached.1.task.state ∧ frame.layout = reached.1.task.layoutCache ∧
        wakeAt ≤ reached.1.now + frameTicks ∧
        ∀ counter, ({ frame with counter }.draw textLit).2 = true) ∧
    Machine.Traced (fun earlier next => Follows earlier.getLast? next.state next.counter)
      (reached.2.filterMap (·.2)) := by
  intro reached
  obtain ⟨paced, traced⟩ := @run_paced textLit cfg saved events
  have presents : reached.1.Presents :=
    Machine.run_invariant (fun event _ d => step_presents event) rfl
  refine ⟨fun wakeAt point => ?_, fun wakeAt point => ?_, traced⟩
  · have blocked : reached.1.handed = none ∧ ∃ frame, reached.1.shown = some frame ∧
        frame.layout = reached.1.task.layoutCache := by
      simpa only [Presents, point] using presents
    have still : reached.1.Waits textLit (reached.2.filterMap (·.2)).getLast? false ∧
        wakeAt ≤ reached.1.now + brightnessRefresh := by
      simpa only [Paced, reached, point] using paced
    obtain ⟨frame, shown, layout, state, flag⟩ := still.1.shown blocked
    refine ⟨frame, shown, state, layout, still.2, fun counter => ?_⟩
    rw [frame.draw_steady textLit flag counter, ← flag]
  · have blocked : reached.1.handed = none ∧ ∃ frame, reached.1.shown = some frame ∧
        frame.layout = reached.1.task.layoutCache := by
      simpa only [Presents, point] using presents
    have moving : reached.1.Waits textLit (reached.2.filterMap (·.2)).getLast? true ∧
        wakeAt ≤ reached.1.now + frameTicks := by
      simpa only [Paced, reached, point] using paced
    obtain ⟨frame, shown, layout, state, flag⟩ := moving.1.shown blocked
    refine ⟨frame, shown, state, layout, moving.2, fun counter => ?_⟩
    by_contra still
    have same := { frame with counter }.draw_steady textLit (Bool.eq_false_iff.mpr still)
      frame.counter
    rw [← flag] at still
    exact still (congrArg Prod.snd same).symm

end Display

end Zugli
