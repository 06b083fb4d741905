import Zugli.Verif.Render.Fresh

/-!
# An expired preview

Each push of a preview is counted, and so are the push that armed the deadline and the one whose
layout is cached. A frame that starts with its deadline reached takes the preview and refreshes the
layout cache before it is drawn, so it is drawn from none or from a later push.
-/

namespace Zugli

namespace Display

variable {textLit : TextRaster} {d next : Display}

/-- What bounds the pushes a frame is drawn from, as far as the frame has come. -/
def Outdates (d : Display) : Prop :=
  match d.task.point with
  | .signalling | .refreshing .draws _ =>
    d.shared.previewLayout ≠ none → d.task.start.push < d.pushes
  | .drawing => d.task.start.Late → d.task.layoutCache.preview ≠ none →
    d.task.start.push < d.task.push
  | _ => True

/-- Pushes are counted, and a frame that starts late leaves the expired one behind. -/
structure Counted (d : Display) : Prop where
  /-- A frame starts before it is drawn. -/
  started : d.task.start.instant ≤ d.now
  /-- The deadline was armed by a push. -/
  armed : d.armedPush ≤ d.pushes
  /-- So was the one a frame found. -/
  found : d.task.start.push ≤ d.pushes
  /-- The preview a late frame is drawn from is pushed later. -/
  outdates : d.Outdates

/-- A frame stays bounded while pushes are only added or taken. -/
theorem Outdates.of_moved (outdates : d.Outdates) (task : next.task = d.task)
    (pushed : (d.shared.previewLayout ≠ none → d.task.start.push < d.pushes) →
      next.shared.previewLayout ≠ none → d.task.start.push < next.pushes) : next.Outdates := by
  unfold Outdates at outdates ⊢
  rw [task]
  split at outdates
  case h_1 => exact pushed outdates
  case h_2 => exact pushed outdates
  case h_3 => exact outdates
  case h_4 => trivial

/-- An access counts a push or leaves the counts alone. -/
theorem access_counted (a : Access) (counted : d.Counted) : (d.access a).Counted := by
  have frame : ∀ next : Display, next.task = d.task → next.now = d.now →
      next.armedPush ≤ next.pushes → d.pushes ≤ next.pushes →
      (next.shared.previewLayout ≠ none →
        d.shared.previewLayout ≠ none ∨ d.task.start.push < next.pushes) → next.Counted := by
    intro next task now armed more pushed
    have found : d.task.start.push ≤ next.pushes := Nat.le_trans counted.found more
    refine ⟨by rw [task, now]; exact counted.started, armed, by rw [task]; exact found, ?_⟩
    refine counted.outdates.of_moved task fun earlier there => ?_
    rcases pushed there with held | later
    · exact Nat.lt_of_lt_of_le (earlier held) more
    · exact later
  cases a with
  | replacePreview layout =>
    exact frame _ rfl rfl (Nat.le_succ_of_le counted.armed) (Nat.le_succ _)
      fun _ => .inr (Nat.lt_succ_of_le counted.found)
  | armDeadline => exact frame _ rfl rfl (Nat.le_refl _) (Nat.le_refl _) .inl
  | takePreview =>
    exact frame _ rfl rfl counted.armed (Nat.le_refl _) fun there => absurd rfl there
  | replaceLayout | clearDeadline | signalRedraw | signalSelectionChanged =>
    exact frame _ rfl rfl counted.armed (Nat.le_refl _) .inl

/-- A refresh reads the preview pushed last, or none. -/
theorem refresh_outdates (after : AfterRefresh) (stage : Refreshing)
    (point : d.task.point = .refreshing after stage) (outdates : d.Outdates) :
    (d.refresh after stage).Outdates := by
  cases after with
  | begins =>
    cases stage with
    | loading | cloningCustom => trivial
    | comparing deadline =>
      simp only [refresh]
      split <;> trivial
    | cloningPreview =>
      simp only [refresh]
      split <;> trivial
  | draws =>
    have later : d.shared.previewLayout ≠ none → d.task.start.push < d.pushes := by
      simpa only [Outdates, point] using outdates
    cases stage with
    | loading => exact later
    | comparing deadline =>
      simp only [refresh]
      split
      · exact later
      · exact later
    | cloningPreview =>
      simp only [refresh]
      split
      case h_1 preview found => exact fun _ _ => later (found ▸ Option.some_ne_none preview)
      case h_2 => exact later
    | cloningCustom => exact fun _ uncached => absurd rfl uncached

/-- A step that leaves the clock and the counts alone. -/
structure Uncounted (d next : Display) : Prop where
  /-- The clock. -/
  now : next.now = d.now
  /-- The pushes. -/
  pushes : next.pushes = d.pushes
  /-- The push that armed the deadline. -/
  armedPush : next.armedPush = d.armedPush
  /-- How the frame under way started. -/
  start : next.task.start = d.task.start

/-- The counts stay bounded. -/
theorem Uncounted.counted (uncounted : Uncounted d next) (counted : d.Counted)
    (outdates : next.Outdates) : next.Counted := by
  refine ⟨?_, ?_, ?_, outdates⟩
  · rw [uncounted.start, uncounted.now]
    exact counted.started
  · rw [uncounted.armedPush, uncounted.pushes]
    exact counted.armed
  · rw [uncounted.start, uncounted.pushes]
    exact counted.found

/-- A refresh counts nothing. -/
theorem refresh_uncounted (after : AfterRefresh) (stage : Refreshing) :
    Uncounted d (d.refresh after stage) := by
  cases stage with
  | loading | cloningCustom => exact ⟨rfl, rfl, rfl, rfl⟩
  | comparing deadline =>
    simp only [refresh]
    split
    · exact ⟨rfl, rfl, rfl, rfl⟩
    · exact ⟨rfl, rfl, rfl, rfl⟩
  | cloningPreview =>
    simp only [refresh]
    split
    · exact ⟨rfl, rfl, rfl, rfl⟩
    · exact ⟨rfl, rfl, rfl, rfl⟩

/-- A frame that is shown is over. -/
theorem frameShown_counted (animating : Bool) (counted : d.Counted) :
    { d with task := d.task.frameShown d.shared d.now animating }.Counted := by
  have blocked : { d with task := d.task.block d.shared d.now animating }.Counted := by
    cases animating with
    | true => exact ⟨counted.started, counted.armed, counted.found, trivial⟩
    | false => exact ⟨counted.started, counted.armed, counted.found, trivial⟩
  simp only [RenderTask.frameShown]
  split
  · split
    · exact ⟨counted.started, counted.armed, counted.found, trivial⟩
    · exact blocked
  · exact blocked

/-- The render task leaves an expired preview behind before it draws. -/
theorem render_counted (nowUnix : Option Int) (counted : d.Counted) :
    (d.render textLit nowUnix).1.Counted := by
  unfold render
  split
  case h_1 after stage point =>
    exact (refresh_uncounted after stage).counted counted
      (refresh_outdates after stage point counted.outdates)
  case h_2 =>
    refine ⟨Nat.le_refl _, counted.armed, counted.armed, ?_⟩
    simp only [begin]
    split
    case isTrue unarmed => exact fun late => absurd unarmed late.1
    case isFalse => trivial
  case h_3 =>
    split
    · exact ⟨counted.started, counted.armed, counted.found, trivial⟩
    case isFalse ahead =>
      refine ⟨counted.started, counted.armed, counted.found, fun late => absurd late.2 ?_⟩
      exact fun reached => ahead (Nat.le_trans reached counted.started)
  case h_4 => exact ⟨counted.started, counted.armed, counted.found, trivial⟩
  case h_5 => exact ⟨counted.started, counted.armed, counted.found, fun there => absurd rfl there⟩
  case h_6 point =>
    have later : d.shared.previewLayout ≠ none → d.task.start.push < d.pushes := by
      simpa only [Outdates, point] using counted.outdates
    exact ⟨counted.started, counted.armed, counted.found, later⟩
  case h_7 => exact ⟨counted.started, counted.armed, counted.found, trivial⟩
  case h_8 animating point =>
    split
    · exact counted
    · exact frameShown_counted animating counted
  all_goals exact counted

/-- The end of a wait is no part of a frame. -/
theorem Woken.counted (woken : Woken d next) (counted : d.Counted) : next.Counted := by
  cases woken with
  | still => exact counted
  | enters | begins | refreshes =>
    exact ⟨counted.started, counted.armed, counted.found, trivial⟩

/-- A frame that starts at or after the deadline armed then is drawn from a preview pushed later
than the one the deadline belongs to, or from none. -/
def LeavesExpired (frame : Frame) : Prop :=
  frame.start.Late → frame.layout.preview ≠ none → frame.start.push < frame.push

/-- A frame is drawn at one point only. -/
theorem render_frame (nowUnix : Option Int) {frame : Frame}
    (drawn : frame ∈ (d.render textLit nowUnix).2) :
    d.task.point = .drawing ∧ frame = d.frame nowUnix := by
  unfold render at drawn
  split at drawn
  case h_7 point => exact ⟨point, (Option.some.inj drawn).symm⟩
  case h_8 => split at drawn <;> exact absurd drawn (Option.not_mem_none frame)
  all_goals exact absurd drawn (Option.not_mem_none frame)

/-- A step keeps the pushes counted, and the frame it draws leaves an expired preview behind. -/
theorem step_counted (event : Event) (counted : d.Counted) :
    (d.step textLit event).1.Counted ∧
      ∀ frame ∈ (d.step textLit event).2, LeavesExpired frame := by
  have quiet : ∀ next : Display, next.Counted →
      next.Counted ∧ ∀ frame ∈ (none : Option Frame), LeavesExpired frame :=
    fun next kept => ⟨kept, fun frame drawn => absurd drawn (Option.not_mem_none frame)⟩
  cases event with
  | passes ticks =>
    exact quiet _ ⟨Nat.le_trans counted.started (Nat.le_add_right ..), counted.armed,
      counted.found, counted.outdates⟩
  | signals state =>
    exact quiet _ ⟨counted.started, counted.armed, counted.found, counted.outdates⟩
  | applies cfg =>
    exact quiet _ ⟨counted.started, counted.armed, counted.found, counted.outdates⟩
  | accepts request =>
    simp only [step]
    split
    · exact quiet _ ⟨counted.started, counted.armed, counted.found, counted.outdates⟩
    · exact quiet _ counted
  | handles =>
    refine quiet _ ?_
    simp only [step, handle]
    split
    case h_1 => exact counted
    case h_2 => exact ⟨counted.started, counted.armed, counted.found, counted.outdates⟩
    case h_3 request a rest updated working =>
      obtain ⟨started, armed, found, outdates⟩ := access_counted a counted
      exact ⟨started, armed, found, outdates⟩
  | renders nowUnix =>
    refine ⟨render_counted nowUnix counted, fun frame drawn => ?_⟩
    obtain ⟨point, rfl⟩ := render_frame nowUnix drawn
    have outdates : d.task.start.Late → d.task.layoutCache.preview ≠ none →
        d.task.start.push < d.task.push := by
      simpa only [Outdates, point] using counted.outdates
    exact outdates
  | wakes arm => exact quiet _ ((d.woken arm).counted counted)
  | exchanges =>
    refine quiet _ ?_
    simp only [step, exchange]
    split
    · exact ⟨counted.started, counted.armed, counted.found, counted.outdates⟩
    · exact counted

end Display

end Zugli
