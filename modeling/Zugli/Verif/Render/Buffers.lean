import Zugli.Firmware.Display.Buffers
import Zugli.Verif.Render.Current

/-!
# The two framebuffers over whole runs

At any time the driver holds one framebuffer, and the other is with the render task or in one of
the two slots. So no signal overwrites another, a transfer never reads a framebuffer that is being
drawn in, and the driver sets about a transfer of every frame, in order and at least once. A
transfer that fails is not repeated when the next frame waits by then. The render task on two
framebuffers is thereby the one-slot board of the other results.
-/

namespace Zugli

namespace Buffers

variable {Image : Type}

/-! ## Every frame in order -/

/-- Each image taken is attempted in its turn, at least once. -/
inductive Attempts : List Image → List Image → Prop where
  /-- Before the first. -/
  | nil : Attempts [] []
  /-- The next image is attempted for the first time. -/
  | next {taken attempted : List Image} (image : Image) : Attempts taken attempted →
    Attempts (taken ++ [image]) (attempted ++ [image])
  /-- The last image is attempted again. -/
  | again {taken attempted : List Image} {image : Image} : Attempts (taken ++ [image]) attempted →
    Attempts (taken ++ [image]) (attempted ++ [image])

/-- The image a sight shows handed over. -/
def Sight.handed? : Sight Image → Option Image
  | .handed image => some image
  | .ended _ _ => none

/-- The image of the attempt a sight shows at its end. -/
def Sight.attempted? : Sight Image → Option Image
  | .handed _ => none
  | .ended image _ => some image

/-- The image a sight shows refreshed whole. -/
def Sight.refreshed? : Sight Image → Option Image
  | .ended image true => some image
  | _ => none

/-- The images handed over. -/
def handed (seen : List (Sight Image)) : List Image := seen.filterMap Sight.handed?

/-- The images of the attempts that have ended. -/
def attempted (seen : List (Sight Image)) : List Image := seen.filterMap Sight.attempted?

/-- The images refreshed whole. -/
def refreshed (seen : List (Sight Image)) : List Image := seen.filterMap Sight.refreshed?

@[simp] theorem handed_append (earlier later : List (Sight Image)) :
    handed (earlier ++ later) = handed earlier ++ handed later := List.filterMap_append

@[simp] theorem attempted_append (earlier later : List (Sight Image)) :
    attempted (earlier ++ later) = attempted earlier ++ attempted later := List.filterMap_append

@[simp] theorem handed_nil : handed ([] : List (Sight Image)) = [] := rfl

@[simp] theorem attempted_nil : attempted ([] : List (Sight Image)) = [] := rfl

@[simp] theorem handed_handed (image : Image) : handed [Sight.handed image] = [image] := rfl

@[simp] theorem attempted_handed (image : Image) : attempted [Sight.handed image] = [] := rfl

/-- The end of an attempt hands nothing over. -/
@[simp] theorem handed_ended (images : List Image) (whole : Bool) :
    handed (images.map fun image => Sight.ended image whole) = [] := by
  induction images with
  | nil => rfl
  | cons image images previous => exact previous

/-- The images of attempts that end are attempted. -/
@[simp] theorem attempted_ended (images : List Image) (whole : Bool) :
    attempted (images.map fun image => Sight.ended image whole) = images := by
  induction images with
  | nil => rfl
  | cons image images previous => exact congrArg (image :: ·) previous

/-- What is refreshed whole is attempted, in the same order. -/
theorem refreshed_sublist (seen : List (Sight Image)) :
    (refreshed seen).Sublist (attempted seen) := by
  induction seen with
  | nil => exact .slnil
  | cons sight seen previous =>
    match sight with
    | .handed image => exact previous
    | .ended image true => exact previous.cons_cons image
    | .ended image false => exact previous.cons image

/-- When no attempt fails, every image attempted is refreshed whole. -/
theorem refreshed_eq_attempted {seen : List (Sight Image)}
    (sound : ∀ image, Sight.ended image false ∉ seen) : refreshed seen = attempted seen := by
  induction seen with
  | nil => rfl
  | cons sight seen previous =>
    have later := previous fun image inside => sound image (List.mem_cons_of_mem _ inside)
    match sight with
    | .handed image => exact later
    | .ended image true => exact congrArg (image :: ·) later
    | .ended image false => exact absurd List.mem_cons_self (sound image)

/-! ## One owner -/

/-- The framebuffer the driver does not hold is with the render task, waits for the driver or
waits for the render task; the driver gives none back before it has started. -/
def OneOwner (buffers : Buffers Image) : Prop :=
  let spare := some buffers.hub.other
  ((buffers.render = spare ∧ buffers.toPanel = none ∧ buffers.toRender = none) ∨
    (buffers.render = none ∧ buffers.toPanel = spare ∧ buffers.toRender = none) ∨
      buffers.render = none ∧ buffers.toPanel = none ∧ buffers.toRender = spare) ∧
    (buffers.hubPoint = .starting → buffers.toRender = none)

@[simp] theorem other_other (buffer : PanelBuffer) : buffer.other.other = buffer := by
  cases buffer <;> rfl

@[simp] theorem other_ne (buffer : PanelBuffer) : buffer.other ≠ buffer := by
  cases buffer <;> decide

section Steps

variable {buffers : Buffers Image}

/-- A turn of the driver: it has not started and no framebuffer has come, it takes the one that
has, or it stays with its own. -/
theorem turn_cases (buffers : Buffers Image) (starts : Bool) :
    (buffers.hubPoint = .starting ∧ buffers.toPanel = none ∧ buffers.turn starts = buffers) ∨
      (∃ new, buffers.toPanel = some new ∧
        buffers.turn starts = (buffers.swap new).begin starts) ∨
      buffers.hubPoint ≠ .starting ∧ buffers.toPanel = none ∧
        buffers.turn starts = buffers.begin starts := by
  obtain ⟨image, toPanel, toRender, render, hub, hubPoint⟩ := buffers
  cases toPanel with
  | some new => cases hubPoint <;> exact .inr (.inl ⟨new, rfl, rfl⟩)
  | none =>
    cases hubPoint with
    | starting => exact .inl ⟨rfl, rfl, rfl⟩
    | turning => exact .inr (.inr ⟨HubPoint.noConfusion, rfl, rfl⟩)
    | transferring => exact .inr (.inr ⟨HubPoint.noConfusion, rfl, rfl⟩)

/-- The transfer the driver begins fails to start or is under way. -/
theorem begin_attempts (buffers : Buffers Image) (starts : Bool) :
    (buffers.begin starts).unstarted ++ (buffers.begin starts).underway =
      [buffers.image buffers.hub] := by
  cases starts <;> rfl

/-- The driver has started once it begins a transfer. -/
@[simp] theorem begin_started (starts : Bool) : (buffers.begin starts).hubPoint ≠ .starting := by
  cases starts <;> exact HubPoint.noConfusion

/-- Drawing moves no framebuffer. -/
theorem draw_still (change : Image → Image) : (buffers.draw change).render = buffers.render ∧
    (buffers.draw change).toPanel = buffers.toPanel ∧
    (buffers.draw change).toRender = buffers.toRender ∧ (buffers.draw change).hub = buffers.hub ∧
    (buffers.draw change).hubPoint = buffers.hubPoint := by
  obtain ⟨image, toPanel, toRender, render, hub, hubPoint⟩ := buffers
  cases render <;> exact ⟨rfl, rfl, rfl, rfl, rfl⟩

/-- Each event leaves the spare framebuffer with one owner. -/
theorem step_oneOwner (event : Event Image) (owned : buffers.OneOwner) :
    (buffers.step event).1.OneOwner := by
  obtain ⟨owner, starting⟩ := owned
  cases event with
  | draws change =>
    obtain ⟨render, toPanel, toRender, hub, hubPoint⟩ := @draw_still _ buffers change
    simp only [step, OneOwner, render, toPanel, toRender, hub, hubPoint]
    exact ⟨owner, starting⟩
  | hands =>
    obtain ⟨render, toPanel, toRender⟩ | ⟨render, _⟩ | ⟨render, _⟩ := owner
    · simp [step, hand, OneOwner, render, toRender]
    all_goals
      simp only [step, hand, render]
      exact ⟨by tauto, starting⟩
  | regains =>
    obtain ⟨render, _⟩ | ⟨render, _, toRender⟩ | ⟨render, toPanel, toRender⟩ := owner
    · simp only [step, regain, render]
      exact ⟨by tauto, starting⟩
    · simp only [step, regain, render, toRender]
      exact ⟨by tauto, starting⟩
    · simp [step, regain, OneOwner, render, toPanel, toRender]
  | turns whole starts =>
    simp only [step]
    obtain ⟨_, _, same⟩ | ⟨new, came, taken⟩ | ⟨_, _, kept⟩ := turn_cases buffers starts
    · rw [same]
      exact ⟨owner, starting⟩
    · rw [taken]
      obtain ⟨_, toPanel, _⟩ | ⟨render, toPanel, _⟩ | ⟨_, toPanel, _⟩ := owner
      · simp [toPanel] at came
      · obtain rfl : buffers.hub.other = new := Option.some.inj (toPanel.symm.trans came)
        refine ⟨.inr (.inr ⟨render, rfl, ?_⟩), fun point => absurd point (by simp)⟩
        simp [begin, swap]
      · simp [toPanel] at came
    · rw [kept]
      exact ⟨owner, fun point => absurd point (by simp)⟩

/-- Drawing changes no image but that of the framebuffer the render task holds. -/
theorem draw_image (owned : buffers.OneOwner) (change : Image → Image) :
    (buffers.draw change).image buffers.hub = buffers.image buffers.hub ∧
      buffers.toPanel.map (buffers.draw change).image = buffers.toPanel.map buffers.image := by
  obtain ⟨⟨render, toPanel, _⟩ | ⟨render, _⟩ | ⟨render, _⟩, _⟩ := owned
  · have apart : buffers.hub ≠ buffers.hub.other := (other_ne _).symm
    simp [draw, render, toPanel, apart]
  all_goals simp [draw, render]

end Steps

/-! ## Whole runs -/

/-- What has been seen when the framebuffers are as they are: every image handed over but the one
that waits for the driver has had its turn, and the last to have it is with the driver. -/
def Seen (buffers : Buffers Image) (seen : List (Sight Image)) : Prop :=
  ∃ taken, handed seen = taken ++ (buffers.toPanel.map buffers.image).toList ∧
    Attempts taken (attempted seen ++ buffers.underway) ∧
    if buffers.hubPoint = .starting then taken = []
    else ∃ earlier, taken = earlier ++ [buffers.image buffers.hub]

/-- What the render task does carries on what has been seen, when the image with the driver and the
one that waits stay as they are. -/
theorem seen_of_still {buffers next : Buffers Image} {seen new : List (Sight Image)}
    (before : buffers.Seen seen) (hub : next.image next.hub = buffers.image buffers.hub)
    (hubPoint : next.hubPoint = buffers.hubPoint) (silent : attempted new = [])
    (waiting : (next.toPanel.map next.image).toList =
      (buffers.toPanel.map buffers.image).toList ++ handed new) : next.Seen (seen ++ new) := by
  obtain ⟨taken, handedThen, attempts, last⟩ := before
  have underway : next.underway = buffers.underway := by
    simp only [Buffers.underway, hubPoint, hub]
  refine ⟨taken, ?_, ?_, ?_⟩
  · rw [handed_append, waiting, handedThen, List.append_assoc]
  · rw [attempted_append, silent, List.append_nil, underway]
    exact attempts
  · rw [hubPoint, hub]
    exact last

/-- Each event carries on what has been seen. -/
theorem step_seen {buffers : Buffers Image} {seen : List (Sight Image)} (event : Event Image)
    (owned : buffers.OneOwner) (before : buffers.Seen seen) :
    (buffers.step event).1.Seen (seen ++ buffers.sights event) := by
  cases event with
  | draws change =>
    obtain ⟨_, toPanel, _, hub, hubPoint⟩ := @draw_still _ buffers change
    obtain ⟨kept, waiting⟩ := draw_image owned change
    apply seen_of_still before (hub ▸ kept) hubPoint rfl
    simp only [sights, toPanel, waiting, handed_nil, List.append_nil]
  | hands =>
    obtain ⟨⟨render, toPanel, _⟩ | ⟨render, _⟩ | ⟨render, _⟩, _⟩ := owned
    · apply seen_of_still before <;> simp [step, sights, hand, render, toPanel]
    all_goals apply seen_of_still before <;> simp [step, sights, hand, render]
  | regains =>
    have still : (buffers.regain).image = buffers.image ∧
        (buffers.regain).toPanel = buffers.toPanel ∧ (buffers.regain).hub = buffers.hub ∧
        (buffers.regain).hubPoint = buffers.hubPoint := by
      obtain ⟨image, toPanel, toRender, render, hub, hubPoint⟩ := buffers
      cases render <;> cases toRender <;> exact ⟨rfl, rfl, rfl, rfl⟩
    obtain ⟨image, toPanel, hub, hubPoint⟩ := still
    apply seen_of_still before _ hubPoint rfl
    · simp only [sights, image, toPanel, handed_nil, List.append_nil]
    · simp only [image, hub]
  | turns whole starts =>
    obtain ⟨taken, handedThen, attempts, last⟩ := before
    have carry : ∀ (next : Buffers Image) (taken : List Image), buffers.turn starts = next →
        handed seen = taken ++ (next.toPanel.map next.image).toList →
        Attempts taken (attempted seen ++ buffers.underway ++ (next.unstarted ++ next.underway)) →
        (if next.hubPoint = .starting then taken = []
          else ∃ earlier, taken = earlier ++ [next.image next.hub]) →
        (buffers.turn starts).Seen (seen ++ buffers.sights (.turns whole starts)) := by
      rintro next taken rfl handedNow attemptsNow lastNow
      refine ⟨taken, ?_, ?_, lastNow⟩
      · simpa [sights] using handedNow
      · simpa [sights] using attemptsNow
    obtain ⟨point, _, same⟩ | ⟨new, came, took⟩ | ⟨started, empty, kept⟩ :=
      turn_cases buffers starts
    · have idle : buffers.unstarted ++ buffers.underway = [] := by
        simp [unstarted, underway, point]
      apply carry _ taken same handedThen _ last
      rwa [idle, List.append_nil]
    · apply carry _ (taken ++ [buffers.image new]) took
      · simp [handedThen, came, begin, swap]
      · rw [begin_attempts]
        exact attempts.next _
      · rw [if_neg (begin_started starts)]
        exact ⟨taken, rfl⟩
    · rw [if_neg started] at last
      obtain ⟨earlier, rfl⟩ := last
      apply carry _ (earlier ++ [buffers.image buffers.hub]) kept handedThen
      · rw [begin_attempts]
        exact attempts.again
      · rw [if_neg (begin_started starts)]
        exact ⟨earlier, rfl⟩

/-- In every run the spare framebuffer has one owner, so no signal overwrites another and nothing
is drawn in the framebuffer of the driver. The driver attempts a transfer of every image handed over
but the one that still waits, in order and at least once, and of none else; the images refreshed
whole are those of the attempts that do not fail, so while none fails that is every image it has
attempted, but for the one under way. And while the render task awaits a framebuffer the next turn
of the driver leaves it one. -/
theorem frames_refreshed_whole (blank : Image) (events : List (Event Image)) :
    let buffers := (Machine.run step (start blank) events).1
    let seen := Machine.observed step sights (start blank) events
    (buffers.render ≠ none → buffers.toPanel = none) ∧
      (buffers.toPanel ≠ none → buffers.toRender = none) ∧
      (∀ change, (buffers.draw change).image buffers.hub = buffers.image buffers.hub) ∧
      (∃ taken, handed seen = taken ++ (buffers.toPanel.map buffers.image).toList ∧
        Attempts taken (attempted seen ++ buffers.underway) ∧
        (refreshed seen).Sublist (attempted seen) ∧
        ((∀ image, Sight.ended image false ∉ seen) →
          Attempts taken (refreshed seen ++ buffers.underway))) ∧
      (buffers.render = none → ∀ starts, (buffers.turn starts).toRender ≠ none) := by
  have carried : ∀ (buffers : Buffers Image) event seen, (buffers.OneOwner ∧ buffers.Seen seen) →
      (buffers.step event).1.OneOwner ∧ (buffers.step event).1.Seen
        (seen ++ buffers.sights event) :=
    fun _ event _ before => ⟨step_oneOwner event before.1, step_seen event before.1 before.2⟩
  have startOwned : (start blank).OneOwner := ⟨.inl ⟨rfl, rfl, rfl⟩, fun _ => rfl⟩
  have startSeen : (start blank).Seen [] := ⟨[], rfl, .nil, rfl⟩
  obtain ⟨owned, taken, handedThen, attempts, _⟩ :=
    Machine.observed_invariant carried ⟨startOwned, startSeen⟩ events
  refine ⟨?_, ?_, fun change => (draw_image owned change).1,
    ⟨taken, handedThen, attempts, refreshed_sublist _, ?_⟩, ?_⟩
  · obtain ⟨⟨_, toPanel, _⟩ | ⟨render, _⟩ | ⟨render, _⟩, _⟩ := owned
    · exact fun _ => toPanel
    all_goals exact fun holds => absurd render holds
  · obtain ⟨⟨_, _, toRender⟩ | ⟨_, _, toRender⟩ | ⟨_, toPanel, _⟩, _⟩ := owned
    · exact fun _ => toRender
    · exact fun _ => toRender
    · exact fun holds => absurd toPanel holds
  · intro sound
    rw [refreshed_eq_attempted sound]
    exact attempts
  · intro awaits starts
    obtain ⟨⟨render, _⟩ | ⟨_, toPanel, _⟩ | ⟨_, toPanel, toRender⟩, begun⟩ := owned
    · simp [render] at awaits
    · obtain ⟨_, empty, _⟩ | ⟨new, _, took⟩ | ⟨_, empty, _⟩ := turn_cases
        (Machine.run step (start blank) events).1 starts
      · simp [toPanel] at empty
      · rw [took]
        exact Option.some_ne_none _
      · simp [toPanel] at empty
    · obtain ⟨point, _⟩ | ⟨new, came, _⟩ | ⟨_, _, kept⟩ := turn_cases
        (Machine.run step (start blank) events).1 starts
      · rw [begun point] at toRender
        exact absurd toRender.symm (Option.some_ne_none _)
      · rw [toPanel] at came
        exact absurd came.symm (Option.some_ne_none _)
      · rw [kept, begin, toRender]
        exact Option.some_ne_none _

end Buffers

namespace Screen

variable {textLit : TextRaster} {d : Display}

/-! ## The two places for a frame -/

/-- Whether the render task hands a frame over or draws one. -/
def Framing (d : Display) : Prop := d.task.point = .drawing ∨ d.task.point.hands = true

/-- A handler does not look at the frames. -/
theorem handle_unframed (d : Display) : (unframed d).handle = unframed d.handle := by
  have same : (unframed d).handling = d.handling := rfl
  cases working : d.handling with
  | none => simp only [Display.handle, same, working]
  | some handling =>
    obtain ⟨request, rest, updated⟩ := handling
    cases rest with
    | nil =>
      simp only [Display.handle, same, working]
      rfl
    | cons access rest =>
      simp only [Display.handle, same, working]
      cases access <;> rfl

/-- A refresh of the layout cache does not look at the frames. -/
theorem refresh_unframed (d : Display) (after : AfterRefresh) (stage : Refreshing) :
    (unframed d).refresh after stage = unframed (d.refresh after stage) := by
  have deadline : (unframed d).now = d.now := rfl
  have preview : (unframed d).shared = d.shared := rfl
  cases stage with
  | loading => rfl
  | comparing loaded =>
    simp only [Display.refresh, deadline]
    split_ifs <;> rfl
  | cloningPreview =>
    simp only [Display.refresh, preview]
    cases d.shared.previewLayout <;> rfl
  | cloningCustom => rfl

/-- A refresh of the layout cache leaves the frames alone and hands none over. -/
theorem refresh_frames (d : Display) (after : AfterRefresh) (stage : Refreshing) :
    (d.refresh after stage).handed = d.handed ∧ (d.refresh after stage).shown = d.shown ∧
      (d.refresh after stage).task.point.hands = false := by
  cases stage with
  | loading => exact ⟨rfl, rfl, rfl⟩
  | comparing loaded =>
    simp only [Display.refresh]
    split_ifs <;> exact ⟨rfl, rfl, rfl⟩
  | cloningPreview =>
    simp only [Display.refresh]
    cases d.shared.previewLayout <;> cases after <;> exact ⟨rfl, rfl, rfl⟩
  | cloningCustom => cases after <;> exact ⟨rfl, rfl, rfl⟩

/-- What an event does that no frame takes part in. -/
structure Frameless (textLit : TextRaster) (d : Display) (event : Display.Event) : Prop where
  /-- It does not look at the frames. -/
  blind : (unframed d).step textLit event =
    (unframed (d.step textLit event).1, (d.step textLit event).2)
  /-- It leaves the frame on its way alone. -/
  handed : (d.step textLit event).1.handed = d.handed
  /-- It leaves the frame on the panel alone. -/
  shown : (d.step textLit event).1.shown = d.shown
  /-- It neither begins nor ends a hand-over. -/
  hands : (d.step textLit event).1.task.point.hands = d.task.point.hands

/-- Outside a hand-over an access of the render task is one. -/
theorem renders_frameless (nowUnix : Option Int) (elsewhere : ¬Framing d) :
    Frameless textLit d (.renders nowUnix) := by
  have same : (unframed d).task = d.task := rfl
  cases point : d.task.point with
  | drawing => exact absurd (.inl point) elsewhere
  | handing animating => exact absurd (.inr (by rw [point]; rfl)) elsewhere
  | starting | resting wakeAt | pausing wakeAt =>
    constructor <;> simp only [Display.step, Display.render, same, point]
  | refreshing next stage =>
    obtain ⟨handed, shown, hands⟩ := refresh_frames d next stage
    constructor <;> simp only [Display.step, Display.render, same, point]
    · rw [refresh_unframed]
    · exact handed
    · exact shown
    · exact hands
  | beginning =>
    constructor <;> simp only [Display.step, Display.render, same, point]
    · rfl
    · rfl
    · rfl
    · simp only [Display.begin]
      split_ifs <;> rfl
  | checking =>
    have start : (unframed d).now = d.now := rfl
    constructor <;> simp only [Display.step, Display.render, same, point, start]
    all_goals split_ifs <;> rfl
  | clearing | taking | signalling =>
    constructor <;> simp only [Display.step, Display.render, same, point] <;> rfl

/-- The end of a wait does not look at the frames. -/
theorem wake_unframed (d : Display) (arm : Arm) :
    (unframed d).wake arm = unframed (d.wake arm) := by
  have task : (unframed d).task = d.task := rfl
  have display : (unframed d).display = d.display := rfl
  have shared : (unframed d).shared = d.shared := rfl
  have now : (unframed d).now = d.now := rfl
  cases point : d.task.point <;> cases arm <;>
    simp only [Display.wake, task, display, shared, now, point]
  case starting.display | resting.display | pausing.display => cases d.display <;> rfl
  all_goals split_ifs <;> rfl

/-- The end of a wait is such an event. -/
theorem wakes_frameless (arm : Arm) : Frameless textLit d (.wakes arm) := by
  constructor
  · simp only [Display.step, wake_unframed]
  all_goals
    simp only [Display.step]
    have woken := Display.woken d arm
    generalize d.wake arm = next at woken ⊢
    cases woken with
    | still => rfl
    | enters elsewhere state display redraw => first | rfl | exact elsewhere.symm
    | begins wakeAt pausing frame pending display => first | rfl | (rw [pausing]; rfl)
    | refreshes elsewhere redraw => first | rfl | exact elsewhere.symm

/-- Every event but the driver's turn and the drawing and handing over of a frame is one. -/
theorem frameless {event : Display.Event} (turns : event ≠ .exchanges)
    (elsewhere : ∀ nowUnix, event = .renders nowUnix → ¬Framing d) :
    Frameless textLit d event := by
  cases event with
  | passes ticks | signals state | applies cfg => exact ⟨rfl, rfl, rfl, rfl⟩
  | accepts request =>
    have same : (unframed d).handling = d.handling := rfl
    cases working : d.handling <;> constructor <;> simp only [Display.step, same, working]
    rfl
  | handles =>
    obtain ⟨task, handed, shown⟩ := @Display.handle_frames d
    constructor
    · simp only [Display.step, handle_unframed]
    · exact handed
    · exact shown
    · simp only [Display.step, task]
  | renders nowUnix => exact renders_frameless nowUnix (elsewhere nowUnix rfl)
  | wakes arm => exact wakes_frameless arm
  | exchanges => exact absurd rfl turns

/-! ## Refinement of the one-slot board -/

/-- The image of a frame. -/
def picture (textLit : TextRaster) (frame : Frame) : FrameBuffer := (frame.draw textLit).1

/-- The board with two framebuffers stands for the board with one slot. -/
structure Implements (textLit : TextRaster) (screen : Screen) (d : Display) : Prop where
  /-- They agree but for the frames under way. -/
  display : screen.display = unframed d
  /-- The spare framebuffer has one owner. -/
  owned : screen.buffers.OneOwner
  /-- The render task awaits a framebuffer while it hands a frame over. -/
  awaiting : screen.buffers.render = none ↔ d.task.point.hands = true
  /-- The frame on its way is in the slot of the driver. -/
  handed : screen.buffers.toPanel.map screen.buffers.image = d.handed.map (picture textLit)
  /-- The frame on the panel is with the driver. -/
  shown : screen.buffers.onPanel = d.shown.map (picture textLit)

/-- The event of the one-slot board. -/
def Event.oneSlot : Event → Display.Event
  | .board event => event
  | .misfires => .exchanges

/-- A turn of the driver is an exchange. -/
theorem turn_implements {screen : Screen} (related : Implements textLit screen d) (starts : Bool) :
    Implements textLit { screen with buffers := screen.buffers.turn starts } d.exchange := by
  obtain ⟨display, owned, awaiting, handed, shown⟩ := related
  have kept := Buffers.step_oneOwner (.turns true starts) owned
  have task : d.exchange.task = d.task := by
    unfold Display.exchange
    cases d.handed <;> rfl
  have unchanged : unframed d.exchange = unframed d := by
    unfold Display.exchange
    cases d.handed <;> rfl
  obtain ⟨point, empty, same⟩ | ⟨new, came, took⟩ | ⟨started, empty, stays⟩ :=
    Buffers.turn_cases screen.buffers starts
  · have idle : d.exchange = d := by
      rw [empty, Option.map_none, eq_comm, Option.map_eq_none_iff] at handed
      rw [Display.exchange, handed]
    rw [idle, same]
    exact ⟨display, owned, awaiting, handed, shown⟩
  · rw [came, Option.map_some, eq_comm, Option.map_eq_some_iff] at handed
    obtain ⟨frame, waiting, drawn⟩ := handed
    have taken : d.exchange = { d with handed := none, shown := some frame } := by
      rw [Display.exchange, waiting]
    rw [taken, took]
    have onPanel : ((screen.buffers.swap new).begin starts).onPanel =
        some (screen.buffers.image new) := by
      rw [Buffers.onPanel, if_neg (Buffers.begin_started starts)]
      rfl
    exact ⟨display, took ▸ kept, awaiting, rfl, by rw [onPanel, Option.map_some, drawn]⟩
  · have idle : d.exchange = d := by
      rw [empty, Option.map_none, eq_comm, Option.map_eq_none_iff] at handed
      rw [Display.exchange, handed]
    rw [idle, stays]
    have onPanel : (screen.buffers.begin starts).onPanel = screen.buffers.onPanel := by
      rw [Buffers.onPanel, Buffers.onPanel, if_neg (Buffers.begin_started starts), if_neg started]
      rfl
    exact ⟨display, stays ▸ kept, awaiting, handed, onPanel.trans shown⟩

/-- A frame drawn and handed over is in the slot of the driver. -/
theorem draws_implements {screen : Screen} (related : Implements textLit screen d)
    (nowUnix : Option Int) (drawing : d.task.point = .drawing) :
    Implements textLit (screen.render textLit nowUnix).1 (d.render textLit nowUnix).1 ∧
      (screen.render textLit nowUnix).2 = (d.render textLit nowUnix).2 := by
  obtain ⟨display, owned, awaiting, handed, shown⟩ := related
  have point : screen.display.task.point = .drawing := by rw [display]; exact drawing
  have frame : screen.display.frame nowUnix = d.frame nowUnix := by rw [display]; rfl
  have owns : screen.buffers.render ≠ none := by
    rw [ne_eq, awaiting, drawing]
    exact Bool.noConfusion
  obtain ⟨⟨render, toPanel, toRender⟩ | ⟨render, _⟩ | ⟨render, _⟩, started⟩ := owned
  · have owned : screen.buffers.OneOwner := ⟨.inl ⟨render, toPanel, toRender⟩, started⟩
    have drew := Buffers.step_oneOwner
      (.draws fun _ => ((d.frame nowUnix).draw textLit).1) owned
    have handedOver := Buffers.step_oneOwner .hands drew
    have waits : (screen.buffers.draw fun _ => ((d.frame nowUnix).draw textLit).1).hand.toPanel =
        some screen.buffers.hub.other := by
      simp [Buffers.draw, Buffers.hand, render]
    have drawn : (screen.buffers.draw fun _ => ((d.frame nowUnix).draw textLit).1).hand.image
        screen.buffers.hub.other = ((d.frame nowUnix).draw textLit).1 := by
      simp [Buffers.draw, Buffers.hand, render]
    have apart : screen.buffers.hub ≠ screen.buffers.hub.other := (Buffers.other_ne _).symm
    have onPanel : (screen.buffers.draw fun _ => ((d.frame nowUnix).draw textLit).1).hand.onPanel =
        screen.buffers.onPanel := by
      simp [Buffers.onPanel, Buffers.draw, Buffers.hand, render, apart]
    simp only [Screen.render, point, Display.render, drawing, frame]
    refine ⟨⟨?_, handedOver, ?_, ?_, ?_⟩, trivial⟩
    · rw [display]
      rfl
    · simp [Buffers.draw, Buffers.hand, render, Display.hand, Display.goTo, RenderPoint.hands]
    · rw [waits, Option.map_some, drawn]
      rfl
    · rw [onPanel, shown]
      rfl
  all_goals exact absurd render owns

/-- The render task goes on from a hand-over when the driver has left it the other framebuffer. -/
theorem regains_implements {screen : Screen} (related : Implements textLit screen d)
    (nowUnix : Option Int) {animating : Bool} (handing : d.task.point = .handing animating) :
    Implements textLit (screen.render textLit nowUnix).1 (d.render textLit nowUnix).1 ∧
      (screen.render textLit nowUnix).2 = (d.render textLit nowUnix).2 := by
  obtain ⟨display, owned, awaiting, handed, shown⟩ := related
  have point : screen.display.task.point = .handing animating := by rw [display]; exact handing
  have awaits : screen.buffers.render = none := by
    rw [awaiting, handing]
    rfl
  obtain ⟨⟨render, _⟩ | ⟨_, toPanel, toRender⟩ | ⟨render, toPanel, toRender⟩, started⟩ := owned
  · simp [render] at awaits
  · have waiting : ∃ frame, d.handed = some frame := by
      rw [toPanel, Option.map_some, eq_comm, Option.map_eq_some_iff] at handed
      obtain ⟨frame, waiting, _⟩ := handed
      exact ⟨frame, waiting⟩
    obtain ⟨frame, waiting⟩ := waiting
    simp only [Screen.render, point, toRender, Display.render, handing, waiting]
    exact ⟨⟨display, ⟨.inr (.inl ⟨awaits, toPanel, toRender⟩), started⟩, awaiting, handed, shown⟩,
      trivial⟩
  · have owned : screen.buffers.OneOwner := ⟨.inr (.inr ⟨render, toPanel, toRender⟩), started⟩
    have regained := Buffers.step_oneOwner .regains owned
    have idle : d.handed = none := by
      rwa [toPanel, Option.map_none, eq_comm, Option.map_eq_none_iff] at handed
    have fields : screen.buffers.regain = { screen.buffers with
        toRender := none, render := some screen.buffers.hub.other } := by
      rw [Buffers.regain, render, toRender]
    have elsewhere : (d.task.frameShown d.shared d.now animating).point.hands = false := by
      simp only [RenderTask.frameShown, RenderTask.block]
      cases d.task.pending with
      | none => cases animating <;> rfl
      | some next =>
        simp only
        split_ifs <;> rfl
    have shared : screen.display.shared = d.shared ∧ screen.display.now = d.now ∧
        screen.display.task = d.task := by rw [display]; exact ⟨rfl, rfl, rfl⟩
    simp only [Screen.render, point, toRender, Display.render, handing, idle]
    refine ⟨⟨?_, regained, ?_, ?_, ?_⟩, trivial⟩
    · rw [display]
      rfl
    · rw [fields, elsewhere]
      simp
    · rw [fields]
      simp only [toPanel, Option.map_none]
    · rw [fields]
      exact shown

/-- An event on the board with two framebuffers is the event on the board with one slot. -/
theorem step_implements {screen : Screen} (related : Implements textLit screen d)
    (event : Event) :
    Implements textLit (screen.step textLit event).1 (d.step textLit event.oneSlot).1 ∧
      (screen.step textLit event).2 = (d.step textLit event.oneSlot).2 := by
  have same : screen.display.task = d.task := by
    rw [related.display]
    rfl
  have through : ∀ other, Frameless textLit d other →
      Implements textLit ⟨(screen.display.step textLit other).1, screen.buffers⟩
          (d.step textLit other).1 ∧
        (screen.display.step textLit other).2 = (d.step textLit other).2 := by
    intro other frameless
    rw [related.display, frameless.blind]
    refine ⟨⟨rfl, related.owned, ?_, ?_, ?_⟩, rfl⟩
    · rw [frameless.hands]
      exact related.awaiting
    · rw [frameless.handed]
      exact related.handed
    · rw [frameless.shown]
      exact related.shown
  cases event with
  | misfires => exact ⟨turn_implements related false, rfl⟩
  | board event =>
    cases event with
    | exchanges => exact ⟨turn_implements related true, rfl⟩
    | renders nowUnix =>
      by_cases framing : Framing d
      · cases point : d.task.point with
        | drawing => exact draws_implements related nowUnix point
        | handing animating => exact regains_implements related nowUnix point
        | _ => simp [Framing, point, RenderPoint.hands] at framing
      · have outcome := through (.renders nowUnix) (renders_frameless nowUnix framing)
        have plain : screen.render textLit nowUnix =
            (⟨(screen.display.render textLit nowUnix).1, screen.buffers⟩,
              (screen.display.render textLit nowUnix).2) := by
          cases point : d.task.point with
          | drawing => exact absurd (.inl point) framing
          | handing animating => exact absurd (.inr (by rw [point]; rfl)) framing
          | _ => simp only [Screen.render, same, point]
        simp only [Screen.step, Event.oneSlot, Display.step, plain]
        exact outcome
    | passes ticks => exact through (.passes ticks) (frameless (by simp) (by simp))
    | signals state => exact through (.signals state) (frameless (by simp) (by simp))
    | applies cfg => exact through (.applies cfg) (frameless (by simp) (by simp))
    | accepts request => exact through (.accepts request) (frameless (by simp) (by simp))
    | handles => exact through .handles (frameless (by simp) (by simp))
    | wakes arm => exact through (.wakes arm) (frameless (by simp) (by simp))

/-- The render task on two framebuffers draws the frames that it draws on one slot, in the same
states of the board, and the panel shows the image of the frame that the one slot shows. -/
theorem two_framebuffers_refine_one_slot (textLit : TextRaster) (cfg : Config)
    (saved : Option Layout) (events : List Event) :
    let screen := Machine.run (step textLit) (boot cfg saved) events
    let board := Machine.run (Display.step textLit) (.boot cfg saved) (events.map Event.oneSlot)
    screen.1.display = unframed board.1 ∧
      screen.1.buffers.onPanel = board.1.shown.map (picture textLit) ∧
      screen.2.map Prod.snd = board.2.map Prod.snd := by
  have start : Implements textLit (boot cfg saved) (.boot cfg saved) :=
    ⟨rfl, ⟨.inl ⟨rfl, rfl, rfl⟩, fun _ => rfl⟩, by simp [boot, Buffers.start, Display.boot,
      RenderTask.init, RenderPoint.hands], rfl, rfl⟩
  have stepped : ∀ screen d event, Implements textLit screen d →
      Implements textLit (screen.step textLit event).1 (d.step textLit event.oneSlot).1 ∧
        (screen.step textLit event).2 = (d.step textLit event.oneSlot).2 :=
    fun _ _ event related => step_implements related event
  obtain ⟨related, history⟩ := Machine.run_simulation stepped start events
  simp only [Machine.run_map, List.map_map]
  refine ⟨related.display, related.shown, ?_⟩
  rw [history]
  rfl

end Screen

end Zugli
