import Zugli.Firmware.Display.Task
import Zugli.Verif.Httpd

/-!
# A fresh preview

A step of either core can come between any two of the other. A preview that has just been pushed
stays on show unless the render task is reverting an older one meanwhile: its check of the deadline
and its clearing of the preview are steps of their own.
-/

namespace Zugli

open Serde

/-! ## A handler that is not interrupted -/

namespace Access

variable (shared : Shared) (now : Nat)

/-- Accesses in a row are run one part after the other. -/
theorem runAll_append (earlier later : List Access) :
    runAll shared now (earlier ++ later) = runAll (runAll shared now earlier) now later :=
  List.foldl_append

/-- The accesses of `apply_layout` add up to it. -/
theorem runAll_applyLayout (layout : Option Layout) :
    runAll shared now (applyLayout layout) = shared.applyLayout layout := rfl

/-- The accesses of `set_preview` add up to it. -/
theorem runAll_setPreview (layout : Layout) :
    runAll shared now (setPreview layout) = shared.setPreview layout now := rfl

/-- The accesses of `end_preview` add up to it. -/
theorem runAll_endPreview : runAll shared now endPreview = shared.endPreview := rfl

end Access

/-- Without another task in between, a handler leaves the statics as handling it in one go does. -/
theorem LayoutRequest.runAll_accesses (serde : SerdeJsonCore) (faults : Faults) (device : Device)
    (now : Nat) (request : LayoutRequest) :
    Access.runAll device.shared now request.accesses =
      (device.handle serde faults now request.toRequest).1.shared := by
  cases request with
  | setLayout layout =>
    simp only [toRequest, Device.handle, Device.setLayout, Device.persist_shared]
    rw [accesses, Access.runAll_append, Access.runAll_append, Access.runAll_applyLayout,
      Access.runAll_endPreview]
    rfl
  | setPreview layout => exact Access.runAll_setPreview device.shared now layout.sanitize
  | endPreview => exact Access.runAll_endPreview device.shared now

/-- The access pushes a preview. -/
def Access.pushes : Access → Bool
  | .replacePreview _ | .armDeadline => true
  | _ => false

/-- The expiry check has found a deadline passed and the preview is still to be taken. -/
def RenderPoint.reverts : RenderPoint → Bool
  | .clearing | .taking => true
  | _ => false

/-- The task has handed a frame over and waits for the other buffer. -/
def RenderPoint.hands : RenderPoint → Bool
  | .handing _ => true
  | _ => false

namespace RenderTask

variable (task : RenderTask)

@[simp] theorem enter_reverts (state : DisplayState) :
    (task.enter state).point.reverts = false := rfl

@[simp] theorem refreshed_reverts (next : AfterRefresh) (layoutCache : LayoutCache) (push : Nat) :
    (task.refreshed next layoutCache push).point.reverts = false := by
  cases next <;> rfl

@[simp] theorem block_reverts (shared : Shared) (now : Nat) (animating : Bool) :
    (task.block shared now animating).point.reverts = false := by
  cases animating <;> rfl

@[simp] theorem frameShown_reverts (shared : Shared) (now : Nat) (animating : Bool) :
    (task.frameShown shared now animating).point.reverts = false := by
  unfold frameShown
  split
  · split <;> simp
  · simp

@[simp] theorem takeState_reverts (next : DisplayState) :
    (task.takeState next).point.reverts = false := by
  unfold takeState
  split <;> rfl

end RenderTask

namespace Display

/-! ## What an access leaves alone -/

section Accesses

variable (d : Display) (a : Access)

@[simp] theorem access_shared : (d.access a).shared = a.run d.shared d.now := by cases a <;> rfl

@[simp] theorem access_now : (d.access a).now = d.now := by cases a <;> rfl

@[simp] theorem access_task : (d.access a).task = d.task := by cases a <;> rfl

@[simp] theorem access_handling : (d.access a).handling = d.handling := by cases a <;> rfl

@[simp] theorem access_completed : (d.access a).completed = d.completed := by cases a <;> rfl

@[simp] theorem access_handed : (d.access a).handed = d.handed := by cases a <;> rfl

@[simp] theorem access_shown : (d.access a).shown = d.shown := by cases a <;> rfl

end Accesses

variable {textLit : TextRaster} {d next : Display}

/-- What the end of a wait can do. -/
inductive Woken (d : Display) : Display → Prop where
  /-- The arm is not ready. -/
  | still : Woken d d
  /-- The inner loop is entered. -/
  | enters (elsewhere : d.task.point.hands = false) (state : DisplayState)
    (display : Option DisplayState) (redraw : Bool) :
    Woken d { d with display, shared := { d.shared with redraw }, task := d.task.enter state }
  /-- An animating screen begins its next frame. -/
  | begins (wakeAt : Nat) (pausing : d.task.point = .pausing wakeAt) (frame : UInt32)
    (pending : Option DisplayState) (display : Option DisplayState) :
    Woken d { d with display, task := { d.task with frame, pending, point := .beginning } }
  /-- An animating screen refreshes its layout cache. -/
  | refreshes (elsewhere : d.task.point.hands = false) (redraw : Bool) :
    Woken d { d.goTo (.refreshing .begins .loading) with shared := { d.shared with redraw } }

/-- Every end of a wait is one of these. -/
theorem woken (d : Display) (arm : Arm) : Woken d (d.wake arm) := by
  unfold wake
  split
  case h_1 starting =>
    split
    · exact .enters (starting ▸ rfl) _ none d.shared.redraw
    · exact .still
  case h_2 resting =>
    split
    · exact .enters (resting ▸ rfl) _ d.display d.shared.redraw
    · exact .still
  case h_3 resting =>
    split
    · exact .enters (resting ▸ rfl) _ none d.shared.redraw
    · exact .still
  case h_4 resting =>
    split
    · exact .enters (resting ▸ rfl) _ d.display false
    · exact .still
  case h_5 _ _ wakeAt pausing =>
    split
    · exact .begins wakeAt pausing _ d.task.pending d.display
    · exact .still
  case h_6 _ _ wakeAt pausing =>
    split
    case h_1 next _ =>
      unfold RenderTask.takeState
      split
      · exact .begins wakeAt pausing d.task.frame (some next) none
      · exact .enters (pausing ▸ rfl) next none d.shared.redraw
    case h_2 => exact .still
  case h_7 pausing =>
    split
    · exact .refreshes (pausing ▸ rfl) false
    · exact .still
  case h_8 => exact .still

/-! ## A fresh preview -/

/-- The render task is reverting a preview. -/
def Reverting (d : Display) : Prop := d.task.point.reverts = true

/-- The next access of the handler at work. -/
def nextAccess (d : Display) : Option Access := d.handling.bind fun handling => handling.rest.head?

/-- No request has begun to change anything and not been answered. -/
def Settled (d : Display) : Prop :=
  ∀ handling ∈ d.handling, handling.rest = handling.request.accesses

/-- A push and a revert keep out of each other's way: no access of a push comes while the render
task reverts, and it begins to revert only when the deadline armed by then has passed too and no
push is between its two accesses. -/
def Apart (d : Display) : Event → Prop
  | .handles => d.nextAccess.any Access.pushes = true → ¬d.Reverting
  | .renders _ => d.task.point = .checking → d.task.start.deadline ≤ d.now →
      d.shared.previewDeadline ≤ d.now ∧ d.nextAccess ≠ some .armDeadline
  | _ => True

instance decidableReverting (d : Display) : Decidable d.Reverting :=
  inferInstanceAs (Decidable (_ = _))

instance decidableSettled (d : Display) : Decidable d.Settled :=
  inferInstanceAs (Decidable (∀ handling ∈ d.handling, _))

instance decidableApart (d : Display) : ∀ event, Decidable (d.Apart event)
  | .handles => inferInstanceAs (Decidable (_ → _))
  | .renders _ => inferInstanceAs (Decidable (_ → _ → _))
  | .passes _ | .signals _ | .applies _ | .accepts _ | .wakes _ | .exchanges => .isTrue trivial

/-- A pushed layout is in place and not about to be taken. -/
def InPlace (d : Display) (layout : Layout) : Prop :=
  d.shared.previewLayout = some layout ∧ ¬d.Reverting

/-- The deadline armed last has passed, or the layout is in place under it. -/
def Fresh (d : Display) (layout : Layout) : Prop :=
  d.armedAt + previewTtl ≤ d.now ∨
    d.InPlace layout ∧ d.shared.previewDeadline = d.armedAt + previewTtl

/-- The preview completed last is fresh. -/
def CompletedFresh (d : Display) : Prop :=
  ∀ layout, d.completed = some (.setPreview layout) → d.Fresh layout.sanitize

/-- What holds while a handler has some accesses left. -/
def KeptAt (d : Display) (rest : List Access) : LayoutRequest → Prop
  | .setPreview layout =>
    rest = Access.setPreview layout.sanitize ∧ d.CompletedFresh ∨
      rest = [.armDeadline, .signalRedraw] ∧ d.InPlace layout.sanitize ∨
      (rest = [.signalRedraw] ∨ rest = []) ∧ d.Fresh layout.sanitize
  | request => rest = request.accesses ∧ d.CompletedFresh ∨ rest.length < request.accesses.length

/-- No push completed last has been dropped before its deadline. -/
def Kept (d : Display) : Prop :=
  match d.handling with
  | none => d.CompletedFresh
  | some handling => d.KeptAt handling.rest handling.request

/-- A preview on show stays so while only the rest moves. -/
theorem Kept.of_moved (kept : d.Kept) (handling : next.handling = d.handling)
    (completed : next.completed = d.completed)
    (fresh : ∀ layout, d.Fresh layout → next.Fresh layout)
    (inPlace : d.nextAccess = some .armDeadline →
      ∀ layout, d.InPlace layout → next.InPlace layout) : next.Kept := by
  have moved : d.CompletedFresh → next.CompletedFresh := by
    intro done layout last
    rw [completed] at last
    exact fresh _ (done layout last)
  unfold Kept at kept ⊢
  rw [handling]
  cases working : d.handling with
  | none =>
    rw [working] at kept
    exact moved kept
  | some work =>
    rw [working] at kept
    obtain ⟨request, rest, updated⟩ := work
    cases request with
    | setPreview layout =>
      rcases kept with ⟨begun, done⟩ | ⟨replaced, placed⟩ | ⟨armed, lasting⟩
      · exact .inl ⟨begun, moved done⟩
      · have arms : d.nextAccess = some .armDeadline := by
          simp only at replaced
          simp [nextAccess, working, replaced]
        exact .inr (.inl ⟨replaced, inPlace arms _ placed⟩)
      · exact .inr (.inr ⟨armed, fresh _ lasting⟩)
    | setLayout layout => exact kept.imp_left fun ⟨begun, done⟩ => ⟨begun, moved done⟩
    | endPreview => exact kept.imp_left fun ⟨begun, done⟩ => ⟨begun, moved done⟩

/-- A step that leaves the preview, the handler and the clock alone and begins no revert. -/
structure Spares (d next : Display) : Prop where
  /-- The handler. -/
  handling : next.handling = d.handling
  /-- The last answer. -/
  completed : next.completed = d.completed
  /-- The clock. -/
  now : next.now = d.now
  /-- When the deadline was armed. -/
  armedAt : next.armedAt = d.armedAt
  /-- The deadline. -/
  deadline : next.shared.previewDeadline = d.shared.previewDeadline
  /-- The preview. -/
  preview : next.shared.previewLayout = d.shared.previewLayout
  /-- The revert. -/
  reverting : next.Reverting → d.Reverting

/-- A layout in place stays so. -/
theorem Spares.inPlace (spares : Spares d next) {layout : Layout} (placed : d.InPlace layout) :
    next.InPlace layout :=
  ⟨spares.preview.trans placed.1, fun reverting => placed.2 (spares.reverting reverting)⟩

/-- A fresh preview stays so. -/
theorem Spares.fresh (spares : Spares d next) {layout : Layout} (lasting : d.Fresh layout) :
    next.Fresh layout := by
  unfold Fresh
  rw [spares.armedAt, spares.now, spares.deadline]
  exact lasting.imp_right fun ⟨placed, armed⟩ => ⟨spares.inPlace placed, armed⟩

/-- Nothing is dropped. -/
theorem Spares.kept (spares : Spares d next) (kept : d.Kept) : next.Kept :=
  kept.of_moved spares.handling spares.completed (fun _ => spares.fresh)
    fun _ _ => spares.inPlace

/-- The render task moves, not into a revert. -/
theorem task_spares {task : RenderTask} (outside : task.point.reverts = false) :
    Spares d { d with task } :=
  ⟨rfl, rfl, rfl, rfl, rfl, rfl, fun reverting => Bool.noConfusion (outside.symm.trans reverting)⟩

/-- A refresh of the layout cache leaves the preview alone. -/
theorem refresh_spares (after : AfterRefresh) (stage : Refreshing) :
    Spares d (d.refresh after stage) := by
  cases stage with
  | loading => exact task_spares rfl
  | comparing deadline =>
    simp only [refresh]
    split
    · exact task_spares rfl
    · exact task_spares rfl
  | cloningPreview =>
    simp only [refresh]
    split
    · exact task_spares (by simp)
    · exact task_spares rfl
  | cloningCustom => exact task_spares (by simp)

/-- A wait that ends leaves the preview alone. -/
theorem Woken.spares (woken : Woken d next) : Spares d next := by
  cases woken with
  | still => exact ⟨rfl, rfl, rfl, rfl, rfl, rfl, id⟩
  | enters | begins | refreshes =>
    exact ⟨rfl, rfl, rfl, rfl, rfl, rfl, fun reverting => Bool.noConfusion reverting⟩

/-- The panel driver leaves the preview alone. -/
theorem exchange_spares : Spares d d.exchange := by
  unfold exchange
  split
  · exact ⟨rfl, rfl, rfl, rfl, rfl, rfl, id⟩
  · exact ⟨rfl, rfl, rfl, rfl, rfl, rfl, id⟩

/-- A handler that goes on drops nothing when its pushes keep out of a revert. -/
theorem handle_kept (apart : d.Apart .handles) (kept : d.Kept) : d.handle.Kept := by
  unfold handle
  split
  case h_1 => exact kept
  case h_2 request updated working =>
    intro layout last
    obtain rfl : request = .setPreview layout := Option.some.inj last
    simp only [Kept, working] at kept
    rcases kept with ⟨begun, -⟩ | ⟨replaced, -⟩ | ⟨-, lasting⟩
    · cases begun
    · cases replaced
    · exact lasting
  case h_3 request a rest updated working =>
    simp only [Kept, working] at kept
    have apart : a.pushes = true → ¬d.Reverting := by
      simpa only [Apart, nextAccess, working, Option.bind_some, List.head?_cons, Option.any_some]
        using apart
    cases request with
    | setPreview layout =>
      rcases kept with ⟨begun, -⟩ | ⟨replaced, placed⟩ | ⟨armed, lasting⟩
      · obtain ⟨rfl, rfl⟩ := List.cons.inj begun
        exact .inr (.inl ⟨rfl, rfl, apart rfl⟩)
      · obtain ⟨rfl, rfl⟩ := List.cons.inj replaced
        exact .inr (.inr ⟨.inl rfl, .inr ⟨placed, rfl⟩⟩)
      · obtain ⟨rfl, rfl⟩ := List.cons.inj (armed.resolve_right (List.cons_ne_nil _ _))
        exact .inr (.inr ⟨.inr rfl, lasting⟩)
    | setLayout layout =>
      refine .inr ?_
      rcases kept with ⟨begun, -⟩ | shorter
      · exact begun ▸ Nat.lt_succ_self _
      · exact Nat.lt_of_succ_lt shorter
    | endPreview =>
      refine .inr ?_
      rcases kept with ⟨begun, -⟩ | shorter
      · exact begun ▸ Nat.lt_succ_self _
      · exact Nat.lt_of_succ_lt shorter

/-- A step of a revert drops only what has expired. -/
theorem revert_kept {a : Access} {point : RenderPoint} (armedAt : (d.access a).armedAt = d.armedAt)
    (reverting : d.Reverting) (kept : d.Kept) : ((d.access a).goTo point).Kept := by
  refine kept.of_moved (by simp [goTo]) (by simp [goTo]) ?_ ?_
  · rintro layout (passed | ⟨placed, -⟩)
    · refine .inl ?_
      simpa only [goTo, armedAt, access_now] using passed
    · exact absurd reverting placed.2
  · exact fun _ layout placed => absurd reverting placed.2

/-- The render task drops nothing when it begins a revert apart from pushes. -/
theorem render_kept {nowUnix : Option Int} (apart : d.Apart (.renders nowUnix)) (kept : d.Kept) :
    (d.render textLit nowUnix).1.Kept := by
  unfold render
  split
  case h_1 after stage _ => exact (refresh_spares after stage).kept kept
  case h_2 =>
    simp only [begin]
    split
    · exact (task_spares rfl).kept kept
    · exact (task_spares rfl).kept kept
  case h_3 checking =>
    by_cases late : d.task.start.deadline ≤ d.now
    · rw [if_pos late]
      obtain ⟨passed, between⟩ := apart checking late
      refine kept.of_moved rfl rfl ?_ (fun arms => absurd arms between)
      rintro layout (done | ⟨-, armed⟩)
      · exact .inl done
      · exact .inl (armed ▸ passed)
    · rw [if_neg late]
      exact (task_spares rfl).kept kept
  case h_4 clearing =>
    have reverting : d.Reverting := by rw [Reverting, clearing, RenderPoint.reverts]
    exact revert_kept rfl reverting kept
  case h_5 taking =>
    have reverting : d.Reverting := by rw [Reverting, taking, RenderPoint.reverts]
    exact revert_kept rfl reverting kept
  case h_6 | h_7 =>
    refine Spares.kept (d := d) ⟨rfl, rfl, rfl, rfl, rfl, rfl, fun reverting => ?_⟩ kept
    exact Bool.noConfusion reverting
  case h_8 =>
    split
    · exact kept
    · exact (task_spares (by simp)).kept kept
  all_goals exact kept

/-- A step drops nothing when pushes and reverts keep apart. -/
theorem step_kept (event : Event) (kept : d.Kept) (apart : d.Apart event) :
    (d.step textLit event).1.Kept := by
  cases event with
  | passes ticks =>
    refine kept.of_moved rfl rfl ?_ (fun _ _ placed => placed)
    rintro layout (passed | lasting)
    · exact .inl (Nat.le_trans passed (Nat.le_add_right ..))
    · exact .inr lasting
  | signals state => exact Spares.kept (d := d) ⟨rfl, rfl, rfl, rfl, rfl, rfl, id⟩ kept
  | applies cfg => exact Spares.kept (d := d) ⟨rfl, rfl, rfl, rfl, rfl, rfl, id⟩ kept
  | accepts request =>
    simp only [step]
    split
    case h_1 idle =>
      simp only [Kept, idle] at kept
      cases request with
      | setPreview layout => exact .inl ⟨rfl, kept⟩
      | setLayout layout => exact .inl ⟨rfl, kept⟩
      | endPreview => exact .inl ⟨rfl, kept⟩
    case h_2 => exact kept
  | handles => exact handle_kept apart kept
  | renders nowUnix => exact render_kept apart kept
  | wakes arm => exact (d.woken arm).spares.kept kept
  | exchanges => exact exchange_spares.kept kept

/-- A preview completed last is fresh until the next request begins. -/
theorem Kept.completedFresh (kept : d.Kept) (settled : d.Settled) : d.CompletedFresh := by
  unfold Kept at kept
  split at kept
  case h_1 => exact kept
  case h_2 handling working =>
    have unbegun : handling.rest = handling.request.accesses := settled handling working
    obtain ⟨request, rest, updated⟩ := handling
    cases request with
    | setPreview layout =>
      rcases kept with ⟨-, done⟩ | ⟨replaced, -⟩ | ⟨armed, -⟩
      · exact done
      · cases unbegun.symm.trans replaced
      · rcases armed with armed | armed
        · cases unbegun.symm.trans armed
        · cases unbegun.symm.trans armed
    | setLayout layout =>
      exact (kept.resolve_right (Nat.not_lt_of_le (Nat.le_of_eq (congrArg _ unbegun.symm)))).2
    | endPreview =>
      exact (kept.resolve_right (Nat.not_lt_of_le (Nat.le_of_eq (congrArg _ unbegun.symm)))).2

/-- A preview pushed last is on show for as long as it was armed for, until the next request
begins. -/
theorem fresh_preview_kept (textLit : TextRaster) (cfg : Config) (saved : Option Layout)
    (events : List Event)
    (apart : Machine.Along (step textLit) Apart (boot cfg saved) events) :
    let d := (after textLit cfg saved events).1
    d.Settled → ∀ layout, d.completed = some (.setPreview layout) →
      d.now < d.armedAt + previewTtl → d.shared.activePreview d.now = some layout.sanitize := by
  intro d settled layout last live
  have booted : (boot cfg saved).Kept := fun layout last => by cases last
  have kept : d.Kept :=
    Machine.run_invariant_along (fun d event => step_kept event) booted apart
  rcases kept.completedFresh settled layout last with passed | ⟨⟨preview, -⟩, deadline⟩
  · exact absurd live (Nat.not_lt.mpr passed)
  · have armed : d.shared.previewActive d.now = true := by
      simp only [Shared.previewActive, deadline, Bool.and_eq_true, bne_iff_ne, decide_eq_true_eq]
      exact ⟨Nat.ne_of_gt (Nat.lt_of_le_of_lt (Nat.zero_le _) live), live⟩
    rw [Shared.activePreview, if_pos armed, preview]

/-- A raster on which no text lights a pixel. -/
def noText : TextRaster := fun _ _ _ _ => false

/-- A draft of one divider. -/
def draft : Layout :=
  ⟨1, ⟨[⟨5, 8, 31, 48, 0, 1, 2, none, 0, .empty, 0, 0, false, 1, 0, 0⟩], by decide⟩⟩

/-- The departures board of a stop that has no departure. -/
def quietBoard : DisplayState := .departures .empty .empty

/-- The draft is pushed, by a handler that is not interrupted. -/
def pushesDraft : List Event :=
  [.accepts (.setPreview draft), .handles, .handles, .handles, .handles]

/-- The render task makes so many accesses. -/
def renderings (count : Nat) : List Event := List.replicate count (.renders none)

/-- The draft expires before the first frame, whose check finds its deadline passed. -/
def expiredDraft : List Event :=
  pushesDraft ++ [.passes previewTtl, .signals quietBoard, .wakes .display] ++ renderings 5

/-- A draft that is pushed once the older one is reverted stays on show. -/
theorem fresh_preview_kept_pushed :
    let d := (after noText .default none (expiredDraft ++ renderings 3 ++ pushesDraft)).1
    d.shared.activePreview d.now = some draft.sanitize :=
  fresh_preview_kept noText .default none (expiredDraft ++ renderings 3 ++ pushesDraft)
    (by decide +kernel) (by decide +kernel) draft (by decide +kernel) (by decide +kernel)

/-- A draft that is pushed between the check and the revert is dropped. -/
theorem fresh_preview_dropped :
    let d := (after noText .default none (expiredDraft ++ pushesDraft ++ renderings 1)).1
    d.handling = none ∧ d.completed = some (.setPreview draft) ∧
      d.now < d.armedAt + previewTtl ∧ d.shared.activePreview d.now ≠ some draft.sanitize := by
  decide +kernel

end Display

end Zugli
