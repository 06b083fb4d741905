import Zugli.Verif.Render.Expired

/-!
# The layouts on the panel

Every change of the layouts is latched once it is made, and the layout cache is refreshed wherever
the latch is taken and wherever a deadline is reached. So a screen that stands still with nothing
left to wake it shows the layouts in force.
-/

namespace Zugli

/-- The task goes on with what it has cached. -/
def RenderPoint.caches : RenderPoint → Bool
  | .beginning | .checking | .drawing | .handing _ | .resting _ | .pausing _ => true
  | .starting | .refreshing .. | .clearing | .taking | .signalling => false

namespace Display

variable {textLit : TextRaster} {d next : Display}

/-- A handler has updated a mirror and its latch is still to come. -/
def MidUpdate (d : Display) : Prop := ∃ handling ∈ d.handling, handling.updated = true

/-- The deadline of the preview is reached. -/
def Reached (d : Display) : Prop :=
  d.shared.previewDeadline ≠ 0 ∧ d.shared.previewDeadline ≤ d.now

/-- Something is still to wake the render task, which then refreshes the layout cache. -/
def Roused (d : Display) : Prop := d.MidUpdate ∨ d.shared.redraw = true ∨ d.Reached

/-- The layouts in force. -/
def layoutsNow (d : Display) : LayoutCache := refreshLayoutCache d.shared d.now

/-- The layout cache, or as much as is read of it, is up to date where it is not read anew. -/
def UpToDate (d : Display) : Prop :=
  match d.task.point with
  | .refreshing _ (.comparing deadline) => deadline = d.shared.previewDeadline
  | .refreshing _ .cloningPreview => d.shared.previewActive d.now = true
  | .refreshing _ .cloningCustom => d.shared.activePreview d.now = none
  | .beginning | .checking | .drawing | .handing _ | .resting _ | .pausing _ =>
    d.task.layoutCache = d.layoutsNow
  | .starting | .refreshing _ .loading | .clearing | .taking | .signalling => True

/-- Each update a handler makes is latched before it answers. -/
def Latching (d : Display) : Prop :=
  ∀ handling ∈ d.handling, handling.rest.foldl Access.leaves handling.updated = false

/-- Every request latches its updates. -/
theorem accesses_latch (request : LayoutRequest) :
    request.accesses.foldl Access.leaves false = false := by
  cases request <;> rfl

/-- The render task is roused, or what it has read is up to date. -/
def Current (d : Display) : Prop := d.Roused ∨ d.UpToDate

/-- The render task leaves the handler alone. -/
theorem render_handling (nowUnix : Option Int) :
    (d.render textLit nowUnix).1.handling = d.handling := by
  unfold render
  split
  case h_1 after stage _ => exact (refresh_spares after stage).handling
  case h_3 => split <;> rfl
  case h_8 => split <;> rfl
  all_goals rfl

/-- What the task goes on with is up to date, if nothing is to rouse it. -/
theorem Current.cached (current : d.Current) (caches : d.task.point.caches = true) :
    d.Roused ∨ d.task.layoutCache = d.layoutsNow := by
  refine current.imp_right fun upToDate => ?_
  unfold UpToDate at upToDate
  cases point : d.task.point with
  | beginning | checking | drawing | handing | resting | pausing =>
    rw [point] at upToDate
    exact upToDate
  | starting | refreshing | clearing | taking | signalling =>
    rw [point] at caches
    exact Bool.noConfusion caches

/-- A handler that goes on keeps its promise to latch. -/
theorem step_latching (event : Event) (latching : d.Latching) :
    (d.step textLit event).1.Latching := by
  cases event with
  | accepts request =>
    simp only [step]
    split
    case h_1 =>
      intro handling found
      obtain rfl : ⟨request, request.accesses, false⟩ = handling := Option.some.inj found
      exact accesses_latch request
    case h_2 => exact latching
  | handles =>
    simp only [step, handle]
    split
    case h_1 => exact latching
    case h_2 =>
      intro handling found
      exact absurd found (Option.not_mem_none handling)
    case h_3 request a rest updated working =>
      intro handling found
      obtain rfl : ⟨request, rest, a.leaves updated⟩ = handling := Option.some.inj found
      have promised := latching _ working
      exact promised
  | renders nowUnix =>
    intro handling found
    rw [step, render_handling] at found
    exact latching handling found
  | wakes arm =>
    intro handling found
    rw [step, (d.woken arm).spares.handling] at found
    exact latching handling found
  | exchanges =>
    intro handling found
    rw [step, exchange_spares.handling] at found
    exact latching handling found
  | passes ticks => exact latching
  | signals state => exact latching
  | applies cfg => exact latching

/-- The preview is as active as it was while its deadline is not reached. -/
theorem activePreview_later (ticks : Nat) (ahead : ¬{ d with now := d.now + ticks }.Reached) :
    d.shared.previewActive (d.now + ticks) = d.shared.previewActive d.now := by
  unfold Reached at ahead
  unfold Shared.previewActive
  by_cases armed : d.shared.previewDeadline = 0
  · simp [armed]
  · have later : d.now + ticks < d.shared.previewDeadline := by
      simpa [armed] using ahead
    have earlier : d.now < d.shared.previewDeadline := by omega
    simp [later, earlier]

/-- Time that passes reaches a deadline or leaves the layouts in force as they are. -/
theorem passes_current (ticks : Nat) (current : d.Current) :
    { d with now := d.now + ticks }.Current := by
  by_cases reached : { d with now := d.now + ticks }.Reached
  · exact .inl (.inr (.inr reached))
  · have active := activePreview_later ticks reached
    rcases current with (mid | redraw | ⟨armed, passed⟩) | upToDate
    · exact .inl (.inl mid)
    · exact .inl (.inr (.inl redraw))
    · exact absurd ⟨armed, Nat.le_trans passed (Nat.le_add_right ..)⟩ reached
    · refine .inr ?_
      simpa only [UpToDate, layoutsNow, refreshLayoutCache, Shared.activePreview, active]
        using upToDate

/-- A handler that goes on rouses the render task with each update. -/
theorem handle_current (latching : d.Latching) (current : d.Current) : d.handle.Current := by
  unfold handle
  split
  case h_1 => exact current
  case h_2 request updated working =>
    rcases current with (⟨handling, found, mid⟩ | roused) | upToDate
    · have latched : handling.updated = false := by
        have promised := latching handling found
        rw [working] at found
        cases found
        exact promised
      exact Bool.noConfusion (latched.symm.trans mid)
    · exact .inl (.inr roused)
    · exact .inr upToDate
  case h_3 request a rest updated working =>
    cases a with
    | signalRedraw => exact .inl (.inr (.inl rfl))
    | signalSelectionChanged =>
      rcases current with (⟨handling, found, mid⟩ | roused) | upToDate
      · rw [working] at found
        cases found
        exact .inl (.inl ⟨_, rfl, mid⟩)
      · exact .inl (.inr roused)
      · exact .inr upToDate
    | replaceLayout | replacePreview | armDeadline | clearDeadline | takePreview =>
      exact .inl (.inl ⟨_, rfl, rfl⟩)

/-- The layouts in force while a preview is active. -/
theorem layoutsNow_preview {preview : Layout} (active : d.shared.previewActive d.now = true)
    (found : d.shared.previewLayout = some preview) : d.layoutsNow = ⟨some preview, none⟩ := by
  simp only [layoutsNow, refreshLayoutCache, Shared.activePreview, active, found, if_true]

/-- The layouts in force while none is. -/
theorem layoutsNow_custom (inactive : d.shared.activePreview d.now = none) :
    d.layoutsNow = ⟨none, d.shared.customLayout⟩ := by
  simp only [layoutsNow, refreshLayoutCache, inactive]

/-- A layout cache that has been refreshed is up to date. -/
theorem refreshed_upToDate {after : AfterRefresh} {layoutCache : LayoutCache} {push : Nat}
    (read : d.layoutsNow = layoutCache) :
    { d with task := d.task.refreshed after layoutCache push }.UpToDate := by
  cases after with
  | begins => exact read.symm
  | draws => exact read.symm

/-- A refresh of the layout cache reads the layouts in force, or is roused anew. -/
theorem refresh_current (after : AfterRefresh) (stage : Refreshing)
    (point : d.task.point = .refreshing after stage) (current : d.Current) :
    (d.refresh after stage).Current := by
  cases stage with
  | loading => exact .inr rfl
  | comparing deadline =>
    have loaded : d.Roused ∨ deadline = d.shared.previewDeadline := by
      simpa only [Current, UpToDate, point] using current
    simp only [refresh]
    split
    case isTrue active =>
      refine loaded.imp id fun same => ?_
      rw [same] at active
      exact active
    case isFalse inactive =>
      refine loaded.imp id fun same => ?_
      show d.shared.activePreview d.now = none
      rw [same] at inactive
      exact if_neg inactive
  | cloningPreview =>
    have active : d.Roused ∨ d.shared.previewActive d.now = true := by
      simpa only [Current, UpToDate, point] using current
    simp only [refresh]
    split
    case h_1 preview found =>
      exact active.imp id fun active => refreshed_upToDate (layoutsNow_preview active found)
    case h_2 missing =>
      refine active.imp id fun active => ?_
      show d.shared.activePreview d.now = none
      rw [Shared.activePreview, if_pos active, missing]
  | cloningCustom =>
    have inactive : d.Roused ∨ d.shared.activePreview d.now = none := by
      simpa only [Current, UpToDate, point] using current
    exact inactive.imp id fun inactive => refreshed_upToDate (layoutsNow_custom inactive)

/-- The task keeps its layout cache while it waits, unless it is about to refresh it. -/
theorem frameShown_current {animating : Bool} (point : d.task.point = .handing animating)
    (current : d.Current) :
    { d with task := d.task.frameShown d.shared d.now animating }.Current := by
  have blocked : { d with task := d.task.block d.shared d.now animating }.Current := by
    have cached := current.cached (point ▸ rfl)
    cases animating with
    | true => exact cached
    | false => exact cached
  unfold RenderTask.frameShown
  split
  · split
    · exact .inr trivial
    · exact blocked
  · exact blocked

/-- The render task is roused or up to date after each of its accesses. -/
theorem render_current (nowUnix : Option Int) (current : d.Current) :
    (d.render textLit nowUnix).1.Current := by
  unfold render
  split
  case h_1 after stage point => exact refresh_current after stage point current
  case h_2 point =>
    have cached := current.cached (point ▸ rfl)
    simp only [begin]
    split
    · exact cached
    · exact cached
  case h_3 point =>
    have cached := current.cached (point ▸ rfl)
    split
    · exact .inr trivial
    · exact cached
  case h_4 | h_5 | h_6 => exact .inr trivial
  case h_7 point =>
    have cached := current.cached (point ▸ rfl)
    exact cached
  case h_8 animating point =>
    split
    · exact current
    · exact frameShown_current point current
  all_goals exact current

/-- The end of a wait takes the latch only to refresh the layout cache. -/
theorem Woken.current (woken : Woken d next) (current : d.Current) : next.Current := by
  cases woken with
  | still => exact current
  | enters => exact .inr trivial
  | begins wakeAt pausing =>
    have cached := current.cached (pausing ▸ rfl)
    exact cached
  | refreshes => exact .inr trivial

/-- The render task is roused or up to date after each step. -/
theorem step_current (event : Event) (latching : d.Latching) (current : d.Current) :
    (d.step textLit event).1.Current := by
  cases event with
  | passes ticks => exact passes_current ticks current
  | signals state => exact current
  | applies cfg => exact current
  | accepts request =>
    simp only [step]
    split
    case h_1 idle =>
      rcases current with (⟨handling, found, -⟩ | roused) | upToDate
      · cases idle.symm.trans found
      · exact .inl (.inr roused)
      · exact .inr upToDate
    case h_2 => exact current
  | handles => exact handle_current latching current
  | renders nowUnix => exact render_current nowUnix current
  | wakes arm => exact (d.woken arm).current current
  | exchanges =>
    simp only [step, exchange]
    split
    · exact current
    · exact current

/-- Outside a hand-over no frame is on its way, and a blocked screen shows what is cached. -/
def Presents (d : Display) : Prop :=
  match d.task.point with
  | .handing _ => ∃ frame, (d.handed.or d.shown) = some frame ∧ frame.layout = d.task.layoutCache
  | .resting _ | .pausing _ =>
    d.handed = none ∧ ∃ frame, d.shown = some frame ∧ frame.layout = d.task.layoutCache
  | _ => d.handed = none

/-- Outside a hand-over no frame is on its way. -/
theorem Presents.handed (presents : d.Presents) (elsewhere : d.task.point.hands = false) :
    d.handed = none := by
  unfold Presents at presents
  split at presents
  case h_1 point =>
    rw [point] at elsewhere
    exact Bool.noConfusion elsewhere
  case h_2 | h_3 => exact presents.1
  case h_4 => exact presents

/-- A handler leaves the render task and its frames alone. -/
theorem handle_frames :
    d.handle.task = d.task ∧ d.handle.handed = d.handed ∧ d.handle.shown = d.shown := by
  unfold handle
  split
  case h_3 request a rest updated working =>
    exact ⟨access_task d a, access_handed d a, access_shown d a⟩
  all_goals exact ⟨rfl, rfl, rfl⟩

/-- A refresh leaves the frames alone and ends before the next one. -/
theorem refresh_presents (after : AfterRefresh) (stage : Refreshing) (idle : d.handed = none) :
    (d.refresh after stage).Presents := by
  cases stage with
  | loading => exact idle
  | comparing deadline =>
    simp only [refresh]
    split
    · exact idle
    · exact idle
  | cloningPreview =>
    simp only [refresh]
    split
    · cases after <;> exact idle
    · exact idle
  | cloningCustom => cases after <;> exact idle

/-- A frame is handed over as it is drawn, and the task waits until it is taken. -/
theorem render_presents (nowUnix : Option Int) (presents : d.Presents) :
    (d.render textLit nowUnix).1.Presents := by
  unfold render
  split
  case h_1 after stage point =>
    have idle := presents.handed (point ▸ rfl)
    exact refresh_presents after stage idle
  case h_2 point =>
    have idle := presents.handed (point ▸ rfl)
    simp only [begin]
    split
    · exact idle
    · exact idle
  case h_3 point =>
    have idle := presents.handed (point ▸ rfl)
    split
    · exact idle
    · exact idle
  case h_4 point | h_5 point | h_6 point =>
    have idle := presents.handed (point ▸ rfl)
    exact idle
  case h_7 => exact ⟨_, rfl, rfl⟩
  case h_8 animating point =>
    have last : ∃ frame, (d.handed.or d.shown) = some frame ∧ frame.layout = d.task.layoutCache := by
      simpa only [Presents, point] using presents
    split
    case h_1 => exact presents
    case h_2 taken =>
      rw [taken, Option.none_or] at last
      have blocked : { d with task := d.task.block d.shared d.now animating }.Presents := by
        cases animating with
        | true => exact ⟨taken, last⟩
        | false => exact ⟨taken, last⟩
      simp only [RenderTask.frameShown]
      split
      · split
        · exact taken
        · exact blocked
      · exact blocked
  all_goals exact presents

/-- The end of a wait leaves the frames alone. -/
theorem Woken.presents (woken : Woken d next) (presents : d.Presents) : next.Presents := by
  cases woken with
  | still => exact presents
  | enters elsewhere => exact presents.handed elsewhere
  | begins wakeAt pausing => exact presents.handed (pausing ▸ rfl)
  | refreshes elsewhere => exact presents.handed elsewhere

/-- A frame on the panel stays the one the task waits on. -/
theorem step_presents (event : Event) (presents : d.Presents) :
    (d.step textLit event).1.Presents := by
  cases event with
  | passes ticks => exact presents
  | signals state => exact presents
  | applies cfg => exact presents
  | accepts request =>
    simp only [step]
    split
    · exact presents
    · exact presents
  | handles =>
    obtain ⟨task, handed, shown⟩ := handle_frames (d := d)
    unfold Presents at presents ⊢
    rw [step, task, handed, shown]
    exact presents
  | renders nowUnix => exact render_presents nowUnix presents
  | wakes arm => exact (d.woken arm).presents presents
  | exchanges =>
    simp only [step, exchange]
    split
    case h_1 frame handed =>
      unfold Presents at presents ⊢
      split at presents
      case h_1 point =>
        rw [handed, Option.some_or] at presents
        simp only [point, Option.none_or]
        exact presents
      case h_2 | h_3 => cases handed.symm.trans presents.1
      case h_4 => cases handed.symm.trans presents
    case h_2 => exact presents

/-- The task rests on a static screen: nothing is signalled and no deadline is reached. -/
structure Rests (d : Display) : Prop where
  /-- It is blocked on a static screen. -/
  resting : ∃ wakeAt, d.task.point = .resting wakeAt
  /-- `REDRAW` is not signalled. -/
  redraw : d.shared.redraw = false
  /-- `DISPLAY` is not signalled. -/
  display : d.display = none
  /-- The deadline of the preview is not reached. -/
  ahead : ¬d.Reached

/-- The frame on the panel is drawn from the layouts in force. -/
def ShowsCurrent (d : Display) : Prop :=
  ∃ frame ∈ d.shown, frame.layout = refreshLayoutCache d.shared d.now

instance decidableMidUpdate (d : Display) : Decidable d.MidUpdate :=
  inferInstanceAs (Decidable (∃ handling ∈ d.handling, _))

instance decidableReached (d : Display) : Decidable d.Reached :=
  inferInstanceAs (Decidable (_ ∧ _))

instance decidableShowsCurrent (d : Display) : Decidable d.ShowsCurrent :=
  inferInstanceAs (Decidable (∃ frame ∈ d.shown, _))

/-- What is latched, current and presented. -/
structure Faithful (d : Display) : Prop where
  /-- Handlers latch their updates. -/
  latching : d.Latching
  /-- The task is roused or up to date. -/
  current : d.Current
  /-- The panel shows what the task waits on. -/
  presents : d.Presents

/-- Each step keeps that. -/
theorem step_faithful (event : Event) (faithful : d.Faithful) :
    (d.step textLit event).1.Faithful :=
  ⟨step_latching event faithful.latching, step_current event faithful.latching faithful.current,
    step_presents event faithful.presents⟩

/-- A screen at rest shows the layouts in force. -/
theorem Faithful.showsCurrent (faithful : d.Faithful) (rests : d.Rests) (latched : ¬d.MidUpdate) :
    d.ShowsCurrent := by
  obtain ⟨wakeAt, point⟩ := rests.resting
  have shown : d.handed = none ∧ ∃ frame, d.shown = some frame ∧
      frame.layout = d.task.layoutCache := by
    simpa only [Presents, point] using faithful.presents
  have cached := faithful.current.cached (point ▸ rfl)
  obtain ⟨-, frame, found, drawn⟩ := shown
  rcases cached with (mid | redraw | reached) | cached
  · exact absurd mid latched
  · exact absurd redraw (Bool.eq_false_iff.mp rests.redraw)
  · exact absurd reached rests.ahead
  · exact ⟨frame, found, drawn.trans cached⟩

/-- A screen at rest shows the layouts in force, unless a request has updated a mirror and is yet to
latch it; and no frame is drawn from a preview whose deadline has passed as it starts. -/
theorem rests_on_current_layout (textLit : TextRaster) (cfg : Config) (saved : Option Layout)
    (events : List Event) :
    let reached := after textLit cfg saved events
    (reached.1.Rests → ¬reached.1.MidUpdate → reached.1.ShowsCurrent) ∧
      ∀ entry ∈ reached.2, ∀ frame ∈ entry.2, LeavesExpired frame := by
  intro reached
  have booted : (boot cfg saved).Faithful :=
    ⟨fun handling found => absurd found (Option.not_mem_none handling), .inr trivial, rfl⟩
  have counted : (boot cfg saved).Counted := ⟨Nat.le_refl _, Nat.le_refl _, Nat.le_refl _, trivial⟩
  have faithful : reached.1.Faithful :=
    Machine.run_invariant (fun event _ d => step_faithful event) booted
  constructor
  · exact faithful.showsCurrent
  · exact @Machine.history_along _ _ _ _ Counted (fun _ _ => True)
      (fun _ drawn => ∀ frame ∈ drawn, LeavesExpired frame) _
      (fun event _ d kept _ => step_counted event kept) _ counted (Machine.along_trivial ..)

/-- A frame is drawn after so many accesses, and goes to the panel. -/
def drawsFrame (count : Nat) : List Event := renderings count ++ [.exchanges] ++ renderings 1

/-- The board comes up and rests. -/
def restingBoard : List Event :=
  [.signals quietBoard, .wakes .display] ++ drawsFrame 5 ++ [.wakes .redraw] ++ drawsFrame 5

/-- A draft is pushed to a board at rest, expires and is reverted. -/
def revertedBoard : List Event :=
  restingBoard ++ pushesDraft ++ [.wakes .redraw] ++ drawsFrame 6 ++
    [.passes previewTtl, .wakes .timer] ++ drawsFrame 12 ++ [.wakes .redraw] ++ drawsFrame 5

/-- A board that has reverted a draft rests on the screen without it. -/
theorem rests_on_current_layout_reverted :
    (after noText .default none revertedBoard).1.ShowsCurrent ∧
      ∀ entry ∈ (after noText .default none revertedBoard).2, ∀ frame ∈ entry.2,
        LeavesExpired frame :=
  have rests : (after noText .default none revertedBoard).1.Rests :=
    ⟨⟨previewTtl + brightnessRefresh, by decide +kernel⟩, by decide +kernel, by decide +kernel,
      by decide +kernel⟩
  have current := rests_on_current_layout noText .default none revertedBoard
  ⟨current.1 rests (by decide +kernel), current.2⟩

/-- A layout that is saved while the board rests is not on the panel until its redraw is latched. -/
theorem saved_layout_unlatched :
    let d := (after noText .default none
      (restingBoard ++ [.accepts (.setLayout draft), .handles])).1
    d.Rests ∧ ¬d.ShowsCurrent :=
  ⟨⟨⟨brightnessRefresh, by decide +kernel⟩, by decide +kernel, by decide +kernel,
    by decide +kernel⟩, by decide +kernel⟩

end Display

end Zugli
