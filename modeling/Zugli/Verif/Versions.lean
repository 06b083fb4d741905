import Zugli.Firmware.Display.Render

/-!
# Layout schema versions

A layout's version is never read when a screen is drawn. The module says exactly when a layout,
saved or previewed, leaves the departures screen as it is without one. That a layout with elements
does not is seen on the animating flag alone: the board scrolls a destination in the room its line
leaves, whereas an element scrolls for its own text only.
-/

namespace Zugli

namespace Canvas

variable (canvas : Canvas) (fb : FrameBuffer)

/-- Whether a text of so many characters is wider than an element's box. -/
def overflows (el : Element) (count : Nat) : Bool :=
  decide (0 < el.w ∧ (el.w.toNat : Int) < count * (fontFor el.s).width * el.scale)

/-- A text element scrolls exactly when its text overflows its box. -/
@[simp] theorem placeText_animates (text : List Char) (el : Element) (frame : UInt32) :
    (canvas.placeText fb text el true frame).2 = overflows el text.length := by
  simp only [placeText, overflows, charCount]
  by_cases boxed : 0 < el.w
  · by_cases fits : (text.length : Int) * (fontFor el.s).width * el.scale ≤ el.w.toNat
    · simp [boxed, fits]
    · simp [boxed, fits, Int.not_le.mp fits]
  · simp [boxed]

/-- A text that may not scroll does not. -/
@[simp] theorem placeText_still (text : List Char) (el : Element) (frame : UInt32) :
    (canvas.placeText fb text el false frame).2 = false := by
  simp [placeText]

/-- A text that is not set does not scroll. -/
@[simp] theorem overflows_zero (el : Element) : overflows el 0 = false := by
  simp [overflows]

@[simp] theorem city_nil : canvas.city [] = [] := by
  simp [city, splitOnce]

/-- Whether one field of a departure scrolls. -/
def fieldAnimates (el : Element) (dep : Departure) : Bool :=
  if el.fk = 0 then !(el.f ≠ 1 ∧ canvas.lineBadges) && overflows el dep.line.chars.length
  else if el.fk = 1 then overflows el (canvas.city dep.destination.chars).length
  else dep.minutes ≠ some 0 && overflows el (fmtMinutes dep.minutes).length

/-- Whether an element scrolls: a text, a field of a present departure or the station. -/
def elementAnimates (station : List Char) (deps : List Departure) (el : Element) : Bool :=
  match el.t with
  | 0 => overflows el el.v.chars.length
  | 1 => deps[min el.di.toNat 2]?.any (canvas.fieldAnimates el)
  | 2 => overflows el (canvas.city station).length
  | _ => false

/-- A departure field scrolls as its text does. -/
theorem drawDepField_animates (el : Element) (deps : List Departure) (frame : UInt32) :
    (canvas.drawDepField fb el deps frame).2 =
      deps[min el.di.toNat 2]?.any (canvas.fieldAnimates el) := by
  unfold drawDepField fieldAnimates
  cases deps[min el.di.toNat 2]? with
  | none => rfl
  | some dep =>
    by_cases badge : el.fk = 0
    · by_cases boxed : el.f ≠ 1 ∧ canvas.lineBadges = true <;> simp [badge, boxed]
    · by_cases direction : el.fk = 1
      · simp [direction]
      · by_cases now : dep.minutes = some 0 <;> simp [badge, direction, now]

/-- An element scrolls as its text does. -/
theorem drawElement_animates (station : List Char) (deps : List Departure) (frame : UInt32)
    (el : Element) :
    (canvas.drawElement fb station deps frame el).2 = canvas.elementAnimates station deps el := by
  unfold drawElement elementAnimates
  split
  case h_4 | h_5 =>
    simp only [drawClock, drawDate, drawLocalTimeText]
    cases canvas.nowUnix <;> simp [*]
  all_goals simp [drawDepField_animates, *]

/-- A layout scrolls exactly when one of its elements does. -/
theorem drawCustomLayout_animates (layout : Layout) (station : List Char) (deps : List Departure)
    (frame : UInt32) :
    (canvas.drawCustomLayout fb layout station deps frame).2 =
      layout.e.val.any (canvas.elementAnimates station deps) := by
  have scan (elements : List Element) : ∀ drawn : FrameBuffer × Bool,
      (elements.foldl (fun (drawn : FrameBuffer × Bool) el =>
        ((canvas.drawElement drawn.1 station deps frame el).1,
          drawn.2 || (canvas.drawElement drawn.1 station deps frame el).2)) drawn).2 =
        (drawn.2 || elements.any (canvas.elementAnimates station deps)) := by
    induction elements with
    | nil => simp
    | cons el rest tail =>
      intro drawn
      rw [List.foldl_cons, tail, List.any_cons, drawElement_animates, Bool.or_assoc]
  simpa [drawCustomLayout] using scan layout.e.val (fb, false)

/-! ## Probing a layout with a single departure -/

/-- A departure of a line to a destination, its minutes unknown. -/
def probe (line : HString 16) (destination : HString 48) : Departure :=
  ⟨line, .empty, destination, none⟩

/-- An element that scrolls for a departure scrolls for its line or for its destination alone. -/
theorem elementAnimates_probe {line : HString 16} {destination : HString 48} {el : Element}
    (scrolls : canvas.elementAnimates [] [probe line destination] el = true) :
    canvas.elementAnimates [] [probe line .empty] el = true ∨
      canvas.elementAnimates [] [probe .empty destination] el = true := by
  unfold elementAnimates at scrolls ⊢
  split at scrolls
  case h_2 =>
    cases slot : min el.di.toNat 2 with
    | zero =>
      by_cases badge : el.fk = 0
      · left
        simpa [slot, fieldAnimates, probe, badge] using scrolls
      · right
        simpa [slot, fieldAnimates, probe, badge] using scrolls
    | succ missing => simp [slot] at scrolls
  all_goals simp_all

/-- A marquee scrolls when its text is wider than its room. -/
theorem drawMarquee_animates (text : List Char) (x0 y avail : Int) (font : MonoFont)
    (color : Color) (frame : UInt32) :
    (canvas.drawMarquee fb text x0 y avail font color frame).2 =
      decide (avail < text.length * font.width) := by
  unfold drawMarquee charCount
  by_cases fits : (text.length : Int) * font.width ≤ avail
  · simp [fits]
  · simp [fits, Int.not_le.mp fits]

/-- A clipped marquee scrolls when its text is wider than its room. -/
theorem drawMarqueeClipped_animates (text : List Char) (x0 bandY avail bandH y : Int)
    (font : MonoFont) (color : Color) (frame : UInt32) :
    (canvas.drawMarqueeClipped fb text x0 bandY avail bandH y font color frame).2 =
      decide (avail < text.length * font.width) := by
  unfold drawMarqueeClipped charCount
  by_cases fits : (text.length : Int) * font.width ≤ avail
  · simp [fits]
  · simp [fits, Int.not_le.mp fits]

/-- Width of a line label on the board. -/
def labelWidth (line : List Char) : Int :=
  if canvas.lineBadges then line.length * 6 + 5 else line.length * 6

/-- A line label ends its width further right. -/
theorem drawLineLabel_end (line : List Char) (x y : Int) :
    (canvas.drawLineLabel fb line x y).2 = x + canvas.labelWidth line := by
  unfold drawLineLabel labelWidth
  cases canvas.lineBadges <;> rfl

/-- Room a row of the board leaves between its line and its time. -/
def rowRoom (dep : Departure) : Int :=
  timeX dep.minutes - 2 - (1 + canvas.labelWidth dep.line.chars + 2)

/-- A row of the board scrolls when it has room for its destination, but not enough. -/
theorem drawRow_animates (dep : Departure) (i : Nat) (frame : UInt32) :
    (canvas.drawRow fb dep i frame).2 =
      decide (0 < canvas.rowRoom dep ∧
        canvas.rowRoom dep < (canvas.city dep.destination.chars).length * 5) := by
  unfold drawRow
  dsimp only
  rw [drawLineLabel_end]
  have named : timeX dep.minutes - 2 - (1 + canvas.labelWidth dep.line.chars + 2) =
      canvas.rowRoom dep := rfl
  rw [named]
  by_cases room : 0 < canvas.rowRoom dep
  · rw [if_pos room, drawMarqueeClipped_animates]
    simp only [room, true_and]
    rfl
  · rw [if_neg room]
    simp [room]

/-- For one departure at an unnamed stop, the board scrolls when the row does. -/
theorem drawDepartures_single (dep : Departure) (frame : UInt32) :
    (canvas.drawDepartures fb [] [dep] frame).2 =
      decide (0 < canvas.rowRoom dep ∧
        canvas.rowRoom dep < (canvas.city dep.destination.chars).length * 5) := by
  simp [drawDepartures, drawRows, drawRow_animates, drawMarquee_animates, cols]

/-- A destination too wide for the room beside a long line, but not beside none. -/
def probeDestination : HString 48 := ⟨"aaa", by decide⟩

/-- Room beside a probe's line. -/
theorem rowRoom_probe (line : HString 16) (destination : HString 48) :
    canvas.rowRoom (probe line destination) =
      if canvas.lineBadges then 43 - 6 * (line.chars.length : Int)
      else 48 - 6 * (line.chars.length : Int) := by
  have start : timeX none = 53 := rfl
  simp only [rowRoom, labelWidth, probe, start]
  split <;> omega

/-- Some line leaves a probe's destination too little room, but some. -/
theorem exists_narrow_line : ∃ line : HString 16, ∀ destination : HString 48,
    0 < canvas.rowRoom (probe line destination) ∧ canvas.rowRoom (probe line destination) < 15 := by
  have five : (⟨"aaaaa", by decide⟩ : HString 16).chars.length = 5 := rfl
  have six : (⟨"aaaaaa", by decide⟩ : HString 16).chars.length = 6 := rfl
  cases badges : canvas.lineBadges with
  | true =>
    refine ⟨⟨"aaaaa", by decide⟩, fun destination => ?_⟩
    rw [rowRoom_probe, if_pos badges, five]
    omega
  | false =>
    refine ⟨⟨"aaaaaa", by decide⟩, fun destination => ?_⟩
    rw [rowRoom_probe, if_neg (by simp [badges]), six]
    omega

/-- No layout scrolls exactly when the board does. -/
theorem exists_departure_told_apart (layout : Layout) :
    ∃ dep, (canvas.drawCustomLayout fb layout [] [dep] 0).2 ≠
      (canvas.drawDepartures fb [] [dep] 0).2 := by
  by_contra alike
  push Not at alike
  simp only [drawCustomLayout_animates, drawDepartures_single] at alike
  obtain ⟨line, narrow⟩ := canvas.exists_narrow_line
  have plain : canvas.city probeDestination.chars = probeDestination.chars := by
    unfold city
    split <;> rfl
  have width : (canvas.city probeDestination.chars).length = 3 := by rw [plain]; rfl
  have unnamed : (canvas.city (HString.empty : HString 48).chars).length = 0 := by
    rw [show (HString.empty : HString 48).chars = [] from rfl, city_nil, List.length_nil]
  -- The board stands still for the line alone and for the destination alone, not for both.
  have both : layout.e.val.any (canvas.elementAnimates [] [probe line probeDestination]) = true := by
    rw [alike, decide_eq_true_eq]
    have room := narrow probeDestination
    simp only [probe, width] at room ⊢
    omega
  have lineAlone : layout.e.val.any (canvas.elementAnimates [] [probe line .empty]) = false := by
    rw [alike, decide_eq_false_iff_not]
    simp only [probe, unnamed]
    omega
  have destinationAlone :
      layout.e.val.any (canvas.elementAnimates [] [probe .empty probeDestination]) = false := by
    rw [alike, decide_eq_false_iff_not, rowRoom_probe]
    have short : (HString.empty : HString 16).chars.length = 0 := rfl
    simp only [probe, width, short]
    split <;> omega
  obtain ⟨el, member, scrolls⟩ := List.any_eq_true.mp both
  rcases canvas.elementAnimates_probe scrolls with lineScrolls | destinationScrolls
  · exact Bool.false_ne_true (lineAlone.symm.trans (List.any_eq_true.mpr ⟨el, member, lineScrolls⟩))
  · exact Bool.false_ne_true
      (destinationAlone.symm.trans (List.any_eq_true.mpr ⟨el, member, destinationScrolls⟩))

end Canvas

namespace Panel

/-- The panel once a layout, or none, is installed as the saved one. -/
def withSaved (panel : Panel) (layout : Option Layout) : Panel :=
  { panel with shared := panel.shared.applyLayout layout }

/-- The panel once a layout is pushed as the live preview. -/
def withPreview (panel : Panel) (layout : Layout) (pushed : Nat) : Panel :=
  { panel with shared := panel.shared.setPreview layout pushed }

/-- What `draw_state` draws of a state from the layouts cached at an instant. -/
def shows (panel : Panel) (now : Nat) (state : DisplayState) (frame : UInt32) :
    FrameBuffer × Bool :=
  panel.drawState state (refreshLayoutCache panel.shared now) frame erased

/-- Two panels show the same of every state in every frame. -/
def SameScreens (now : Nat) (left right : Panel) : Prop :=
  ∀ state frame, left.shows now state frame = right.shows now state frame

variable (panel : Panel)

/-- The departures screen of a probe. -/
def probeState (dep : Departure) : DisplayState := .departures .empty ⟨[dep], by simp⟩

/-- Drawing a layout is told apart from drawing the board. -/
theorem not_sameScreens {now : Nat} {left right : Panel} (layout : Layout)
    (custom : ∀ dep, left.shows now (probeState dep) 0 =
      panel.canvas.drawCustomLayout erased layout [] [dep] 0)
    (board : ∀ dep, right.shows now (probeState dep) 0 =
      panel.canvas.drawDepartures erased [] [dep] 0) : ¬SameScreens now left right := by
  intro same
  obtain ⟨dep, apart⟩ := panel.canvas.exists_departure_told_apart erased layout
  exact apart (congrArg Prod.snd ((custom dep).symm.trans ((same _ _).trans (board dep))))

/-- The layouts cached once a layout, or none, is installed as the saved one. -/
theorem refreshLayoutCache_withSaved (layout : Option Layout) (now : Nat) :
    refreshLayoutCache (panel.withSaved layout).shared now =
      match panel.shared.activePreview now with
      | some preview => ⟨some preview, none⟩
      | none => ⟨none, layout⟩ := rfl

/-- The layouts cached while a preview is armed: the preview until its deadline. -/
theorem refreshLayoutCache_armed (shared : Shared) (armed : shared.previewDeadline ≠ 0)
    {layout : Layout} (pushed : shared.previewLayout = some layout) (now : Nat) :
    refreshLayoutCache shared now =
      if now < shared.previewDeadline then ⟨some layout, none⟩
      else ⟨none, shared.customLayout⟩ := by
  have deadline : (shared.previewDeadline != 0) = true := by simpa using armed
  simp only [refreshLayoutCache, Shared.activePreview, Shared.previewActive, deadline, pushed,
    Bool.true_and]
  by_cases live : now < shared.previewDeadline <;> simp [live]

/-- The layouts cached once a preview is pushed. -/
theorem refreshLayoutCache_withPreview (layout : Layout) (pushed now : Nat) :
    refreshLayoutCache (panel.withPreview layout pushed).shared now =
      if now < pushed + previewTtl then ⟨some layout, none⟩
      else ⟨none, panel.shared.customLayout⟩ := by
  have positive : 0 < previewTtl := by
    unfold previewTtl ticksPerSecond
    omega
  exact refreshLayoutCache_armed (panel.shared.setPreview layout pushed)
    (Nat.ne_of_gt (Nat.lt_of_lt_of_le positive (Nat.le_add_left ..))) rfl now

/-- In the custom mode the board is drawn when no layout is saved. -/
theorem drawDeparturesScreen_none (custom : panel.shared.mode = .custom) (station : List Char)
    (deps : List Departure) (frame : UInt32) (fb : FrameBuffer) :
    panel.drawDeparturesScreen ⟨none, none⟩ station deps frame fb =
      panel.canvas.drawDepartures fb station deps frame := by
  simp only [drawDeparturesScreen, custom]

/-- In the custom mode a saved layout with elements is drawn. -/
theorem drawDeparturesScreen_saved (custom : panel.shared.mode = .custom) {layout : Layout}
    (elements : layout.e.val ≠ []) (station : List Char) (deps : List Departure) (frame : UInt32)
    (fb : FrameBuffer) :
    panel.drawDeparturesScreen ⟨none, some layout⟩ station deps frame fb =
      panel.canvas.drawCustomLayout fb layout station deps frame := by
  have filled : layout.e.val.isEmpty = false := by simpa using elements
  simp only [drawDeparturesScreen, custom, filled, Bool.false_eq_true, if_false]

/-- A saved layout that is not drawn from leaves the departures screen as it is without one. -/
theorem drawDeparturesScreen_unread {layout : Layout}
    (unread : layout.e.val = [] ∨ panel.shared.mode ≠ .custom) (station : List Char)
    (deps : List Departure) (frame : UInt32) (fb : FrameBuffer) :
    panel.drawDeparturesScreen ⟨none, some layout⟩ station deps frame fb =
      panel.drawDeparturesScreen ⟨none, none⟩ station deps frame fb := by
  unfold drawDeparturesScreen
  cases mode : panel.shared.mode with
  | default | focus => rfl
  | custom =>
    have noElement : layout.e.val = [] := unread.resolve_right (by simp [mode])
    simp [noElement]

/-- A saved layout leaves the screens as they are without one exactly when it has no element or
the panel is not drawn from it. -/
theorem saved_ignored_iff (layout : Layout) (now : Nat) :
    SameScreens now (panel.withSaved (some layout)) (panel.withSaved none) ↔
      layout.e.val = [] ∨ panel.shared.mode ≠ .custom ∨
        (panel.shared.activePreview now).isSome := by
  cases previewed : panel.shared.activePreview now with
  | some preview =>
    refine ⟨fun _ => by simp, fun _ state frame => ?_⟩
    simp only [shows, refreshLayoutCache_withSaved, previewed]
    cases state <;> rfl
  | none =>
    constructor
    · intro same
      by_contra drawn
      simp only [not_or, not_not] at drawn
      obtain ⟨elements, custom, -⟩ := drawn
      refine panel.not_sameScreens layout (fun dep => ?_) (fun dep => ?_) same
      · simp only [shows, refreshLayoutCache_withSaved, previewed]
        exact drawDeparturesScreen_saved (panel.withSaved (some layout)) custom elements ..
      · simp only [shows, refreshLayoutCache_withSaved, previewed]
        exact drawDeparturesScreen_none (panel.withSaved none) custom ..
    · intro unread state frame
      have unread : layout.e.val = [] ∨ panel.shared.mode ≠ .custom := by simpa using unread
      simp only [shows, refreshLayoutCache_withSaved, previewed]
      cases state with
      | departures station deps =>
        exact drawDeparturesScreen_unread (panel.withSaved (some layout)) unread ..
      | _ => rfl

/-- A preview with elements is drawn. -/
theorem drawDeparturesScreen_preview {layout : Layout} (elements : layout.e.val ≠ [])
    (station : List Char) (deps : List Departure) (frame : UInt32) (fb : FrameBuffer) :
    panel.drawDeparturesScreen ⟨some layout, none⟩ station deps frame fb =
      panel.canvas.drawCustomLayout fb layout station deps frame := by
  have filled : layout.e.val.isEmpty = false := by simpa using elements
  simp only [drawDeparturesScreen, filled, Bool.false_eq_true, if_false]

/-- An empty preview draws the board. -/
theorem drawDeparturesScreen_emptyPreview {layout : Layout} (noElement : layout.e.val = [])
    (station : List Char) (deps : List Departure) (frame : UInt32) (fb : FrameBuffer) :
    panel.drawDeparturesScreen ⟨some layout, none⟩ station deps frame fb =
      panel.canvas.drawDepartures fb station deps frame := by
  simp [drawDeparturesScreen, noElement]

/-- A preview leaves the screens as an empty one does exactly when it has no element or has
expired. -/
theorem preview_ignored_iff (layout : Layout) (pushed now : Nat) :
    SameScreens now (panel.withPreview layout pushed) (panel.withPreview .default pushed) ↔
      layout.e.val = [] ∨ pushed + previewTtl ≤ now := by
  by_cases live : now < pushed + previewTtl
  · constructor
    · intro same
      by_contra drawn
      simp only [not_or] at drawn
      have noElement : Layout.default.e.val = [] := rfl
      refine panel.not_sameScreens layout (fun dep => ?_) (fun dep => ?_) same
      · simp only [shows, refreshLayoutCache_withPreview, live, if_true]
        exact drawDeparturesScreen_preview (panel.withPreview layout pushed) drawn.1 ..
      · simp only [shows, refreshLayoutCache_withPreview, live, if_true]
        exact drawDeparturesScreen_emptyPreview (panel.withPreview .default pushed) noElement
          [] [dep] 0 erased
    · intro unread state frame
      have noElement : layout.e.val = [] := unread.resolve_right (by omega)
      simp only [shows, refreshLayoutCache_withPreview, live, if_true]
      cases state with
      | departures station deps =>
        exact drawDeparturesScreen_emptyPreview (panel.withPreview layout pushed) noElement ..
      | _ => rfl
  · refine ⟨fun _ => .inr (by omega), fun _ state frame => ?_⟩
    simp only [shows, refreshLayoutCache_withPreview, live, if_false]
    cases state <;> rfl

/-- Whatever its version, a layout is ignored exactly when it has no element, or when it is a
saved one and the screen is not drawn from it, or when it is a preview and has expired. -/
theorem layout_ignored_iff (layout : Layout) (pushed now : Nat) :
    (SameScreens now (panel.withSaved (some layout)) (panel.withSaved none) ↔
      layout.e.val = [] ∨ panel.shared.mode ≠ .custom ∨
        (panel.shared.activePreview now).isSome) ∧
    (SameScreens now (panel.withPreview layout pushed) (panel.withPreview .default pushed) ↔
      layout.e.val = [] ∨ pushed + previewTtl ≤ now) :=
  ⟨panel.saved_ignored_iff layout now, panel.preview_ignored_iff layout pushed now⟩

/-- A layout of the second version: a bar across the panel. -/
def futureLayout : Layout :=
  ⟨2, ⟨[⟨5, 0, 20, 64, 0, 1, 0, none, 0, .empty, 0, 0, false, 2, 0, 0⟩], by decide⟩⟩

/-- A panel in the custom mode whose clock has not synced. -/
def customPanel (textLit : TextRaster) : Panel :=
  ⟨textLit, { Shared.init with uiMode := 2 }, none⟩

/-- A departure whose destination scrolls on the board. -/
def scrollingState : DisplayState :=
  .departures ⟨"Central", by decide⟩ ⟨[⟨⟨"14", by decide⟩, ⟨"T", by decide⟩,
    ⟨"Triemli terminus", by decide⟩, some 5⟩], by simp⟩

/-- A layout of the second version is drawn, both saved and previewed: the bar stands still where
the board would scroll. -/
theorem future_layout_drawn : 1 < futureLayout.v ∧ ∀ textLit : TextRaster,
    ¬SameScreens 0 ((customPanel textLit).withSaved (some futureLayout))
      ((customPanel textLit).withSaved none) ∧
    ¬SameScreens 0 ((customPanel textLit).withPreview futureLayout 0)
      ((customPanel textLit).withPreview .default 0) := by
  refine ⟨by decide, fun textLit => ⟨fun same => ?_, fun same => ?_⟩⟩
  · have flags := congrArg Prod.snd (same scrollingState 0)
    exact Bool.false_ne_true flags
  · have flags := congrArg Prod.snd (same scrollingState 0)
    exact Bool.false_ne_true flags

end Panel

end Zugli
