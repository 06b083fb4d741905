import Zugli.Verif.Editor.Groups

/-!
# Moving elements by a drag

A drag moves its elements by one shared delta. The delta is the pointer's, clamped to the range that
keeps every measured box on the panel; so the elements keep their distances and stay on the panel,
and the delta depends on the pointer's path only through what is measured on the way.
-/

namespace Zugli.Web

open Js (Str Value)
open Editor (deltaRange clampDelta)

/-! ## Shared deltas along an axis -/

/-- Starts on the panel, with sizes. -/
def OnAxis (targets : List (Int × Int)) : Prop :=
  ∀ target ∈ targets, 0 ≤ target.1 ∧ target.1 ≤ 63 ∧ 1 ≤ target.2

/-- Starts and sizes that the clamp leaves where they are: one starts at the edge, or all end on the
panel. -/
def Rests (targets : List (Int × Int)) : Prop :=
  (∃ target ∈ targets, target.1 = 0) ∨ ∀ target ∈ targets, target.1 + target.2 ≤ 64

instance (targets : List (Int × Int)) : Decidable (Rests targets) :=
  inferInstanceAs (Decidable (_ ∨ _))

/-- The least delta is the least that keeps every start on the panel. -/
theorem deltaRange_fst_le {targets : List (Int × Int)} {bound : Int} :
    (deltaRange targets).1 ≤ bound ↔ -64 ≤ bound ∧ ∀ target ∈ targets, -target.1 ≤ bound := by
  suffices fold : ∀ range : Int × Int,
      (targets.foldl (fun (range target : Int × Int) =>
        (max range.1 (-target.1), min range.2 (64 - target.2 - target.1))) range).1 ≤ bound ↔
          range.1 ≤ bound ∧ ∀ target ∈ targets, -target.1 ≤ bound from fold (-64, 64)
  induction targets with
  | nil => simp
  | cons target targets previous =>
    intro range
    rw [List.foldl_cons, previous, List.forall_mem_cons, ← and_assoc]
    exact and_congr_left' max_le_iff

/-- The largest delta is the largest that keeps every end on the panel. -/
theorem le_deltaRange_snd {targets : List (Int × Int)} {bound : Int} :
    bound ≤ (deltaRange targets).2 ↔
      bound ≤ 64 ∧ ∀ target ∈ targets, bound ≤ 64 - target.2 - target.1 := by
  suffices fold : ∀ range : Int × Int,
      bound ≤ (targets.foldl (fun (range target : Int × Int) =>
        (max range.1 (-target.1), min range.2 (64 - target.2 - target.1))) range).2 ↔
          bound ≤ range.2 ∧ ∀ target ∈ targets, bound ≤ 64 - target.2 - target.1 from
    fold (-64, 64)
  induction targets with
  | nil => simp
  | cons target targets previous =>
    intro range
    rw [List.foldl_cons, previous, List.forall_mem_cons, ← and_assoc]
    exact and_congr_left' le_min_iff

/-- A clamped delta is in the range. -/
theorem clampDelta_bounds (delta : Int) (range : Int × Int) :
    range.1 ≤ clampDelta delta range ∧ clampDelta delta range ≤ max range.1 range.2 := by
  obtain ⟨n, held, low, high⟩ := clampI_between delta (le_max_left range.1 range.2)
  obtain rfl : clampI delta range.1 (max range.1 range.2) = n := Value.number.inj held
  exact ⟨low, high⟩

section Axis

variable {targets : List (Int × Int)} (onAxis : OnAxis targets)

include onAxis

/-- No delta above zero is needed. -/
theorem deltaRange_fst_nonpos : (deltaRange targets).1 ≤ 0 := by
  refine deltaRange_fst_le.mpr ⟨by decide, fun target member => ?_⟩
  have start := onAxis target member
  omega

/-- Every start stays on the panel. -/
theorem clampDelta_inside (delta : Int) : ∀ target ∈ targets,
    0 ≤ target.1 + clampDelta delta (deltaRange targets) ∧
      target.1 + clampDelta delta (deltaRange targets) ≤ 63 := by
  intro target member
  have start := onAxis target member
  have bounds := clampDelta_bounds delta (deltaRange targets)
  have least := (deltaRange_fst_le.mp (Int.le_refl (deltaRange targets).1)).2 target member
  have most := (le_deltaRange_snd.mp (Int.le_refl (deltaRange targets).2)).2 target member
  have nonpos := deltaRange_fst_nonpos onAxis
  omega

/-- What rests has a delta of zero in its range. -/
theorem rests_iff : Rests targets ↔ 0 ≤ max (deltaRange targets).1 (deltaRange targets).2 := by
  constructor
  · rintro (⟨target, member, edge⟩ | inside)
    · have least := (deltaRange_fst_le.mp (Int.le_refl (deltaRange targets).1)).2 target member
      omega
    · have most : 0 ≤ (deltaRange targets).2 := by
        refine le_deltaRange_snd.mpr ⟨by decide, fun target member => ?_⟩
        have ends := inside target member
        omega
      omega
  · intro zero
    by_cases edge : ∃ target ∈ targets, target.1 = 0
    · exact .inl edge
    · right
      intro target member
      have below : (deltaRange targets).1 ≤ -1 := by
        refine deltaRange_fst_le.mpr ⟨by decide, fun other inside => ?_⟩
        have start := onAxis other inside
        have away : other.1 ≠ 0 := fun same => edge ⟨other, inside, same⟩
        omega
      have most := (le_deltaRange_snd.mp (show 0 ≤ (deltaRange targets).2 by omega)).2 target member
      omega

/-- A pointer that is back leaves it where it started. -/
theorem clampDelta_zero (rests : Rests targets) : clampDelta 0 (deltaRange targets) = 0 := by
  have nonpos := deltaRange_fst_nonpos onAxis
  have zero := (rests_iff onAxis).mp rests
  have least : -64 ≤ (deltaRange targets).1 :=
    (deltaRange_fst_le.mp (Int.le_refl (deltaRange targets).1)).1
  have most : (deltaRange targets).2 ≤ 64 :=
    (le_deltaRange_snd.mp (Int.le_refl (deltaRange targets).2)).1
  exact clampI_of_between ⟨nonpos, zero⟩ (by omega) (by omega)

/-- What does not rest is moved by every delta. -/
theorem clampDelta_neg (moves : ¬Rests targets) (delta : Int) :
    clampDelta delta (deltaRange targets) < 0 := by
  have bounds := clampDelta_bounds delta (deltaRange targets)
  rw [rests_iff onAxis] at moves
  omega

end Axis

/-! ## Elements -/

namespace Element

/-- The place of an element. -/
def spot (el : Element) : Int × Int := (el.x.toInt32, el.y.toInt32)

/-- An element moved by a delta. -/
def shifted (delta : Int × Int) (el : Element) : Element :=
  { el with x := .number (el.spot.1 + delta.1), y := .number (el.spot.2 + delta.2) }

/-- A delta that keeps the place of an element on the panel. -/
def Within (el : Element) (delta : Int × Int) : Prop :=
  (0 ≤ el.spot.1 + delta.1 ∧ el.spot.1 + delta.1 ≤ 63) ∧
    0 ≤ el.spot.2 + delta.2 ∧ el.spot.2 + delta.2 ≤ 63

/-- A divider that is drawn to the right edge of the panel. -/
def Stretches (el : Element) : Prop := el.t.toInt32 = 5 ∧ el.w.toInt32 ≤ 0

instance (el : Element) : Decidable el.Stretches := inferInstanceAs (Decidable (_ ∧ _))

end Element

/-- The scale of an element is one to three. -/
theorem editorScale_bounds (el : Element) : 1 ≤ editorScale el ∧ editorScale el ≤ 3 := by
  obtain ⟨n, held, low, high⟩ := clampI_between (el.k.orNullish 1) (show (1 : Int) ≤ 3 by decide)
  obtain rfl : editorScale el = n := Value.number.inj held
  exact ⟨low, high⟩

/-- A product of positive sides. -/
theorem one_le_mul {side scale : Int} (long : 1 ≤ side) (scaled : 1 ≤ scale) :
    1 ≤ side * scale := by
  nlinarith

/-- The box of an element that starts on the panel has positive sides. -/
theorem measureEl_positive (ctx : Context) {el : Element} (start : el.x.toInt32 ≤ 63) :
    1 ≤ (measureEl ctx el).w ∧ 1 ≤ (measureEl ctx el).h := by
  have scale := (editorScale_bounds el).1
  have thick : 1 ≤ clampI (el.th.orNullish 1) 1 2 := by
    obtain ⟨n, held, low, -⟩ := clampI_between (el.th.orNullish 1) (show (1 : Int) ≤ 2 by decide)
    obtain rfl := Value.number.inj held
    exact low
  have badge : 1 ≤ badgeWidth ctx el := by
    unfold badgeWidth cpLen
    cases departureOf ctx el with
    | none => decide
    | some dep =>
      rw [Option.map_some, Option.getD_some]
      omega
  have glyph : 1 ≤ (glyphDim el).1 ∧ 1 ≤ (glyphDim el).2 := by
    obtain ⟨n, held, low, high⟩ := clampI_between el.g.orZero (show (0 : Int) ≤ 2 by decide)
    obtain rfl := Value.number.inj held
    unfold glyphDim
    generalize clampI el.g.orZero 0 2 = g at low high
    obtain rfl | rfl | rfl : g = 0 ∨ g = 1 ∨ g = 2 := by omega
    all_goals decide
  have solid {x y w h : Int} (wide : 1 ≤ w) (tall : 1 ≤ h) :
      1 ≤ (Box.mk x y w h).w ∧ 1 ≤ (Box.mk x y w h).h := ⟨wide, tall⟩
  unfold measureEl
  dsimp only
  split_ifs
  · exact solid (by omega) thick
  · exact solid (by omega) thick
  · exact solid (one_le_mul glyph.1 scale) (one_le_mul glyph.2 scale)
  · exact solid (one_le_mul badge scale) (by omega)
  · exact solid (by omega) (by omega)
  all_goals exact solid (le_max_left 1 _) (by omega)

/-- A number of 32 bits stays itself. -/
theorem toInt32_toInt32 (value : Value) : Js.toInt32 value.toInt32 = value.toInt32 := by
  cases value with
  | undefined => rfl
  | null => rfl
  | number n => exact Int.bmod_bmod

/-- Moving an element changes no side of its box, unless it stretches and moves along. -/
theorem measureEl_shifted (ctx : Context) {el : Element} {delta : Int × Int}
    (same : el.Stretches → delta.1 = 0) :
    (measureEl ctx (el.shifted delta)).w = (measureEl ctx el).w ∧
      (measureEl ctx (el.shifted delta)).h = (measureEl ctx el).h := by
  by_cases divider : el.t.toInt32 = 5
  · have moved : (el.shifted delta).t.toInt32 = 5 := divider
    simp only [measureEl, divider, moved, if_true]
    refine ⟨?_, rfl⟩
    by_cases long : 0 < el.w.toInt32
    · have wide : 0 < (el.shifted delta).w.toInt32 := long
      rw [if_pos long, if_pos wide]
      rfl
    · have narrow : ¬0 < (el.shifted delta).w.toInt32 := long
      have stays : (el.shifted delta).x.toInt32 = el.x.toInt32 := by
        show Js.toInt32 (el.x.toInt32 + delta.1) = el.x.toInt32
        rw [same ⟨divider, Int.not_lt.mp long⟩, Int.add_zero, toInt32_toInt32]
      rw [if_neg long, if_neg narrow, stays]
  · have moved : ¬(el.shifted delta).t.toInt32 = 5 := divider
    simp only [measureEl, divider, moved, if_false, apply_ite Box.w, apply_ite Box.h]
    exact ⟨rfl, rfl⟩

/-! ## A drag as a shared delta -/

/-- What a drag starts from. -/
structure Grab where
  /-- The elements it moves. -/
  els : List Element
  /-- The pointer's column. -/
  lx : Rat
  /-- The pointer's row. -/
  ly : Rat
  /-- There is one. -/
  grabbed : els ≠ []
  /-- Each starts on the panel. -/
  inside : ∀ el ∈ els, (0 ≤ el.spot.1 ∧ el.spot.1 ≤ 63) ∧ 0 ≤ el.spot.2 ∧ el.spot.2 ≤ 63

/-- How far a drag has come. -/
structure Progress where
  /-- The shared delta. -/
  delta : Int × Int
  /-- Whether it has moved. -/
  moved : Bool

/-- A pointer move, with what the page shows at that time. -/
abbrev Move : Type := Context × Rat × Rat

namespace Grab

variable (grab : Grab)

/-- The starts of the elements and their widths once they are moved by a delta. -/
def columns (ctx : Context) (delta : Int × Int) : List (Int × Int) :=
  grab.els.map fun el => (el.spot.1, (measureEl ctx (el.shifted delta)).w)

/-- The starts of the elements and their heights once they are moved by a delta. -/
def lines (ctx : Context) (delta : Int × Int) : List (Int × Int) :=
  grab.els.map fun el => (el.spot.2, (measureEl ctx (el.shifted delta)).h)

/-- The delta of a pointer while the elements are moved by another. -/
def next (delta : Int × Int) (move : Move) : Int × Int :=
  (clampDelta (Js.round (move.2.1 - grab.lx)) (deltaRange (grab.columns move.1 delta)),
    clampDelta (Js.round (move.2.2 - grab.ly)) (deltaRange (grab.lines move.1 delta)))

/-- A move of the pointer. -/
def advance (progress : Progress) (move : Move) : Progress :=
  if Js.round (move.2.1 - grab.lx) = 0 ∧ Js.round (move.2.2 - grab.ly) = 0 ∧
      progress.moved = false then progress
  else
    ⟨grab.next progress.delta move,
      progress.moved || decide (grab.next progress.delta move ≠ progress.delta)⟩

/-- The moves of a drag. -/
def drag (moves : List Move) : Progress := moves.foldl grab.advance ⟨(0, 0), false⟩

/-- The delta of a pointer from what is measured at the start. -/
def target (move : Move) : Int × Int :=
  (clampDelta (Js.round (move.2.1 - grab.lx))
      (deltaRange (grab.els.map fun el => (el.spot.1, (measureEl move.1 el).w))),
    clampDelta (Js.round (move.2.2 - grab.ly))
      (deltaRange (grab.els.map fun el => (el.spot.2, (measureEl move.1 el).h))))

/-- A drag of nothing that stretches right of the left edge. -/
def Steady : Prop := ∀ el ∈ grab.els, el.Stretches → el.spot.1 = 0

/-- A drag whose elements the clamp leaves at their start. -/
def AtRest (ctx : Context) : Prop :=
  Rests (grab.els.map fun el => (el.spot.1, (measureEl ctx el).w)) ∧
    Rests (grab.els.map fun el => (el.spot.2, (measureEl ctx el).h))

/-- What holds of the progress of a drag. -/
structure Keeps (progress : Progress) : Prop where
  /-- Every element is on the panel. -/
  inside : ∀ el ∈ grab.els, el.Within progress.delta
  /-- A drag that has not moved has moved nothing. -/
  still : progress.moved = false → progress.delta = (0, 0)
  /-- What stretches stays at the left edge. -/
  flat : grab.Steady → ∀ el ∈ grab.els, el.Stretches → progress.delta.1 = 0

variable {grab}

/-- The start of a drag. -/
theorem keeps_start : grab.Keeps ⟨(0, 0), false⟩ where
  inside el member := by simpa [Element.Within] using grab.inside el member
  still _ := rfl
  flat _ _ _ _ := rfl

/-- Elements on the panel have boxes that start there. -/
theorem Keeps.onAxis {progress : Progress} (keeps : grab.Keeps progress) (ctx : Context) :
    OnAxis (grab.columns ctx progress.delta) ∧ OnAxis (grab.lines ctx progress.delta) := by
  have positive : ∀ el ∈ grab.els, 1 ≤ (measureEl ctx (el.shifted progress.delta)).w ∧
      1 ≤ (measureEl ctx (el.shifted progress.delta)).h := by
    intro el member
    obtain ⟨⟨low, high⟩, -⟩ := keeps.inside el member
    refine measureEl_positive ctx ?_
    show Js.toInt32 (el.spot.1 + progress.delta.1) ≤ 63
    rw [Js.toInt32_of_bounds (by omega) (by omega)]
    exact high
  constructor
  · intro target member
    obtain ⟨el, inside, rfl⟩ := List.mem_map.mp member
    exact ⟨(grab.inside el inside).1.1, (grab.inside el inside).1.2, (positive el inside).1⟩
  · intro target member
    obtain ⟨el, inside, rfl⟩ := List.mem_map.mp member
    exact ⟨(grab.inside el inside).2.1, (grab.inside el inside).2.2, (positive el inside).2⟩

/-- What is measured of an element. -/
theorem mem_columns (ctx : Context) (delta : Int × Int) {el : Element} (member : el ∈ grab.els) :
    (el.spot.1, (measureEl ctx (el.shifted delta)).w) ∈ grab.columns ctx delta ∧
      (el.spot.2, (measureEl ctx (el.shifted delta)).h) ∈ grab.lines ctx delta :=
  ⟨List.mem_map.mpr ⟨el, member, rfl⟩, List.mem_map.mpr ⟨el, member, rfl⟩⟩

/-- A move keeps the elements on the panel. -/
theorem Keeps.advance {progress : Progress} (keeps : grab.Keeps progress) (move : Move) :
    grab.Keeps (grab.advance progress move) := by
  unfold Grab.advance
  split
  · exact keeps
  · have axes := keeps.onAxis move.1
    refine ⟨fun el member => ⟨?_, ?_⟩, fun still => ?_, fun steady el member stretches => ?_⟩
    · have stays := clampDelta_inside axes.1 (Js.round (move.2.1 - grab.lx)) _
        (mem_columns move.1 progress.delta member).1
      exact stays
    · have stays := clampDelta_inside axes.2 (Js.round (move.2.2 - grab.ly)) _
        (mem_columns move.1 progress.delta member).2
      exact stays
    · rw [Bool.or_eq_false_iff, decide_eq_false_iff_not, not_not] at still
      exact still.2.trans (keeps.still still.1)
    · have edge := steady el member stretches
      have flat := keeps.flat steady el member stretches
      have bounds := clampDelta_bounds (Js.round (move.2.1 - grab.lx))
        (deltaRange (grab.columns move.1 progress.delta))
      have nonpos := deltaRange_fst_nonpos axes.1
      have column := (mem_columns move.1 progress.delta member).1
      have least := (deltaRange_fst_le.mp (Int.le_refl _)).2 _ column
      have most := (le_deltaRange_snd.mp (Int.le_refl _)).2 _ column
      have width : (measureEl move.1 (el.shifted progress.delta)).w = 64 := by
        rw [(measureEl_shifted move.1 fun _ => flat).1]
        have start : el.x.toInt32 = 0 := edge
        simp only [measureEl, stretches.1, if_true, if_neg (Int.not_lt.mpr stretches.2), start]
        rfl
      show clampDelta _ _ = 0
      dsimp only at least most
      omega

/-- One move more. -/
theorem drag_snoc (moves : List Move) (move : Move) :
    grab.drag (moves ++ [move]) = grab.advance (grab.drag moves) move :=
  List.foldl_concat ..

/-- The progress of a drag. -/
theorem keeps_drag (moves : List Move) : grab.Keeps (grab.drag moves) := by
  induction moves using List.reverseRecOn with
  | nil => exact keeps_start
  | append_singleton moves move previous =>
    rw [drag_snoc]
    exact previous.advance move

/-- A steady drag measures what it measured at the start. -/
theorem Keeps.next_eq {progress : Progress} (keeps : grab.Keeps progress) (steady : grab.Steady)
    (move : Move) : grab.next progress.delta move = grab.target move := by
  have same {el : Element} (member : el ∈ grab.els) :=
    measureEl_shifted move.1 (keeps.flat steady el member)
  have columns : grab.columns move.1 progress.delta =
      grab.els.map fun el => (el.spot.1, (measureEl move.1 el).w) :=
    List.map_congr_left fun el member => Prod.ext rfl (same member).1
  have lines : grab.lines move.1 progress.delta =
      grab.els.map fun el => (el.spot.2, (measureEl move.1 el).h) :=
    List.map_congr_left fun el member => Prod.ext rfl (same member).2
  rw [next, columns, lines]
  rfl

/-- Once a steady drag has moved, its delta is the last pointer's. -/
theorem drag_delta_of_moved (steady : grab.Steady) (moves : List Move) (move : Move)
    (moved : (grab.drag (moves ++ [move])).moved = true) :
    (grab.drag (moves ++ [move])).delta = grab.target move := by
  rw [drag_snoc, advance] at moved ⊢
  split
  next early =>
    rw [if_pos early, early.2.2] at moved
    cases moved
  · exact (keeps_drag moves).next_eq steady move

/-- What is measured at the start lies on both axes. -/
theorem start_onAxis (ctx : Context) :
    OnAxis (grab.els.map fun el => (el.spot.1, (measureEl ctx el).w)) ∧
      OnAxis (grab.els.map fun el => (el.spot.2, (measureEl ctx el).h)) := by
  have keeps : grab.Keeps ⟨(0, 0), false⟩ := keeps_start
  have axes := keeps.onAxis ctx
  have same (el : Element) := @measureEl_shifted ctx el (0, 0) fun _ => rfl
  simp only [columns, lines, (same _).1, (same _).2] at axes
  exact axes

/-- The pointer after a path. -/
def pointer (grab : Grab) (path : List (Rat × Rat)) : Rat × Rat :=
  path.getLast?.getD (grab.lx, grab.ly)

/-- A pointer that is back has no delta where the clamp leaves the elements. -/
theorem target_back {ctx : Context} (atRest : grab.AtRest ctx) {lx ly : Rat}
    (column : Js.round (lx - grab.lx) = 0) (line : Js.round (ly - grab.ly) = 0) :
    grab.target (ctx, lx, ly) = (0, 0) := by
  have axes := @start_onAxis grab ctx
  simp only [target, column, line, clampDelta_zero axes.1 atRest.1,
    clampDelta_zero axes.2 atRest.2]

/-- Where the clamp leaves the elements of a steady drag, the delta is the last pointer's. -/
theorem drag_delta_of_atRest (steady : grab.Steady) {ctx : Context} (atRest : grab.AtRest ctx)
    (path : List (Rat × Rat)) :
    (grab.drag (path.map (ctx, ·))).delta = grab.target (ctx, grab.pointer path) := by
  induction path using List.reverseRecOn with
  | nil =>
    refine (target_back atRest ?_ ?_).symm
    · exact (congrArg Js.round (sub_self grab.lx)).trans (by decide +kernel)
    · exact (congrArg Js.round (sub_self grab.ly)).trans (by decide +kernel)
  | append_singleton path point _ =>
    have last : grab.pointer (path ++ [point]) = point := by
      rw [pointer, List.getLast?_concat, Option.getD_some]
    have keeps : grab.Keeps (grab.drag (path.map (ctx, ·))) := keeps_drag _
    rw [List.map_append, List.map_singleton, drag_snoc, advance, last]
    split
    next early => rw [keeps.still early.2.2, target_back atRest early.1 early.2.1]
    · exact keeps.next_eq steady _

/-- Where the clamp moves the elements of a drag, a pointer that leaves and comes back has moved
them. -/
theorem drag_delta_away (steady : grab.Steady) {ctx : Context} (moves : ¬grab.AtRest ctx) :
    (grab.drag [(ctx, grab.lx + 1, grab.ly), (ctx, grab.lx, grab.ly)]).delta ≠ (0, 0) := by
  have axes := @start_onAxis grab ctx
  have away (lx ly : Rat) : grab.target (ctx, lx, ly) ≠ (0, 0) := by
    intro same
    rw [target, Prod.mk.injEq] at same
    rcases not_and_or.mp moves with column | line
    · exact absurd same.1 (Int.ne_of_lt (clampDelta_neg axes.1 column _))
    · exact absurd same.2 (Int.ne_of_lt (clampDelta_neg axes.2 line _))
  have first : grab.drag [(ctx, grab.lx + 1, grab.ly)] =
      ⟨grab.target (ctx, grab.lx + 1, grab.ly), true⟩ := by
    have step : Js.round (grab.lx + 1 - grab.lx) = 1 := by
      rw [add_sub_cancel_left]
      decide +kernel
    rw [drag, List.foldl_cons, List.foldl_nil, advance, step, if_neg (by simp),
      keeps_start.next_eq steady]
    simp [away]
  have moved : (grab.drag ([(ctx, grab.lx + 1, grab.ly)] ++ [(ctx, grab.lx, grab.ly)])).moved =
      true := by
    rw [drag_snoc, first, advance, if_neg (by simp)]
    rfl
  have last := drag_delta_of_moved steady _ _ moved
  exact last ▸ away grab.lx grab.ly

/-- The delta of a steady drag is a function of the last pointer exactly where the clamp leaves the
elements at the start. -/
theorem pathIndependent_iff (steady : grab.Steady) (ctx : Context) :
    (∀ path other, grab.pointer path = grab.pointer other →
      (grab.drag (path.map (ctx, ·))).delta = (grab.drag (other.map (ctx, ·))).delta) ↔
        grab.AtRest ctx := by
  constructor
  · intro independent
    by_contra moves
    exact drag_delta_away steady moves
      (independent [(grab.lx + 1, grab.ly), (grab.lx, grab.ly)] [] rfl)
  · intro atRest path other same
    rw [drag_delta_of_atRest steady atRest, drag_delta_of_atRest steady atRest, same]

end Grab

/-! ## The editor -/

/-- Whether a drag moves elements. -/
def Drag.moves : Drag → Bool
  | .move _ _ _ _ _ => true
  | .resize _ _ _ => false

namespace Editor

/-- Moves of the pointer. -/
def drive (editor : Editor) (moves : List Move) : Editor :=
  moves.foldl (fun editor move => editor.pointerMove move.1 move.2.1 move.2.2) editor

/-- The places of elements of the working layout. -/
def places (editor : Editor) (idxs : List Nat) : List (Int × Int) :=
  idxs.filterMap fun position => editor.elements[position]?.map Element.spot

/-- An editor in a drag that has come so far since it started. -/
structure Drags (grab : Grab) (started : Editor) (el : Nat) (idxs ids : List Nat) (later : Editor)
    (progress : Progress) : Prop where
  /-- The working layout has the same elements. -/
  working : later.working = started.working
  /-- Those of the drag are moved by its delta. -/
  objects : ∀ id ∈ ids, later.objects id = (started.objects id).shifted progress.delta
  /-- The drag is under way. -/
  drag : later.drag = some (.move el grab.lx grab.ly idxs (grab.els.map Element.spot),
    progress.moved)

/-- The place of a moved element, while it is on the panel. -/
theorem shifted_spot {el : Element} {delta : Int × Int} (within : el.Within delta) :
    (el.shifted delta).spot = (el.spot.1 + delta.1, el.spot.2 + delta.2) := by
  unfold Element.Within at within
  exact Prod.ext (Js.toInt32_of_bounds (by omega) (by omega))
    (Js.toInt32_of_bounds (by omega) (by omega))

section Shifting

variable {editor : Editor}

/-- Shifting one element after another. -/
theorem shift_cons (dx dy : Int) (target : Nat × Int × Int) (targets : List (Nat × Int × Int)) :
    editor.shift dx dy (target :: targets) =
      (((editor.shift dx dy [target]).1.shift dx dy targets).1,
        (editor.shift dx dy [target]).2 ||
          ((editor.shift dx dy [target]).1.shift dx dy targets).2) := by
  have flagged : ∀ (targets : List (Nat × Int × Int)) (editor : Editor) (changed : Bool),
      targets.foldl (fun (state : Editor × Bool) target =>
        let el := state.1.objects target.1
        let nx := clampI (target.2.1 + dx) 0 63
        let ny := clampI (target.2.2 + dy) 0 63
        if nx = el.x.toInt32 ∧ ny = el.y.toInt32 then (state.1, state.2)
        else (state.1.update target.1 fun el => { el with x := .number nx, y := .number ny }, true))
        (editor, changed) =
      ((editor.shift dx dy targets).1, changed || (editor.shift dx dy targets).2) := by
    intro targets
    induction targets with
    | nil => exact fun editor changed => by simp [shift]
    | cons first rest previous =>
      intro editor changed
      simp only [shift, List.foldl_cons]
      split
      · simp only [previous, Bool.false_or]
      · simp only [previous, Bool.true_or, Bool.or_true]
  rw [shift, List.foldl_cons]
  exact flagged targets _ _

/-- Shifting one element from a place to another. -/
theorem shift_single {id : Nat} {el : Element} {place delta : Int × Int}
    (held : editor.objects id = el.shifted place) (here : el.Within place)
    (there : el.Within delta) :
    editor.shift delta.1 delta.2 [(id, el.spot)] =
      if delta = place then (editor, false)
      else (editor.update id fun _ => el.shifted delta, true) := by
  have spot : ((editor.objects id).x.toInt32, (editor.objects id).y.toInt32) =
      (el.spot.1 + place.1, el.spot.2 + place.2) := by
    rw [held]
    exact shifted_spot here
  rw [Prod.mk.injEq] at spot
  have column : clampI (el.spot.1 + delta.1) 0 63 = el.spot.1 + delta.1 :=
    clampI_of_between there.1 (by decide) (by decide)
  have line : clampI (el.spot.2 + delta.2) 0 63 = el.spot.2 + delta.2 :=
    clampI_of_between there.2 (by decide) (by decide)
  have same : (el.spot.1 + delta.1 = el.spot.1 + place.1 ∧
      el.spot.2 + delta.2 = el.spot.2 + place.2) ↔ delta = place := by
    rw [Prod.ext_iff]
    omega
  simp only [shift, List.foldl_cons, List.foldl_nil, column, line, spot.1, spot.2, same]
  split
  · rfl
  · simp only [update, held]
    rfl

variable (base : Nat → Element) {place delta : Int × Int}

/-- Shifting elements that are where they go. -/
theorem shift_still {ids : List Nat} (within : ∀ id ∈ ids, (base id).Within delta)
    (held : ∀ id ∈ ids, editor.objects id = (base id).shifted delta) :
    editor.shift delta.1 delta.2 (ids.map fun id => (id, (base id).spot)) = (editor, false) := by
  induction ids with
  | nil => rfl
  | cons id ids previous =>
    rw [List.forall_mem_cons] at within held
    have first := shift_single held.1 within.1 within.1
    rw [if_pos rfl] at first
    rw [List.map_cons, shift_cons, first, previous within.2 held.2]
    rfl

/-- Shifting elements to a place. -/
theorem shift_moves {ids : List Nat} (there : ∀ id ∈ ids, (base id).Within delta)
    (held : ∀ id ∈ ids, ∃ place, (base id).Within place ∧
      editor.objects id = (base id).shifted place) :
    (editor.shift delta.1 delta.2 (ids.map fun id => (id, (base id).spot))).1.working =
        editor.working ∧
      ∀ other, (other ∈ ids → (editor.shift delta.1 delta.2 (ids.map fun id =>
          (id, (base id).spot))).1.objects other = (base other).shifted delta) ∧
        (other ∉ ids → (editor.shift delta.1 delta.2 (ids.map fun id =>
          (id, (base id).spot))).1.objects other = editor.objects other) := by
  induction ids generalizing editor with
  | nil => exact ⟨rfl, fun other => ⟨fun member => absurd member List.not_mem_nil, fun _ => rfl⟩⟩
  | cons id ids previous =>
    rw [List.forall_mem_cons] at there held
    obtain ⟨⟨place, here, first⟩, rest⟩ := held
    have moved := shift_single first here there.1
    have working : (editor.shift delta.1 delta.2 [(id, (base id).spot)]).1.working =
        editor.working := by
      rw [moved]
      split <;> rfl
    have objects (other : Nat) :
        (editor.shift delta.1 delta.2 [(id, (base id).spot)]).1.objects other =
          if other = id then (base id).shifted delta else editor.objects other := by
      rw [moved]
      split
      next same =>
        split
        next alone => rw [alone, first, same]
        · rfl
      · rfl
    have later := @previous (editor.shift delta.1 delta.2 [(id, (base id).spot)]).1
      there.2 fun other member => by
        rw [objects]
        split
        next alone => exact ⟨delta, alone ▸ there.1, by rw [alone]⟩
        · exact rest other member
    rw [List.map_cons, shift_cons]
    refine ⟨later.1.trans working, fun other => ⟨fun member => ?_, fun absent => ?_⟩⟩
    · by_cases again : other ∈ ids
      · exact (later.2 other).1 again
      · have alone : other = id := (List.mem_cons.mp member).resolve_right again
        rw [(later.2 other).2 again, objects, if_pos alone, alone]
    · rw [List.mem_cons, not_or] at absent
      rw [(later.2 other).2 absent.2, objects, if_neg absent.1]

/-- Shifting elements to another place is a change. -/
theorem shift_changes {ids : List Nat} (nonempty : ids ≠ [])
    (here : ∀ id ∈ ids, (base id).Within place) (there : ∀ id ∈ ids, (base id).Within delta)
    (held : ∀ id ∈ ids, editor.objects id = (base id).shifted place) (other : delta ≠ place) :
    (editor.shift delta.1 delta.2 (ids.map fun id => (id, (base id).spot))).2 = true := by
  cases ids with
  | nil => exact absurd rfl nonempty
  | cons id ids =>
    rw [List.forall_mem_cons] at here there held
    have first := shift_single held.1 here.1 there.1
    rw [if_neg other] at first
    rw [List.map_cons, shift_cons, first, Bool.true_or]

end Shifting

section Refinement

variable {grab : Grab} {started later : Editor} {el : Nat} {idxs ids : List Nat}
  {progress : Progress} (objects : grab.els = ids.map started.objects)
  (found : idxs.mapM (started.working[·]?) = some ids)

include objects found

/-- A move of the pointer is a move of the drag. -/
theorem pointerMove_drags (drags : Drags grab started el idxs ids later progress)
    (keeps : grab.Keeps progress) (move : Move) :
    Drags grab started el idxs ids (later.pointerMove move.1 move.2.1 move.2.2)
      (grab.advance progress move) := by
  have members {id : Nat} (member : id ∈ ids) : started.objects id ∈ grab.els :=
    objects ▸ List.mem_map_of_mem member
  have next := keeps.advance move
  unfold pointerMove Grab.advance
  rw [drags.drag]
  dsimp only
  split
  · exact drags
  next late =>
    have here : ∀ id ∈ ids, (started.objects id).Within progress.delta :=
      fun id member => keeps.inside _ (members member)
    have there : ∀ id ∈ ids, (started.objects id).Within (grab.next progress.delta move) := by
      intro id member
      have inside := next.inside _ (members member)
      rwa [Grab.advance, if_neg late] at inside
    have spots : ids.zip (grab.els.map Element.spot) =
        ids.map fun id => (id, (started.objects id).spot) := by
      rw [objects, List.map_map]
      exact List.map_prod_left_eq_zip.symm
    have boxes (f : Int × Int → Box → Int × Int) :
        (grab.els.map Element.spot).zipWith f
          (ids.map fun id => measureEl move.1 (later.objects id)) =
        grab.els.map fun el => f el.spot (measureEl move.1 (el.shifted progress.delta)) := by
      rw [objects, List.map_map, List.zipWith_map, List.zipWith_self, List.map_map]
      exact List.map_congr_left fun id member => by rw [drags.objects id member]; rfl
    rw [drags.working, found]
    dsimp only
    have column : clampDelta (Js.round (move.2.1 - grab.lx)) (deltaRange
        (grab.els.map fun el => (el.spot.1, (measureEl move.1 (el.shifted progress.delta)).w))) =
          (grab.next progress.delta move).1 := rfl
    have line : clampDelta (Js.round (move.2.2 - grab.ly)) (deltaRange
        (grab.els.map fun el => (el.spot.2, (measureEl move.1 (el.shifted progress.delta)).h))) =
          (grab.next progress.delta move).2 := rfl
    rw [boxes, boxes, spots, column, line]
    generalize grab.next progress.delta move = delta at there
    by_cases same : delta = progress.delta
    · subst same
      rw [shift_still started.objects here drags.objects]
      exact { drags with drag := by simpa using drags.drag }
    · have nonempty : ids ≠ [] := by
        rintro rfl
        exact grab.grabbed objects
      have changed := shift_changes started.objects nonempty here there drags.objects same
      have moved := shift_moves started.objects there fun id member =>
        ⟨progress.delta, here id member, drags.objects id member⟩
      rw [if_pos changed]
      exact
        { working := moved.1.trans drags.working
          objects := fun id member => (moved.2 id).1 member
          drag := by simp [mutated, same] }

end Refinement

/-- The places of elements, read from their objects. -/
theorem places_eq (editor : Editor) (idxs : List Nat) : editor.places idxs =
    (idxs.filterMap (editor.working[·]?)).map fun id => (editor.objects id).spot := by
  rw [List.map_filterMap]
  refine List.filterMap_congr fun position _ => ?_
  rw [elements, List.getElem?_map, Option.map_map]
  rfl

/-- The elements at positions, read from their objects. -/
theorem filterMap_elements (editor : Editor) (idxs : List Nat) :
    idxs.filterMap (editor.elements[·]?) =
      (idxs.filterMap (editor.working[·]?)).map editor.objects := by
  rw [List.map_filterMap]
  exact List.filterMap_congr fun position _ => List.getElem?_map

/-- Positions that are there are all found. -/
theorem mapM_positions {α : Type} {items : List α} {idxs : List Nat}
    (there : ∀ position ∈ idxs, position < items.length) :
    idxs.mapM (items[·]?) = some (idxs.filterMap (items[·]?)) := by
  induction idxs with
  | nil => rfl
  | cons position idxs previous =>
    rw [List.forall_mem_cons] at there
    rw [List.mapM_cons, previous there.2, List.getElem?_eq_getElem there.1,
      List.filterMap_cons, List.getElem?_eq_getElem there.1]
    rfl

/-- A clamped element starts on the panel. -/
theorem spot_of_clamped {el : Element} (clamped : clampElement el = el) :
    (0 ≤ el.spot.1 ∧ el.spot.1 ≤ 63) ∧ 0 ≤ el.spot.2 ∧ el.spot.2 ≤ 63 := by
  have inside {value : Value} (held : value.Between 0 63) :
      0 ≤ value.toInt32 ∧ value.toInt32 ≤ 63 := by
    obtain ⟨n, rfl, within⟩ := held
    rw [Value.toInt32, Js.toInt32_of_bounds (by omega) (by omega)]
    exact within
  have column : el.x.Between 0 63 := congrArg Element.x clamped ▸ clampI_between _ (by decide)
  have line : el.y.Between 0 63 := congrArg Element.y clamped ▸ clampI_between _ (by decide)
  exact ⟨inside column, inside line⟩

/-- The elements of a group are there. -/
theorem groupIdx_lt {els : List Element} {hit : Nat} (there : hit < els.length) :
    ∀ position ∈ groupIdx els hit, position < els.length := by
  intro position member
  unfold groupIdx at member
  split at member
  · exact List.mem_singleton.mp member ▸ there
  · split at member
    · exact List.mem_range.mp (List.mem_filter.mp member).1
    · exact List.mem_singleton.mp member ▸ there

/-- A group has an element. -/
theorem groupIdx_ne_nil {els : List Element} {hit : Nat} (there : hit < els.length) :
    groupIdx els hit ≠ [] := by
  unfold groupIdx
  split
  · simp
  next el found =>
    split
    next connected =>
      refine List.ne_nil_of_mem (List.mem_filter.mpr ⟨List.mem_range.mpr there, ?_⟩)
      rw [found, Option.any_some, connected, Bool.true_and]
      exact beq_self_eq_true _
    · simp

section Pressing

variable {editor : Editor} {ctx : Context} {lx ly cssPitch : Rat} {id hit : Nat} {idxs : List Nat}

/-- Pressing the pointer on an element starts a drag of its group. -/
theorem pointerDown_grabs (isOpen : editor.editorOpen = true)
    (selected : (editor.pointerDown ctx lx ly cssPitch).sel = some hit)
    (grabbed : (editor.pointerDown ctx lx ly cssPitch).drag.any (·.1.moves) = true) :
    hit < editor.elements.length ∧ ∃ id, editor.pointerDown ctx lx ly cssPitch =
      { editor with
        sel := some hit
        drag := some (.move id lx ly (groupIdx editor.elements hit)
          (editor.places (groupIdx editor.elements hit)), false) } := by
  unfold pointerDown at selected grabbed ⊢
  rw [isOpen] at selected grabbed ⊢
  simp only [Bool.not_true, Bool.false_eq_true, if_false] at selected grabbed ⊢
  split at grabbed
  next drag resizes =>
    obtain ⟨_, _, rest⟩ := Option.bind_eq_some_iff.mp resizes
    obtain ⟨_, _, resize⟩ := Option.bind_eq_some_iff.mp rest
    cases resize
    cases grabbed
  next nothing =>
    simp only [nothing] at selected ⊢
    split at grabbed
    next missed => simp [missed] at selected
    next other struck =>
      simp only [struck, Option.some.injEq] at selected grabbed ⊢
      subst selected
      cases found : editor.working[other]? with
      | none =>
        rw [found] at grabbed
        cases grabbed
      | some id =>
        refine ⟨?_, id, rfl⟩
        rw [elements, List.length_map]
        exact (List.getElem?_eq_some_iff.mp found).1

/-- A drag that has just started has moved nothing. -/
theorem started_drags {grab : Grab} {started : Editor} {ids : List Nat}
    (whole : ∀ id ∈ ids, clampElement (started.objects id) = started.objects id)
    (held : started.drag =
      some (.move id grab.lx grab.ly idxs (grab.els.map Element.spot), false)) :
    Drags grab started id idxs ids started ⟨(0, 0), false⟩ where
  working := rfl
  objects other member := by
    have column : (started.objects other).x.Between 0 63 :=
      congrArg Element.x (whole other member) ▸ clampI_between _ (by decide)
    have line : (started.objects other).y.Between 0 63 :=
      congrArg Element.y (whole other member) ▸ clampI_between _ (by decide)
    have x := toInt32_of_between column (by decide) (by decide)
    have y := toInt32_of_between line (by decide) (by decide)
    simp only [Element.shifted, Element.spot, Int.add_zero, ← x, ← y]
  drag := held

/-- Moves of the pointer are moves of the drag. -/
theorem drive_drags {grab : Grab} {started : Editor} {ids : List Nat}
    (objects : grab.els = ids.map started.objects)
    (found : idxs.mapM (started.working[·]?) = some ids)
    (start : Drags grab started id idxs ids started ⟨(0, 0), false⟩) (moves : List Move) :
    Drags grab started id idxs ids (started.drive moves) (grab.drag moves) := by
  induction moves using List.reverseRecOn with
  | nil => exact start
  | append_singleton moves move previous =>
    rw [drive, List.foldl_concat, Grab.drag_snoc]
    exact pointerMove_drags objects found previous (Grab.keeps_drag moves) move

/-- The elements of a drag are at their starts, moved by its delta. -/
theorem Drags.places_eq {grab : Grab} {started later : Editor} {progress : Progress}
    (drags : Drags grab started id idxs (idxs.filterMap (started.working[·]?)) later progress)
    (objects : grab.els = (idxs.filterMap (started.working[·]?)).map started.objects)
    (keeps : grab.Keeps progress) :
    later.places idxs = grab.els.map fun el =>
      (el.spot.1 + progress.delta.1, el.spot.2 + progress.delta.2) := by
  rw [Editor.places_eq, drags.working, objects, List.map_map]
  refine List.map_congr_left fun other member => ?_
  rw [drags.objects other member]
  exact shifted_spot (keeps.inside _ (objects ▸ List.mem_map_of_mem member))

/-- The editor follows the drag that the press starts: the elements of the group are at their
starts, moved by the drag's delta, and the drag has moved when it says so. -/
theorem drive_follows (clamped : ∀ el ∈ editor.elements, clampElement el = el)
    (isOpen : editor.editorOpen = true)
    (selected : (editor.pointerDown ctx lx ly cssPitch).sel = some hit)
    (grabbed : (editor.pointerDown ctx lx ly cssPitch).drag.any (·.1.moves) = true) :
    let started := editor.pointerDown ctx lx ly cssPitch
    let idxs := groupIdx editor.elements hit
    ∃ grab : Grab,
      (grab.els = idxs.filterMap (editor.elements[·]?) ∧ grab.lx = lx ∧ grab.ly = ly) ∧
      editor.places idxs = grab.els.map Element.spot ∧
      ∀ moves, (started.drive moves).places idxs = (grab.els.map fun el =>
          (el.spot.1 + (grab.drag moves).delta.1, el.spot.2 + (grab.drag moves).delta.2)) ∧
        (started.drive moves).drag.any (·.2) = (grab.drag moves).moved := by
  obtain ⟨there, id, pressed⟩ := pointerDown_grabs isOpen selected grabbed
  rw [pressed]
  intro started idxs
  have valid : ∀ position ∈ idxs, position < editor.working.length := by
    intro position member
    have inside := groupIdx_lt there position member
    rwa [elements, List.length_map] at inside
  have found : idxs.mapM (started.working[·]?) = some (idxs.filterMap (started.working[·]?)) :=
    mapM_positions valid
  have members : ∀ el ∈ idxs.filterMap (editor.elements[·]?), el ∈ editor.elements := by
    intro el member
    obtain ⟨position, -, held⟩ := List.mem_filterMap.mp member
    exact List.mem_of_getElem? held
  have nonempty : idxs.filterMap (editor.elements[·]?) ≠ [] := by
    obtain ⟨position, member⟩ := List.exists_mem_of_ne_nil idxs (groupIdx_ne_nil there)
    have inside := groupIdx_lt there position member
    exact List.ne_nil_of_mem
      (List.mem_filterMap.mpr ⟨position, member, List.getElem?_eq_getElem inside⟩)
  let grab : Grab :=
    { els := idxs.filterMap (editor.elements[·]?)
      lx := lx
      ly := ly
      grabbed := nonempty
      inside := fun el member => spot_of_clamped (clamped el (members el member)) }
  have objects : grab.els = (idxs.filterMap (started.working[·]?)).map started.objects :=
    filterMap_elements editor idxs
  have starting : editor.places idxs = grab.els.map Element.spot := by
    rw [objects, List.map_map]
    exact places_eq editor idxs
  have whole : ∀ id ∈ idxs.filterMap (started.working[·]?),
      clampElement (started.objects id) = started.objects id := by
    intro other member
    have held : started.objects other ∈ grab.els := objects ▸ List.mem_map_of_mem member
    exact clamped _ (members _ held)
  have held : started.drag =
      some (.move id grab.lx grab.ly idxs (grab.els.map Element.spot), false) :=
    starting ▸ (rfl : started.drag = some (.move id lx ly idxs (editor.places idxs), false))
  refine ⟨grab, ⟨rfl, rfl, rfl⟩, starting, fun moves => ?_⟩
  have drags := drive_drags objects found (started_drags whole held) moves
  refine ⟨drags.places_eq objects (Grab.keeps_drag moves), ?_⟩
  rw [drags.drag, Option.any_some]

end Pressing

/-- Dragging moves the elements of a group by one shared delta and keeps them on the panel. Unless
one of them stretches right of the left edge, once the drag has moved the delta is that of the last
pointer, and it is so from the start on exactly where the clamp leaves the elements at the start. -/
theorem drag_rigid (editor : Editor) (clamped : ∀ el ∈ editor.elements, clampElement el = el)
    (isOpen : editor.editorOpen = true) (ctx : Context) (lx ly cssPitch : Rat) {hit : Nat}
    (selected : (editor.pointerDown ctx lx ly cssPitch).sel = some hit)
    (grabbed : (editor.pointerDown ctx lx ly cssPitch).drag.any (·.1.moves) = true) :
    let started := editor.pointerDown ctx lx ly cssPitch
    let idxs := groupIdx editor.elements hit
    let starts := editor.places idxs
    (∀ moves, ∃ delta : Int × Int,
      (started.drive moves).places idxs =
        starts.map fun start => (start.1 + delta.1, start.2 + delta.2)) ∧
    (∀ moves, ∀ place ∈ (started.drive moves).places idxs,
      (0 ≤ place.1 ∧ place.1 ≤ 63) ∧ 0 ≤ place.2 ∧ place.2 ≤ 63) ∧
    ∃ grab : Grab,
      (grab.els = idxs.filterMap (editor.elements[·]?) ∧ grab.lx = lx ∧ grab.ly = ly) ∧
      (grab.Steady →
        (∀ moves move, (started.drive (moves ++ [move])).drag.any (·.2) = true →
          (started.drive (moves ++ [move])).places idxs = starts.map fun start =>
            (start.1 + (grab.target move).1, start.2 + (grab.target move).2)) ∧
        ∀ ctx, (∀ path other, grab.pointer path = grab.pointer other →
          (started.drive (path.map (ctx, ·))).places idxs =
            (started.drive (other.map (ctx, ·))).places idxs) ↔ grab.AtRest ctx) := by
  intro started idxs starts
  obtain ⟨grab, same, starting, follows⟩ := drive_follows clamped isOpen selected grabbed
  have places (moves : List Move) : (started.drive moves).places idxs =
      starts.map fun start => (start.1 + (grab.drag moves).delta.1,
        start.2 + (grab.drag moves).delta.2) := by
    rw [(follows moves).1, show starts = _ from starting, List.map_map]
    rfl
  refine ⟨fun moves => ⟨_, places moves⟩, fun moves place member => ?_, grab, same,
    fun steady => ⟨fun moves move moved => ?_, fun ctx => ?_⟩⟩
  · rw [(follows moves).1] at member
    obtain ⟨el, inside, rfl⟩ := List.mem_map.mp member
    exact (Grab.keeps_drag moves).inside el inside
  · rw [(follows _).2] at moved
    rw [places, Grab.drag_delta_of_moved steady moves move moved]
  · rw [← Grab.pathIndependent_iff steady ctx]
    refine forall_congr' fun path => forall_congr' fun other => imp_congr_right fun _ => ?_
    rw [places, places]
    refine ⟨fun same => ?_, fun same => by rw [same]⟩
    cases first : starts with
    | nil => exact absurd (List.map_eq_nil_iff.mp (starting.symm.trans first)) grab.grabbed
    | cons head rest =>
      rw [first] at same
      rw [List.map_cons, List.map_cons, List.cons.injEq, Prod.mk.injEq] at same
      exact Prod.ext (Int.add_left_cancel same.1.1) (Int.add_left_cancel same.1.2)

/-- What the page shows at noon, without departures. -/
def noonContext : Context where
  deps := []
  station := []
  stripCity := false
  showLineBadges := true
  frame := 0
  now := ⟨2025, 0, 1, 12, 0, by decide, by decide, by decide, by decide, by decide⟩

/-- A text that has been added and moved to a column. -/
def placedText (column : Int) : Editor :=
  (Machine.run step start [.openEditor, .addElement .text, .enter .x column]).1

/-- The elements of an editor that has run from the start are clamped. -/
theorem run_clamped (events : List Event) :
    ∀ el ∈ (Machine.run step start events).1.elements, clampElement el = el := by
  intro el member
  obtain ⟨id, -, rfl⟩ := List.mem_map.mp member
  exact clampElement_of_kept ((run_kept events).objects id)

/-- A departure that has been added, its three fields connected. -/
def addedDeparture : Editor := (Machine.run step start [.openEditor, .addDeparture]).1

/-- A text that is dragged about, and a departure that is dragged by its destination: its fields go
together, on the panel, and a pointer that comes to one place by two paths leaves them at one. -/
theorem drag_rigid_placed :
    (let editor := placedText 10
      let started := editor.pointerDown noonContext 15 5 10
      (∀ moves, ∃ delta : Int × Int,
        (started.drive moves).places [0] = [(10 + delta.1, 2 + delta.2)]) ∧
      ∀ moves, ∀ place ∈ (started.drive moves).places [0],
        (0 ≤ place.1 ∧ place.1 ≤ 63) ∧ 0 ≤ place.2 ∧ place.2 ≤ 63) ∧
    let started := addedDeparture.pointerDown noonContext 25 20 10
    (∀ moves, ∃ delta : Int × Int,
      (started.drive moves).places [0, 1, 2] = [(1 + delta.1, 15 + delta.2),
        (20 + delta.1, 18 + delta.2), (50 + delta.1, 18 + delta.2)]) ∧
      (∀ moves, ∀ place ∈ (started.drive moves).places [0, 1, 2],
        (0 ≤ place.1 ∧ place.1 ≤ 63) ∧ 0 ≤ place.2 ∧ place.2 ≤ 63) ∧
      ∀ path other : List (Rat × Rat), path.getLast? = other.getLast? →
        (started.drive (path.map (noonContext, ·))).places [0, 1, 2] =
          (started.drive (other.map (noonContext, ·))).places [0, 1, 2] := by
  have text := @drag_rigid (placedText 10) (run_clamped _) rfl noonContext 15 5 10 0
    (by decide +kernel) (by decide +kernel)
  have group := @drag_rigid addedDeparture (run_clamped _) (by decide +kernel) noonContext 25 20 10
    1 (by decide +kernel) (by decide +kernel)
  have alone : groupIdx (placedText 10).elements 0 = [0] := by decide +kernel
  have three : groupIdx addedDeparture.elements 1 = [0, 1, 2] := by decide +kernel
  have left : (placedText 10).places [0] = [(10, 2)] := by decide +kernel
  have places : addedDeparture.places [0, 1, 2] = [(1, 15), (20, 18), (50, 18)] := by decide +kernel
  simp only [alone, left] at text
  simp only [three, places] at group
  obtain ⟨rigid, onPanel, grab, ⟨els, -, -⟩, steadily⟩ := group
  have steady : grab.Steady := by
    rw [Grab.Steady, els]
    decide +kernel
  have atRest : grab.AtRest noonContext := by
    rw [Grab.AtRest, els]
    decide +kernel
  refine ⟨⟨text.1, text.2.1⟩, rigid, onPanel, fun path other last => ?_⟩
  refine ((steadily steady).2 noonContext).mpr atRest path other ?_
  rw [Grab.pointer, Grab.pointer, last]

/-- A text that overhangs the panel is not put back by a pointer that moves down a row and comes
back: it stays pulled onto the panel. -/
theorem drag_not_restored :
    (∀ el ∈ (placedText 50).elements, clampElement el = el) ∧
      ((placedText 50).pointerDown noonContext 55 5 10).drag.any (·.1.moves) = true ∧
      ((placedText 50).pointerDown noonContext 55 5 10).places [0] = [(50, 2)] ∧
      (((placedText 50).pointerDown noonContext 55 5 10).drive
        [(noonContext, 55, 6), (noonContext, 55, 5)]).places [0] = [(44, 2)] :=
  ⟨run_clamped _, by decide +kernel, by decide +kernel, by decide +kernel⟩

end Editor

end Zugli.Web
