import Zugli.Spec.Sign
import Zugli.Verif.Render.Regions
import Zugli.Verif.Render.Marquee

/-!
# Drawing in layers

Each drawer lays a picture over the one it is given: a text, a window onto a tape, a bitmap, a
label. A marquee draws its text twice, and the two copies are what a window shows of the tape.
-/

namespace Zugli

namespace Picture

/-- A picture over another, its corner at a point. -/
def lay (top : Picture) (x y : Int) (below : Picture) : Picture := fun column row =>
  (top (column - x) (row - y)).or (below column row)

/-- A picture cut off before its first column and at a width. -/
def cut (picture : Picture) (avail : Int) : Picture := fun column row =>
  if 0 ≤ column ∧ column < avail then picture column row else none

end Picture

namespace Canvas

variable (canvas : Canvas) (picture : Picture)

/-- Pictures that agree on the panel are rendered alike. -/
theorem rendered_congr {first second : Picture}
    (same : ∀ column row, 0 ≤ column → column < 64 → 0 ≤ row → row < 64 →
      first column row = second column row) : canvas.rendered first = canvas.rendered second := by
  funext row column
  have columnBound : column.val < 64 := column.isLt
  have rowBound : row.val < 64 := row.isLt
  simp only [rendered, same column.val row.val (by omega) (by omega) (by omega) (by omega)]

/-- Painting a region lays it over the picture. -/
theorem rendered_paint (region : Int → Int → Bool) (color : Color) :
    (canvas.rendered picture).paint region (canvas.scaled color) =
      canvas.rendered fun column row =>
        if region column row then some color else picture column row := by
  funext row column
  simp only [Raster.paint, rendered]
  split <;> rfl

/-- A dark panel shows nothing. -/
theorem erased_rendered : erased = canvas.rendered fun _ _ => none := rfl

/-- A text is laid where it is drawn. -/
theorem left_rendered (text : List Char) (x y : Int) (font : MonoFont) (color : Color) :
    canvas.left (canvas.rendered picture) text x y font color =
      canvas.rendered ((Sign.still canvas text font color).lay x y picture) := by
  rw [left, rendered_paint]
  apply rendered_congr
  intro column row _ _ _ _
  simp only [Picture.lay, Sign.still]
  split <;> rfl

/-! ## Windows -/

/-- A text lights nothing outside its cells. -/
theorem dark_outside (celled : canvas.textLit.Celled) {text : List Char} (plain : OneLine text)
    {font : MonoFont} {column row : Int}
    (outside : (column < 0 ∨ Sign.textWidth text font ≤ column) ∨ row < 0 ∨ font.height ≤ row) :
    canvas.textLit font text column row = false := by
  by_contra lit
  obtain ⟨across, down⟩ := celled font text column row plain (Bool.eq_true_of_not_eq_false lit)
  unfold Sign.textWidth at outside
  omega

/-- A text has a width. -/
theorem boardWidth_nonneg (text : List Char) (font : MonoFont) : 0 ≤ Sign.textWidth text font := by
  have wide : 0 ≤ font.width := by cases font <;> decide
  exact Int.mul_nonneg (Int.natCast_nonneg _) wide

/-- Two copies of a text, a period apart, are as much of its tape as a window shows. -/
theorem copies_seen (celled : canvas.textLit.Celled) {text : List Char} (plain : OneLine text)
    {font : MonoFont} {avail : Int} (wide : avail < Sign.textWidth text font) (frame : UInt32)
    {column : Int} (near : -14 ≤ column ∧ column ≤ avail + 14) (row : Int) :
    (canvas.textLit font text
        (column + marqueeOffset (Sign.textWidth text font + marqueeGap) frame) row ||
      canvas.textLit font text
        (column + marqueeOffset (Sign.textWidth text font + marqueeGap) frame -
          (Sign.textWidth text font + marqueeGap)) row) =
      canvas.textLit font text (Sign.seenAt text font avail frame column) row := by
  have width := boardWidth_nonneg text font
  have gap : marqueeGap = 14 := rfl
  have phase := marqueeOffset_bounds
    (show 0 < Sign.textWidth text font + marqueeGap by omega) frame
  have seen : Sign.seenAt text font avail frame column =
      (column + marqueeOffset (Sign.textWidth text font + marqueeGap) frame) %
        (Sign.textWidth text font + marqueeGap) := by
    simp only [Sign.seenAt, Sign.scrolls, decide_eq_true wide, if_true]
  rw [seen]
  generalize marqueeOffset (Sign.textWidth text font + marqueeGap) frame = offset at phase
  rcases lt_or_ge (column + offset) 0 with before | inside
  · have wrapped : (column + offset) % (Sign.textWidth text font + marqueeGap) =
        column + offset + (Sign.textWidth text font + marqueeGap) := by
      rw [← Int.add_emod_right, Int.emod_eq_of_lt (by omega) (by omega)]
    rw [wrapped, dark_outside canvas celled plain (.inl (.inl before)),
      dark_outside canvas celled plain (.inl (.inl (by omega))),
      dark_outside canvas celled plain (.inl (.inr (by omega)))]
    rfl
  · rcases lt_or_ge (column + offset) (Sign.textWidth text font + marqueeGap) with first | second
    · have behind : canvas.textLit font text
          (column + offset - (Sign.textWidth text font + marqueeGap)) row = false :=
        dark_outside canvas celled plain (.inl (.inl (by omega)))
      rw [Int.emod_eq_of_lt inside first, behind, Bool.or_false]
    · have wrapped : (column + offset) % (Sign.textWidth text font + marqueeGap) =
          column + offset - (Sign.textWidth text font + marqueeGap) := by
        rw [← Int.sub_emod_right, Int.emod_eq_of_lt (by omega) (by omega)]
      have past : canvas.textLit font text (column + offset) row = false :=
        dark_outside canvas celled plain (.inl (.inr (by omega)))
      rw [wrapped, past, Bool.false_or]

/-- A text that fits its window is seen as it is. -/
theorem window_still {text : List Char} {font : MonoFont} {avail : Int}
    (fits : Sign.textWidth text font ≤ avail) (color : Color) (frame : UInt32) :
    Sign.window canvas text font avail color frame = Sign.still canvas text font color := by
  have rests : Sign.scrolls text font avail = false := decide_eq_false (by omega)
  funext column row
  simp only [Sign.window, Sign.still, Sign.seenAt, rests, Bool.false_eq_true, if_false]

/-- A marquee lays its window. -/
theorem drawMarquee_rendered (celled : canvas.textLit.Celled) {text : List Char}
    (plain : OneLine text) {x0 avail : Int} (near : 0 ≤ x0 ∧ x0 ≤ 14 ∧ 50 ≤ x0 + avail) (y : Int)
    (font : MonoFont) (color : Color) (frame : UInt32) :
    canvas.drawMarquee (canvas.rendered picture) text x0 y avail font color frame =
      (canvas.rendered ((Sign.window canvas text font avail color frame).lay x0 y picture),
        Sign.scrolls text font avail) := by
  unfold drawMarquee
  by_cases fits : Sign.textWidth text font ≤ avail
  · have rests : Sign.scrolls text font avail = false := decide_eq_false (by omega)
    simp only [show charCount text * font.width ≤ avail from fits, if_true, left_rendered,
      canvas.window_still fits, rests]
  · have moves : Sign.scrolls text font avail = true := decide_eq_true (by omega)
    simp only [show ¬charCount text * font.width ≤ avail from fits, if_false, moves]
    refine congrArg (fun drawn : FrameBuffer => (drawn, true)) ?_
    rw [left, left, Raster.paint_paint, rendered_paint]
    apply rendered_congr
    intro column row _ right _ _
    have copies := copies_seen canvas celled plain
        (show avail < Sign.textWidth text font by omega) frame
        (show -14 ≤ column - x0 ∧ column - x0 ≤ avail + 14 by omega) (row - y)
    unfold Sign.textWidth at copies
    have first (offset : Int) : column - (x0 - offset) = column - x0 + offset := by omega
    have second (offset period : Int) : column - (x0 - offset + period) =
        column - x0 + offset - period := by omega
    rw [first, second, copies, Picture.lay, Sign.window]
    split <;> rfl

/-- A band that a text fits in cuts it at both ends only. -/
theorem band_cuts (celled : canvas.textLit.Celled) {text : List Char} (plain : OneLine text)
    {x0 bandY avail bandH y : Int} {font : MonoFont}
    (high : bandY ≤ y ∧ y + font.height ≤ bandY + bandH) (seen column row : Int) :
    (Raster.rectangle x0 bandY avail bandH column row &&
      canvas.textLit font text seen (row - y)) =
      (decide (0 ≤ column - x0 ∧ column - x0 < avail) &&
        canvas.textLit font text seen (row - y)) := by
  cases lit : canvas.textLit font text seen (row - y) with
  | false => rw [Bool.and_false, Bool.and_false]
  | true =>
    obtain ⟨-, down⟩ := celled font text seen (row - y) plain lit
    rw [Bool.and_true, Bool.and_true, Raster.rectangle, decide_eq_decide]
    omega

/-- A marquee clipped to a band that its text fits in lays its window, cut at both ends. -/
theorem drawMarqueeClipped_rendered (celled : canvas.textLit.Celled) {text : List Char}
    (plain : OneLine text) (x0 : Int) {bandY avail bandH y : Int} {font : MonoFont}
    (high : bandY ≤ y ∧ y + font.height ≤ bandY + bandH) (color : Color) (frame : UInt32) :
    canvas.drawMarqueeClipped (canvas.rendered picture) text x0 bandY avail bandH y font color
        frame =
      (canvas.rendered (((Sign.window canvas text font avail color frame).cut avail).lay x0 y
        picture), Sign.scrolls text font avail) := by
  unfold drawMarqueeClipped
  by_cases fits : Sign.textWidth text font ≤ avail
  · have rests : Sign.scrolls text font avail = false := decide_eq_false (by omega)
    simp only [show charCount text * font.width ≤ avail from fits, if_true,
      canvas.window_still fits, rests, leftClipped, rendered_paint]
    refine congrArg (fun drawn : FrameBuffer => (drawn, false)) (rendered_congr _ ?_)
    intro column row _ _ _ _
    simp only [band_cuts canvas celled plain high, Picture.lay, Picture.cut, Sign.still,
      Bool.and_eq_true, decide_eq_true_eq]
    by_cases inside : 0 ≤ column - x0 ∧ column - x0 < avail
    · simp only [inside, and_self, true_and, if_true]
      split <;> rfl
    · simp only [inside, false_and, if_false, Option.none_or]
  · have moves : Sign.scrolls text font avail = true := decide_eq_true (by omega)
    simp only [show ¬charCount text * font.width ≤ avail from fits, if_false, moves]
    refine congrArg (fun drawn : FrameBuffer => (drawn, true)) ?_
    rw [leftClipped, leftClipped, Raster.paint_paint, rendered_paint]
    apply rendered_congr
    intro column row _ _ _ _
    have first (offset : Int) : column - (x0 - offset) = column - x0 + offset := by omega
    have second (offset period : Int) : column - (x0 - offset + period) =
        column - x0 + offset - period := by omega
    rw [← Bool.and_or_distrib_left, first, second]
    by_cases inside : 0 ≤ column - x0 ∧ column - x0 < avail
    · have copies := copies_seen canvas celled plain
        (show avail < Sign.textWidth text font by omega) frame
        (show -14 ≤ column - x0 ∧ column - x0 ≤ avail + 14 by omega) (row - y)
      unfold Sign.textWidth at copies
      rw [copies, band_cuts canvas celled plain high, decide_eq_true inside, Bool.true_and]
      simp only [Picture.lay, Picture.cut, inside, and_self, if_true, Sign.window]
      split <;> rfl
    · have outside : Raster.rectangle x0 bandY avail bandH column row = false :=
        decide_eq_false (by omega)
      simp only [outside, Bool.false_and, Bool.false_eq_true, if_false, Picture.lay, Picture.cut,
        inside, Option.none_or]

/-! ## The parts of a row -/

/-- A bitmap lays its lit cells. -/
theorem blitBitmap_rendered (glyph : Bitmap) (x y : Int) (color : Color) :
    canvas.blitBitmap (canvas.rendered picture) glyph x y 1 color =
      canvas.rendered ((Sign.bitmap glyph color).lay x y picture) := by
  have line : ∀ gy < glyph.length, ∀ state : FrameBuffer,
      (forRange (glyph.getD gy []).length (fun gx state =>
        if (glyph.getD gy []).getD gx 0 = 1 then
          canvas.blitCell state (x + gx * (1 : Nat)) (y + gy * (1 : Nat)) 1 color .unbounded
        else state) state) =
        state.paint (fun column row => decide (∃ gx < (glyph.getD gy []).length,
          (decide ((glyph.getD gy []).getD gx 0 = 1) && (Band.unbounded.contains column &&
            Raster.rectangle (x + gx * (1 : Nat)) (y + gy * (1 : Nat)) (1 : Nat) (1 : Nat)
              column row)) = true)) (canvas.scaled color) := by
    intro gy _ state
    rw [← Raster.forRange_paint]
    refine forRange_congr (fun gx _ state => ?_) state
    rw [blitCell_eq, Raster.paint_if]
  unfold blitBitmap
  rw [forRange_congr line, Raster.forRange_paint, rendered_paint]
  apply rendered_congr
  intro column row left right top bottom
  have kept : Band.unbounded.contains column = true :=
    decide_eq_true (show (-2147483648 : Int) ≤ column ∧ column < 2147483647 by omega)
  have lit : (∃ gy < glyph.length, decide (∃ gx < (glyph.getD gy []).length,
      (decide ((glyph.getD gy []).getD gx 0 = 1) && (Band.unbounded.contains column &&
        Raster.rectangle (x + gx * (1 : Nat)) (y + gy * (1 : Nat)) (1 : Nat) (1 : Nat)
          column row)) = true) = true) ↔
      0 ≤ column - x ∧ 0 ≤ row - y ∧
        (glyph.getD (row - y).toNat []).getD (column - x).toNat 0 = 1 := by
    simp only [kept, Raster.rectangle, decide_eq_true_eq, Bool.and_eq_true, true_and]
    constructor
    · rintro ⟨gy, low, gx, near, one, cell⟩
      rw [show (row - y).toNat = gy by omega, show (column - x).toNat = gx by omega]
      exact ⟨by omega, by omega, one⟩
    · rintro ⟨fromLeft, fromTop, one⟩
      have near : (column - x).toNat < (glyph.getD (row - y).toNat []).length := by
        by_contra past
        rw [List.getD_eq_default _ _ (by omega)] at one
        exact absurd one (by decide)
      have low : (row - y).toNat < glyph.length := by
        by_contra past
        rw [List.getD_eq_default _ _ (by omega)] at near
        exact absurd near (Nat.not_lt_zero _)
      exact ⟨_, low, _, near, one, by omega⟩
  rw [if_congr (decide_eq_true_iff.trans lit) rfl rfl]
  simp only [Picture.lay, Sign.bitmap]
  split <;> rfl

/-- A label is laid where it is drawn. -/
theorem drawLineLabel_rendered (celled : canvas.textLit.Celled) {line : List Char}
    (plain : OneLine line) (x y : Int) :
    canvas.drawLineLabel (canvas.rendered picture) line x y =
      (canvas.rendered ((Sign.label canvas line).lay x y picture),
        x + Sign.labelWidth canvas line) := by
  unfold drawLineLabel Sign.labelWidth
  by_cases badges : canvas.lineBadges = true
  · simp only [badges, if_true, drawBadge, rendered_paint, left_rendered]
    refine congrArg (fun drawn : FrameBuffer => (drawn, _)) (rendered_congr _ ?_)
    intro column row _ _ _ _
    have moved : Raster.rectangle 0 0 (charCount line * 6 + 5) 11 (column - x) (row - y) =
        Raster.rectangle x y (charCount line * 6 + 5) 11 column row :=
      decide_eq_decide.mpr (by omega)
    simp only [Picture.lay, Sign.still, Sign.label, badges, if_true, Sign.labelWidth, moved,
      show column - (x + 3) = column - x - 3 by omega, show row - (y + 1) = row - y - 1 by omega]
    cases lit : canvas.textLit .font6x10 line (column - x - 3) (row - y - 1) with
    | true =>
      obtain ⟨across, down⟩ := celled .font6x10 line _ _ plain lit
      simp only [MonoFont.width, MonoFont.height] at across down
      have inside : Raster.rectangle x y (charCount line * 6 + 5) 11 column row = true :=
        decide_eq_true (by omega)
      simp only [inside, if_true, Option.some_or]
    | false =>
      simp only [Bool.false_eq_true, if_false, Option.none_or]
      split <;> rfl
  · simp only [badges, Bool.false_eq_true, if_false, left_rendered]
    refine congrArg (fun drawn : FrameBuffer => (drawn, _)) (rendered_congr _ ?_)
    intro column row _ _ _ _
    simp only [Picture.lay, Sign.label, badges, Bool.false_eq_true, if_false]
    rw [show row - (y + 1) = row - y - 1 by omega]

end Canvas

end Zugli
