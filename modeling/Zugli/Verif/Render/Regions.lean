import Mathlib.Tactic.Ring
import Zugli.Firmware.Display.Custom

/-!
# What drawing a scaled text lights

Every drawing step of a text paints a region in one colour: a pixel, a block, a glyph, and the text
as the glyphs side by side. What is off the panel is lost, and nothing but the region changes.
-/

namespace Zugli

namespace Canvas

variable (canvas : Canvas) (fb : FrameBuffer)

/-- Setting a pixel paints it, and off the panel nothing. -/
theorem pset_eq (x y : Int) (color : Color) :
    canvas.pset fb x y color = fb.paint (Raster.pixel x y) (canvas.scaled color) := by
  unfold pset
  split
  · rfl
  · next off =>
    refine (Raster.paint_of_off_panel fun row column => ?_).symm
    simp only [Raster.pixel, decide_eq_false_iff_not]
    omega

/-- A block paints its rectangle within the clip. -/
theorem blitCell_eq (x y : Int) (k : Nat) (color : Color) (clip : Band) :
    canvas.blitCell fb x y k color clip =
      fb.paint (fun column row => clip.contains column && Raster.rectangle x y k k column row)
        (canvas.scaled color) := by
  have cell : ∀ sy sx : Nat, ∀ state : FrameBuffer,
      (if clip.contains (x + sx) then canvas.pset state (x + sx) (y + sy) color else state) =
        state.paint (fun column row =>
          decide (clip.contains (x + sx) = true) && Raster.pixel (x + sx) (y + sy) column row)
          (canvas.scaled color) := by
    intro sy sx state
    rw [pset_eq, Raster.paint_if]
  have line : ∀ sy < k, ∀ state : FrameBuffer,
      forRange k (fun sx state =>
        if clip.contains (x + sx) then canvas.pset state (x + sx) (y + sy) color else state) state =
        state.paint (fun column row => decide (∃ sx < k, (decide (clip.contains (x + sx) = true) &&
          Raster.pixel (x + sx) (y + sy) column row) = true)) (canvas.scaled color) := by
    intro sy _ state
    rw [forRange_congr (fun sx _ state => cell sy sx state), Raster.forRange_paint]
  unfold blitCell
  rw [forRange_congr line, Raster.forRange_paint]
  apply Raster.paint_congr
  intro row column
  rw [Bool.eq_iff_iff]
  simp only [Raster.pixel, Raster.rectangle, Bool.and_eq_true, decide_eq_true_eq]
  constructor
  · rintro ⟨sy, low, sx, near, kept, across, along⟩
    rw [across]
    exact ⟨kept, by omega⟩
  · rintro ⟨kept, left, right, top, bottom⟩
    refine ⟨(row.val - y).toNat, by omega, (column.val - x).toNat, by omega, ?_, by omega,
      by omega⟩
    rwa [show x + ((column.val - x).toNat : Int) = column.val by omega]

/-- Whether a glyph, blown up by `k`, lights a point right of and below its corner. -/
def glyphLit (glyph : GlyphCanvas) (style : GlyphStyle) (column row : Int) : Bool :=
  decide (0 ≤ column ∧ column < style.font.width * style.k ∧ 0 ≤ row ∧
    row < style.font.height * style.k) &&
    glyph.lit (column / style.k).toNat (row / style.k).toNat

/-- A glyph paints its blocks within the clip. -/
theorem blitGlyph_eq (glyph : GlyphCanvas) (x y : Int) {style : GlyphStyle} (scale : 0 < style.k)
    (clip : Band) :
    canvas.blitGlyph fb glyph x y style clip =
      fb.paint (fun column row => clip.contains column &&
        glyphLit glyph style (column - x) (row - y)) (canvas.scaled style.color) := by
  have block (gx gy : Nat) (state : FrameBuffer) :
      (if glyph.lit gx gy then canvas.blitCell state (x + gx * style.k) (y + gy * style.k)
        style.k style.color clip else state) =
        state.paint (fun column row => decide (glyph.lit gx gy = true) &&
          (clip.contains column && Raster.rectangle (x + gx * style.k) (y + gy * style.k)
            style.k style.k column row)) (canvas.scaled style.color) := by
    rw [blitCell_eq, Raster.paint_if]
  have line : ∀ gy < style.font.height.toNat, ∀ state : FrameBuffer,
      forRange style.font.width.toNat (fun gx state =>
        if glyph.lit gx gy then canvas.blitCell state (x + gx * style.k) (y + gy * style.k)
          style.k style.color clip else state) state =
        state.paint (fun column row => decide (∃ gx < style.font.width.toNat,
          (decide (glyph.lit gx gy = true) && (clip.contains column &&
            Raster.rectangle (x + gx * style.k) (y + gy * style.k) style.k style.k column row)) =
              true)) (canvas.scaled style.color) := by
    intro gy _ state
    rw [forRange_congr (fun gx _ state => block gx gy state), Raster.forRange_paint]
  unfold blitGlyph
  rw [forRange_congr line, Raster.forRange_paint]
  apply Raster.paint_congr
  intro row column
  rw [Bool.eq_iff_iff]
  simp only [Raster.rectangle, glyphLit, Bool.and_eq_true, decide_eq_true_eq]
  have side : (0 : Int) < style.k := by omega
  constructor
  · rintro ⟨gy, low, gx, near, lit, kept, left, right, top, bottom⟩
    have across : ((column.val : Int) - x) / style.k = gx :=
      (Int.ediv_eq_iff_of_pos side).mpr (by omega)
    have along : ((row.val : Int) - y) / style.k = gy :=
      (Int.ediv_eq_iff_of_pos side).mpr (by omega)
    have narrow : ((column.val : Int) - x) < style.font.width * style.k :=
      (Int.ediv_lt_iff_lt_mul side).mp (by omega)
    have short : ((row.val : Int) - y) < style.font.height * style.k :=
      (Int.ediv_lt_iff_lt_mul side).mp (by omega)
    have fromLeft : (0 : Int) ≤ gx * style.k := Int.mul_nonneg (by omega) (by omega)
    have fromTop : (0 : Int) ≤ gy * style.k := Int.mul_nonneg (by omega) (by omega)
    rw [across, along]
    exact ⟨kept, by omega, lit⟩
  · rintro ⟨kept, ⟨fromLeft, narrow, fromTop, short⟩, lit⟩
    have across := (Int.ediv_eq_iff_of_pos (x := column.val - x) side).mp rfl
    have along := (Int.ediv_eq_iff_of_pos (x := row.val - y) side).mp rfl
    have inWidth := (Int.ediv_lt_iff_lt_mul side).mpr narrow
    have inHeight := (Int.ediv_lt_iff_lt_mul side).mpr short
    have gx : ((((column.val : Int) - x) / style.k).toNat : Int) = (column.val - x) / style.k :=
      Int.toNat_of_nonneg (Int.ediv_nonneg fromLeft (by omega))
    have gy : ((((row.val : Int) - y) / style.k).toNat : Int) = (row.val - y) / style.k :=
      Int.toNat_of_nonneg (Int.ediv_nonneg fromTop (by omega))
    refine ⟨_, by omega, _, by omega, lit, kept, ?_⟩
    rw [gx, gy]
    omega

/-- Whether a text, its glyphs side by side and blown up, lights a point right of and below its
corner. -/
def scaledText (style : GlyphStyle) : List Char → Int → Int → Bool
  | [], _, _ => false
  | char :: rest, column, row =>
    glyphLit (canvas.rasterise style.font char) style column row ||
      scaledText style rest (column - style.font.width * style.k) row

/-- A scaled text paints its glyphs within the clip, skipped glyphs included. -/
theorem blitScaledText_eq (y : Int) {style : GlyphStyle} (scale : 0 < style.k) (clip : Band)
    (text : List Char) (x : Int) :
    canvas.blitScaledText y style clip text x fb =
      fb.paint (fun column row => clip.contains column &&
        canvas.scaledText style text (column - x) (row - y)) (canvas.scaled style.color) := by
  induction text generalizing x fb with
  | nil =>
    refine (Raster.paint_of_off_panel fun row column => ?_).symm
    rw [scaledText, Bool.and_false]
  | cons char rest previous =>
    have drawn : (if clip.start < x + style.font.width * style.k ∧ x < clip.stop then
        canvas.blitGlyph fb (canvas.rasterise style.font char) x y style clip else fb) =
        canvas.blitGlyph fb (canvas.rasterise style.font char) x y style clip := by
      split
      · rfl
      · next skipped =>
        rw [blitGlyph_eq _ _ _ _ _ scale]
        refine (Raster.paint_of_off_panel fun row column => ?_).symm
        rw [Bool.and_eq_false_iff]
        by_cases kept : clip.contains column.val = true
        · right
          rw [Band.contains, decide_eq_true_eq] at kept
          rw [glyphLit, Bool.and_eq_false_iff, decide_eq_false_iff_not]
          left
          omega
        · left
          simpa using kept
    rw [blitScaledText, drawn, previous, blitGlyph_eq _ _ _ _ _ scale, Raster.paint_paint]
    apply Raster.paint_congr
    intro row column
    rw [scaledText, ← Bool.and_or_distrib_left]
    have shifted : (column.val : Int) - (x + style.font.width * style.k) =
        column.val - x - style.font.width * style.k := by omega
    rw [shifted]

/-- A scaled text lights nothing beside itself. -/
theorem scaledText_inside {style : GlyphStyle} {text : List Char} {column row : Int}
    (lit : canvas.scaledText style text column row = true) :
    0 ≤ column ∧ column < charCount text * style.font.width * style.k := by
  have advance : 0 ≤ style.font.width * style.k := by
    cases style.font <;> simp only [MonoFont.width] <;> omega
  induction text generalizing column with
  | nil => cases lit
  | cons char rest previous =>
    have length : charCount (char :: rest) * style.font.width * style.k =
        charCount rest * style.font.width * style.k + style.font.width * style.k := by
      simp only [charCount, List.length_cons]
      push_cast
      ring
    have more : 0 ≤ charCount rest * style.font.width * style.k := by
      rw [Int.mul_assoc]
      exact Int.mul_nonneg (Int.natCast_nonneg _) advance
    rw [scaledText, Bool.or_eq_true] at lit
    rw [length]
    rcases lit with first | later
    · rw [glyphLit, Bool.and_eq_true, decide_eq_true_eq] at first
      omega
    · have within := previous later
      omega

end Canvas

end Zugli
