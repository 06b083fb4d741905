import Zugli.Firmware.Display.Custom
import Zugli.Web.Panel

/-!
# The simulator shows what the panel shows

The firmware's renderer and the page's engine are run in lock-step. The relation between the
framebuffer and the grid is that every pixel holds the same colour; every drawing step keeps it,
and so do the loops around the steps. Coordinates stay small enough throughout that neither side's
32-bit arithmetic matters.
-/

namespace Zugli

/-- A colour as `0xRRGGBB`. -/
def Color.pack (color : Color) : UInt32 :=
  (color.r.toUInt32 <<< 16) ||| (color.g.toUInt32 <<< 8) ||| color.b.toUInt32

/-- A packed colour as a number. -/
theorem Color.pack_toNat (color : Color) :
    color.pack.toNat = (color.r.toNat * 256 + color.g.toNat) * 256 + color.b.toNat := by
  have red := color.r.toNat_lt
  have green := color.g.toNat_lt
  have blue := color.b.toNat_lt
  have upper : color.r.toNat * 2 ^ 16 % 2 ^ 32 ||| color.g.toNat * 2 ^ 8 % 2 ^ 32 =
      (color.r.toNat * 256 + color.g.toNat) <<< 8 := by
    rw [Nat.mod_eq_of_lt (by omega), Nat.mod_eq_of_lt (by omega), ← Nat.shiftLeft_eq _ 16,
      ← Nat.shiftLeft_add_eq_or_of_lt (by omega), Nat.shiftLeft_eq, Nat.shiftLeft_eq]
    omega
  rw [pack, UInt32.toNat_or, UInt32.toNat_or, UInt32.toNat_shiftLeft, UInt32.toNat_shiftLeft]
  simp only [UInt8.toNat_toUInt32, UInt32.reduceToNat, Nat.reduceMod, Nat.shiftLeft_eq _ 16,
    Nat.shiftLeft_eq _ 8]
  rw [upper, ← Nat.shiftLeft_add_eq_or_of_lt (by omega), Nat.shiftLeft_eq]

/-- No two colours are packed alike. -/
theorem Color.pack_injective {left right : Color} (same : left.pack = right.pack) :
    left = right := by
  obtain ⟨r, g, b⟩ := left
  obtain ⟨r', g', b'⟩ := right
  have words := congrArg UInt32.toNat same
  simp only [Color.pack_toNat] at words
  have green := g.toNat_lt
  have blue := b.toNat_lt
  have green' := g'.toNat_lt
  have blue' := b'.toNat_lt
  simp only [Color.mk.injEq, ← UInt8.toNat_inj]
  omega

/-- The bytes of a colour word make up its lower three. -/
theorem Color.pack_bytes (rgb : UInt32) :
    Color.pack ⟨(rgb >>> 16).toUInt8, (rgb >>> 8).toUInt8, rgb.toUInt8⟩ = rgb &&& 0xffffff := by
  apply UInt32.toNat_inj.mp
  have masked : rgb.toNat &&& 0xffffff = rgb.toNat % 2 ^ 24 := Nat.and_two_pow_sub_one_eq_mod _ 24
  rw [Color.pack_toNat, UInt32.toNat_and]
  simp only [UInt32.toNat_toUInt8, UInt32.toNat_shiftRight, UInt32.reduceToNat, Nat.reduceMod,
    Nat.shiftRight_eq_div_pow, masked]
  omega

namespace Parity

/-- The word of the grid for a pixel. -/
def gridPixel (grid : Web.Grid) (row : Fin rows) (column : Fin cols) : UInt32 :=
  grid ⟨row.val * 64 + column.val, by
    have rowBound : row.val < 64 := row.isLt
    have columnBound : column.val < 64 := column.isLt
    omega⟩

/-- The grid holds every colour of the framebuffer. -/
def Shows (fb : FrameBuffer) (grid : Web.Grid) : Prop :=
  ∀ row column, gridPixel grid row column = (fb row column).pack

/-- A coordinate small enough for every computation on it. -/
def Small (n : Int) : Prop := -100000 ≤ n ∧ n ≤ 100000

/-- A fresh grid shows an erased framebuffer. -/
theorem shows_fresh : Shows erased Web.Grid.fresh := by
  have unlit : Color.off.pack = 0 := by decide
  exact fun _ _ => unlit.symm

/-- At full brightness a colour is drawn as it is. -/
theorem scaled_full {canvas : Canvas} (full : canvas.brightness = 100) (color : Color) :
    canvas.scaled color = color := by
  simp [Canvas.scaled, full]

/-- Setting a pixel of the grid shows the pixel painted, on the panel or off it. -/
theorem shows_pixel {fb : FrameBuffer} {grid : Web.Grid} (shown : Shows fb grid) {x y : Int}
    (smallX : Small x) (smallY : Small y) (color : Color) :
    Shows (fb.paint (Raster.pixel x y) color) (Web.pset grid x y color.pack) := by
  intro row column
  have rowBound : row.val < 64 := row.isLt
  have columnBound : column.val < 64 := column.isLt
  obtain ⟨lowX, highX⟩ := smallX
  obtain ⟨lowY, highY⟩ := smallY
  simp only [Web.pset, Js.toInt32_of_bounds (n := x) (by omega) (by omega),
    Js.toInt32_of_bounds (n := y) (by omega) (by omega), Web.panelCols, Web.panelRows]
  by_cases here : (column.val : Int) = x ∧ (row.val : Int) = y
  · obtain ⟨rfl, rfl⟩ := here
    have onPanel : (0 : Int) ≤ column.val ∧ (column.val : Int) < 64 ∧ (0 : Int) ≤ row.val ∧
        (row.val : Int) < 64 := by omega
    simp [gridPixel, Web.Grid.set, Raster.paint, Raster.pixel, onPanel]
  · have elsewhere : fb.paint (Raster.pixel x y) color row column = fb row column := by
      simp [Raster.paint, Raster.pixel, here]
    rw [elsewhere, ← shown row column]
    split
    next onPanel =>
      have otherCell : ¬(row.val : Int) * 64 + column.val = y * 64 + x := by omega
      simp [gridPixel, Web.Grid.set, otherCell]
    next => rfl

/-- Both sides set a pixel alike. -/
theorem shows_pset {canvas : Canvas} (full : canvas.brightness = 100) {fb : FrameBuffer}
    {grid : Web.Grid} (shown : Shows fb grid) {x y : Int} (smallX : Small x) (smallY : Small y)
    (color : Color) : Shows (canvas.pset fb x y color) (Web.pset grid x y color.pack) := by
  unfold Canvas.pset
  split
  next =>
    rw [scaled_full full]
    exact shows_pixel shown smallX smallY color
  next off =>
    have unpainted : fb.paint (Raster.pixel x y) color = fb := by
      apply Raster.paint_of_off_panel
      intro row column
      simp only [Raster.pixel, decide_eq_false_iff_not]
      omega
    have painted := shows_pixel shown smallX smallY color
    rwa [unpainted] at painted

/-- Both sides fill a rectangle alike. -/
theorem shows_fillRect {canvas : Canvas} (full : canvas.brightness = 100) {fb : FrameBuffer}
    {grid : Web.Grid} (shown : Shows fb grid) {x y w h : Int} (lowX : Small x) (lowY : Small y)
    (highX : Small (x + w)) (highY : Small (y + h)) (color : Color) :
    Shows (canvas.fillRect fb x y w h color) (Web.fillRect grid x y w h color.pack) := by
  unfold Small at lowX lowY highX highY
  have filled : canvas.fillRect fb x y w h color =
      forRange h.toNat (fun down => forRange w.toNat fun right =>
        Raster.paint (Raster.pixel (x + right) (y + down)) color) fb := by
    rw [Raster.forRange_pixels, Canvas.fillRect, scaled_full full, Int.toNat_eq_max,
      Int.toNat_eq_max]
  rw [filled]
  refine forRange_related _ shown fun down below fb grid shown => ?_
  refine forRange_related _ shown fun right beside fb grid shown => ?_
  exact shows_pixel shown (by unfold Small; omega) (by unfold Small; omega) color

/-! ## Glyphs and text -/

/-- A band of the panel and the page's clip keep the same small columns. -/
def SameClip (band : Band) (clip : Web.Clip) : Prop :=
  ∀ x, Small x → (band.start ≤ x ↔ clip.startsAt x) ∧ (band.start < x ↔ clip.startsBefore x) ∧
    (x < band.stop ↔ clip.stopsAfter x)

/-- No clip on either side. -/
theorem sameClip_unbounded : SameClip .unbounded ⟨none, none⟩ := by
  intro x small
  unfold Small at small
  simp only [Band.unbounded, Web.Clip.startsAt, Web.Clip.startsBefore, Web.Clip.stopsAfter,
    Option.all_none, iff_true]
  omega

/-- The same box on either side. -/
theorem sameClip_box (low high : Int) : SameClip ⟨low, high⟩ ⟨some low, some high⟩ := by
  intro x _
  simp only [Web.Clip.startsAt, Web.Clip.startsBefore, Web.Clip.stopsAfter, Option.all_some,
    decide_eq_true_eq, and_self]

/-- A block of a scaled glyph, clipped, as the page draws it. -/
def pageCell (clip : Web.Clip) (x y : Int) (k : Nat) (rgb : UInt32) (grid : Web.Grid) : Web.Grid :=
  forRange k (fun sy grid => forRange k (fun sx grid =>
    if clip.startsAt (x + sx) && clip.stopsAfter (x + sx) then
      Web.pset grid (x + sx) (y + sy) rgb
    else grid) grid) grid

/-- Both sides draw a block alike. -/
theorem shows_cell {canvas : Canvas} (full : canvas.brightness = 100) {fb : FrameBuffer}
    {grid : Web.Grid} (shown : Shows fb grid) {band : Band} {clip : Web.Clip}
    (same : SameClip band clip) {x y : Int} {k : Nat} (scale : k ≤ 3)
    (nearX : -90000 ≤ x ∧ x ≤ 90000) (nearY : -90000 ≤ y ∧ y ≤ 90000) (color : Color) :
    Shows (canvas.blitCell fb x y k color band) (pageCell clip x y k color.pack grid) := by
  unfold Canvas.blitCell pageCell
  refine forRange_related _ shown fun sy below fb grid shown => ?_
  refine forRange_related _ shown fun sx beside fb grid shown => ?_
  have smallX : Small (x + sx) := by
    unfold Small
    omega
  have smallY : Small (y + sy) := by
    unfold Small
    omega
  obtain ⟨left, -, right⟩ := same (x + sx) smallX
  have kept : band.contains (x + sx) = true ↔
      (clip.startsAt (x + sx) && clip.stopsAfter (x + sx)) = true := by
    rw [Band.contains, decide_eq_true_eq, left, right, Bool.and_eq_true]
  by_cases inside : band.contains (x + sx) = true
  · rw [if_pos inside, if_pos (kept.mp inside)]
    exact shows_pset full shown smallX smallY color
  · rw [if_neg inside, if_neg (kept.not.mp inside)]
    exact shown

/-- The page's entry for a font. -/
def pageFont (fonts : Web.FontTable) : MonoFont → Web.Font
  | .font5x7 => fonts.font5x7
  | .font6x10 => fonts.font6x10

/-- The glyph the page draws for a character. -/
def pageGlyph (fonts : Web.FontTable) (font : MonoFont) (char : Char) : Web.Glyph :=
  ((pageFont fonts font).g char.toNat).getD (pageFont fonts font).default

/-- A character that is no control character. -/
def Printable (char : Char) : Prop :=
  0x20 ≤ char.toNat ∧ ¬(0x7F ≤ char.toNat ∧ char.toNat < 0xA0)

instance (char : Char) : Decidable (Printable char) := inferInstanceAs (Decidable (_ ∧ _))

/-- A text is printable when a check of its characters says so. -/
theorem printable_of_all {text : List Char}
    (checked : (text.all fun char => decide (Printable char)) = true) :
    ∀ char ∈ text, Printable char := by
  simpa using checked

/-- The page's font table holds the bitmap that the graphics crate draws for each single printable
character. -/
def FontsMatch (textLit : TextRaster) (fonts : Web.FontTable) : Prop :=
  ∀ font char, Printable char → ∀ gx gy : Nat, (gx : Int) < font.width → (gy : Int) < font.height →
    ((pageGlyph fonts font char).getD gy 0).testBit gx = textLit font [char] gx gy

/-- A cell of a rasterised glyph is lit as the crate lights it. -/
theorem rasterise_lit (canvas : Canvas) (font : MonoFont) (char : Char) {gx gy : Nat}
    (wide : gx < 6) (tall : gy < 10) :
    (canvas.rasterise font char).lit gx gy = canvas.textLit font [char] gx gy := by
  simp [GlyphCanvas.lit, Canvas.rasterise, Raster.paint, Raster.blank, wide, tall]

/-- Both sides draw one glyph alike. -/
theorem shows_glyph {canvas : Canvas} (full : canvas.brightness = 100) {fonts : Web.FontTable}
    (fontsMatch : FontsMatch canvas.textLit fonts) {fb : FrameBuffer} {grid : Web.Grid}
    (shown : Shows fb grid) {band : Band} {clip : Web.Clip} (same : SameClip band clip)
    {x y : Int} {style : GlyphStyle} (scale : style.k ≤ 3) (nearX : -80000 ≤ x ∧ x ≤ 80000)
    (nearY : -80000 ≤ y ∧ y ≤ 80000) {char : Char} (printable : Printable char) :
    Shows (canvas.blitGlyph fb (canvas.rasterise style.font char) x y style band)
      (forRange (pageFont fonts style.font).h (fun gy grid =>
        forRange (pageFont fonts style.font).adv (fun gx grid =>
          if ((pageGlyph fonts style.font char).getD gy 0).testBit gx then
            pageCell clip (x + gx * style.k) (y + gy * style.k) style.k style.color.pack grid
          else grid) grid) grid) := by
  have height : (pageFont fonts style.font).h = style.font.height.toNat := by
    cases style.font <;> rfl
  have width : (pageFont fonts style.font).adv = style.font.width.toNat := by
    cases style.font <;> rfl
  have tallest : style.font.height ≤ 10 := by cases style.font <;> decide
  have widest : style.font.width ≤ 6 := by cases style.font <;> decide
  rw [height, width]
  unfold Canvas.blitGlyph
  refine forRange_related _ shown fun gy below fb grid shown => ?_
  refine forRange_related _ shown fun gx beside fb grid shown => ?_
  rw [fontsMatch style.font char printable gx gy (by omega) (by omega),
    ← rasterise_lit canvas style.font char (by omega) (by omega)]
  have acrossBound : gx * style.k ≤ 6 * 3 := Nat.mul_le_mul (by omega) scale
  have downBound : gy * style.k ≤ 10 * 3 := Nat.mul_le_mul (by omega) scale
  split
  · refine shows_cell full shown same scale ?_ ?_ style.color
    · rw [← Int.natCast_mul]
      omega
    · rw [← Int.natCast_mul]
      omega
  · exact shown

/-- Both sides draw a text alike, the glyphs they skip included. -/
theorem shows_text {canvas : Canvas} (full : canvas.brightness = 100) {fonts : Web.FontTable}
    (fontsMatch : FontsMatch canvas.textLit fonts) {band : Band} {clip : Web.Clip}
    (same : SameClip band clip) {y : Int} {style : GlyphStyle} (scale : style.k ≤ 3)
    (nearY : -80000 ≤ y ∧ y ≤ 80000) {text : List Char} (printable : ∀ char ∈ text, Printable char) :
    ∀ {x : Int} {fb : FrameBuffer} {grid : Web.Grid}, -80000 ≤ x → x + 18 * text.length ≤ 80000 →
      Shows fb grid →
      Shows (canvas.blitScaledText y style band text x fb)
        (Web.blitCodePoints y (pageFont fonts style.font) style.k style.color.pack clip
          (text.map Char.toNat) x grid) := by
  have width : ((pageFont fonts style.font).adv : Int) = style.font.width := by
    cases style.font <;> rfl
  have advance : 0 ≤ style.font.width * style.k ∧ style.font.width * style.k ≤ 18 := by
    cases style.font <;> simp only [MonoFont.width] <;> omega
  induction text with
  | nil =>
    intro x fb grid _ _ shown
    exact shown
  | cons char rest previous =>
    intro x fb grid low high shown
    rw [List.length_cons] at high
    push_cast at high
    have reached : (clip.startsBefore (x + style.font.width * style.k) && clip.stopsAfter x) = true ↔
        band.start < x + style.font.width * style.k ∧ x < band.stop := by
      rw [Bool.and_eq_true, (same _ ?_).2.1, (same _ ?_).2.2]
      · unfold Small
        omega
      · unfold Small
        omega
    simp only [Canvas.blitScaledText, List.map_cons, Web.blitCodePoints, width, reached]
    refine previous (fun c member => printable c (List.mem_cons_of_mem _ member)) (by omega)
      (by omega) ?_
    split
    · exact shows_glyph full fontsMatch shown same scale ⟨low, by omega⟩ nearY
        (printable char List.mem_cons_self)
    · exact shown

end Parity

end Zugli
