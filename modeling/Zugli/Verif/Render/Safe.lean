import Zugli.Firmware.Display.Checked
import Zugli.Firmware.Display.Render
import Zugli.Verif.Parity.Texts
import Zugli.Verif.Render.Marquee

/-!
# No layout stops the renderer

Whatever a layout holds, the renderer of custom layouts stays within machine arithmetic: the checked
renderer never stops and draws what the renderer of unbounded integers draws.
-/

namespace Zugli

open Checked

/-- What a text of one character lights when the crate draws the given points. -/
def litBy (pixels : GlyphPixels) : TextRaster
  | font, [char], column, row => decide ((column, row) ∈ pixels font char)
  | _, _, _, _ => false

/-- The offset of a marquee stays in range. -/
theorem marqueeOffset?_eq {period : Int} (positive : 0 < period) (short : period ≤ 100000)
    (frame : UInt32) : marqueeOffset? period frame = some (marqueeOffset period frame) := by
  have unsigned : asU32 period = period.toNat := by
    rw [asU32, Int.emod_eq_of_lt (by omega) (by omega)]
  have cycle : u32 ((holdFrames : Int) + (period.toNat : Int)) =
      some ((holdFrames : Int) + (period.toNat : Int)) := by
    unfold holdFrames
    exact u32_eq (by omega) (by omega)
  have frames : ((holdFrames : Int) + (period.toNat : Int)).toNat = holdFrames + period.toNat := by
    omega
  have phase := Nat.mod_lt frame.toNat (show 0 < holdFrames + period.toNat by omega)
  have exact : asI32 ((frame.toNat % (holdFrames + period.toNat) - holdFrames : Nat) : Int) =
      ((frame.toNat % (holdFrames + period.toNat) - holdFrames : Nat) : Int) :=
    asI32_eq (by omega) (by omega)
  simp only [marqueeOffset?, unsigned, cycle, frames, rem_eq (Nat.zero_lt_of_lt phase), exact,
    Option.bind_eq_bind, Option.bind_some, marqueeOffset]

/-- A text written into a string fits it. -/
theorem writeInto_length {capacity : Nat} {pieces : List (List Char)} {written : List Char}
    (fits : written.length ≤ capacity) : (writeInto capacity pieces written).length ≤ capacity := by
  induction pieces generalizing written with
  | nil => exact fits
  | cons piece rest previous =>
    rw [writeInto]
    split
    · next room => exact previous (by rwa [List.length_append])
    · exact fits

/-- A number of minutes is a short text. -/
theorem fmtMinutes_length (minutes : Option UInt16) : (fmtMinutes minutes).length ≤ 8 := by
  unfold fmtMinutes
  repeat' split
  all_goals exact writeInto_length (Nat.zero_le 8)

namespace GlyphCanvas

/-- An index of a cell. -/
theorem index?_eq {gx gy : Nat} (wide : gx < 6) (tall : gy < 10) :
    index? gx gy = some (⟨gy, tall⟩, ⟨gx, wide⟩) := by
  have inside : ((0 : Int) ≤ gy ∧ (gy : Int) < 10) ∧ (0 : Int) ≤ gx ∧ (gx : Int) < 6 := by omega
  rw [index?, dif_pos inside]
  rfl

/-- A cell of a glyph is read. -/
theorem lit?_eq (glyph : GlyphCanvas) {gx gy : Nat} (wide : gx < 6) (tall : gy < 10) :
    glyph.lit? gx gy = some (glyph.lit gx gy) := by
  rw [lit?, index?_eq wide tall, lit, dif_pos ⟨wide, tall⟩]
  rfl

/-- Points are drawn to the cells they are on, and those beside the canvas are left out. -/
theorem drawIter?_eq (pixels : List (Int × Int)) (glyph : GlyphCanvas) :
    drawIter? pixels glyph =
      some (Raster.paint (fun column row => decide ((column, row) ∈ pixels)) true glyph) := by
  induction pixels generalizing glyph with
  | nil =>
    refine congrArg some (Raster.paint_of_off_panel fun row column => ?_).symm
    simp
  | cons point pixels previous =>
    obtain ⟨x, y⟩ := point
    rw [drawIter?]
    by_cases inside : (0 ≤ x ∧ x < 6) ∧ 0 ≤ y ∧ y < 10
    · have indexed : index? x y = some (⟨y.toNat, by omega⟩, ⟨x.toNat, by omega⟩) :=
        dif_pos ⟨inside.2, inside.1⟩
      simp only [inside, and_self, if_true, indexed, Option.bind_eq_bind, Option.bind_some]
      refine (previous _).trans (congrArg some ?_)
      funext row column
      have here : (row = ⟨y.toNat, by omega⟩ ∧ column = ⟨x.toNat, by omega⟩) ↔
          ((column.val : Int), (row.val : Int)) = (x, y) := by
        simp only [Fin.ext_iff, Prod.mk.injEq]
        omega
      simp only [Raster.paint, List.mem_cons, here, decide_eq_true_eq]
      by_cases same : ((column.val : Int), (row.val : Int)) = (x, y)
      · simp [same]
      · simp [same]
    · simp only [inside, if_false, Option.bind_eq_bind]
      refine (previous glyph).trans (congrArg some ?_)
      funext row column
      have elsewhere : ((column.val : Int), (row.val : Int)) ≠ (x, y) := by
        simp only [ne_eq, Prod.mk.injEq]
        omega
      simp [Raster.paint, elsewhere]

end GlyphCanvas

namespace Canvas

/-- A coordinate of an element, or of a part of one. -/
def Near (n : Int) : Prop := -100000 ≤ n ∧ n ≤ 100000

/-- A size that is scaled is at most three times as large. -/
theorem scaled_bounds {size bound : Int} (inside : 0 ≤ size ∧ size ≤ bound) {k : Nat}
    (scale : k ≤ 3) : 0 ≤ size * k ∧ size * k ≤ bound * 3 := by
  have factor : (k : Int) ≤ 3 := by omega
  have positive : (0 : Int) ≤ k := Int.natCast_nonneg k
  exact ⟨Int.mul_nonneg inside.1 positive,
    Int.mul_le_mul inside.2 factor positive (Int.le_trans inside.1 inside.2)⟩

/-- The place of a cell of a scaled bitmap is in range. -/
theorem i32_cell {origin : Int} (near : -50000 ≤ origin ∧ origin ≤ 50000) {cell k : Nat}
    (within : cell * k ≤ 30) : i32 (cell * k : Nat) = some ((cell * k : Nat) : Int) ∧
      i32 (origin + (cell * k : Nat)) = some (origin + (cell * k : Nat)) ∧
      Near (origin + (cell * k : Nat)) :=
  ⟨i32_eq (by omega) (by omega), i32_eq (by omega) (by omega), by unfold Near; omega⟩

section Drawing

variable {canvas : Canvas} (bright : canvas.brightness ≤ 100)
include bright

/-- A colour is scaled in range. -/
theorem scaled?_eq (color : Color) : canvas.scaled? color = some (canvas.scaled color) := by
  have channel (value : UInt8) : u32 ((value.toNat : Int) * canvas.brightness) =
      some ((value.toNat : Int) * canvas.brightness) := by
    have small := value.toNat_lt
    have product : value.toNat * canvas.brightness ≤ 255 * 100 :=
      Nat.mul_le_mul (by omega) bright
    rw [← Int.natCast_mul]
    exact u32_eq (by omega) (by omega)
  have natural (value : UInt8) : ((value.toNat : Int) * canvas.brightness).toNat =
      value.toNat * canvas.brightness := by
    rw [← Int.natCast_mul, Int.toNat_natCast]
  simp only [scaled?, channel, natural, Option.bind_eq_bind, Option.bind_some, scaled]

/-- A pixel is set on the panel only. -/
theorem pset?_eq (fb : FrameBuffer) (x y : Int) (color : Color) :
    canvas.pset? fb x y color = some (canvas.pset fb x y color) := by
  unfold pset? pset
  split
  · next onPanel =>
    have inside : (0 ≤ x ∧ x < 64) ∧ 0 ≤ y ∧ y < 64 := by
      unfold cols rows at onPanel
      omega
    rw [scaled?_eq bright, Option.bind_eq_bind, Option.bind_some, drawPixel?, if_pos inside]
  · rfl

/-- A rectangle is filled. -/
theorem fillRect?_eq (fb : FrameBuffer) (x y : Int) {w h : Int} (wide : Near w) (tall : Near h)
    (color : Color) :
    canvas.fillRect? fb x y w h color = some (canvas.fillRect fb x y w h color) := by
  have unsigned {side : Int} (near : Near side) :
      ((asU32 (max side 0) : Nat) : Int) = max side 0 := by
    unfold Near at near
    rw [asU32, Int.emod_eq_of_lt (by omega) (by omega)]
    omega
  rw [fillRect?, scaled?_eq bright, Option.bind_eq_bind, Option.bind_some, unsigned wide,
    unsigned tall, fillRect]

/-- A block is drawn. -/
theorem blitCell?_eq (fb : FrameBuffer) {x y : Int} (nearX : Near x) (nearY : Near y) {k : Nat}
    (scale : k ≤ 3) (color : Color) (clip : Band) :
    canvas.blitCell? fb x y k color clip = some (canvas.blitCell fb x y k color clip) := by
  unfold Near at nearX nearY
  refine forRange?_eq (fun sy below fb => forRange?_eq (fun sx beside fb => ?_) fb) fb
  rw [i32_eq (by omega) (by omega), Option.bind_eq_bind, Option.bind_some]
  split
  · rw [i32_eq (by omega) (by omega), Option.bind_some, pset?_eq bright]
  · rfl

/-- A bitmap is drawn. -/
theorem blitBitmap?_eq (fb : FrameBuffer) {glyph : Bitmap} (tall : glyph.length ≤ 10)
    (wide : ∀ gy, (glyph.getD gy []).length ≤ 10) {x y : Int} (nearX : 0 ≤ x ∧ x ≤ 255)
    (nearY : 0 ≤ y ∧ y ≤ 255) {k : Nat} (scale : k ≤ 3) (color : Color) :
    canvas.blitBitmap? fb glyph x y k color = some (canvas.blitBitmap fb glyph x y k color) := by
  refine forRange?_eq (fun gy below fb => forRange?_eq (fun gx beside fb => ?_) fb) fb
  have inRow := wide gy
  have across : gx * k ≤ 30 := Nat.mul_le_mul (show gx ≤ 10 by omega) scale
  have along : gy * k ≤ 30 := Nat.mul_le_mul (show gy ≤ 10 by omega) scale
  obtain ⟨right, px, inX⟩ := i32_cell (show -50000 ≤ x ∧ x ≤ 50000 by omega) across
  obtain ⟨down, py, inY⟩ := i32_cell (show -50000 ≤ y ∧ y ≤ 50000 by omega) along
  rw [← Int.natCast_mul, ← Int.natCast_mul]
  split
  · simp only [right, down, px, py, Option.bind_eq_bind, Option.bind_some]
    exact blitCell?_eq bright fb inX inY scale color _
  · rfl

/-- A glyph is drawn. -/
theorem blitGlyph?_eq (fb : FrameBuffer) (glyph : GlyphCanvas) {x y : Int}
    (nearX : -50000 ≤ x ∧ x ≤ 50000) (nearY : -50000 ≤ y ∧ y ≤ 50000) {style : GlyphStyle}
    (scale : style.k ≤ 3) (clip : Band) :
    canvas.blitGlyph? fb glyph x y style clip =
      some (canvas.blitGlyph fb glyph x y style clip) := by
  have tallest : style.font.height ≤ 10 := by cases style.font <;> decide
  have widest : style.font.width ≤ 6 := by cases style.font <;> decide
  refine forRange?_eq (fun gy below fb => forRange?_eq (fun gx beside fb => ?_) fb) fb
  have across : gx * style.k ≤ 30 := Nat.mul_le_mul (show gx ≤ 10 by omega) scale
  have along : gy * style.k ≤ 30 := Nat.mul_le_mul (show gy ≤ 10 by omega) scale
  obtain ⟨right, px, inX⟩ := i32_cell nearX across
  obtain ⟨down, py, inY⟩ := i32_cell nearY along
  rw [GlyphCanvas.lit?_eq glyph (by omega) (by omega), Option.bind_eq_bind, Option.bind_some,
    ← Int.natCast_mul, ← Int.natCast_mul]
  split
  · simp only [right, down, px, py, Option.bind_eq_bind, Option.bind_some]
    exact blitCell?_eq bright fb inX inY scale _ clip
  · rfl

variable {pixels : GlyphPixels} (drawn : canvas.textLit = litBy pixels)
include drawn

/-- A text is drawn, the glyphs it skips included. -/
theorem blitScaledText?_eq {y : Int} (nearY : -50000 ≤ y ∧ y ≤ 50000) {style : GlyphStyle}
    (scale : style.k ≤ 3) (clip : Band) {text : List Char} :
    ∀ {x : Int} (fb : FrameBuffer), -50000 ≤ x → x + 18 * text.length ≤ 40000 →
      canvas.blitScaledText? pixels y style clip text x fb =
        some (canvas.blitScaledText y style clip text x fb) := by
  have advance : 0 ≤ style.font.width * style.k ∧ style.font.width * style.k ≤ 18 := by
    cases style.font <;> simp only [MonoFont.width] <;> omega
  induction text with
  | nil => exact fun fb _ _ => rfl
  | cons char rest previous =>
    intro x fb low high
    rw [List.length_cons] at high
    push_cast at high
    have glyph : GlyphCanvas.drawIter? (pixels style.font char) (Raster.blank false) =
        some (canvas.rasterise style.font char) := by
      rw [GlyphCanvas.drawIter?_eq, rasterise, drawn]
      rfl
    have width : i32 (style.font.width * style.k) = some _ := i32_eq (by omega) (by omega)
    have right : i32 (x + style.font.width * style.k) = some _ := i32_eq (by omega) (by omega)
    have blitted := blitGlyph?_eq bright fb (canvas.rasterise style.font char)
      ⟨low, by omega⟩ nearY scale clip
    simp only [blitScaledText?, width, right, glyph, blitted, Option.bind_eq_bind,
      Option.bind_some, blitScaledText]
    split
    · exact previous _ (by omega) (by omega)
    · exact previous _ (by omega) (by omega)

/-- A text of an element is placed. -/
theorem placeText?_eq (fb : FrameBuffer) {text : List Char} (short : text.length ≤ 64)
    (el : Element) (allowMarquee : Bool) (frame : UInt32) :
    canvas.placeText? pixels fb text el allowMarquee frame =
      some (canvas.placeText fb text el allowMarquee frame) := by
  have scale := el.scale_bounds
  have cells : 0 ≤ charCount text * (fontFor el.s).width ∧
      charCount text * (fontFor el.s).width ≤ 64 * 6 := by
    unfold charCount
    cases fontFor el.s <;> simp only [MonoFont.width] <;> omega
  have blocks := scaled_bounds cells scale.2
  have count : asI32 (charCount text) = charCount text := by
    unfold charCount
    exact asI32_eq (by omega) (by omega)
  have unscaled : i32 (charCount text * (fontFor el.s).width) = some _ :=
    i32_eq (by omega) (by omega)
  have width : i32 (charCount text * (fontFor el.s).width * el.scale) = some _ :=
    i32_eq (by omega) (by omega)
  have inX := el.x.toNat_lt
  have inY := el.y.toNat_lt
  have inW := el.w.toNat_lt
  have blitted (x : Int) (fb : FrameBuffer) (clip : Band) (low : -50000 ≤ x) (high : x ≤ 30000) :
      canvas.blitScaledText? pixels el.y.toNat ⟨fontFor el.s, el.scale, elemColor el⟩ clip text x
        fb = some (canvas.blitScaledText el.y.toNat ⟨fontFor el.s, el.scale, elemColor el⟩ clip
          text x fb) :=
    blitScaledText?_eq bright drawn (by omega) scale.2 clip fb low (by omega)
  simp only [placeText?, count, unscaled, width, Option.bind_eq_bind, Option.bind_some, placeText]
  generalize charCount text * (fontFor el.s).width * el.scale = textW at blocks
  have inAvail : 0 ≤ (if 0 < el.w then (el.w.toNat : Int) else textW) ∧
      (if 0 < el.w then (el.w.toNat : Int) else textW) ≤ 1152 := by
    split <;> omega
  generalize (if 0 < el.w then (el.w.toNat : Int) else textW) = avail at inAvail
  have room : i32 (avail - textW) = some _ := i32_eq (by omega) (by omega)
  have stop : i32 (el.x.toNat + avail) = some _ := i32_eq (by omega) (by omega)
  cases flush : (decide (textW ≤ avail) || !allowMarquee) with
  | true =>
    have placed (off : Int) (low : 0 ≤ off) (high : off ≤ 1152) :
        (if 0 < el.w then
          (i32 (el.x.toNat + avail)).bind fun stop =>
            (i32 (el.x.toNat + off)).bind fun start =>
              (canvas.blitScaledText? pixels el.y.toNat ⟨fontFor el.s, el.scale, elemColor el⟩
                ⟨el.x.toNat, stop⟩ text start fb).bind fun fb => some (fb, false)
        else
          (i32 (el.x.toNat + off)).bind fun start =>
            (canvas.blitScaledText? pixels el.y.toNat ⟨fontFor el.s, el.scale, elemColor el⟩
              .unbounded text start fb).bind fun fb => some (fb, false)) =
          some (canvas.blitScaledText el.y.toNat ⟨fontFor el.s, el.scale, elemColor el⟩
            (if 0 < el.w then ⟨el.x.toNat, el.x.toNat + avail⟩ else .unbounded) text
            (el.x.toNat + off) fb, false) := by
      have start : i32 (el.x.toNat + off) = some _ := i32_eq (by omega) (by omega)
      have shown (clip : Band) := blitted (el.x.toNat + off) fb clip (by omega) (by omega)
      simp only [start, stop, shown, Option.bind_some]
      split <;> rfl
    simp only [if_true]
    by_cases fits : decide (textW ≤ avail) = true
    · have roomy := of_decide_eq_true fits
      simp only [fits, if_true]
      by_cases centred : el.a = 1
      · simp only [centred, if_true, room, Option.bind_some]
        have half : (avail - textW).tdiv 2 = (avail - textW) / 2 :=
          Int.tdiv_eq_ediv_of_nonneg (by omega)
        exact placed _ (by omega) (by omega)
      · by_cases right : el.a = 2
        · simp only [right, show (2 : UInt8) ≠ 1 by decide, if_true, if_false, room,
            Option.bind_some]
          exact placed _ (by omega) (by omega)
        · simp only [centred, right, if_false]
          exact placed 0 (by omega) (by omega)
    · simp only [fits]
      exact placed 0 (by omega) (by omega)
  | false =>
    have moves : 0 < textW + marqueeGap ∧ textW + marqueeGap ≤ 2000 := by
      unfold marqueeGap
      omega
    have period : i32 (textW + marqueeGap) = some _ := i32_eq (by omega) (by omega)
    have offset := marqueeOffset?_eq moves.1 (by omega) frame
    have bounds : 0 ≤ marqueeOffset (textW + marqueeGap) frame ∧
        marqueeOffset (textW + marqueeGap) frame ≤ 2000 := by
      have phase := marqueeOffset_bounds moves.1 frame
      omega
    have start : i32 (el.x.toNat - marqueeOffset (textW + marqueeGap) frame) = some _ :=
      i32_eq (by omega) (by omega)
    have copy : i32 (el.x.toNat - marqueeOffset (textW + marqueeGap) frame +
        (textW + marqueeGap)) = some _ := i32_eq (by omega) (by omega)
    simp only [Bool.false_eq_true, if_false, period, offset, start, stop, copy,
      Option.bind_some]
    rw [blitted _ _ _ (by omega) (by omega), Option.bind_some,
      blitted _ _ _ (by omega) (by omega), Option.bind_some]

/-- A badge is drawn. -/
theorem drawBadgeScaled?_eq (fb : FrameBuffer) {line : List Char} (short : line.length ≤ 64)
    (el : Element) (fill : Color) :
    canvas.drawBadgeScaled? pixels fb line el fill =
      some (canvas.drawBadgeScaled fb line el fill) := by
  have scale := el.scale_bounds
  have inX := el.x.toNat_lt
  have inY := el.y.toNat_lt
  have count : asI32 (charCount line) = charCount line := by
    unfold charCount
    exact asI32_eq (by omega) (by omega)
  have cells : 0 ≤ charCount line * 6 + 5 ∧ charCount line * 6 + 5 ≤ 389 := by
    unfold charCount
    omega
  have digits : i32 (charCount line * 6) = some _ := i32_eq (by omega) (by omega)
  have padded : i32 (charCount line * 6 + 5) = some _ := i32_eq (by omega) (by omega)
  have blocks := scaled_bounds cells scale.2
  have width : i32 ((charCount line * 6 + 5) * el.scale) = some _ := i32_eq (by omega) (by omega)
  have height : i32 (11 * el.scale) = some _ := i32_eq (by omega) (by omega)
  have inset : i32 (3 * el.scale) = some _ := i32_eq (by omega) (by omega)
  have start : i32 (el.x.toNat + 3 * el.scale) = some _ := i32_eq (by omega) (by omega)
  have top : i32 (el.y.toNat + el.scale) = some _ := i32_eq (by omega) (by omega)
  have wide : Near ((charCount line * 6 + 5) * el.scale) := by
    unfold Near
    omega
  have tall : Near (11 * el.scale) := by
    unfold Near
    omega
  have filled := fillRect?_eq bright fb el.x.toNat el.y.toNat wide tall fill
  -- By rewriting: the kernel would unfold the bounds of the machine type in unary.
  simp -implicitDefEqProofs only [drawBadgeScaled?, count, digits, padded, width, height, filled,
    inset, start, top, Option.bind_eq_bind, Option.bind_some]
  exact blitScaledText?_eq bright drawn (by omega) scale.2 _ _ (by omega) (by omega)

omit drawn in
/-- A pictogram of the board is drawn where an element is. -/
theorem blitBitmap?_element (fb : FrameBuffer) {glyph : Bitmap}
    (known : glyph = trainGlyph ∨ glyph = zGlyph ∨ glyph = arrowGlyph) (el : Element)
    (color : Color) :
    canvas.blitBitmap? fb glyph el.x.toNat el.y.toNat el.scale color =
      some (canvas.blitBitmap fb glyph el.x.toNat el.y.toNat el.scale color) := by
  have inX := el.x.toNat_lt
  have inY := el.y.toNat_lt
  have scale := el.scale_bounds.2
  have sides : glyph.length ≤ 10 ∧ ∀ row ∈ glyph, row.length ≤ 10 := by
    obtain rfl | rfl | rfl := known <;> decide
  refine blitBitmap?_eq bright fb sides.1 (fun gy => ?_) (by omega) (by omega) scale color
  rw [List.getD_eq_getElem?_getD]
  cases inside : glyph[gy]? with
  | none => exact Nat.zero_le _
  | some row => exact sides.2 row (List.mem_of_getElem? inside)

/-- A field of a departure is drawn. -/
theorem drawDepField?_eq (fb : FrameBuffer) (el : Element) (deps : List Departure)
    (frame : UInt32) : canvas.drawDepField? pixels fb el deps frame =
      some (canvas.drawDepField fb el deps frame) := by
  unfold drawDepField? drawDepField
  cases deps[min el.di.toNat 2]? with
  | none => rfl
  | some dep =>
    have line := dep.line.length_chars_le
    have destination : (canvas.city dep.destination.chars).length ≤ 64 :=
      Nat.le_trans (Parity.city_suffix canvas _).length_le
        (Nat.le_trans dep.destination.length_chars_le (by omega))
    have badge := drawBadgeScaled?_eq bright drawn fb (by omega : dep.line.chars.length ≤ 64) el
      (elemColor el)
    have plain := placeText?_eq bright drawn fb (by omega : dep.line.chars.length ≤ 64) el true
      frame
    have direction := placeText?_eq bright drawn fb destination el true frame
    have time := placeText?_eq bright drawn fb (Nat.le_trans (fmtMinutes_length dep.minutes)
      (by omega)) el true frame
    have train := blitBitmap?_element bright fb (.inl rfl) el (elemColor el)
    simp only [drawTrainFrontScaled?, badge, plain, direction, time, train, Option.bind_eq_bind,
      Option.bind_some, drawTrainFrontScaled]
    split_ifs <;> rfl

/-- A time of day or a date is drawn; breaking it down takes numbers of 64 bits only. -/
theorem drawLocalTimeText?_eq (fb : FrameBuffer) (el : Element)
    (format : Int × Nat × Nat × Nat × Nat → List (List Char)) :
    canvas.drawLocalTimeText? pixels fb el format =
      some (canvas.drawLocalTimeText fb el format) := by
  unfold drawLocalTimeText? drawLocalTimeText
  cases canvas.nowUnix with
  | none => rfl
  | some unix =>
    exact placeText?_eq bright drawn fb (Nat.le_trans (writeInto_length (Nat.zero_le 16))
      (by omega)) el false 0

omit drawn in
/-- A divider is drawn. -/
theorem drawDivider?_eq (fb : FrameBuffer) (el : Element) :
    canvas.drawDivider? fb el = some (canvas.drawDivider fb el) := by
  have inX := el.x.toNat_lt
  have inW := el.w.toNat_lt
  have near : -255 ≤ (cols : Int) - el.x.toNat ∧ (cols : Int) - el.x.toNat ≤ 64 := by
    unfold cols
    omega
  have rest : i32 ((cols : Int) - el.x.toNat) = some ((cols : Int) - el.x.toNat) :=
    i32_eq (by omega) (by omega)
  have filled {len : Int} (long : Near len) := fillRect?_eq bright fb el.x.toNat el.y.toNat long
    (show Near (max 1 (min el.th.toNat 2) : Nat) by unfold Near; omega) (elemColor el)
  have given := filled (show Near el.w.toNat by unfold Near; omega)
  have left := filled (show Near ((cols : Int) - el.x.toNat) by unfold Near; omega)
  simp only [drawDivider?, rest, given, left, Option.bind_eq_bind, Option.bind_some, drawDivider]
  split <;> rfl

omit drawn in
/-- An icon is drawn. -/
theorem drawIcon?_eq (fb : FrameBuffer) (el : Element) :
    canvas.drawIcon? fb el = some (canvas.drawIcon fb el) := by
  unfold drawIcon? drawIcon
  split
  · exact blitBitmap?_element bright fb (.inr (.inl rfl)) el (elemColor el)
  · split
    · exact blitBitmap?_element bright fb (.inr (.inr rfl)) el (elemColor el)
    · exact blitBitmap?_element bright fb (.inl rfl) el (elemColor el)

/-- An element is drawn. -/
theorem drawElement?_eq (fb : FrameBuffer) {station : List Char} (short : station.length ≤ 64)
    (deps : List Departure) (frame : UInt32) (el : Element) :
    canvas.drawElement? pixels fb station deps frame el =
      some (canvas.drawElement fb station deps frame el) := by
  have text := placeText?_eq bright drawn fb
    (Nat.le_trans el.v.length_chars_le (show maxTextLen ≤ 64 by decide)) el true frame
  have name := placeText?_eq bright drawn fb
    (Nat.le_trans (Parity.city_suffix canvas station).length_le short) el true frame
  have field := drawDepField?_eq bright drawn fb el deps frame
  have clock := drawLocalTimeText?_eq bright drawn fb el (clockFormat el.f)
  have date := drawLocalTimeText?_eq bright drawn fb el (dateFormat el.f)
  have divider := drawDivider?_eq bright fb el
  have icon := drawIcon?_eq bright fb el
  unfold drawElement? drawElement
  simp only [text, name, field, clock, date, divider, icon, Option.bind_eq_bind, Option.bind_some,
    drawClock, drawDate]
  split <;> simp [*]

end Drawing

end Canvas

/-- No frame is drawn brighter than full strength. -/
theorem currentBrightness_le (shared : Shared) (nowUnix : Option Int) :
    currentBrightness shared nowUnix ≤ 100 := by
  have levels : ∀ level : UInt8, (clampU8 level 1 10).toNat * 10 ≤ 100 := by decide +kernel
  have manual := levels shared.brightness
  have reduced : reducedBrightness ≤ 100 := by decide
  simp only [currentBrightness]
  split
  · split
    · exact manual
    · split
      · split
        · exact Nat.zero_le 100
        · exact reduced
      · exact manual
  · exact manual

/-- Drawing any layout never stops: no arithmetic leaves the range of its machine type, no
remainder is by zero, every index is in range and every pixel is on the panel. -/
theorem drawCustomLayout_safe (pixels : GlyphPixels) (shared : Shared) (nowUnix : Option Int)
    (fb : FrameBuffer) (layout : Layout) (station : HString 64) (deps : HVec Departure 3)
    (frame : UInt32) :
    let canvas := (Panel.mk (litBy pixels) shared nowUnix).canvas
    canvas.drawCustomLayout? pixels fb layout station.chars deps.val frame =
      some (canvas.drawCustomLayout fb layout station.chars deps.val frame) := by
  intro canvas
  have bright : canvas.brightness ≤ 100 := currentBrightness_le shared nowUnix
  have drawn : canvas.textLit = litBy pixels := rfl
  unfold Canvas.drawCustomLayout? Canvas.drawCustomLayout
  generalize (fb, false) = start
  induction layout.e.val generalizing start with
  | nil => rfl
  | cons el rest previous =>
    have element := Canvas.drawElement?_eq bright drawn start.1 station.length_chars_le deps.val
      frame el
    simp only [List.foldlM_cons, element, Option.bind_eq_bind, Option.bind_some]
    exact previous _

end Zugli
