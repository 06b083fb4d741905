import Zugli.Firmware.Display.Draw

/-!
# The custom layout renderer

Walks a layout's elements and dispatches on their type tag. Text is rasterised one glyph at a time
into a small canvas and blown up from there, so that every element can be scaled.
-/

namespace Zugli

/-- `elem_color`: a custom colour overrides the preset. -/
def elemColor (el : Element) : Color :=
  match el.col with
  | some rgb => ⟨(rgb >>> 16).toUInt8, (rgb >>> 8).toUInt8, rgb.toUInt8⟩
  | none => if el.c = 1 then .accent else if el.c = 2 then .dim else .amber

/-- `font_for`. -/
def fontFor (s : UInt8) : MonoFont := if s = 1 then .font6x10 else .font5x7

/-- `(el.k as i32).clamp(1, 3)`. -/
def Element.scale (el : Element) : Nat := max 1 (min el.k.toNat 3)

/-- A scale is one, two or three. -/
theorem Element.scale_bounds (el : Element) : 1 ≤ el.scale ∧ el.scale ≤ 3 := by
  unfold scale
  omega

/-- `GlyphCanvas`, the canvas cells that a glyph lights. -/
abbrev GlyphCanvas : Type := Raster 6 10 Bool

namespace GlyphCanvas

/-- Whether a cell is lit. -/
def lit (glyph : GlyphCanvas) (gx gy : Nat) : Bool :=
  if inside : gx < 6 ∧ gy < 10 then glyph ⟨gy, inside.2⟩ ⟨gx, inside.1⟩ else false

end GlyphCanvas

/-- `GlyphStyle`. -/
structure GlyphStyle where
  /-- The font. -/
  font : MonoFont
  /-- Integer upscale factor. -/
  k : Nat
  /-- The colour. -/
  color : Color

/-! ## Formats of the clock and the date -/

/-- `{:02}`. -/
def twoDigits (value : Nat) : List Char :=
  List.replicate (2 - (Nat.toDigits 10 value).length) '0' ++ Nat.toDigits 10 value

/-- `{}` of a signed number, its sign first. -/
def signedDigits (value : Int) : List (List Char) :=
  (if value < 0 then [['-']] else []) ++ [Nat.toDigits 10 value.natAbs]

/-- The format of a clock element. -/
def clockFormat (f : UInt8) : Int × Nat × Nat × Nat × Nat → List (List Char)
  | (_, _, _, hh, mm) =>
    if f = 1 then [Nat.toDigits 10 hh, [':'], twoDigits mm] else [twoDigits hh, [':'], twoDigits mm]

/-- The format of a date element. -/
def dateFormat (f : UInt8) : Int × Nat × Nat × Nat × Nat → List (List Char)
  | (y, m, d, _, _) =>
    if f = 1 then [twoDigits d, ['.'], twoDigits m, ['.']] ++ signedDigits y
    else [twoDigits d, ['.'], twoDigits m, ['.']]

/-! ## Drawing -/

namespace Canvas

variable (canvas : Canvas) (fb : FrameBuffer)

/-- One character drawn at the origin of a fresh glyph canvas. -/
def rasterise (font : MonoFont) (char : Char) : GlyphCanvas :=
  Raster.paint (canvas.textLit font [char]) true (Raster.blank false)

/-- The lit cells of a glyph at `(x, y)`, each as a block of side `k`. -/
def blitGlyph (glyph : GlyphCanvas) (x y : Int) (style : GlyphStyle) (clip : Band) :
    FrameBuffer :=
  forRange style.font.height.toNat (fun gy fb =>
    forRange style.font.width.toNat (fun gx fb =>
      if glyph.lit gx gy then
        canvas.blitCell fb (x + gx * style.k) (y + gy * style.k) style.k style.color clip
      else fb) fb) fb

/-- `blit_scaled_text`: the glyphs of a text from `x` on; those outside the clip are skipped. -/
def blitScaledText (y : Int) (style : GlyphStyle) (clip : Band) :
    List Char → Int → FrameBuffer → FrameBuffer
  | [], _, fb => fb
  | char :: rest, x, fb =>
    let cw := style.font.width
    let fb :=
      if clip.start < x + cw * style.k ∧ x < clip.stop then
        canvas.blitGlyph fb (canvas.rasterise style.font char) x y style clip
      else fb
    blitScaledText y style clip rest (x + cw * style.k) fb

/-- `place_text`: flush and aligned when the text fits its box, else scrolling when allowed. -/
def placeText (text : List Char) (el : Element) (allowMarquee : Bool) (frame : UInt32) :
    FrameBuffer × Bool :=
  let style : GlyphStyle := ⟨fontFor el.s, el.scale, elemColor el⟩
  let x : Int := el.x.toNat
  let y : Int := el.y.toNat
  let textW := charCount text * style.font.width * style.k
  let avail : Int := if 0 < el.w then el.w.toNat else textW
  let fits := decide (textW ≤ avail)
  if fits || !allowMarquee then
    let off :=
      if fits then
        if el.a = 1 then (avail - textW).tdiv 2 else if el.a = 2 then avail - textW else 0
      else 0
    let clip : Band := if 0 < el.w then ⟨x, x + avail⟩ else .unbounded
    (canvas.blitScaledText y style clip text (x + off) fb, false)
  else
    let period := textW + marqueeGap
    let offset := marqueeOffset period frame
    let fb := canvas.blitScaledText y style ⟨x, x + avail⟩ text (x - offset) fb
    (canvas.blitScaledText y style ⟨x, x + avail⟩ text (x - offset + period) fb, true)

/-- `draw_badge_scaled`. -/
def drawBadgeScaled (line : List Char) (el : Element) (fill : Color) : FrameBuffer :=
  let k := el.scale
  let x : Int := el.x.toNat
  let y : Int := el.y.toNat
  let w := (charCount line * 6 + 5) * k
  let fb := canvas.fillRect fb x y w (11 * k) fill
  canvas.blitScaledText (y + k) ⟨.font6x10, k, .off⟩ .unbounded line (x + 3 * k) fb

/-- `draw_dep_field`: one field of one departure, or nothing when the slot is absent. -/
def drawDepField (el : Element) (deps : List Departure) (frame : UInt32) : FrameBuffer × Bool :=
  match deps[min el.di.toNat 2]? with
  | none => (fb, false)
  | some dep =>
    let color := elemColor el
    if el.fk = 0 then
      if el.f ≠ 1 ∧ canvas.lineBadges = true then
        (canvas.drawBadgeScaled fb dep.line.chars el color, false)
      else canvas.placeText fb dep.line.chars el true frame
    else if el.fk = 1 then
      canvas.placeText fb (canvas.city dep.destination.chars) el true frame
    else if dep.minutes = some 0 then
      (canvas.drawTrainFrontScaled fb el.x.toNat el.y.toNat el.scale color, false)
    else canvas.placeText fb (fmtMinutes dep.minutes) el true frame

/-- Place the local time as a format writes it; nothing before the clock has synced. -/
def drawLocalTimeText (el : Element)
    (format : Int × Nat × Nat × Nat × Nat → List (List Char)) : FrameBuffer × Bool :=
  match canvas.nowUnix with
  | none => (fb, false)
  | some unix => canvas.placeText fb (writeInto 16 (format (localParts unix)) []) el false 0

/-- `draw_clock`. -/
def drawClock (el : Element) : FrameBuffer × Bool :=
  canvas.drawLocalTimeText fb el (clockFormat el.f)

/-- `draw_date`. -/
def drawDate (el : Element) : FrameBuffer × Bool :=
  canvas.drawLocalTimeText fb el (dateFormat el.f)

/-- `draw_divider`: a bar of the element's length, or to the panel edge. -/
def drawDivider (el : Element) : FrameBuffer :=
  let len : Int := if 0 < el.w then el.w.toNat else cols - el.x.toNat
  let th : Nat := max 1 (min el.th.toNat 2)
  canvas.fillRect fb el.x.toNat el.y.toNat len th (elemColor el)

/-- `draw_icon`. -/
def drawIcon (el : Element) : FrameBuffer :=
  let k := el.scale
  let x : Int := el.x.toNat
  let y : Int := el.y.toNat
  let color := elemColor el
  if el.g = 1 then canvas.blitBitmap fb zGlyph x y k color
  else if el.g = 2 then canvas.blitBitmap fb arrowGlyph x y k color
  else canvas.drawTrainFrontScaled fb x y k color

/-- Draw one element by its type tag; an unknown one draws nothing. -/
def drawElement (station : List Char) (deps : List Departure) (frame : UInt32) (el : Element) :
    FrameBuffer × Bool :=
  match el.t with
  | 0 => canvas.placeText fb el.v.chars el true frame
  | 1 => canvas.drawDepField fb el deps frame
  | 2 => canvas.placeText fb (canvas.city station) el true frame
  | 3 => canvas.drawClock fb el
  | 4 => canvas.drawDate fb el
  | 5 => (canvas.drawDivider fb el, false)
  | 6 => (canvas.drawIcon fb el, false)
  | _ => (fb, false)

/-- `draw_custom_layout`: the elements in order, the later ones on top. -/
def drawCustomLayout (layout : Layout) (station : List Char) (deps : List Departure)
    (frame : UInt32) : FrameBuffer × Bool :=
  layout.e.val.foldl (fun (fb, animating) el =>
    let (fb, animates) := canvas.drawElement fb station deps frame el
    (fb, animating || animates)) (fb, false)

end Canvas

end Zugli
