import Zugli.Lib.Checked
import Zugli.Firmware.Display.Custom

/-!
# The custom layout renderer, checked

The renderer of custom layouts with the machine arithmetic of the source, which stops at a result
out of range, a remainder by zero, an index past the end of an array, or a pixel off the panel.
-/

namespace Zugli

open Checked

/-- The points the graphics crate draws for a character at the origin. -/
abbrev GlyphPixels : Type := MonoFont → Char → List (Int × Int)

/-- `marquee_offset`. -/
def marqueeOffset? (period : Int) (frame : UInt32) : Option Int := do
  let cycle ← u32 (holdFrames + asU32 period)
  let phase ← rem frame.toNat cycle.toNat
  some (asI32 (phase - holdFrames : Nat))

namespace GlyphCanvas

/-- An index of `lit_pixels`. -/
def index? (gx gy : Int) : Option (Fin 10 × Fin 6) :=
  if inside : (0 ≤ gy ∧ gy < 10) ∧ 0 ≤ gx ∧ gx < 6 then
    some (⟨gy.toNat, by omega⟩, ⟨gx.toNat, by omega⟩)
  else none

/-- A cell of `lit_pixels`. -/
def lit? (glyph : GlyphCanvas) (gx gy : Nat) : Option Bool := do
  let (row, column) ← index? gx gy
  some (glyph row column)

/-- `draw_iter`. -/
def drawIter? : List (Int × Int) → GlyphCanvas → Option GlyphCanvas
  | [], glyph => some glyph
  | (x, y) :: pixels, glyph => do
    let glyph ←
      if (0 ≤ x ∧ x < 6) ∧ 0 ≤ y ∧ y < 10 then do
        let (row, column) ← index? x y
        some (fun other beside => if other = row ∧ beside = column then true else glyph other beside)
      else some glyph
    drawIter? pixels glyph

end GlyphCanvas

namespace Canvas

variable (canvas : Canvas) (pixels : GlyphPixels) (fb : FrameBuffer)

/-- `scaled`. -/
def scaled? (color : Color) : Option Color := do
  let s (channel : UInt8) : Option UInt8 := do
    let product ← u32 (channel.toNat * canvas.brightness)
    some (.ofNat (product.toNat / 100))
  some ⟨← s color.r, ← s color.g, ← s color.b⟩

/-- A pixel drawn to the framebuffer. -/
def drawPixel? (x y : Int) (color : Color) : Option FrameBuffer :=
  if (0 ≤ x ∧ x < 64) ∧ 0 ≤ y ∧ y < 64 then some (fb.paint (Raster.pixel x y) color) else none

/-- `pset`. -/
def pset? (x y : Int) (color : Color) : Option FrameBuffer :=
  if 0 ≤ x ∧ 0 ≤ y ∧ x < cols ∧ y < rows then do
    drawPixel? fb x y (← canvas.scaled? color)
  else some fb

/-- `fill_rect`; the graphics crate clips the rectangle to the panel. -/
def fillRect? (x y w h : Int) (color : Color) : Option FrameBuffer := do
  let color ← canvas.scaled? color
  some (fb.paint (Raster.rectangle x y (asU32 (max w 0)) (asU32 (max h 0))) color)

/-- `blit_cell`. -/
def blitCell? (x y : Int) (k : Nat) (color : Color) (clip : Band) : Option FrameBuffer :=
  forRange? k (fun sy fb => forRange? k (fun sx fb => do
    let px ← i32 (x + sx)
    if clip.contains px then do
      let py ← i32 (y + sy)
      canvas.pset? fb px py color
    else some fb) fb) fb

/-- `blit_bitmap`. -/
def blitBitmap? (glyph : Bitmap) (x y : Int) (k : Nat) (color : Color) : Option FrameBuffer :=
  forRange? glyph.length (fun gy fb =>
    let row := glyph.getD gy []
    forRange? row.length (fun gx fb =>
      if row.getD gx 0 = 1 then do
        let right ← i32 (gx * k)
        let px ← i32 (x + right)
        let down ← i32 (gy * k)
        let py ← i32 (y + down)
        canvas.blitCell? fb px py k color .unbounded
      else some fb) fb) fb

/-- `draw_train_front_scaled`. -/
def drawTrainFrontScaled? (x y : Int) (scale : Nat) (color : Color) : Option FrameBuffer :=
  canvas.blitBitmap? fb trainGlyph x y scale color

/-- The lit cells of a glyph. -/
def blitGlyph? (glyph : GlyphCanvas) (x y : Int) (style : GlyphStyle) (clip : Band) :
    Option FrameBuffer :=
  forRange? style.font.height.toNat (fun gy fb =>
    forRange? style.font.width.toNat (fun gx fb => do
      if ← glyph.lit? gx gy then do
        let right ← i32 (gx * style.k)
        let px ← i32 (x + right)
        let down ← i32 (gy * style.k)
        let py ← i32 (y + down)
        canvas.blitCell? fb px py style.k style.color clip
      else some fb) fb) fb

/-- `blit_scaled_text`. -/
def blitScaledText? (y : Int) (style : GlyphStyle) (clip : Band) :
    List Char → Int → FrameBuffer → Option FrameBuffer
  | [], _, fb => some fb
  | char :: rest, x, fb => do
    let advance ← i32 (style.font.width * style.k)
    let right ← i32 (x + advance)
    let fb ←
      if clip.start < right ∧ x < clip.stop then do
        let glyph ← GlyphCanvas.drawIter? (pixels style.font char) (Raster.blank false)
        canvas.blitGlyph? fb glyph x y style clip
      else some fb
    blitScaledText? y style clip rest right fb

/-- `place_text`. -/
def placeText? (text : List Char) (el : Element) (allowMarquee : Bool) (frame : UInt32) :
    Option (FrameBuffer × Bool) := do
  let style : GlyphStyle := ⟨fontFor el.s, el.scale, elemColor el⟩
  let x : Int := el.x.toNat
  let y : Int := el.y.toNat
  let unscaled ← i32 (asI32 (charCount text) * style.font.width)
  let textW ← i32 (unscaled * style.k)
  let avail : Int := if 0 < el.w then el.w.toNat else textW
  let fits := decide (textW ≤ avail)
  if fits || !allowMarquee then do
    let off ←
      if fits then
        if el.a = 1 then do
          let room ← i32 (avail - textW)
          some (room.tdiv 2)
        else if el.a = 2 then i32 (avail - textW)
        else some 0
      else some 0
    let clip ←
      if 0 < el.w then do
        let stop ← i32 (x + avail)
        some ⟨x, stop⟩
      else some .unbounded
    let start ← i32 (x + off)
    let fb ← canvas.blitScaledText? pixels y style clip text start fb
    some (fb, false)
  else do
    let period ← i32 (textW + marqueeGap)
    let offset ← marqueeOffset? period frame
    let start ← i32 (x - offset)
    let stop ← i32 (x + avail)
    let fb ← canvas.blitScaledText? pixels y style ⟨x, stop⟩ text start fb
    let copy ← i32 (start + period)
    let fb ← canvas.blitScaledText? pixels y style ⟨x, stop⟩ text copy fb
    some (fb, true)

/-- `draw_badge_scaled`. -/
def drawBadgeScaled? (line : List Char) (el : Element) (fill : Color) : Option FrameBuffer := do
  let k := el.scale
  let x : Int := el.x.toNat
  let y : Int := el.y.toNat
  let digits ← i32 (asI32 (charCount line) * 6)
  let padded ← i32 (digits + 5)
  let w ← i32 (padded * k)
  let h ← i32 (11 * k)
  let fb ← canvas.fillRect? fb x y w h fill
  let inset ← i32 (3 * k)
  let start ← i32 (x + inset)
  let top ← i32 (y + k)
  canvas.blitScaledText? pixels top ⟨.font6x10, k, .off⟩ .unbounded line start fb

/-- `draw_dep_field`. -/
def drawDepField? (el : Element) (deps : List Departure) (frame : UInt32) :
    Option (FrameBuffer × Bool) :=
  match deps[min el.di.toNat 2]? with
  | none => some (fb, false)
  | some dep =>
    let color := elemColor el
    if el.fk = 0 then
      if el.f ≠ 1 ∧ canvas.lineBadges = true then do
        some (← canvas.drawBadgeScaled? pixels fb dep.line.chars el color, false)
      else canvas.placeText? pixels fb dep.line.chars el true frame
    else if el.fk = 1 then
      canvas.placeText? pixels fb (canvas.city dep.destination.chars) el true frame
    else if dep.minutes = some 0 then do
      some (← canvas.drawTrainFrontScaled? fb el.x.toNat el.y.toNat el.scale color, false)
    else canvas.placeText? pixels fb (fmtMinutes dep.minutes) el true frame

/-- `draw_local_time_text`. -/
def drawLocalTimeText? (el : Element)
    (format : Int × Nat × Nat × Nat × Nat → List (List Char)) : Option (FrameBuffer × Bool) :=
  match canvas.nowUnix with
  | none => some (fb, false)
  | some unix =>
    canvas.placeText? pixels fb (writeInto 16 (format (localParts unix)) []) el false 0

/-- `draw_divider`. -/
def drawDivider? (el : Element) : Option FrameBuffer := do
  let len ← if 0 < el.w then some (el.w.toNat : Int) else i32 (cols - el.x.toNat)
  let th : Nat := max 1 (min el.th.toNat 2)
  canvas.fillRect? fb el.x.toNat el.y.toNat len th (elemColor el)

/-- `draw_icon`. -/
def drawIcon? (el : Element) : Option FrameBuffer :=
  let k := el.scale
  let x : Int := el.x.toNat
  let y : Int := el.y.toNat
  let color := elemColor el
  if el.g = 1 then canvas.blitBitmap? fb zGlyph x y k color
  else if el.g = 2 then canvas.blitBitmap? fb arrowGlyph x y k color
  else canvas.drawTrainFrontScaled? fb x y k color

/-- Draw one element by its type tag. -/
def drawElement? (station : List Char) (deps : List Departure) (frame : UInt32) (el : Element) :
    Option (FrameBuffer × Bool) :=
  match el.t with
  | 0 => canvas.placeText? pixels fb el.v.chars el true frame
  | 1 => canvas.drawDepField? pixels fb el deps frame
  | 2 => canvas.placeText? pixels fb (canvas.city station) el true frame
  | 3 => canvas.drawLocalTimeText? pixels fb el (clockFormat el.f)
  | 4 => canvas.drawLocalTimeText? pixels fb el (dateFormat el.f)
  | 5 => do some (← canvas.drawDivider? fb el, false)
  | 6 => do some (← canvas.drawIcon? fb el, false)
  | _ => some (fb, false)

/-- `draw_custom_layout`. -/
def drawCustomLayout? (layout : Layout) (station : List Char) (deps : List Departure)
    (frame : UInt32) : Option (FrameBuffer × Bool) :=
  layout.e.val.foldlM (fun (fb, animating) el => do
    let (fb, animates) ← canvas.drawElement? pixels fb station deps frame el
    some (fb, animating || animates)) (fb, false)

end Canvas

end Zugli
