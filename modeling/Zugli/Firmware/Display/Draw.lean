import Zugli.Lib.Raster
import Zugli.Firmware.LocalTime
import Zugli.Firmware.Model

/-!
# Drawing primitives

Palette, brightness, marquee cadence, text, badges and bitmap glyphs. The framebuffer holds the
colour last drawn at each pixel of the panel. Which pixels a text lights is the graphics crate's
matter and comes in as a parameter of the canvas. Screen coordinates are unbounded integers.
-/

namespace Zugli

/-- `COLS`. -/
def cols : Nat := 64

/-- `ROWS`. -/
def rows : Nat := 64

/-- An RGB colour. -/
structure Color where
  /-- Red. -/
  r : UInt8
  /-- Green. -/
  g : UInt8
  /-- Blue. -/
  b : UInt8
deriving DecidableEq

namespace Color

/-- `ACCENT`, deep copper. -/
def accent : Color := ⟨0xAA, 0x4A, 0x10⟩

/-- `AMBER`, the departure board's amber. -/
def amber : Color := ⟨0xFF, 0xA8, 0x00⟩

/-- `DIM`, muted copper. -/
def dim : Color := ⟨0x74, 0x4A, 0x1E⟩

/-- `OFF`, unlit. -/
def off : Color := ⟨0, 0, 0⟩

end Color

/-- The framebuffer: the colour drawn at each pixel. -/
abbrev FrameBuffer : Type := Raster cols rows Color

/-- An erased framebuffer. -/
def erased : FrameBuffer := Raster.blank .off

/-- The two fonts. -/
inductive MonoFont where
  /-- `FONT_5X7`. -/
  | font5x7
  /-- `FONT_6X10`. -/
  | font6x10
deriving DecidableEq

namespace MonoFont

/-- Width of a character cell. -/
def width : MonoFont → Int
  | .font5x7 => 5
  | .font6x10 => 6

/-- Height of a character cell. -/
def height : MonoFont → Int
  | .font5x7 => 7
  | .font6x10 => 10

end MonoFont

/-- What a text drawn by the graphics crate lights: whether it sets the pixel so many columns
right of and so many rows below the point it is drawn at. -/
abbrev TextRaster : Type := MonoFont → List Char → Int → Int → Bool

/-- What a frame is drawn with: the crate's text and the global state the drawers read. -/
structure Canvas where
  /-- The graphics crate's text. -/
  textLit : TextRaster
  /-- `strip_city_enabled`. -/
  stripCity : Bool
  /-- `line_badges_enabled`. -/
  lineBadges : Bool
  /-- `RENDER_BRIGHTNESS`, in percent. -/
  brightness : Nat
  /-- The clock, if it has synced. -/
  nowUnix : Option Int

/-! ## Text -/

/-- `HOLD_FRAMES`, the pause before a marquee moves. -/
def holdFrames : Nat := 100

/-- `MARQUEE_GAP`, blank columns between a text and its wrapped copy. -/
def marqueeGap : Int := 14

/-- Scroll offset of a marquee: held at zero, then a pixel a frame through one period. -/
def marqueeOffset (period : Int) (frame : UInt32) : Int :=
  let phase := frame.toNat % (holdFrames + period.toNat)
  ((phase - holdFrames : Nat) : Int)

/-- Number of characters of a text. -/
def charCount (text : List Char) : Int := text.length

/-- `split_once(", ")`. -/
def splitOnce : List Char → Option (List Char × List Char)
  | ',' :: ' ' :: rest => some ([], rest)
  | char :: rest => (splitOnce rest).map fun (before, after) => (char :: before, after)
  | [] => none

/-- `write!` into a string of limited capacity: the pieces are pushed one by one, and the first
that does not fit ends it. Every piece is ASCII. -/
def writeInto (capacity : Nat) : List (List Char) → List Char → List Char
  | [], written => written
  | piece :: rest, written =>
    if written.length + piece.length ≤ capacity then writeInto capacity rest (written ++ piece)
    else written

/-- Minutes to a departure as text. -/
def fmtMinutes : Option UInt16 → List Char
  | none => writeInto 8 ["--".toList] []
  | some minutes =>
    if minutes = 0 then writeInto 8 ["now".toList] []
    else writeInto 8 [Nat.toDigits 10 minutes.toNat, "'".toList] []

/-- A coloured piece of a row of text. -/
structure Segment where
  /-- Its text. -/
  text : List Char
  /-- Its font. -/
  font : MonoFont
  /-- Its colour. -/
  color : Color

/-- Width of a segment. -/
def Segment.width (seg : Segment) : Int := charCount seg.text * seg.font.width

/-! ## Bitmap glyphs -/

/-- A bitmap, row by row; a cell is lit when it holds one. -/
abbrev Bitmap : Type := List (List Nat)

/-- `Z_GLYPH`. -/
def zGlyph : Bitmap := [[1, 1, 1], [0, 0, 1], [0, 1, 0], [1, 0, 0], [1, 1, 1]]

/-- `ARROW_GLYPH`. -/
def arrowGlyph : Bitmap := [
  [0, 0, 0, 0, 1, 0, 0],
  [0, 0, 0, 0, 0, 1, 0],
  [1, 1, 1, 1, 1, 1, 1],
  [0, 0, 0, 0, 0, 1, 0],
  [0, 0, 0, 0, 1, 0, 0]]

/-- `TRAIN_W`. -/
def trainW : Int := 9

/-- `TRAIN_H`. -/
def trainH : Int := 10

/-- `TRAIN_GLYPH`. -/
def trainGlyph : Bitmap := [
  [0, 0, 1, 1, 1, 1, 1, 0, 0],
  [0, 1, 1, 1, 1, 1, 1, 1, 0],
  [1, 1, 1, 1, 1, 1, 1, 1, 1],
  [1, 0, 0, 0, 0, 0, 0, 0, 1],
  [1, 1, 1, 1, 1, 1, 1, 1, 1],
  [1, 0, 0, 0, 1, 0, 0, 0, 1],
  [1, 0, 0, 0, 1, 0, 0, 0, 1],
  [1, 1, 1, 1, 1, 1, 1, 1, 1],
  [1, 1, 1, 1, 1, 1, 1, 1, 1],
  [0, 1, 1, 0, 0, 0, 1, 1, 0]]

/-- A band of columns, the upper end excluded. -/
structure Band where
  /-- First column. -/
  start : Int
  /-- Column past the last. -/
  stop : Int

/-- Whether a column is in a band. -/
def Band.contains (band : Band) (x : Int) : Bool := decide (band.start ≤ x ∧ x < band.stop)

/-- `i32::MIN..i32::MAX`. -/
def Band.unbounded : Band := ⟨-2147483648, 2147483647⟩

/-! ## Drawing -/

namespace Canvas

variable (canvas : Canvas) (fb : FrameBuffer)

/-- Scale a full-strength colour to the active brightness. -/
def scaled (color : Color) : Color :=
  let s (channel : UInt8) : UInt8 := .ofNat (channel.toNat * canvas.brightness / 100)
  ⟨s color.r, s color.g, s color.b⟩

/-- Draw a text at a point. -/
def left (text : List Char) (x y : Int) (font : MonoFont) (color : Color) : FrameBuffer :=
  fb.paint (fun column row => canvas.textLit font text (column - x) (row - y))
    (canvas.scaled color)

/-- Draw a text horizontally centred. -/
def centered (text : List Char) (y : Int) (font : MonoFont) (color : Color) : FrameBuffer :=
  canvas.left fb text ((cols - charCount text * font.width).tdiv 2) y font color

/-- Set one pixel, clipped to the panel. -/
def pset (x y : Int) (color : Color) : FrameBuffer :=
  if 0 ≤ x ∧ 0 ≤ y ∧ x < cols ∧ y < rows then
    fb.paint (Raster.pixel x y) (canvas.scaled color)
  else fb

/-- Fill a rectangle. -/
def fillRect (x y w h : Int) (color : Color) : FrameBuffer :=
  fb.paint (Raster.rectangle x y (max w 0) (max h 0)) (canvas.scaled color)

/-- A full-width rule. -/
def rule (y : Int) (color : Color) : FrameBuffer :=
  fb.paint (Raster.rectangle 0 y cols 1) (canvas.scaled color)

/-- Drop a leading city when the settings say so. -/
def city (name : List Char) : List Char :=
  if canvas.stripCity then
    match splitOnce name with
    | some (_, rest) => if rest.isEmpty then name else rest
    | none => name
  else name

/-- Draw a text that scrolls when it is wider than `avail`; whether it scrolls. -/
def drawMarquee (text : List Char) (x0 y avail : Int) (font : MonoFont) (color : Color)
    (frame : UInt32) : FrameBuffer × Bool :=
  let textW := charCount text * font.width
  if textW ≤ avail then (canvas.left fb text x0 y font color, false)
  else
    let period := textW + marqueeGap
    let offset := marqueeOffset period frame
    let fb := canvas.left fb text (x0 - offset) y font color
    (canvas.left fb text (x0 - offset + period) y font color, true)

/-- Draw a text at a point, clipped to a rectangle. -/
def leftClipped (clip : Int → Int → Bool) (text : List Char) (x y : Int) (font : MonoFont)
    (color : Color) : FrameBuffer :=
  fb.paint
    (fun column row => clip column row && canvas.textLit font text (column - x) (row - y))
    (canvas.scaled color)

/-- A marquee clipped to the band of width `avail` and height `bandH` at `(x0, bandY)`. -/
def drawMarqueeClipped (text : List Char) (x0 bandY avail bandH y : Int) (font : MonoFont)
    (color : Color) (frame : UInt32) : FrameBuffer × Bool :=
  let clip := Raster.rectangle x0 bandY avail bandH
  let textW := charCount text * font.width
  if textW ≤ avail then (canvas.leftClipped fb clip text x0 y font color, false)
  else
    let period := textW + marqueeGap
    let offset := marqueeOffset period frame
    let fb := canvas.leftClipped fb clip text (x0 - offset) y font color
    (canvas.leftClipped fb clip text (x0 - offset + period) y font color, true)

/-- Draw segments side by side from `x`. -/
def drawSegments (y space : Int) : List Segment → Int → FrameBuffer → FrameBuffer
  | [], _, fb => fb
  | seg :: rest, x, fb =>
    drawSegments y space rest (x + (seg.width + space))
      (canvas.left fb seg.text x y seg.font seg.color)

/-- Draw a row of segments that scrolls as one when it is wider than `avail`. -/
def drawSegmentsRow (segs : List Segment) (x0 y avail space : Int) (frame : UInt32) :
    FrameBuffer × Bool :=
  let total := (segs.map Segment.width).sum + space * max ((segs.length : Int) - 1) 0
  if total ≤ avail then (canvas.drawSegments y space segs x0 fb, false)
  else
    let period := total + marqueeGap
    let offset := marqueeOffset period frame
    let fb := canvas.drawSegments y space segs (x0 - offset) fb
    (canvas.drawSegments y space segs (x0 - offset + period) fb, true)

/-- Draw a filled badge; the column past it. -/
def drawBadge (line : List Char) (x y : Int) (fill text : Color) : FrameBuffer × Int :=
  let w := charCount line * 6 + 5
  let fb := fb.paint (Raster.rectangle x y w 11) (canvas.scaled fill)
  (canvas.left fb line (x + 3) (y + 1) .font6x10 text, x + w)

/-- Draw a line label, as a badge or as plain text; the column past it. -/
def drawLineLabel (line : List Char) (x y : Int) : FrameBuffer × Int :=
  if canvas.lineBadges then canvas.drawBadge fb line x y .amber .off
  else (canvas.left fb line x (y + 1) .font6x10 .amber, x + charCount line * 6)

/-- Draw one source pixel as a block of side `k`, keeping columns inside `clip`. -/
def blitCell (x y : Int) (k : Nat) (color : Color) (clip : Band) : FrameBuffer :=
  forRange k (fun sy fb => forRange k (fun sx fb =>
    if clip.contains (x + sx) then canvas.pset fb (x + sx) (y + sy) color else fb) fb) fb

/-- Blit a bitmap, each lit cell as a block of side `k`. -/
def blitBitmap (glyph : Bitmap) (x y : Int) (k : Nat) (color : Color) : FrameBuffer :=
  forRange glyph.length (fun gy fb =>
    let row := glyph.getD gy []
    forRange row.length (fun gx fb =>
      if row.getD gx 0 = 1 then
        canvas.blitCell fb (x + gx * k) (y + gy * k) k color .unbounded
      else fb) fb) fb

/-- Draw the tram pictogram blown up by `scale`. -/
def drawTrainFrontScaled (x y : Int) (scale : Nat) (color : Color) : FrameBuffer :=
  canvas.blitBitmap fb trainGlyph x y scale color

/-- Draw the tram pictogram. -/
def drawTrainFront (x y : Int) (color : Color) : FrameBuffer :=
  canvas.drawTrainFrontScaled fb x y 1 color

end Canvas

end Zugli
