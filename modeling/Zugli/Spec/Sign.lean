import Zugli.Firmware.Display.Screens

/-!
# The sign

What the departures board shows at each point of the panel: a heading over a rule and, below it, a
row for each of the first three departures. A row is cut into columns. Its label comes first, then a
window onto the destination, then the time; a window onto a text that is too wide for it shows a
tape on which the text and a gap repeat. No part covers another but a label a time that it reaches.
-/

namespace Zugli

/-- A text without line breaks. -/
def OneLine (text : List Char) : Prop := ∀ char ∈ text, char ≠ '\n' ∧ char ≠ '\r'

/-- The graphics crate draws a text without line breaks into the cells of its characters. -/
def TextRaster.Celled (textLit : TextRaster) : Prop :=
  ∀ (font : MonoFont) (text : List Char) (column row : Int), OneLine text →
    textLit font text column row = true →
      (0 ≤ column ∧ column < charCount text * font.width) ∧ 0 ≤ row ∧ row < font.height

/-- What is where, by column and row; nothing where the panel is dark. -/
abbrev Picture : Type := Int → Int → Option Color

/-- The panel that shows a picture. -/
def Canvas.rendered (canvas : Canvas) (picture : Picture) : FrameBuffer := fun row column =>
  ((picture column.val row.val).map canvas.scaled).getD .off

namespace Sign

variable (canvas : Canvas)

/-- Width of a text. -/
def textWidth (text : List Char) (font : MonoFont) : Int := charCount text * font.width

/-- Whether a text is too wide for a window. -/
def scrolls (text : List Char) (font : MonoFont) (avail : Int) : Bool :=
  decide (avail < textWidth text font)

/-- The point of a text that is seen in a column of a window at a frame. -/
def seenAt (text : List Char) (font : MonoFont) (avail : Int) (frame : UInt32) (column : Int) :
    Int :=
  let period := textWidth text font + marqueeGap
  if scrolls text font avail then (column + marqueeOffset period frame) % period else column

/-- A window onto a text. -/
def window (text : List Char) (font : MonoFont) (avail : Int) (color : Color) (frame : UInt32) :
    Picture := fun column row =>
  if canvas.textLit font text (seenAt text font avail frame column) row then some color else none

/-- A text. -/
def still (text : List Char) (font : MonoFont) (color : Color) : Picture := fun column row =>
  if canvas.textLit font text column row then some color else none

/-- A bitmap. -/
def bitmap (glyph : Bitmap) (color : Color) : Picture := fun column row =>
  if 0 ≤ column ∧ 0 ≤ row ∧ (glyph.getD row.toNat []).getD column.toNat 0 = 1 then some color
  else none

/-- Width of the label of a line. -/
def labelWidth (line : List Char) : Int :=
  if canvas.lineBadges then charCount line * 6 + 5 else charCount line * 6

/-- The label of a line: dark text on a badge, or text. -/
def label (line : List Char) : Picture := fun column row =>
  if canvas.lineBadges then
    if Raster.rectangle 0 0 (labelWidth canvas line) 11 column row then
      some (if canvas.textLit .font6x10 line (column - 3) (row - 1) then .off else .amber)
    else none
  else still canvas line .font6x10 .amber column (row - 1)

/-- The time of a departure, from its left edge: the front of a tram, or the minutes. -/
def time (minutes : Option UInt16) : Picture := fun column row =>
  if minutes = some 0 then bitmap trainGlyph .accent column (row - 4)
  else still canvas (fmtMinutes minutes) .font5x7 .accent column (row - 6)

/-- The column past the label of a row. -/
def labelEnd (dep : Departure) : Int := 1 + labelWidth canvas dep.line.chars

/-- The room between the label of a row and its time, two columns from each. -/
def room (dep : Departure) : Int := Canvas.timeX dep.minutes - 2 - (labelEnd canvas dep + 2)

/-- A row, by column and by row from its top. -/
def row (dep : Departure) (frame : UInt32) : Picture := fun column down =>
  let x := Canvas.timeX dep.minutes
  if column < labelEnd canvas dep then
    (label canvas dep.line.chars (column - 1) (down - 3)).or
      (time canvas dep.minutes (column - x) down)
  else if column < x - 2 then
    if labelEnd canvas dep + 2 ≤ column then
      window canvas (canvas.city dep.destination.chars) .font5x7 (room canvas dep) .amber frame
        (column - (labelEnd canvas dep + 2)) (down - 6)
    else none
  else time canvas dep.minutes (column - x) down

/-- Rows below each other. -/
def rows (deps : List Departure) (frame : UInt32) : Picture := fun column down =>
  if 0 ≤ down then
    (deps[(down / Canvas.rowH).toNat]?).bind fun dep =>
      row canvas dep frame column (down % Canvas.rowH)
  else none

/-- Whether the destination of a row scrolls. -/
def rowScrolls (dep : Departure) : Bool :=
  decide (0 < room canvas dep) &&
    scrolls (canvas.city dep.destination.chars) .font5x7 (room canvas dep)

/-- The whole sign. -/
def shows (station : List Char) (deps : List Departure) (frame : UInt32) : Picture :=
  fun column down =>
    if down < 11 then
      window canvas (canvas.city station) .font6x10 (cols - 2) .amber frame (column - 1) down
    else if down < Canvas.boardTop then some .accent
    else if deps.isEmpty then
      still canvas "no service".toList .font5x7 .dim (column - 7) (down - 32)
    else rows canvas (deps.take 3) frame column (down - Canvas.boardTop)

/-- Whether anything on the sign scrolls. -/
def animates (station : List Char) (deps : List Departure) : Bool :=
  scrolls (canvas.city station) .font6x10 (cols - 2) || (deps.take 3).any (rowScrolls canvas)

end Sign

end Zugli
