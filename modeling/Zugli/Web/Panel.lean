import Zugli.Lib.Js
import Zugli.Lib.Raster

/-!
# The page's render engine

The simulator that draws a custom layout on the page. The glyph bitmaps of its font table are a
parameter; the sizes of the fonts are the page's own.
-/

namespace Zugli.Web

open Js (Str Value)

/-- `PANEL_COLS`. -/
def panelCols : Int := 64
/-- `PANEL_ROWS`. -/
def panelRows : Int := 64
/-- `AMBER`. -/
def amber : UInt32 := 0xffa800
/-- `ACCENT`. -/
def accent : UInt32 := 0xaa4a10
/-- `DIM`. -/
def dim : UInt32 := 0x744a1e
/-- `OFF`. -/
def off : UInt32 := 0
/-- `MARQUEE_GAP`. -/
def marqueeGap : Int := 14
/-- `HOLD_FRAMES`. -/
def holdFrames : Int := 100

/-- A glyph: an integer a row, whose bit `x` is the pixel in column `x`. -/
abbrev Glyph : Type := List Nat

/-- An entry of `FONTS`. -/
structure Font where
  /-- Height of a glyph. -/
  h : Nat
  /-- Advance of a character. -/
  adv : Nat
  /-- Glyph of a code point without its own. -/
  default : Glyph
  /-- Glyph of a code point. -/
  g : Nat → Option Glyph

/-- The bitmaps of `FONTS`. -/
structure FontTable where
  /-- Those of `"5x7"`. -/
  small : Nat → Option Glyph
  /-- The default of `"5x7"`. -/
  smallDefault : Glyph
  /-- Those of `"6x10"`. -/
  medium : Nat → Option Glyph
  /-- The default of `"6x10"`. -/
  mediumDefault : Glyph

namespace FontTable

variable (fonts : FontTable)

/-- `FONTS["5x7"]`. -/
def font5x7 : Font := ⟨7, 5, fonts.smallDefault, fonts.small⟩

/-- `FONTS["6x10"]`. -/
def font6x10 : Font := ⟨10, 6, fonts.mediumDefault, fonts.medium⟩

end FontTable

/-- The grid, a typed array of one word a pixel, row by row. -/
abbrev Grid : Type := Fin 4096 → UInt32

/-- A fresh grid. -/
def Grid.fresh : Grid := fun _ => 0

/-- `grid[index] = value`; an index off the array writes nothing. -/
def Grid.set (grid : Grid) (index : Int) (value : UInt32) : Grid :=
  fun cell => if (cell.val : Int) = index then value else grid cell

/-- A layout element as the page holds it. -/
structure Element where
  /-- `t`. -/
  t : Value
  /-- `x`. -/
  x : Value
  /-- `y`. -/
  y : Value
  /-- `w`. -/
  w : Value
  /-- `s`. -/
  s : Value
  /-- `k`. -/
  k : Value
  /-- `c`. -/
  c : Value
  /-- `col`. -/
  col : Value
  /-- `a`. -/
  a : Value
  /-- `v`, a string if it is there. -/
  v : Option Str
  /-- `di`. -/
  di : Value
  /-- `fk`. -/
  fk : Value
  /-- `sp`, a boolean if it is there. -/
  sp : Option Bool
  /-- `th`. -/
  th : Value
  /-- `f`. -/
  f : Value
  /-- `g`. -/
  g : Value

/-- A departure as the page holds it. -/
structure Departure where
  /-- `line`. -/
  line : Str
  /-- `destination`. -/
  destination : Str
  /-- `minutes`. -/
  minutes : Value

/-- The local fields of a date within the range that dates have. -/
structure Date where
  /-- `getFullYear()`. -/
  fullYear : Int
  /-- `getMonth()`, from zero. -/
  month : Nat
  /-- `getDate()`. -/
  date : Nat
  /-- `getHours()`. -/
  hours : Nat
  /-- `getMinutes()`. -/
  minutes : Nat
  /-- The years a date can have. -/
  yearBounds : -271821 ≤ fullYear ∧ fullYear ≤ 275760
  /-- A month of the year. -/
  monthBound : month < 12
  /-- A day of a month. -/
  dateBound : date ≤ 31
  /-- An hour of a day. -/
  hoursBound : hours < 24
  /-- A minute of an hour. -/
  minutesBound : minutes < 60

/-- What `renderLayout` is given besides the layout. -/
structure Context where
  /-- `deps`. -/
  deps : List Departure
  /-- `station`. -/
  station : Str
  /-- `config.stripCity`. -/
  stripCity : Bool
  /-- `config.showLineBadges`. -/
  showLineBadges : Bool
  /-- `frame`. -/
  frame : Nat
  /-- `now`. -/
  now : Date

/-- `clampInt`. -/
def clampInt (v lo hi : Int) : Int := Js.toInt32 (if v < lo then lo else if hi < v then hi else v)

/-- `fontFor`. -/
def fontFor (fonts : FontTable) (s : Int) : Font := if s = 1 then fonts.font6x10 else fonts.font5x7

/-- `elemColor`. -/
def elemColor (el : Element) : UInt32 :=
  match el.col with
  | .number col => Js.toUint32 col &&& 0xffffff
  | .undefined | .null => if el.c.toInt32 = 1 then accent else if el.c.toInt32 = 2 then dim else amber

/-- The scale of an element, `clampInt(el.k === undefined ? 1 : el.k, 1, 3)`. -/
def Element.scale (el : Element) : Nat := (clampInt (el.k.orElse 1) 1 3).toNat

/-- `pset`. -/
def pset (grid : Grid) (x y : Int) (rgb : UInt32) : Grid :=
  let x := Js.toInt32 x
  let y := Js.toInt32 y
  if 0 ≤ x ∧ x < panelCols ∧ 0 ≤ y ∧ y < panelRows then grid.set (y * panelCols + x) rgb else grid

/-- `fillRect`. -/
def fillRect (grid : Grid) (x y w h : Int) (rgb : UInt32) : Grid :=
  forRange h.toNat (fun yy grid => forRange w.toNat (fun xx grid =>
    pset grid (x + xx) (y + yy) rgb) grid) grid

/-- The band of columns a text is clipped to; an end that is not there is infinite. -/
structure Clip where
  /-- `clipX0`. -/
  x0 : Option Int
  /-- `clipX1`. -/
  x1 : Option Int

namespace Clip

variable (clip : Clip) (x : Int)

/-- `x >= clipX0`. -/
def startsAt : Bool := clip.x0.all (· ≤ x)

/-- `x > clipX0`. -/
def startsBefore : Bool := clip.x0.all (· < x)

/-- `x < clipX1`. -/
def stopsAfter : Bool := clip.x1.all (x < ·)

end Clip

/-- The pixels of a text's characters from `x` on. -/
def blitCodePoints (y : Int) (font : Font) (k : Nat) (rgb : UInt32) (clip : Clip) :
    List Nat → Int → Grid → Grid
  | [], _, grid => grid
  | cp :: rest, x, grid =>
    let cw := font.adv
    let grid :=
      if clip.startsBefore (x + cw * k) && clip.stopsAfter x then
        let glyph := (font.g cp).getD font.default
        forRange font.h (fun gy grid =>
          let row := glyph.getD gy 0
          forRange cw (fun gx grid =>
            if row.testBit gx then
              forRange k (fun sy grid => forRange k (fun sx grid =>
                let px := x + gx * k + sx
                if clip.startsAt px && clip.stopsAfter px then
                  pset grid px (y + gy * k + sy) rgb
                else grid) grid) grid
            else grid) grid) grid
      else grid
    blitCodePoints y font k rgb clip rest (x + cw * k) grid

/-- `blitScaledText`. -/
def blitScaledText (grid : Grid) (text : Str) (x0 y : Int) (font : Font) (k : Nat) (rgb : UInt32)
    (clip : Clip) : Grid :=
  blitCodePoints y font k rgb clip (Utf16.codePoints text) x0 grid

/-- `cpLen`. -/
def cpLen (s : Str) : Int := (Utf16.codePoints s).length

/-- `placeText`. -/
def placeText (fonts : FontTable) (grid : Grid) (text : Str) (el : Element) (allowMarquee : Bool)
    (frame : Nat) : Grid × Bool :=
  let font := fontFor fonts el.s.toInt32
  let cw := font.adv
  let k := el.scale
  let x := el.x.toInt32
  let y := el.y.toInt32
  let rgb := elemColor el
  let textW := cpLen text * cw * k
  let w := el.w.toInt32
  let avail := if 0 < w then w else textW
  let fits := decide (textW ≤ avail)
  if fits || !allowMarquee then
    let off :=
      if fits then
        if el.a.toInt32 = 1 then Js.toInt32 (avail - textW) >>> (1 : Nat)
        else if el.a.toInt32 = 2 then avail - textW else 0
      else 0
    let clip : Clip := if 0 < w then ⟨some x, some (x + avail)⟩ else ⟨none, none⟩
    (blitScaledText grid text (x + off) y font k rgb clip, false)
  else
    let period := textW + marqueeGap
    let phase := (frame : Int) % (holdFrames + period)
    let offset := max 0 (phase - holdFrames)
    let grid := blitScaledText grid text (x - offset) y font k rgb ⟨some x, some (x + avail)⟩
    (blitScaledText grid text (x - offset + period) y font k rgb ⟨some x, some (x + avail)⟩, true)

/-! ## Bitmap glyphs -/

/-- `TRAIN_GLYPH`. -/
def trainGlyph : List (List Nat) := [
  [0, 0, 1, 1, 1, 1, 1, 0, 0],
  [0, 1, 1, 1, 1, 1, 1, 1, 0],
  [1, 1, 1, 1, 1, 1, 1, 1, 1],
  [1, 0, 0, 0, 0, 0, 0, 0, 1],
  [1, 1, 1, 1, 1, 1, 1, 1, 1],
  [1, 0, 0, 0, 1, 0, 0, 0, 1],
  [1, 0, 0, 0, 1, 0, 0, 0, 1],
  [1, 1, 1, 1, 1, 1, 1, 1, 1],
  [1, 1, 1, 1, 1, 1, 1, 1, 1],
  [0, 1, 1, 0, 0, 0, 1, 1, 0]]

/-- `Z_GLYPH`. -/
def zGlyph : List (List Nat) := [[1, 1, 1], [0, 0, 1], [0, 1, 0], [1, 0, 0], [1, 1, 1]]

/-- `ARROW_GLYPH`. -/
def arrowGlyph : List (List Nat) := [
  [0, 0, 0, 0, 1, 0, 0],
  [0, 0, 0, 0, 0, 1, 0],
  [1, 1, 1, 1, 1, 1, 1],
  [0, 0, 0, 0, 0, 1, 0],
  [0, 0, 0, 0, 1, 0, 0]]

/-- `blitBitmap`. -/
def blitBitmap (grid : Grid) (glyph : List (List Nat)) (x y : Int) (k : Nat) (rgb : UInt32) :
    Grid :=
  forRange glyph.length (fun gy grid =>
    let row := glyph.getD gy []
    forRange row.length (fun gx grid =>
      if row.getD gx 0 = 1 then
        forRange k (fun sy grid => forRange k (fun sx grid =>
          pset grid (x + gx * k + sx) (y + gy * k + sy) rgb) grid) grid
      else grid) grid) grid

/-- `drawBadge`, without the column past the badge, which the engine does not use. -/
def drawBadge (fonts : FontTable) (grid : Grid) (line : Str) (x y : Int) (fillRgb : UInt32)
    (k : Nat) : Grid :=
  let w := (cpLen line * 6 + 5) * k
  let grid := fillRect grid x y w (11 * k) fillRgb
  blitScaledText grid line (x + 3 * k) (y + k) fonts.font6x10 k off ⟨none, none⟩

/-- `", "`. -/
def commaSpace : Str := [0x2C, 0x20]

/-- `city`. -/
def city (name : Str) (stripCity : Bool) : Str :=
  if stripCity then
    match Utf16.indexOf commaSpace name with
    | some i => if i + 2 < name.length then name.drop (i + 2) else name
    | none => name
  else name

/-- `fmtMinutes`. -/
def fmtMinutes : Value → Str
  | .null | .undefined => Utf16.encode "--".toList
  | .number m => if m = 0 then Utf16.encode "now".toList else Js.numberToString m ++ [0x27]

/-- `drawDepField`. -/
def drawDepField (fonts : FontTable) (grid : Grid) (el : Element) (ctx : Context) : Grid × Bool :=
  match ctx.deps[(clampInt el.di.toInt32 0 2).toNat]? with
  | none => (grid, false)
  | some dep =>
    let rgb := elemColor el
    let fk := el.fk.toInt32
    if fk = 0 then
      if el.f.toInt32 ≠ 1 ∧ ctx.showLineBadges = true then
        (drawBadge fonts grid dep.line el.x.toInt32 el.y.toInt32 rgb el.scale, false)
      else placeText fonts grid dep.line el true ctx.frame
    else if fk = 1 then
      placeText fonts grid (city dep.destination ctx.stripCity) el true ctx.frame
    else if dep.minutes = .number 0 then
      (blitBitmap grid trainGlyph el.x.toInt32 el.y.toInt32 el.scale rgb, false)
    else placeText fonts grid (fmtMinutes dep.minutes) el true ctx.frame

/-- `pad2`. -/
def pad2 (n : Nat) : Str := Js.padStart 2 0x30 (Js.numberToString n)

/-- `drawClock`. -/
def drawClock (fonts : FontTable) (grid : Grid) (el : Element) (ctx : Context) : Grid × Bool :=
  let d := ctx.now
  let s :=
    if el.f.toInt32 = 1 then Js.numberToString d.hours ++ [0x3A] ++ pad2 d.minutes
    else pad2 d.hours ++ [0x3A] ++ pad2 d.minutes
  placeText fonts grid s el false 0

/-- `drawDate`. -/
def drawDate (fonts : FontTable) (grid : Grid) (el : Element) (ctx : Context) : Grid × Bool :=
  let d := ctx.now
  let s :=
    if el.f.toInt32 = 1 then
      pad2 d.date ++ [0x2E] ++ pad2 (d.month + 1) ++ [0x2E] ++ Js.numberToString d.fullYear
    else pad2 d.date ++ [0x2E] ++ pad2 (d.month + 1) ++ [0x2E]
  placeText fonts grid s el false 0

/-- `drawDivider`. -/
def drawDivider (grid : Grid) (el : Element) : Grid :=
  let len := if 0 < el.w.toInt32 then el.w.toInt32 else panelCols - el.x.toInt32
  let th := clampInt (el.th.orElse 1) 1 2
  fillRect grid el.x.toInt32 el.y.toInt32 len th (elemColor el)

/-- `drawIcon`. -/
def drawIcon (grid : Grid) (el : Element) : Grid :=
  let k := el.scale
  let rgb := elemColor el
  let x := el.x.toInt32
  let y := el.y.toInt32
  if el.g.toInt32 = 1 then blitBitmap grid zGlyph x y k rgb
  else if el.g.toInt32 = 2 then blitBitmap grid arrowGlyph x y k rgb
  else blitBitmap grid trainGlyph x y k rgb

/-- Draw one element by its type tag. -/
def drawElement (fonts : FontTable) (ctx : Context) (grid : Grid) (el : Element) : Grid × Bool :=
  match el.t.toInt32 with
  | 0 => placeText fonts grid (el.v.getD []) el true ctx.frame
  | 1 => drawDepField fonts grid el ctx
  | 2 => placeText fonts grid (city ctx.station ctx.stripCity) el true ctx.frame
  | 3 => drawClock fonts grid el ctx
  | 4 => drawDate fonts grid el ctx
  | 5 => (drawDivider grid el, false)
  | 6 => (drawIcon grid el, false)
  | _ => (grid, false)

/-- `renderLayout`: the elements of a layout drawn in order on a fresh grid. -/
def renderLayout (fonts : FontTable) (els : List Element) (ctx : Context) : Grid × Bool :=
  els.foldl (fun (grid, animating) el =>
    let (grid, animates) := drawElement fonts ctx grid el
    (grid, animates || animating)) (Grid.fresh, false)

end Zugli.Web
