import Zugli.Lib.Stringify
import Zugli.Web.Panel

/-!
# Layouts on the page

What the editor's script does with whole layouts: the text it posts, the clamp of an element, the
templates of the palette and the normalization of what the board serves.
-/

namespace Zugli.Web

open Js (Str Value Data)

/-- `MAX_ELEMENTS`. -/
def maxElements : Nat := 16
/-- `BYTES_SOFT`. -/
def bytesSoft : Nat := 1450
/-- `BYTES_MAX`. -/
def bytesMax : Nat := 1536

/-! ## Serializing -/

/-- A property that is left out at its default. -/
def unlessDefault (value : Value) (default : Int) : Value :=
  if value = .number default then .undefined else value

/-- A colour that is there, masked to 24 bits. -/
def maskColor : Value → Value
  | .undefined | .null => .undefined
  | .number col => .number (Js.bitAnd col 0xffffff)

/-- The object that `serializeLayout` builds of an element. -/
def packElement (el : Element) : Element where
  t := .number el.t.toInt32
  x := unlessDefault el.x 0
  y := unlessDefault el.y 0
  w := unlessDefault el.w 0
  s := unlessDefault el.s 0
  k := unlessDefault el.k 1
  c := unlessDefault el.c 0
  a := unlessDefault el.a 0
  v := if el.v = some [] then none else el.v
  di := unlessDefault el.di 0
  fk := unlessDefault el.fk 0
  sp := if el.sp = some false then none else el.sp
  th := unlessDefault el.th 1
  f := unlessDefault el.f 0
  g := unlessDefault el.g 0
  col := maskColor el.col

/-- A property as data, if it is there. -/
def valueData : Value → Option Data
  | .undefined => none
  | .null => some .null
  | .number n => some (.number n)

/-- The properties of an object that `serializeLayout` builds, in insertion order. -/
def Element.entries (o : Element) : List (String × Option Data) :=
  [("t", valueData o.t), ("x", valueData o.x), ("y", valueData o.y), ("w", valueData o.w),
    ("s", valueData o.s), ("k", valueData o.k), ("c", valueData o.c), ("a", valueData o.a),
    ("v", o.v.map .string), ("di", valueData o.di), ("fk", valueData o.fk), ("sp", o.sp.map .bool),
    ("th", valueData o.th), ("f", valueData o.f), ("g", valueData o.g), ("col", valueData o.col)]

/-- An object that `serializeLayout` builds, as data. -/
def Element.data (o : Element) : Data :=
  .object (o.entries.filterMap fun entry => entry.2.map (entry.1, ·))

/-- `serializeLayout`. -/
def serializeLayout (els : List Element) : Str :=
  Js.stringify (.object [("v", .number 1), ("e", .array (els.map fun el => (packElement el).data))])

/-! ## Clamping -/

/-- `clampI`. -/
def clampI (v lo hi : Int) : Int :=
  let v := Js.toInt32 v
  if v < lo then lo else if hi < v then hi else v

/-- `clampElement`. -/
def clampElement (el : Element) : Element :=
  { el with
    x := .number (clampI el.x.orZero 0 63)
    y := .number (clampI el.y.orZero 0 63)
    w := .number (clampI el.w.orZero 0 64)
    s := .number (clampI el.s.orZero 0 1)
    k := .number (clampI (el.k.orNullish 1) 1 3)
    c := .number (clampI el.c.orZero 0 2)
    a := .number (clampI el.a.orZero 0 2)
    di := .number (clampI el.di.orZero 0 2)
    fk := .number (clampI el.fk.orZero 0 2)
    th := .number (clampI (el.th.orNullish 1) 1 2)
    f := .number (clampI el.f.orZero 0 1)
    g := .number (clampI el.g.orZero 0 2)
    v := el.v.map fun text => if 24 < text.length then text.take 24 else text }

/-- `normalizeLayout`, of the elements of a layout if it has an array of them. -/
def normalizeLayout (elements : Option (List Element)) : List Element :=
  ((elements.getD []).take maxElements).map clampElement

/-! ## Templates -/

/-- An object with a type tag and no other property. -/
def Element.ofTag (t : Int) : Element where
  t := .number t
  x := .undefined
  y := .undefined
  w := .undefined
  s := .undefined
  k := .undefined
  c := .undefined
  col := .undefined
  a := .undefined
  v := none
  di := .undefined
  fk := .undefined
  sp := none
  th := .undefined
  f := .undefined
  g := .undefined

/-- The single elements of the palette. -/
inductive Template where
  /-- `"text"`. -/
  | text
  /-- `"station"`. -/
  | station
  /-- `"clock"`. -/
  | clock
  /-- `"date"`. -/
  | date
  /-- `"divider"`. -/
  | divider
  /-- `"icon"`. -/
  | icon
deriving DecidableEq

/-- `makeElement`. -/
def makeElement : Template → Element
  | .text =>
    { Element.ofTag 0 with
      x := .number 2, y := .number 2, s := .number 0, k := .number 1, c := .number 0
      a := .number 0, v := some (Js.units "Text") }
  | .station =>
    { Element.ofTag 2 with
      x := .number 1, y := .number 0, w := .number 62, s := .number 1, k := .number 1
      c := .number 0, a := .number 0 }
  | .clock =>
    { Element.ofTag 3 with
      x := .number 2, y := .number 2, s := .number 1, k := .number 1, c := .number 0
      a := .number 0, f := .number 0 }
  | .date =>
    { Element.ofTag 4 with
      x := .number 2, y := .number 2, s := .number 0, k := .number 1, c := .number 0
      a := .number 0, f := .number 0 }
  | .divider =>
    { Element.ofTag 5 with
      x := .number 0, y := .number 32, w := .number 0, th := .number 1, c := .number 1 }
  | .icon =>
    { Element.ofTag 6 with
      x := .number 26, y := .number 26, k := .number 2, c := .number 0, g := .number 0 }

/-- `makeDeparture`. -/
def makeDeparture (di : Int) : List Element :=
  let ry := 12 + di * 17
  [{ Element.ofTag 1 with
      di := .number di, fk := .number 0, x := .number 1, y := .number (ry + 3), s := .number 1
      k := .number 1, c := .number 0 },
    { Element.ofTag 1 with
      di := .number di, fk := .number 1, x := .number 20, y := .number (ry + 6), w := .number 26
      s := .number 0, k := .number 1, c := .number 0 },
    { Element.ofTag 1 with
      di := .number di, fk := .number 2, x := .number 50, y := .number (ry + 6), s := .number 0
      k := .number 1, c := .number 1, a := .number 2 }]

end Zugli.Web
