import Zugli.Web.Layouts

/-!
# Element metrics of the editor

The boxes the editor takes elements to cover, the elements a pointer hits, the groups that move
together, and what dragging a corner does to an element. Pointer positions are rational numbers of
LEDs.
-/

namespace Zugli.Web

open Js (Str Value)

/-- A bounding box in LEDs. -/
structure Box where
  /-- Left edge. -/
  x : Int
  /-- Top edge. -/
  y : Int
  /-- Width. -/
  w : Int
  /-- Height. -/
  h : Int

/-- `GLYPH_DIM` at an icon's glyph. -/
def glyphDim (el : Element) : Int × Int :=
  [(9, 10), (3, 5), (7, 5)].getD (clampI el.g.orZero 0 2).toNat (9, 10)

/-- The sample departure of an element's slot. -/
def departureOf (ctx : Context) (el : Element) : Option Departure :=
  ctx.deps[(clampI el.di.orZero 0 2).toNat]?

/-- `isBoxBadge`. -/
def isBoxBadge (ctx : Context) (el : Element) : Bool :=
  decide (el.t.toInt32 = 1 ∧ el.fk.toInt32 = 0 ∧ el.f.toInt32 ≠ 1) && ctx.showLineBadges

/-- `elementText`. -/
def elementText (ctx : Context) (el : Element) : Str :=
  let d := ctx.now
  match el.t.toInt32 with
  | 0 => el.v.getD []
  | 2 => city ctx.station ctx.stripCity
  | 3 =>
    (if el.f.toInt32 = 1 then Js.numberToString d.hours else pad2 d.hours) ++ [0x3A] ++
      pad2 d.minutes
  | 4 =>
    let short := pad2 d.date ++ [0x2E] ++ pad2 (d.month + 1) ++ [0x2E]
    if el.f.toInt32 = 1 then short ++ Js.numberToString d.fullYear else short
  | 1 =>
    match departureOf ctx el with
    | none => []
    | some dep =>
      if el.fk.toInt32 = 0 then dep.line
      else if el.fk.toInt32 = 1 then city dep.destination ctx.stripCity
      else fmtMinutes dep.minutes
  | _ => []

/-- The scale of an element in the editor, `clampI(el.k == null ? 1 : el.k, 1, 3)`. -/
def editorScale (el : Element) : Int := clampI (el.k.orNullish 1) 1 3

/-- Width of the filled badge of an element at scale one. -/
def badgeWidth (ctx : Context) (el : Element) : Int :=
  ((departureOf ctx el).map fun dep => cpLen dep.line).getD 1 * 6 + 5

/-- `measureEl`. -/
def measureEl (ctx : Context) (el : Element) : Box :=
  let t := el.t.toInt32
  let x := el.x.toInt32
  let y := el.y.toInt32
  let k := editorScale el
  let w := el.w.toInt32
  if t = 5 then ⟨x, y, if 0 < w then w else 64 - x, clampI (el.th.orNullish 1) 1 2⟩
  else if t = 6 then ⟨x, y, (glyphDim el).1 * k, (glyphDim el).2 * k⟩
  else if isBoxBadge ctx el then ⟨x, y, badgeWidth ctx el * k, 11 * k⟩
  else if t = 1 ∧ el.fk.toInt32 = 2 ∧
      (departureOf ctx el).any (fun dep => dep.minutes = .number 0) then ⟨x, y, 9 * k, 10 * k⟩
  else
    let medium := el.s.toInt32 = 1
    let natural := max 1 (cpLen (elementText ctx el)) * (if medium then 6 else 5) * k
    ⟨x, y, max 1 (if 0 < w then w else natural), (if medium then 10 else 7) * k⟩

/-- Whether a position is in a box, or within `inflate` of it. -/
def Box.covers (b : Box) (inflate : Int) (lx ly : Rat) : Bool :=
  decide ((b.x - inflate : Int) ≤ lx ∧ lx ≤ (b.x + b.w + inflate : Int) ∧
    (b.y - inflate : Int) ≤ ly ∧ ly ≤ (b.y + b.h + inflate : Int))

/-- `hitTest`: exactly first, then in a halo; the element drawn last wins. -/
def hitTest (ctx : Context) (els : List Element) (lx ly : Rat) : Option Nat :=
  [0, 3].findSome? fun inflate => (List.range els.length).reverse.find? fun i =>
    els[i]?.any fun el => (measureEl ctx el).covers inflate lx ly

/-! ## Departure groups -/

/-- `isConnectedDep`. -/
def isConnectedDep (el : Element) : Bool := decide (el.t.toInt32 = 1) && !el.sp.getD false

/-- `groupIdx`. -/
def groupIdx (els : List Element) (i : Nat) : List Nat :=
  match els[i]? with
  | none => [i]
  | some el =>
    if isConnectedDep el then
      (List.range els.length).filter fun j => els[j]?.any fun e2 =>
        isConnectedDep e2 && e2.di.toInt32 == el.di.toInt32
    else [i]

/-- `freeDepSlot`. -/
def freeDepSlot (els : List Element) : Option Int :=
  [0, 1, 2].find? fun di => !els.any fun e2 => e2.t.toInt32 == 1 && e2.di.toInt32 == di

/-! ## Resizing -/

/-- A corner of a box, in the order the handles are tested. -/
inductive Corner where
  /-- `0`. -/
  | topLeft
  /-- `1`. -/
  | topRight
  /-- `2`. -/
  | bottomLeft
  /-- `3`. -/
  | bottomRight
deriving DecidableEq

namespace Corner

/-- Whether the corner is on the left edge. -/
def left (corner : Corner) : Bool := corner == topLeft || corner == bottomLeft

/-- Whether the corner is on the top edge. -/
def top (corner : Corner) : Bool := corner == topLeft || corner == topRight

/-- The corner of a box. -/
def point (corner : Corner) (b : Box) : Int × Int :=
  (if corner.left then b.x else b.x + b.w, if corner.top then b.y else b.y + b.h)

/-- The opposite corner of a box. -/
def anchor (corner : Corner) (b : Box) : Int × Int :=
  (if corner.left then b.x + b.w else b.x, if corner.top then b.y + b.h else b.y)

end Corner

/-- `LADDER`: fonts and scales with their pixel heights. -/
def ladder : List (Int × Int × Int) :=
  [(0, 1, 7), (1, 1, 10), (0, 2, 14), (1, 2, 20), (0, 3, 21), (1, 3, 30)]

/-- The rung of the ladder closest to a height, the first one of two. -/
def closestRung (desired : Rat) : Int × Int × Int :=
  (ladder.foldl (fun (best, distance) rung =>
    let other := (rung.2.2 - desired : Rat).abs
    if distance.any (· ≤ other) then (best, distance) else (rung, some other))
    ((0, 1, 7), (none : Option Rat))).1

/-- Walk the scale of an element with fixed metrics. -/
def scaleTo (anchor size : Int × Int) (lx ly : Rat) (el : Element) : Element × Bool :=
  let nk := clampI (Js.round (max ((lx - anchor.1).abs / size.1) ((ly - anchor.2).abs / size.2))) 1 3
  if nk = editorScale el then (el, false) else ({ el with k := .number nk }, true)

/-- Resize the box of an element that has one. -/
def widthTo (left : Bool) (anchorX : Int) (lx : Rat) (el : Element) : Element × Bool :=
  let t := el.t.toInt32
  let wAllowed := t = 0 ∨ t = 2 ∨ t = 3 ∨ t = 4 ∨ t = 5 ∨ t = 1 ∧ el.fk.toInt32 = 1
  let rawW := Js.round (lx - anchorX).abs
  if wAllowed ∧ 0 < rawW then
    if left then
      let nx := clampI (Js.round (min lx (anchorX - 1))) 0 63
      let nw := clampI (anchorX - nx) 1 64
      if nx = el.x.toInt32 ∧ nw = el.w.toInt32 then (el, false)
      else ({ el with x := .number nx, w := .number nw }, true)
    else
      let nw := clampI rawW 1 64
      if nw = el.w.toInt32 then (el, false) else ({ el with w := .number nw }, true)
  else (el, false)

/-- Step the font and scale of an element that is no divider. -/
def heightTo (top : Bool) (anchorY : Int) (ly : Rat) (el : Element) : Element × Bool :=
  if el.t.toInt32 = 5 then (el, false)
  else
    let best := closestRung (ly - anchorY).abs
    if best.1 = el.s.toInt32 ∧ best.2.1 = editorScale el then (el, false)
    else
      ({ el with
          s := .number best.1
          k := .number best.2.1
          y := if top then .number (clampI (anchorY - best.2.2) 0 63) else el.y }, true)

/-- `resizeTo`: the element with its corner at a position, before the final clamp, and whether it
changed. -/
def resizeTo (ctx : Context) (corner : Corner) (b0 : Box) (lx ly : Rat) (el : Element) :
    Element × Bool :=
  let anchor := corner.anchor b0
  if el.t.toInt32 = 6 then scaleTo anchor (glyphDim el) lx ly el
  else if isBoxBadge ctx el then scaleTo anchor (badgeWidth ctx el, 11) lx ly el
  else
    let (wider, widened) := widthTo corner.left anchor.1 lx el
    let (taller, stretched) := heightTo corner.top anchor.2 ly wider
    (taller, widened || stretched)

end Zugli.Web
