import Zugli.Firmware.Derive
import Zugli.Web.Measure

/-!
# The layout editor

The editor's state and its event handlers, one event at a time. Elements are objects shared by
reference: the working layout, a drag and a pending dialog may name the same one. A request to the
board stays pending until an event answers or fails it. What only shows (the dock, the overlay,
the preview) is left out, so a handler may run whether or not its control is visible.
-/

namespace Zugli.Web

open Js (Str Value)

/-! ## What the board serves -/

/-- A byte member of a served element, left out at its default. -/
def servedByte (default field : UInt8) : Value :=
  if field = default then .undefined else .number field.toNat

/-- A served element as the page parses it. -/
def servedElement (el : Zugli.Element) : Element where
  t := .number el.t.toNat
  x := servedByte 0 el.x
  y := servedByte 0 el.y
  w := servedByte 0 el.w
  s := servedByte 0 el.s
  k := servedByte 1 el.k
  c := servedByte 0 el.c
  col := el.col.elim .undefined fun rgb => .number rgb.toNat
  a := servedByte 0 el.a
  v := if el.v.isEmpty then none else some (Utf16.encode el.v.chars)
  di := servedByte 0 el.di
  fk := servedByte 0 el.fk
  sp := if el.sp then some true else none
  th := servedByte 1 el.th
  f := servedByte 0 el.f
  g := servedByte 0 el.g

/-- The elements of what the board answers; an empty object has none. -/
def servedElements (served : Option Layout) : Option (List Element) :=
  served.map fun layout => layout.e.val.map servedElement

/-! ## State -/

/-- What the confirmation dialog does on yes. -/
inductive Confirm where
  /-- Discard the changes and close. -/
  | discard
  /-- Delete the departure of the selection. -/
  | deleteDeparture
  /-- Split the departure of an element. -/
  | split (el : Nat)
  /-- Clear the saved layout. -/
  | clear
deriving DecidableEq

/-- A drag in progress. -/
inductive Drag where
  /-- A corner of an element, from its box at the start. -/
  | resize (corner : Corner) (el : Nat) (b0 : Box)
  /-- Elements at positions of the working layout, each from its place at the start. -/
  | move (el : Nat) (startLX startLY : Rat) (idxs : List Nat) (starts : List (Int × Int))

/-- The element a drag started on. -/
def Drag.el : Drag → Nat
  | resize _ el _ => el
  | move el _ _ _ _ => el

/-- A request the editor waits for. -/
inductive Pending where
  /-- `GET /layout` of the page. -/
  | boot
  /-- `GET /layout` of an opened editor. -/
  | opened
  /-- `POST /layout` of a body with these objects. -/
  | save (objects : List Element)
  /-- `POST /config` after a save. -/
  | apply
  /-- `POST /layout` of an empty layout. -/
  | clear

/-- The editor. -/
structure Editor where
  /-- The object of a reference. -/
  objects : Nat → Element
  /-- The references from here on are unused. -/
  next : Nat
  /-- `savedLayout.e`. -/
  savedLayout : List Element
  /-- `working.e`. -/
  working : List Nat
  /-- `dirty`. -/
  dirty : Bool
  /-- `sel`. -/
  sel : Option Nat
  /-- `editorOpen`. -/
  editorOpen : Bool
  /-- `confirmCb`. -/
  confirmCb : Option Confirm
  /-- `drag`, and whether it has moved. -/
  drag : Option (Drag × Bool)
  /-- `lastTap`. -/
  lastTap : Nat × Option Int
  /-- Requests without an answer. -/
  pending : List Pending

namespace Editor

/-- The page as it is loaded. -/
def start : Editor where
  objects _ := clampElement (Element.ofTag 0)
  next := 0
  savedLayout := []
  working := []
  dirty := false
  sel := none
  editorOpen := false
  confirmCb := none
  drag := none
  lastTap := (0, none)
  pending := [.boot]

variable (editor : Editor)

/-- The elements of the working layout. -/
def elements : List Element := editor.working.map editor.objects

/-- `cur`. -/
def cur : Option Nat := editor.sel.bind (editor.working[·]?)

/-- Change an object. -/
def update (id : Nat) (change : Element → Element) : Editor :=
  { editor with
    objects := fun other => if other = id then change (editor.objects id) else editor.objects other }

/-- Make objects, the first at `next`. -/
def allocate (els : List Element) : Editor :=
  { editor with
    objects := fun id =>
      if editor.next ≤ id then els[id - editor.next]?.getD (editor.objects id)
      else editor.objects id
    next := editor.next + els.length }

/-- The references of new objects. -/
def fresh (els : List Element) : List Nat := List.range' editor.next els.length

/-- `mutated`. -/
def mutated : Editor := { editor with dirty := true }

/-- Put a copy of the saved layout into the working one and select nothing. -/
def reload : Editor :=
  { editor.allocate editor.savedLayout with
    working := editor.fresh editor.savedLayout
    sel := none }

/-! ## Opening and closing -/

/-- `openEditor`. -/
def openEditor : Editor :=
  { editor.reload with
    editorOpen := true
    dirty := false
    pending := editor.pending ++ [.opened] }

/-- `closeEditor`. -/
def closeEditor : Editor := { editor with editorOpen := false }

/-- `showConfirm`. -/
def showConfirm (action : Confirm) : Editor := { editor with confirmCb := some action }

/-- `hideConfirm`. -/
def hideConfirm : Editor := { editor with confirmCb := none }

/-- `cancelEditor`. -/
def cancelEditor : Editor :=
  if editor.dirty then editor.showConfirm .discard else editor.closeEditor

/-- The Escape key. -/
def escape : Editor :=
  if !editor.editorOpen then editor
  else if editor.confirmCb.isSome then editor.hideConfirm
  else editor.cancelEditor

/-! ## The palette -/

/-- `addBytes`. -/
def addBytes (els : List Element) : Nat := (serializeLayout (editor.elements ++ els)).length

/-- Add elements at the end and select the first, unless there are too many. -/
def push (els : List Element) : Editor :=
  if maxElements < editor.working.length + els.length ∨ bytesSoft < editor.addBytes els then editor
  else
    { editor.allocate els with
      working := editor.working ++ editor.fresh els
      sel := some editor.working.length }.mutated

/-- The departure chip of the palette. -/
def addDeparture : Editor :=
  match freeDepSlot editor.elements with
  | none => editor
  | some di => editor.push ((makeDeparture di).map clampElement)

/-- Another chip of the palette. -/
def addElement (template : Template) : Editor := editor.push [clampElement (makeElement template)]

/-! ## Properties -/

/-- Change the selected element, if there is one. -/
def change (apply : Element → Element) : Editor :=
  match editor.cur with
  | none => editor
  | some id => (editor.update id apply).mutated

/-- `ed-text`. -/
def inputText (value : Str) : Editor :=
  match editor.cur with
  | none => editor
  | some id =>
    if (editor.objects id).t.toInt32 = 0 then
      (editor.update id fun el => { el with v := some (value.take 24) }).mutated
    else editor

/-- A segmented control of the properties. -/
inductive Segment where
  /-- `seg-align`. -/
  | align
  /-- `seg-font`. -/
  | font
  /-- `seg-scale`. -/
  | scale
  /-- `seg-format` and `seg-bstyle`. -/
  | format
  /-- `seg-glyph`. -/
  | glyph
  /-- `seg-th`. -/
  | thickness
deriving DecidableEq

/-- What a segmented control sets. -/
def Segment.apply (segment : Segment) (v : Int) (el : Element) : Element :=
  match segment with
  | align => { el with a := .number v }
  | font => { el with s := .number v }
  | scale => { el with k := .number v }
  | format => { el with f := .number v }
  | glyph => { el with g := .number v }
  | thickness => { el with th := .number v }

/-- `bindSeg`. -/
def chooseSegment (segment : Segment) (v : Int) : Editor :=
  editor.change fun el => clampElement (segment.apply v el)

/-- A preset swatch. -/
def chooseSwatch (c : Fin 3) : Editor :=
  editor.change fun el => { el with c := .number c.val, col := .undefined }

/-- `ed-colinput`. -/
def inputColor (rgb : Int) : Editor :=
  editor.change fun el => { el with col := .number (Js.bitAnd rgb 0xffffff) }

/-- A key of `AXIS`. -/
inductive Axis where
  /-- `x`. -/
  | x
  /-- `y`. -/
  | y
  /-- `w`. -/
  | w
deriving DecidableEq

namespace Axis

/-- The property of an axis. -/
def get (axis : Axis) (el : Element) : Value :=
  match axis with
  | x => el.x
  | y => el.y
  | w => el.w

/-- Set the property of an axis, clamped to its range. -/
def set (axis : Axis) (value : Int) (el : Element) : Element :=
  match axis with
  | x => { el with x := .number (clampI value 0 63) }
  | y => { el with y := .number (clampI value 0 63) }
  | w => { el with w := .number (clampI value 0 64) }

end Axis

/-- A nudge button, one LED up or down an axis. -/
def nudge (axis : Axis) (up : Bool) : Editor :=
  editor.change fun el => axis.set ((axis.get el).toInt32 + if up then 1 else -1) el

/-- A numeric field of an axis, with the integer part of what was entered. -/
def enter (axis : Axis) (value : Int) : Editor := editor.change (axis.set value)

/-! ## Deleting and splitting -/

/-- Remove positions of the working layout and select nothing. -/
def remove (idxs : List Nat) : Editor :=
  { editor with
    working := ((List.range editor.working.length).filter (· ∉ idxs)).filterMap (editor.working[·]?)
    sel := none }.mutated

/-- `ed-del`. -/
def delete : Editor :=
  match editor.sel, editor.cur with
  | some i, some id =>
    if isConnectedDep (editor.objects id) then editor.showConfirm .deleteDeparture
    else editor.remove [i]
  | _, _ => editor

/-- `ed-split`. -/
def split : Editor :=
  match editor.cur with
  | none => editor
  | some id =>
    if isConnectedDep (editor.objects id) then editor.showConfirm (.split id) else editor

/-- Set the split flag of the departure that an element of the working layout belongs to. -/
def splitGroup (id : Nat) : Editor :=
  match editor.working.idxOf? id with
  | none => editor
  | some i =>
    (((groupIdx editor.elements i).filterMap (editor.working[·]?)).foldl (fun editor member =>
      editor.update member fun el => { el with sp := some true }) editor).mutated

/-- `ed-confirm-yes`. -/
def confirmYes : Editor :=
  let hidden := editor.hideConfirm
  match editor.confirmCb with
  | none => hidden
  | some .discard => hidden.closeEditor
  | some .deleteDeparture =>
    hidden.remove (hidden.sel.elim [] (groupIdx hidden.elements))
  | some (.split id) => hidden.splitGroup id
  | some .clear => { hidden with pending := hidden.pending ++ [.clear] }

/-! ## The pointer -/

/-- `pointerdown`, with the size of an LED in CSS pixels. -/
def pointerDown (ctx : Context) (lx ly cssPitch : Rat) : Editor :=
  if !editor.editorOpen then editor
  else
    let grabbed := do
      let id ← editor.cur
      let b := measureEl ctx (editor.objects id)
      let corner ← [Corner.topLeft, .topRight, .bottomLeft, .bottomRight].find?
        fun (corner : Corner) => ((lx - (corner.point b).1) * cssPitch).abs ≤ 18 ∧
          ((ly - (corner.point b).2) * cssPitch).abs ≤ 18
      some (Drag.resize corner id b)
    match grabbed with
    | some drag => { editor with drag := some (drag, false) }
    | none =>
      match hitTest ctx editor.elements lx ly with
      | none => { editor with sel := none }
      | some hit =>
        let idxs := groupIdx editor.elements hit
        let starts := idxs.filterMap fun j =>
          editor.elements[j]?.map fun (el : Element) => (el.x.toInt32, el.y.toInt32)
        { editor with
          sel := some hit
          drag := editor.working[hit]?.map fun id => (.move id lx ly idxs starts, false) }

/-- Move elements by a shared delta; whether one of them moved. -/
def shift (dx dy : Int) (targets : List (Nat × Int × Int)) : Editor × Bool :=
  targets.foldl (fun (editor, changed) target =>
    let el := editor.objects target.1
    let nx := clampI (target.2.1 + dx) 0 63
    let ny := clampI (target.2.2 + dy) 0 63
    if nx = el.x.toInt32 ∧ ny = el.y.toInt32 then (editor, changed)
    else (editor.update target.1 fun el => { el with x := .number nx, y := .number ny }, true))
    (editor, false)

/-- The range of deltas that keeps boxes on the panel along one axis, from starts and sizes. -/
def deltaRange (targets : List (Int × Int)) : Int × Int :=
  targets.foldl (fun (lo, hi) target =>
    (max lo (-target.1), min hi (64 - target.2 - target.1))) (-64, 64)

/-- `clampI` to a range of deltas that may be empty. -/
def clampDelta (delta : Int) (range : Int × Int) : Int := clampI delta range.1 (max range.1 range.2)

/-- `pointermove`. A drag whose positions the working layout no longer has moves nothing. -/
def pointerMove (ctx : Context) (lx ly : Rat) : Editor :=
  match editor.drag with
  | none => editor
  | some (.resize corner id b0, _) =>
    let (resized, changed) := resizeTo ctx corner b0 lx ly (editor.objects id)
    if changed then
      { editor.update id fun _ => clampElement resized with
        drag := some (.resize corner id b0, true) }.mutated
    else editor
  | some (.move id startLX startLY idxs starts, moved) =>
    let dx := Js.round (lx - startLX)
    let dy := Js.round (ly - startLY)
    if dx = 0 ∧ dy = 0 ∧ moved = false then editor
    else
      match idxs.mapM (editor.working[·]?) with
      | none => editor
      | some ids =>
        let boxes := ids.map fun id => measureEl ctx (editor.objects id)
        let dx := clampDelta dx (deltaRange (starts.zipWith (fun s b => (s.1, b.w)) boxes))
        let dy := clampDelta dy (deltaRange (starts.zipWith (fun s b => (s.2, b.h)) boxes))
        let (shifted, changed) := editor.shift dx dy (ids.zip starts)
        if changed then
          { shifted with drag := some (.move id startLX startLY idxs starts, true) }.mutated
        else editor

/-- `pointerup`, at an instant in milliseconds. -/
def pointerUp (now : Nat) : Editor :=
  match editor.drag with
  | none => editor
  | some (drag, moved) =>
    let released := { editor with drag := none }
    let el := editor.objects drag.el
    if !moved && isConnectedDep el then
      if now - editor.lastTap.1 < 350 ∧ editor.lastTap.2 = some el.di.toInt32 then
        { released with lastTap := (0, none) }.showConfirm (.split drag.el)
      else { released with lastTap := (now, some el.di.toInt32) }
    else { released with lastTap := (0, none) }

/-! ## Saving and loading -/

/-- The body `ed-save` posts for a layout, unless it is too large. -/
def saveBody (els : List Element) : Option Str :=
  let body := serializeLayout els
  if bytesMax < body.length then none else some body

/-- `ed-save`, up to its request: the body posted. -/
def save : Editor × Option Str :=
  if !editor.dirty then (editor, none)
  else
    match saveBody editor.elements with
    | none => (editor, none)
    | some body =>
      ({ editor with pending := editor.pending ++ [.save (editor.elements.map packElement)] },
        some body)

/-- The rest of a handler, once the board has answered its request. -/
def answered (served : Option Layout) : Pending → Editor
  | .boot => { editor with savedLayout := normalizeLayout (servedElements served) }
  | .opened =>
    if !editor.editorOpen || editor.dirty then editor
    else { editor with savedLayout := normalizeLayout (servedElements served) }.reload
  | .save objects =>
    { editor with
      savedLayout := normalizeLayout (some objects)
      dirty := false
      pending := editor.pending ++ [.apply] }
  | .apply => editor.closeEditor
  | .clear => { editor with savedLayout := [], working := [], sel := none, dirty := false }

/-- The rest of a handler, once its request has failed. -/
def failed : Pending → Editor
  | .apply => editor.closeEditor
  | .boot | .opened | .save _ | .clear => editor

/-- Finish the request at a position with its handler's rest. -/
def finish (position : Nat) (rest : Editor → Pending → Editor) : Editor :=
  match editor.pending[position]? with
  | none => editor
  | some request => rest { editor with pending := editor.pending.eraseIdx position } request

end Editor

/-! ## Events -/

/-- What can happen to the editor. -/
inductive Event where
  /-- The editor is opened. -/
  | openEditor
  /-- Cancel is pressed. -/
  | cancel
  /-- Escape is pressed. -/
  | escape
  /-- The departure chip is pressed. -/
  | addDeparture
  /-- Another chip is pressed. -/
  | addElement (template : Template)
  /-- The text field has a new value. -/
  | inputText (value : Str)
  /-- A segment is chosen. -/
  | chooseSegment (segment : Editor.Segment) (v : Int)
  /-- A swatch is chosen. -/
  | chooseSwatch (c : Fin 3)
  /-- The colour input has a new value. -/
  | inputColor (rgb : Int)
  /-- A nudge button is pressed. -/
  | nudge (axis : Editor.Axis) (up : Bool)
  /-- A numeric field has a new value. -/
  | enter (axis : Editor.Axis) (value : Int)
  /-- The properties are left. -/
  | deselect
  /-- Delete is pressed. -/
  | delete
  /-- Split is pressed. -/
  | split
  /-- The dialog is confirmed. -/
  | confirmYes
  /-- The dialog is dismissed. -/
  | confirmNo
  /-- The pointer is pressed on the stage. -/
  | pointerDown (ctx : Context) (lx ly cssPitch : Rat)
  /-- The pointer moves. -/
  | pointerMove (ctx : Context) (lx ly : Rat)
  /-- The pointer is released. -/
  | pointerUp (now : Nat)
  /-- The pointer is lost. -/
  | pointerCancel
  /-- Save is pressed. -/
  | save
  /-- Clear is pressed. -/
  | clear
  /-- The board answers a pending request. -/
  | answered (position : Nat) (served : Option Layout)
  /-- A pending request fails. -/
  | failed (position : Nat)

/-- Handle one event; the body it posts to `/layout` for a save. -/
def Editor.step (editor : Editor) : Event → Editor × Option Str
  | .openEditor => (editor.openEditor, none)
  | .cancel => (editor.cancelEditor, none)
  | .escape => (editor.escape, none)
  | .addDeparture => (editor.addDeparture, none)
  | .addElement template => (editor.addElement template, none)
  | .inputText value => (editor.inputText value, none)
  | .chooseSegment segment v => (editor.chooseSegment segment v, none)
  | .chooseSwatch c => (editor.chooseSwatch c, none)
  | .inputColor rgb => (editor.inputColor rgb, none)
  | .nudge axis up => (editor.nudge axis up, none)
  | .enter axis value => (editor.enter axis value, none)
  | .deselect => ({ editor with sel := none }, none)
  | .delete => (editor.delete, none)
  | .split => (editor.split, none)
  | .confirmYes => (editor.confirmYes, none)
  | .confirmNo => (editor.hideConfirm, none)
  | .pointerDown ctx lx ly cssPitch => (editor.pointerDown ctx lx ly cssPitch, none)
  | .pointerMove ctx lx ly => (editor.pointerMove ctx lx ly, none)
  | .pointerUp now => (editor.pointerUp now, none)
  | .pointerCancel => ({ editor with drag := none }, none)
  | .save => editor.save
  | .clear => (editor.showConfirm .clear, none)
  | .answered position served =>
    (editor.finish position fun editor => editor.answered served, none)
  | .failed position => (editor.finish position fun editor => editor.failed, none)

end Zugli.Web
