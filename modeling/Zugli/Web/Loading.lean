import Zugli.Firmware.Httpd
import Zugli.Web.Layouts

/-!
# Loading a layout

What the page reads from the body of an answer to `GET /layout`, and the way of a layout that is
opened and saved without an edit. A body with a value that an element of the page cannot hold, such
as a string for a number, reads as nothing.
-/

namespace Zugli.Web

open Js (Str Value)
open Json (utf8Decode?)
open Serde (SerdeJsonCore)

/-- A property of a parsed object: of members with one name, the last. -/
def property (name : String) (members : List (String × Json)) : Option Json :=
  members.reverse.lookup name

/-- A property that holds an integer or null, or is absent. -/
def valueOf? : Option Json → Option Value
  | none => some .undefined
  | some .null => some .null
  | some (.num n) => some (.number n)
  | some _ => none

/-- A property that holds a string, or is absent. -/
def stringOf? : Option Json → Option (Option Str)
  | none => some none
  | some (.str text) => some (some (Js.units text))
  | some _ => none

/-- A property that holds a boolean, or is absent. -/
def boolOf? : Option Json → Option (Option Bool)
  | none => some none
  | some (.bool flag) => some (some flag)
  | some _ => none

/-- A parsed object as an element. -/
def Element.ofMembers? (members : List (String × Json)) : Option Element := do
  let t ← valueOf? (property "t" members)
  let x ← valueOf? (property "x" members)
  let y ← valueOf? (property "y" members)
  let w ← valueOf? (property "w" members)
  let s ← valueOf? (property "s" members)
  let k ← valueOf? (property "k" members)
  let c ← valueOf? (property "c" members)
  let col ← valueOf? (property "col" members)
  let a ← valueOf? (property "a" members)
  let v ← stringOf? (property "v" members)
  let di ← valueOf? (property "di" members)
  let fk ← valueOf? (property "fk" members)
  let sp ← boolOf? (property "sp" members)
  let th ← valueOf? (property "th" members)
  let f ← valueOf? (property "f" members)
  let g ← valueOf? (property "g" members)
  some { t, x, y, w, s, k, c, col, a, v, di, fk, sp, th, f, g }

/-- A parsed value as an element. -/
def Element.ofJson? : Json → Option Element
  | .obj members => Element.ofMembers? members
  | _ => none

/-- The elements of a parsed layout, if it has an array of them: `l && Array.isArray(l.e)`. -/
def layoutElements? : Json → Option (Option (List Element))
  | .obj members =>
    match property "e" members with
    | some (.arr items) => (items.mapM Element.ofJson?).map some
    | _ => some none
  | _ => some none

/-- `r.json()` of an answer to `GET /layout`, as far as `normalizeLayout` reads it. -/
def readLayout (body : List UInt8) : Option (Option (List Element)) := do
  layoutElements? (← Json.read (← utf8Decode? body))

/-- The layout that the board holds after the one it answers with was opened on the page and saved as
it was loaded: `raw_json`, `normalizeLayout`, `serializeLayout`, the extractor of `POST /layout` with
its scratch buffer, and the clamp. The page saves only after an edit; it may be one that changes
nothing. -/
def resave (serde : SerdeJsonCore) (scratch : Nat) (device : Device) (layout : Layout) :
    Option Layout := do
  let elements ← readLayout (device.rawJson serde layout)
  let body := serializeLayout (normalizeLayout elements)
  let posted ← serde.fromSlice Layout scratch (Js.bodyBytes body)
  some posted.sanitize

end Zugli.Web
