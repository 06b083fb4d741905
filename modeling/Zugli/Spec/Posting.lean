import Zugli.Spec.Bytes
import Zugli.Verif.Elements
import Zugli.Web.Editor

/-!
# Posting a layout

What it means that the firmware accepts a posted layout unchanged, and what a layout of the editor
has to satisfy for it: texts and colours that the firmware can hold, and few enough bytes, counted
property by property.
-/

namespace Zugli.Web

open Js (Str Value)
open Serde

/-- The firmware takes a posted body for the editor's elements: it has at most `layoutMaxBytes`
bytes and parses, with a scratch buffer of the extractor, to a layout that clamping leaves as it is
and that holds what the editor holds, field by field. -/
def AcceptedUnchanged (serde : SerdeJsonCore) (scratch : Nat) (body : Str) (els : List Element) :
    Prop :=
  (Js.bodyBytes body).length ≤ layoutMaxBytes ∧
    ∃ layout : Layout, serde.fromSlice Layout scratch (Js.bodyBytes body) = some layout ∧
      layout.sanitize = layout ∧ layout.v = 1 ∧ List.Forall₂ Parity.Represents els layout.e.val

/-! ## Texts and colours -/

/-- A string that the firmware can hold as a text literal: no lone surrogate, and at most
`maxTextLen` bytes. -/
def TextFits (text : Str) : Prop :=
  Utf16.WellFormed text ∧ Json.utf8Len (Utf16.decode text) ≤ maxTextLen

instance (text : Str) : Decidable (TextFits text) := inferInstanceAs (Decidable (_ ∧ _))

/-- A colour of 24 bits, or none. -/
def ColorFits : Value → Prop
  | .undefined | .null => True
  | .number col => col ≤ 0xffffff

instance : ∀ value : Value, Decidable (ColorFits value)
  | .undefined | .null => .isTrue trivial
  | .number col => inferInstanceAs (Decidable (col ≤ 0xffffff))

/-- An element whose text and colour the firmware can hold as they are. -/
def Element.Fits (el : Element) : Prop := (∀ text ∈ el.v, TextFits text) ∧ ColorFits el.col

instance (el : Element) : Decidable el.Fits := inferInstanceAs (Decidable (_ ∧ _))

/-! ## Bytes -/

/-- Bytes of a property, if it is posted. -/
def propertyBytes (default : Int) : Value → Option Nat
  | .undefined => none
  | .null => some 4
  | .number n => if n = default then none else some (digits n.toNat)

/-- Bytes of a text, if it is posted. -/
def textBytes : Option Str → Option Nat
  | none | some [] => none
  | some text => some (Json.quoteSize .lower (String.ofList (Utf16.decode text)))

/-- Bytes of a colour, if it is posted. -/
def colorBytes : Value → Option Nat
  | .undefined | .null => none
  | .number col => some (digits col.toNat)

/-- Bytes of a posted element. -/
def elementBytes (el : Element) : Nat :=
  objectBytes .lower
    [("t", some (digits el.t.toInt32.toNat)), ("x", propertyBytes 0 el.x),
      ("y", propertyBytes 0 el.y), ("w", propertyBytes 0 el.w), ("s", propertyBytes 0 el.s),
      ("k", propertyBytes 1 el.k), ("c", propertyBytes 0 el.c), ("a", propertyBytes 0 el.a),
      ("v", textBytes el.v), ("di", propertyBytes 0 el.di), ("fk", propertyBytes 0 el.fk),
      ("sp", if el.sp = some true then some 4 else none), ("th", propertyBytes 1 el.th),
      ("f", propertyBytes 0 el.f), ("g", propertyBytes 0 el.g), ("col", colorBytes el.col)]

/-- Bytes of a posted layout. -/
def layoutBytes (els : List Element) : Nat :=
  objectBytes .lower [("v", some 1), ("e", some (listBytes (els.map elementBytes)))]

/-- A layout whose elements fit and whose body has few enough bytes. -/
def Postable (els : List Element) : Prop :=
  (∀ el ∈ els, el.Fits) ∧ layoutBytes els ≤ layoutMaxBytes

instance (els : List Element) : Decidable (Postable els) := inferInstanceAs (Decidable (_ ∧ _))

end Zugli.Web
