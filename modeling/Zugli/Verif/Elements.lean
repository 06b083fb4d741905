import Zugli.Firmware.Model
import Zugli.Web.Panel

/-!
# Elements on both sides

An element of the page stands for one of the firmware when every property it has holds the field's
number and every property it leaves out has the field's default.
-/

namespace Zugli

namespace Parity

/-- A property of the page's element denotes a byte field: it holds the number, or is left out when
the field has its default. -/
def Denotes (value : Js.Value) (default field : UInt8) : Prop :=
  value = .number field.toNat ∨ value = .undefined ∧ field = default

instance (value : Js.Value) (default field : UInt8) : Decidable (Denotes value default field) :=
  inferInstanceAs (Decidable (_ ∨ _))

/-- A field that defaults to zero, as an integer of the page. -/
theorem Denotes.toInt32 {value : Js.Value} {field : UInt8} (denotes : Denotes value 0 field) :
    value.toInt32 = field.toNat := by
  have bound := field.toNat_lt
  rcases denotes with rfl | ⟨rfl, rfl⟩
  · exact Js.toInt32_of_bounds (by omega) (by omega)
  · rfl

/-- A field with another default, as a number of the page. -/
theorem Denotes.orElse {value : Js.Value} {default field : UInt8}
    (denotes : Denotes value default field) : value.orElse default.toNat = field.toNat := by
  rcases denotes with rfl | ⟨rfl, rfl⟩ <;> rfl

/-- A colour property of the page's element denotes an optional colour. -/
def DenotesColor (value : Js.Value) : Option UInt32 → Prop
  | none => value = .undefined ∨ value = .null
  | some rgb => value = .number rgb.toNat

/-- An element of the page and one of the firmware are the same layout element. -/
structure Represents (page : Web.Element) (el : Element) : Prop where
  /-- The type tags agree. -/
  t : Denotes page.t 0 el.t
  /-- The left edges agree. -/
  x : Denotes page.x 0 el.x
  /-- The top edges agree. -/
  y : Denotes page.y 0 el.y
  /-- The box widths agree. -/
  w : Denotes page.w 0 el.w
  /-- The fonts agree. -/
  s : Denotes page.s 0 el.s
  /-- The scales agree. -/
  k : Denotes page.k 1 el.k
  /-- The preset colours agree. -/
  c : Denotes page.c 0 el.c
  /-- The custom colours agree. -/
  col : DenotesColor page.col el.col
  /-- The alignments agree. -/
  a : Denotes page.a 0 el.a
  /-- The texts agree. -/
  v : page.v.getD [] = Utf16.encode el.v.chars
  /-- The slots agree. -/
  di : Denotes page.di 0 el.di
  /-- The fields agree. -/
  fk : Denotes page.fk 0 el.fk
  /-- The split flags agree. -/
  sp : page.sp.getD false = el.sp
  /-- The thicknesses agree. -/
  th : Denotes page.th 1 el.th
  /-- The formats agree. -/
  f : Denotes page.f 0 el.f
  /-- The icons agree. -/
  g : Denotes page.g 0 el.g

end Parity

end Zugli
