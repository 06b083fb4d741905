import Zugli.Firmware.Derive

/-!
# Byte counts

How many bytes the JSON text of a value takes, counted field by field: the digits of a number,
the spellings of a string's characters, the members an element does not skip. The counts are
arithmetic in the field values; `size_toJson` says the writer spends exactly them.
-/

namespace Zugli

open Serde
open Json (Style quoteSize size)

/-- How many decimal digits a number has. -/
def digits (value : Nat) : Nat := (Nat.toDigits 10 value).length

/-- Bytes of a list of items between brackets, a comma between any two. -/
def listBytes (items : List Nat) : Nat :=
  2 + (items.map (1 + ·)).sum - (if items = [] then 0 else 1)

/-- Bytes of an object, the skipped fields without a count. -/
def objectBytes (style : Style) (fields : List (String × Option Nat)) : Nat :=
  listBytes (fields.filterMap fun field => field.2.map (quoteSize style field.1 + 1 + ·))

/-- A type whose byte count is known. -/
class Bytes (α : Type) [Serialize α] where
  /-- The count. -/
  bytes : Style → α → Nat
  /-- It is the size of the text. -/
  size_toJson : ∀ (style : Style) (value : α), (toJson value).size style = bytes style value

export Bytes (bytes size_toJson)

/-- A field that is always written. -/
def counted {α : Type} [Serialize α] [Bytes α] (style : Style) (name : String) (value : α) :
    String × Option Nat :=
  (name, some (bytes style value))

/-- A field that may be skipped. -/
def countedUnless {α : Type} [Serialize α] [Bytes α] (style : Style) (skip : α → Bool)
    (name : String) (value : α) : String × Option Nat :=
  (name, if skip value then none else some (bytes style value))

/-- The count of a field of a table. -/
def entryBytes (style : Style) (entry : String × Option Json) : String × Option Nat :=
  (entry.1, entry.2.map (size style))

theorem entryBytes_emit {α : Type} [Serialize α] [Bytes α] (style : Style) (name : String)
    (value : α) : entryBytes style (emit name value) = counted style name value := by
  simp [entryBytes, emit, counted, size_toJson]

theorem entryBytes_emitUnless {α : Type} [Serialize α] [Bytes α] (style : Style)
    (skip : α → Bool) (name : String) (value : α) :
    entryBytes style (emitUnless skip name value) = countedUnless style skip name value := by
  by_cases skipped : skip value = true <;>
    simp [entryBytes, emitUnless, countedUnless, skipped, size_toJson]

theorem entryBytes_none (style : Style) (name : String) :
    entryBytes style (name, none) = (name, none) := rfl

/-- The size of an object is the count of its table. -/
theorem size_table (style : Style) (table : Table) : (Json.obj table.members).size style =
    objectBytes style (table.map (entryBytes style)) := by
  have fields : (table.map (entryBytes style)).filterMap
      (fun field => field.2.map (quoteSize style field.1 + 1 + ·)) =
        table.members.map (Json.memberSize style) := by
    simp only [Table.members, List.filterMap_map, List.map_filterMap]
    congr 1
    funext ⟨name, value⟩
    cases value <;> simp [entryBytes, Json.memberSize]
  rw [Json.size_obj, objectBytes, fields, listBytes, List.map_map]
  simp only [List.map_eq_nil_iff]
  rfl

/-- The size of an array is the count of its items. -/
theorem size_items (style : Style) (items : List Json) :
    (Json.arr items).size style = listBytes (items.map (size style)) := by
  simp [Json.size_arr, listBytes, Function.comp_def]

/-! ## The standard types -/

instance : Bytes UInt8 where
  bytes _ value := digits value.toNat
  size_toJson _ value := by simp [toJson, size, Json.write, digits, Json.utf8Len_toDigits]

instance : Bytes UInt16 where
  bytes _ value := digits value.toNat
  size_toJson _ value := by simp [toJson, size, Json.write, digits, Json.utf8Len_toDigits]

instance : Bytes UInt32 where
  bytes _ value := digits value.toNat
  size_toJson _ value := by simp [toJson, size, Json.write, digits, Json.utf8Len_toDigits]

instance : Bytes Bool where
  bytes _ value := if value then 4 else 5
  size_toJson _ value := by cases value <;> rfl

instance {capacity : Nat} : Bytes (HString capacity) where
  bytes style value := quoteSize style value.val
  size_toJson style value := by simp [toJson, size, Json.write, Json.utf8Len_quote]

instance {α : Type} [Serialize α] [Bytes α] : Bytes (Option α) where
  bytes style value := (value.map (bytes style)).getD 4
  size_toJson style value := by
    cases value with
    | none => rfl
    | some value => simpa [toJson] using size_toJson style value

instance {α : Type} [Serialize α] [Bytes α] {capacity : Nat} : Bytes (HVec α capacity) where
  bytes style items := listBytes (items.val.map (bytes style))
  size_toJson style items := by
    simp [toJson, size_items, size_toJson, Function.comp_def]

/-! ## The records -/

instance : Bytes Conn where
  bytes style conn := objectBytes style
    [counted style "line" conn.line, counted style "category" conn.category,
      counted style "destination" conn.destination]
  size_toJson style conn := by
    simp [toJson, size_table, Conn.table, entryBytes_emit]

instance : Bytes WifiCreds where
  bytes style creds := objectBytes style
    [counted style "ssid" creds.ssid, counted style "password" creds.password]
  size_toJson style creds := by
    simp [toJson, size_table, WifiCreds.table, entryBytes_emit]

instance : Bytes Selection where
  bytes style sel := objectBytes style
    [counted style "stopId" sel.stopId, counted style "stopName" sel.stopName,
      counted style "allConnections" sel.allConnections,
      counted style "connections" sel.connections]
  size_toJson style sel := by
    simp [toJson, size_table, Selection.table, entryBytes_emit]

instance : Bytes Config where
  bytes style config := objectBytes style
    [counted style "stripCity" config.stripCity,
      counted style "showLineBadges" config.showLineBadges,
      counted style "brightness" config.brightness,
      counted style "autoBrightness" config.autoBrightness,
      counted style "offWhenDimmed" config.offWhenDimmed,
      counted style "reducedStart" config.reducedStart,
      counted style "reducedEnd" config.reducedEnd, counted style "uiMode" config.uiMode,
      ("focusView", none)]
  size_toJson style config := by
    simp [toJson, size_table, Config.table, entryBytes_emit, entryBytes_none]

instance : Bytes Element where
  bytes style el := objectBytes style
    [counted style "t" el.t, countedUnless style isZeroU8 "x" el.x,
      countedUnless style isZeroU8 "y" el.y, countedUnless style isZeroU8 "w" el.w,
      countedUnless style isZeroU8 "s" el.s, countedUnless style isOneU8 "k" el.k,
      countedUnless style isZeroU8 "c" el.c, countedUnless style Option.isNone "col" el.col,
      countedUnless style isZeroU8 "a" el.a, countedUnless style HString.isEmpty "v" el.v,
      countedUnless style isZeroU8 "di" el.di, countedUnless style isZeroU8 "fk" el.fk,
      countedUnless style isFalse "sp" el.sp, countedUnless style isOneU8 "th" el.th,
      countedUnless style isZeroU8 "f" el.f, countedUnless style isZeroU8 "g" el.g]
  size_toJson style el := by
    simp [toJson, size_table, Element.table, entryBytes_emit, entryBytes_emitUnless]

instance : Bytes Layout where
  bytes style layout := objectBytes style [counted style "v" layout.v, counted style "e" layout.e]
  size_toJson style layout := by
    simp [toJson, size_table, Layout.table, entryBytes_emit]

instance : Bytes Persisted where
  bytes style all := objectBytes style
    [counted style "wifi" all.wifi, counted style "selection" all.selection,
      counted style "config" all.config, counted style "layout" all.layout]
  size_toJson style all := by
    simp [toJson, size_table, Persisted.table, entryBytes_emit]

/-- `to_slice` needs exactly the count. -/
theorem len_eq_bytes {α : Type} [Serialize α] [Bytes α] (serde : SerdeJsonCore) (value : α) :
    serde.len value = bytes serde.style value :=
  size_toJson serde.style value

/-! ## A dense layout -/

/-- An element that skips no field, with a text of plain letters. -/
def denseElement : Element where
  t := 1
  x := 64
  y := 64
  w := 64
  s := 1
  k := 3
  c := 2
  col := some 0xFFFFFF
  a := 2
  v := ⟨"abcdefghijklmnopqrstuvwx", by decide⟩
  di := 2
  fk := 2
  sp := true
  th := 2
  f := 1
  g := 1

/-- A layout of dense elements. -/
def denseLayout (count : Nat) (few : count ≤ maxElements) : Layout :=
  ⟨1, List.replicate count denseElement, by simpa using few⟩

/-- Sanitizing leaves a dense layout as it is. -/
theorem sanitize_denseLayout (count : Nat) (few : count ≤ maxElements) :
    (denseLayout count few).sanitize = denseLayout count few := by
  have same : denseElement.sanitize = denseElement := by decide
  simp [denseLayout, Layout.sanitize, HVec.map, same]

end Zugli
