import Zugli.Spec.Posting
import Zugli.Verif.Editor.Kept
import Zugli.Verif.Record

/-!
# What the firmware makes of a posted layout

A kept element that fits has a counterpart in the firmware. The page posts the members of the
counterpart, only the colour stands last; so the body is the text of a layout, it takes the bytes
counted for it, and the firmware reads that layout back.
-/

namespace Zugli.Web

open Js (Str Value Data)
open Json (utf8)
open Serde

/-! ## Counterparts -/

/-- The byte that a property holds. -/
def byteOf : Value → UInt8
  | .undefined | .null => 0
  | .number n => .ofNat n.toNat

/-- The text literal that a property holds. -/
def textOf (text : Option Str) : HString maxTextLen :=
  (HString.ofString? (String.ofList (Utf16.decode (text.getD [])))).getD .empty

/-- The colour that a property holds. -/
def colorOf : Value → Option UInt32
  | .undefined | .null => none
  | .number n => some (.ofNat n.toNat)

/-- The firmware's counterpart of an element. -/
def counterpart (el : Element) : Zugli.Element where
  t := byteOf el.t
  x := byteOf el.x
  y := byteOf el.y
  w := byteOf el.w
  s := byteOf el.s
  k := byteOf el.k
  c := byteOf el.c
  col := colorOf el.col
  a := byteOf el.a
  v := textOf el.v
  di := byteOf el.di
  fk := byteOf el.fk
  sp := el.sp.getD false
  th := byteOf el.th
  f := byteOf el.f
  g := byteOf el.g

/-- A property within a byte holds its byte. -/
theorem byteOf_between {value : Value} {lo hi : Int} (held : value.Between lo hi) (low : 0 ≤ lo)
    (high : hi ≤ 255) : value = .number (byteOf value).toNat ∧
      lo ≤ (byteOf value).toNat ∧ ((byteOf value).toNat : Int) ≤ hi := by
  obtain ⟨n, rfl, lower, upper⟩ := held
  have number : ((byteOf (.number n)).toNat : Int) = n := by
    rw [byteOf, UInt8.toNat_ofNat']
    omega
  exact ⟨by rw [number], by omega, by omega⟩

/-- A property within a byte denotes its byte. -/
theorem denotes_byteOf {value : Value} {lo hi : Int} (default : UInt8)
    (held : value.Between lo hi) (low : 0 ≤ lo) (high : hi ≤ 255) :
    Parity.Denotes value default (byteOf value) :=
  .inl (byteOf_between held low high).1

/-- A text that fits is the literal's text. -/
theorem textOf_of_fits {text : Option Str} (fits : ∀ value ∈ text, TextFits value) :
    (textOf text).val = String.ofList (Utf16.decode (text.getD [])) ∧
      text.getD [] = Utf16.encode (textOf text).chars := by
  have held : TextFits (text.getD []) := by
    cases text with
    | none => decide
    | some value => exact fits value rfl
  have short : (String.ofList (Utf16.decode (text.getD []))).utf8ByteSize ≤ maxTextLen := by
    rw [Json.utf8ByteSize_eq, String.toList_ofList]
    exact held.2
  have literal : textOf text = ⟨String.ofList (Utf16.decode (text.getD [])), short⟩ := by
    rw [textOf, HString.ofString?, dif_pos short]
    rfl
  rw [literal]
  refine ⟨rfl, ?_⟩
  rw [HString.chars, String.toList_ofList]
  exact held.1.symm

/-- A kept element whose text fits and its counterpart are the same element. -/
theorem represents_counterpart {el : Element} (kept : el.Kept)
    (fits : ∀ text ∈ el.v, TextFits text) : Parity.Represents el (counterpart el) where
  t := denotes_byteOf 0 kept.t (by decide) (by decide)
  x := denotes_byteOf 0 kept.x (by decide) (by decide)
  y := denotes_byteOf 0 kept.y (by decide) (by decide)
  w := denotes_byteOf 0 kept.w (by decide) (by decide)
  s := denotes_byteOf 0 kept.s (by decide) (by decide)
  k := denotes_byteOf 1 kept.k (by decide) (by decide)
  c := denotes_byteOf 0 kept.c (by decide) (by decide)
  col := by
    rcases kept.col with absent | ⟨n, held, lower, upper⟩
    · rw [counterpart, absent]
      exact .inl rfl
    · have number : (UInt32.ofNat n.toNat).toNat = n.toNat := by
        rw [UInt32.toNat_ofNat']
        omega
      rw [counterpart, held]
      show Value.number n = .number (UInt32.ofNat n.toNat).toNat
      rw [number, Int.toNat_of_nonneg lower]
  a := denotes_byteOf 0 kept.a (by decide) (by decide)
  v := (textOf_of_fits fits).2
  di := denotes_byteOf 0 kept.di (by decide) (by decide)
  fk := denotes_byteOf 0 kept.fk (by decide) (by decide)
  sp := rfl
  th := denotes_byteOf 1 kept.th (by decide) (by decide)
  f := denotes_byteOf 0 kept.f (by decide) (by decide)
  g := denotes_byteOf 0 kept.g (by decide) (by decide)

/-- A byte that is at most a bound is not clamped to it. -/
theorem atMost_of_le {value bound : UInt8} (within : (value.toNat : Int) ≤ bound.toNat) :
    atMost value bound = value :=
  if_pos (UInt8.le_iff_toNat_le.mpr (by omega))

/-- A byte within bounds is not clamped to them. -/
theorem clampU8_of_between {value low high : UInt8} (lower : (low.toNat : Int) ≤ value.toNat)
    (upper : (value.toNat : Int) ≤ high.toNat) : clampU8 value low high = value := by
  rw [clampU8, if_neg (by rw [UInt8.lt_iff_toNat_lt]; omega),
    if_neg (by rw [UInt8.lt_iff_toNat_lt]; omega)]

/-- Clamping leaves the counterpart of a kept element as it is. -/
theorem sanitize_counterpart {el : Element} (kept : el.Kept) (fits : ColorFits el.col) :
    (counterpart el).sanitize = counterpart el := by
  have bounded : ∀ {value : Value} {hi : Int} (bound : UInt8), value.Between 0 hi →
      hi ≤ bound.toNat → hi ≤ 255 → atMost (byteOf value) bound = byteOf value :=
    fun bound held below small =>
      atMost_of_le (Int.le_trans (byteOf_between held (by decide) small).2.2 below)
  have between : ∀ {value : Value} (low high : UInt8),
      value.Between low.toNat high.toNat → (high.toNat : Int) ≤ 255 →
        clampU8 (byteOf value) low high = byteOf value :=
    fun low high held small =>
      have number := byteOf_between held (Int.natCast_nonneg _) small
      clampU8_of_between number.2.1 number.2.2
  have colour : (colorOf el.col).map (· &&& 0x00FFFFFF) = colorOf el.col := by
    rcases kept.col with absent | ⟨n, held, lower, upper⟩
    · rw [absent]
      rfl
    · have small : n ≤ 0xffffff := by rwa [held] at fits
      rw [held, colorOf, Option.map_some, Option.some.injEq, ← UInt32.toNat_inj,
        UInt32.toNat_and, UInt32.toNat_ofNat']
      show n.toNat % 2 ^ 32 &&& (2 ^ 24 - 1) = _
      rw [Nat.and_two_pow_sub_one_eq_mod]
      omega
  simp only [Zugli.Element.sanitize, counterpart, colour,
    bounded 64 kept.x (by decide) (by decide), bounded 64 kept.y (by decide) (by decide),
    bounded 64 kept.w (by decide) (by decide), bounded 1 kept.s (by decide) (by decide),
    between 1 3 kept.k (by decide), bounded 2 kept.c (by decide) (by decide),
    bounded 2 kept.a (by decide) (by decide), bounded 2 kept.di (by decide) (by decide),
    bounded 2 kept.fk (by decide) (by decide), between 1 2 kept.th (by decide),
    bounded 1 kept.f (by decide) (by decide)]

/-! ## The document -/

/-- The fields of an element in the order in which the page posts them. -/
def postedTable (el : Zugli.Element) : Table :=
  [emit "t" el.t, emitUnless isZeroU8 "x" el.x, emitUnless isZeroU8 "y" el.y,
    emitUnless isZeroU8 "w" el.w, emitUnless isZeroU8 "s" el.s, emitUnless isOneU8 "k" el.k,
    emitUnless isZeroU8 "c" el.c, emitUnless isZeroU8 "a" el.a, emitUnless HString.isEmpty "v" el.v,
    emitUnless isZeroU8 "di" el.di, emitUnless isZeroU8 "fk" el.fk, emitUnless isFalse "sp" el.sp,
    emitUnless isOneU8 "th" el.th, emitUnless isZeroU8 "f" el.f, emitUnless isZeroU8 "g" el.g,
    emitUnless Option.isNone "col" el.col]

/-- The document posted for a list of counterparts. -/
def postedJson (els : List Zugli.Element) : Json :=
  .obj [("v", .num 1), ("e", .arr (els.map fun el => .obj (postedTable el).members))]

/-- The page posts the fields the firmware writes, in another order. -/
theorem postedTable_perm (el : Zugli.Element) : (postedTable el).Perm el.table :=
  List.Perm.append_left ((postedTable el).take 7)
    (@List.perm_append_comm _ (((postedTable el).drop 7).take 8) _)

/-- The firmware reads an element from the members in that order. -/
theorem ofMembers_postedTable (el : Zugli.Element) :
    Zugli.Element.ofMembers (postedTable el).members = some el := by
  have reordered : (postedTable el).members.Perm el.table.members :=
    (postedTable_perm el).filterMap _
  have read : Zugli.Element.ofMembers el.table.members = some el := ofJson_toJson el
  rw [← read]
  simp only [Zugli.Element.ofMembers, required_perm reordered, withDefault_perm reordered]

/-- The firmware reads a layout from the document. -/
theorem ofJson_postedJson {els : List Zugli.Element} (few : els.length ≤ Zugli.maxElements) :
    ofJson (postedJson els) = some (⟨1, ⟨els, few⟩⟩ : Layout) := by
  have elements : ofJson (.arr (els.map fun el => Json.obj (postedTable el).members)) =
      some (⟨els, few⟩ : HVec Zugli.Element Zugli.maxElements) := by
    show readHVec _ = _
    rw [readHVec_arr_iff, List.forall₂_map_left_iff, List.forall₂_same]
    exact fun el _ => ofMembers_postedTable el
  have version : ofJson (.num 1) = some (1 : UInt8) := rfl
  have read : ∀ value : Json, Layout.ofMembers [("v", .num 1), ("e", value)] =
      (ofJson value).map fun e => (⟨1, e⟩ : Layout) := by
    intro value
    have first : member "v" [("v", .num 1), ("e", value)] = some (some (.num 1)) := rfl
    have second : member "e" [("v", .num 1), ("e", value)] = some (some value) := rfl
    simp only [Layout.ofMembers, withDefault, first, second, Option.bind_eq_bind,
      Option.bind_some, version]
    cases ofJson (α := HVec Zugli.Element Zugli.maxElements) value <;> rfl
  rw [postedJson]
  exact (read _).trans (by rw [elements, Option.map_some])

/-- The strings of a posted element are short. -/
theorem postedTable_within (el : Zugli.Element) :
    (Json.obj (postedTable el).members).StringsWithin maxTextLen := by
  have text : EntryWithin maxTextLen (emitUnless HString.isEmpty "v" el.v) :=
    entryWithin_emitUnless _ (by decide) el.v.fits
  exact stringsWithin_table
    (by simp (disch := decide) [postedTable, stringless_emit, stringless_emitUnless, text])

/-- The strings of the document are short. -/
theorem postedJson_within {scratch : Nat} (roomy : maxTextLen ≤ scratch)
    (els : List Zugli.Element) : (postedJson els).StringsWithin scratch := by
  have items : ∀ item ∈ els.map fun el => Json.obj (postedTable el).members,
      item.StringsAll fun text => text.utf8ByteSize ≤ maxTextLen := by
    intro item member
    obtain ⟨el, -, rfl⟩ := List.mem_map.mp member
    exact postedTable_within el
  have names : "v".utf8ByteSize ≤ maxTextLen ∧ "e".utf8ByteSize ≤ maxTextLen := by decide
  have short : (postedJson els).StringsWithin maxTextLen :=
    ⟨⟨names.1, trivial⟩, ⟨names.2, (Json.itemsAll_iff _ _).mpr items⟩, trivial⟩
  exact short.mono roomy

/-! ## The body -/

/-- A property within a byte is posted as its byte, or left out at the default. -/
theorem valueData_unlessDefault {value : Value} {lo hi : Int} (default : UInt8)
    (held : value.Between lo hi) (low : 0 ≤ lo) (high : hi ≤ 255) :
    valueData (unlessDefault value default.toNat) =
        (if byteOf value == default then none else some (toJson (byteOf value))).map Data.ofJson ∧
      propertyBytes default.toNat value =
        if byteOf value == default then none else some (bytes .lower (byteOf value)) := by
  have number := (byteOf_between held low high).1
  generalize byteOf value = field at number
  subst number
  by_cases same : field = default
  · subst same
    simp [unlessDefault, valueData, propertyBytes]
  · have other : (field.toNat : Int) ≠ default.toNat := by
      rw [ne_eq, Int.natCast_inj, UInt8.toNat_inj]
      exact same
    simp only [unlessDefault, Value.number.injEq, other, ↓reduceIte, valueData, propertyBytes,
      beq_eq_false_iff_ne.mpr same, Bool.false_eq_true, Option.map_some]
    exact ⟨rfl, rfl⟩

/-- A text that fits is posted as the literal, or left out when it is empty. -/
theorem text_posted {text : Option Str} (fits : ∀ value ∈ text, TextFits value) :
    ((if text = some [] then none else text).map Data.string =
        (if (textOf text).isEmpty then none else some (toJson (textOf text))).map Data.ofJson) ∧
      textBytes text =
        if (textOf text).isEmpty then none else some (bytes .lower (textOf text)) := by
  have literal := (textOf_of_fits fits).1
  match text with
  | none | some [] => exact ⟨rfl, rfl⟩
  | some (unit :: units) =>
    have held : TextFits (unit :: units) := fits _ rfl
    have filled : (textOf (some (unit :: units))).isEmpty = false := by
      rw [HString.isEmpty, beq_eq_false_iff_ne, literal]
      intro empty
      have nothing : Utf16.decode (unit :: units) = [] := by simpa using empty
      have whole := held.1
      rw [Utf16.WellFormed, nothing] at whole
      cases whole
    rw [filled]
    refine ⟨?_, ?_⟩
    · have quoted : Js.units (textOf (some (unit :: units))).val = unit :: units := by
        rw [literal, Js.units, String.toList_ofList]
        exact held.1
      simp only [reduceCtorEq, ↓reduceIte, Option.some.injEq, Bool.false_eq_true, Option.map_some,
        toJson, Data.ofJson, quoted]
    · show some _ = some (Json.quoteSize .lower (textOf (some (unit :: units))).val)
      rw [literal]
      rfl

/-- A colour that fits is posted as it is. -/
theorem color_posted {value : Value} (held : value = .undefined ∨ value.Between 0 0xffffffff)
    (fits : ColorFits value) :
    valueData (maskColor value) =
        (if (colorOf value).isNone then none else some (toJson (colorOf value))).map Data.ofJson ∧
      colorBytes value =
        if (colorOf value).isNone then none else some (bytes .lower (colorOf value)) := by
  rcases held with rfl | ⟨n, rfl, lower, upper⟩
  · exact ⟨rfl, rfl⟩
  · have small : n ≤ 0xffffff := fits
    have number : (UInt32.ofNat n.toNat).toNat = n.toNat := by
      rw [UInt32.toNat_ofNat']
      omega
    have unmasked : Js.bitAnd n 0xffffff = n := by
      rw [Js.bitAnd, Js.toUint32, UInt32.toNat_and, UInt32.toNat_ofNat']
      show ((n % 0x100000000).toNat % 2 ^ 32 &&& (2 ^ 24 - 1) : Nat) = n
      rw [Nat.and_two_pow_sub_one_eq_mod]
      omega
    refine ⟨?_, ?_⟩
    · show some (Data.number (Js.bitAnd n 0xffffff)) =
        some (.number ((UInt32.ofNat n.toNat).toNat : Int))
      rw [unmasked, number, Int.toNat_of_nonneg lower]
    · show some (digits n.toNat) = some (digits (UInt32.ofNat n.toNat).toNat)
      rw [number]

/-- A split flag is posted when it is set. -/
theorem split_posted (flag : Option Bool) :
    ((if flag = some false then none else flag).map Data.bool =
        (if isFalse (flag.getD false) then none else some (toJson (flag.getD false))).map
          Data.ofJson) ∧
      (if flag = some true then some 4 else none) =
        if isFalse (flag.getD false) then none else some (bytes .lower (flag.getD false)) := by
  rcases flag with _ | _ | _ <;> exact ⟨rfl, rfl⟩

section Elements

variable {el : Element} (kept : el.Kept) (fits : el.Fits)

include kept fits

/-- The page posts the fields of the counterpart. -/
theorem entries_packElement : (packElement el).entries =
    (postedTable (counterpart el)).map fun entry => (entry.1, entry.2.map Data.ofJson) := by
  have tag : Value.number el.t.toInt32 = .number (byteOf el.t).toNat := by
    rw [← toInt32_of_between kept.t (by decide) (by decide)]
    exact (byteOf_between kept.t (by decide) (by decide)).1
  have zero : ∀ {value : Value} {hi : Int}, value.Between 0 hi → hi ≤ 255 →
      valueData (unlessDefault value 0) =
        (if isZeroU8 (byteOf value) then none else some (toJson (byteOf value))).map Data.ofJson :=
    fun held high => (valueData_unlessDefault 0 held (by decide) high).1
  have one : ∀ {value : Value} {hi : Int}, value.Between 1 hi → hi ≤ 255 →
      valueData (unlessDefault value 1) =
        (if isOneU8 (byteOf value) then none else some (toJson (byteOf value))).map Data.ofJson :=
    fun held high => (valueData_unlessDefault 1 held (by decide) high).1
  simp only [Element.entries, packElement, postedTable, counterpart, List.map_cons, List.map_nil,
    tag, zero kept.x (by decide), zero kept.y (by decide), zero kept.w (by decide),
    zero kept.s (by decide), one kept.k (by decide), zero kept.c (by decide),
    zero kept.a (by decide), (text_posted fits.1).1, zero kept.di (by decide),
    zero kept.fk (by decide), (split_posted el.sp).1, one kept.th (by decide),
    zero kept.f (by decide), zero kept.g (by decide), (color_posted kept.col fits.2).1]
  rfl

/-- The object posted for an element is the counterpart's document. -/
theorem data_packElement :
    (packElement el).data = .ofJson (.obj (postedTable (counterpart el)).members) := by
  rw [Element.data, entries_packElement kept fits, Data.ofJson, Js.ofMembers_eq_map, Table.members,
    List.filterMap_map, List.map_filterMap]
  congr 2
  funext entry
  obtain ⟨name, value⟩ := entry
  cases value <;> rfl

/-- An element takes the bytes counted for it. -/
theorem size_postedTable :
    (Json.obj (postedTable (counterpart el)).members).size .lower = elementBytes el := by
  have zero : ∀ {value : Value} {hi : Int}, value.Between 0 hi → hi ≤ 255 →
      propertyBytes 0 value =
        if isZeroU8 (byteOf value) then none else some (bytes .lower (byteOf value)) :=
    fun held high => (valueData_unlessDefault 0 held (by decide) high).2
  have one : ∀ {value : Value} {hi : Int}, value.Between 1 hi → hi ≤ 255 →
      propertyBytes 1 value =
        if isOneU8 (byteOf value) then none else some (bytes .lower (byteOf value)) :=
    fun held high => (valueData_unlessDefault 1 held (by decide) high).2
  have tag : some (digits el.t.toInt32.toNat) = some (bytes .lower (byteOf el.t)) := by
    have number := (byteOf_between kept.t (by decide) (by decide)).1
    have same := toInt32_of_between kept.t (by decide) (by decide)
    rw [Value.number.inj (same.symm.trans number)]
    rfl
  rw [size_table, elementBytes]
  simp only [postedTable, counterpart, List.map_cons, List.map_nil, entryBytes_emit,
    entryBytes_emitUnless, counted, countedUnless, tag, zero kept.x (by decide),
    zero kept.y (by decide), zero kept.w (by decide), zero kept.s (by decide),
    one kept.k (by decide), zero kept.c (by decide), zero kept.a (by decide),
    (text_posted fits.1).2,
    zero kept.di (by decide), zero kept.fk (by decide), (split_posted el.sp).2,
    one kept.th (by decide), zero kept.f (by decide), zero kept.g (by decide),
    (color_posted kept.col fits.2).2]

end Elements

section Layouts

variable {els : List Element} (kept : ∀ el ∈ els, el.Kept)
  (fits : ∀ el ∈ els, el.Fits)

include kept fits

/-- The body is the text of the counterparts' document. -/
theorem bodyBytes_serializeLayout : Js.bodyBytes (serializeLayout els) =
    utf8 (Json.write .lower (postedJson (els.map counterpart))) := by
  have items : els.map (fun el => (packElement el).data) = Data.ofItems
      ((els.map counterpart).map fun el => .obj (postedTable el).members) := by
    rw [Js.ofItems_eq_map, List.map_map, List.map_map]
    exact List.map_congr_left fun el member => data_packElement (kept el member) (fits el member)
  rw [serializeLayout, items]
  exact Js.bodyBytes_stringify (postedJson (els.map counterpart))

/-- The body takes the bytes counted for the layout. -/
theorem length_bodyBytes : (Js.bodyBytes (serializeLayout els)).length = layoutBytes els := by
  have items : ((els.map counterpart).map fun el => Json.obj (postedTable el).members).map
      (Json.size .lower) = els.map elementBytes := by
    rw [List.map_map, List.map_map]
    exact List.map_congr_left fun el member => size_postedTable (kept el member) (fits el member)
  have array : (Json.arr ((els.map counterpart).map fun el =>
      .obj (postedTable el).members)).size .lower = listBytes (els.map elementBytes) := by
    rw [size_items, items]
  rw [bodyBytes_serializeLayout kept fits, Json.length_utf8]
  have document := size_table .lower [("v", some (Json.num 1)),
    ("e", some (.arr ((els.map counterpart).map fun el => .obj (postedTable el).members)))]
  simp only [List.map_cons, List.map_nil, entryBytes, Option.map_some, array] at document
  exact document

end Layouts

end Zugli.Web
