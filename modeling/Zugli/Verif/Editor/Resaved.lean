import Zugli.Firmware.Display.Custom
import Zugli.Verif.Editor.Accepted
import Zugli.Verif.Httpd
import Zugli.Web.Loading

/-!
# A layout that is opened and saved without an edit

The page reads the elements the board serves, clamps them and posts their counterparts. The board's
clamp admits what the page's does not: a place of 64, and any number for a glyph. So the layout
comes back with those brought into the page's ranges; it draws the same where no drawn element
had one.
-/

namespace Zugli

/-- Where the page's clamp is narrower than the board's, an element as the page's leaves it. -/
def Element.narrowed (el : Element) : Element :=
  { el with x := atMost el.x 63, y := atMost el.y 63, g := atMost el.g 2 }

/-- A layout with its elements narrowed. -/
def Layout.narrowed (layout : Layout) : Layout :=
  { layout with e := layout.e.map Element.narrowed }

/-- An element that draws nothing, or whose place, and whose glyph if it is an icon, are in the
ranges of the page. -/
def Element.InPageRange (el : Element) : Prop :=
  el.t ≤ 6 → (el.x ≤ 63 ∧ el.y ≤ 63) ∧ (el.t = 6 → el.g ≤ 2)

instance (el : Element) : Decidable el.InPageRange := inferInstanceAs (Decidable (_ → _))

/-! ## What the clamps leave -/

/-- Bringing a byte under a bound leaves it as it is just when it is under it already. -/
theorem atMost_eq_iff (value bound : UInt8) : atMost value bound = value ↔ value ≤ bound := by
  unfold atMost
  constructor
  · intro same
    split at same
    · assumption
    · rw [← same]
      exact UInt8.le_refl bound
  · exact fun within => if_pos within

/-- Narrowing leaves an element as it is just when its place and glyph are in the page's ranges. -/
theorem Element.narrowed_eq_iff (el : Element) :
    el.narrowed = el ↔ el.x ≤ 63 ∧ el.y ≤ 63 ∧ el.g ≤ 2 := by
  rw [← atMost_eq_iff, ← atMost_eq_iff, ← atMost_eq_iff]
  constructor
  · exact fun same => ⟨congrArg Element.x same, congrArg Element.y same, congrArg Element.g same⟩
  · rintro ⟨across, down, glyph⟩
    rw [narrowed, across, down, glyph]

/-- Narrowing leaves a layout as it is just when it does so for its elements. -/
theorem Layout.narrowed_eq_iff (layout : Layout) : layout.narrowed = layout ↔
    ∀ el ∈ layout.e.val, el.x ≤ 63 ∧ el.y ≤ 63 ∧ el.g ≤ 2 := by
  have elements : layout.narrowed = layout ↔ layout.e.val.map Element.narrowed = layout.e.val := by
    constructor
    · exact fun same => congrArg (fun layout => layout.e.val) same
    · exact fun same => by simp only [narrowed, HVec.map, same]
  rw [elements]
  constructor
  · intro same el member
    rw [← List.map_id layout.e.val, List.map_map] at same
    exact el.narrowed_eq_iff.mp (List.map_inj_left.mp same el member)
  · intro within
    refine (List.map_congr_left fun el member => ?_).trans (List.map_id _)
    exact el.narrowed_eq_iff.mpr (within el member)

/-! ## What is drawn of a narrowed element -/

section Drawing

variable (canvas : Canvas) (fb : FrameBuffer) (station : List Char) (deps : List Departure)
  (frame : UInt32)

/-- Only an icon draws its glyph. -/
theorem Canvas.drawElement_glyph {el : Element} (other : el.t ≠ 6) (g : UInt8) :
    canvas.drawElement fb station deps frame { el with g } =
      canvas.drawElement fb station deps frame el := by
  unfold drawElement
  dsimp only
  split
  case h_7 tag => exact absurd tag other
  all_goals rfl

/-- An element of an unknown type draws nothing. -/
theorem Canvas.drawElement_unknown {el : Element} (unknown : 6 < el.t) :
    canvas.drawElement fb station deps frame el = (fb, false) := by
  unfold drawElement
  split
  case h_8 => rfl
  all_goals
    rename_i tag
    rw [tag] at unknown
    exact absurd unknown (by decide)

/-- An element in the page's ranges, or of an unknown type, is drawn as before. -/
theorem Canvas.drawElement_narrowed {el : Element} (within : el.InPageRange) :
    canvas.drawElement fb station deps frame el.narrowed =
      canvas.drawElement fb station deps frame el := by
  by_cases known : el.t ≤ 6
  · obtain ⟨⟨across, down⟩, glyph⟩ := within known
    have place : el.narrowed = { el with g := atMost el.g 2 } := by
      rw [Element.narrowed, (atMost_eq_iff _ _).mpr across, (atMost_eq_iff _ _).mpr down]
    by_cases icon : el.t = 6
    · rw [(el.narrowed_eq_iff).mpr ⟨across, down, glyph icon⟩]
    · rw [place]
      exact canvas.drawElement_glyph fb station deps frame icon _
  · have unknown : 6 < el.t := UInt8.not_le.mp known
    rw [canvas.drawElement_unknown fb station deps frame unknown,
      @Canvas.drawElement_unknown canvas fb station deps frame el.narrowed unknown]

end Drawing

/-- A layout in the page's ranges is drawn as before. -/
theorem Canvas.drawCustomLayout_narrowed {layout : Layout}
    (within : ∀ el ∈ layout.e.val, el.InPageRange) (canvas : Canvas) (fb : FrameBuffer)
    (station : List Char) (deps : List Departure) (frame : UInt32) :
    canvas.drawCustomLayout fb layout.narrowed station deps frame =
      canvas.drawCustomLayout fb layout station deps frame := by
  have elements : layout.narrowed.e.val = layout.e.val.map Element.narrowed := rfl
  rw [drawCustomLayout, drawCustomLayout, elements, List.foldl_map]
  refine List.foldl_ext _ _ _ fun state el member => ?_
  obtain ⟨drawn, animating⟩ := state
  simp only [canvas.drawElement_narrowed drawn station deps frame (within el member)]

namespace Web

open Js (Str Value)
open Json (utf8 write)
open Serde

/-! ## What the page reads -/

/-- When field names differ, a property is what the table says of its field. -/
theorem property_members {table : Table} (distinct : (table.map Prod.fst).Nodup) (name : String) :
    property name table.members = (table.lookup name).join := by
  induction table with
  | nil => rfl
  | cons entry table previous =>
    obtain ⟨head, value⟩ := entry
    rw [List.map_cons, List.nodup_cons] at distinct
    have later := previous distinct.2
    have behind : property name (Table.members ((head, value) :: table)) =
        (property name (Table.members table)).or
          (property name (Table.members [(head, value)])) := by
      cases value with
      | none => exact (Option.or_none).symm
      | some value =>
        rw [members_some, property, List.reverse_cons, List.lookup_append]
        rfl
    rw [behind, later]
    by_cases same : name = head
    · subst same
      have missing : table.lookup name = none := by
        rw [List.lookup_eq_none_iff]
        intro entry inside
        have other : name ≠ entry.1 := by
          rintro rfl
          exact distinct.1 (List.mem_map.mpr ⟨entry, inside, rfl⟩)
        simpa using other
      cases value <;> simp [missing, property, Table.members]
    · have other : (name == head) = false := beq_eq_false_iff_ne.mpr same
      cases value <;> simp [property, Table.members, List.lookup_cons, other]

/-- A byte that is skipped at its default is read as it is served. -/
theorem valueOf?_byte {skip : UInt8 → Bool} {default : UInt8} (field : UInt8)
    (skips : ∀ value, skip value = true ↔ value = default) :
    valueOf? (if skip field then none else some (toJson field)) =
      some (servedByte default field) := by
  by_cases same : field = default
  · rw [if_pos ((skips field).mpr same), servedByte, if_pos same]
    rfl
  · rw [if_neg (mt (skips field).mp same), servedByte, if_neg same]
    rfl

/-- The page reads a served element from its members. -/
theorem ofMembers?_table (el : Zugli.Element) :
    Element.ofMembers? el.table.members = some (servedElement el) := by
  have distinct : (el.table.map Prod.fst).Nodup := by
    simp [Zugli.Element.table, emit, emitUnless]
  have byte (name : String) (skip : UInt8 → Bool) (default field : UInt8)
      (skips : ∀ value, skip value = true ↔ value = default)
      (listed : (el.table.lookup name).join =
        if skip field then none else some (toJson field)) :
      valueOf? (property name el.table.members) = some (servedByte default field) := by
    rw [property_members distinct, listed, valueOf?_byte field skips]
  have zero : ∀ value, isZeroU8 value = true ↔ value = 0 := fun value => beq_iff_eq
  have one : ∀ value, isOneU8 value = true ↔ value = 1 := fun value => beq_iff_eq
  have tag : valueOf? (property "t" el.table.members) = some (.number el.t.toNat) := by
    rw [property_members distinct]
    rfl
  have colour : valueOf? (property "col" el.table.members) = some (servedElement el).col := by
    rw [property_members distinct]
    show valueOf? (if el.col.isNone then none else some (toJson el.col)) = _
    unfold servedElement
    cases el.col <;> rfl
  have text : stringOf? (property "v" el.table.members) = some (servedElement el).v := by
    rw [property_members distinct]
    show stringOf? (if el.v.isEmpty then none else some (toJson el.v)) = _
    unfold servedElement
    split <;> rfl
  have flag : boolOf? (property "sp" el.table.members) = some (servedElement el).sp := by
    rw [property_members distinct]
    show boolOf? (if isFalse el.sp then none else some (toJson el.sp)) = _
    unfold servedElement
    cases el.sp <;> rfl
  simp only [Element.ofMembers?, tag, colour, text, flag,
    byte "x" isZeroU8 0 el.x zero rfl, byte "y" isZeroU8 0 el.y zero rfl,
    byte "w" isZeroU8 0 el.w zero rfl, byte "s" isZeroU8 0 el.s zero rfl,
    byte "k" isOneU8 1 el.k one rfl, byte "c" isZeroU8 0 el.c zero rfl,
    byte "a" isZeroU8 0 el.a zero rfl, byte "di" isZeroU8 0 el.di zero rfl,
    byte "fk" isZeroU8 0 el.fk zero rfl, byte "th" isOneU8 1 el.th one rfl,
    byte "f" isZeroU8 0 el.f zero rfl, byte "g" isZeroU8 0 el.g zero rfl,
    Option.bind_eq_bind, Option.bind_some]
  rfl

/-- The page reads the elements of a layout from its document. -/
theorem layoutElements?_toJson (layout : Layout) :
    layoutElements? (toJson layout) = some (servedElements (some layout)) := by
  have distinct : (layout.table.map Prod.fst).Nodup := by
    simp [Layout.table, emit]
  have array : property "e" layout.table.members = some (.arr (layout.e.val.map toJson)) := by
    rw [property_members distinct]
    rfl
  have items : (layout.e.val.map toJson).mapM Element.ofJson? =
      some (layout.e.val.map servedElement) := by
    rw [mapM_eq_some_iff, List.forall₂_map_left_iff, List.forall₂_map_right_iff,
      List.forall₂_same]
    exact fun el _ => ofMembers?_table el
  show layoutElements? (.obj layout.table.members) = _
  rw [layoutElements?, array]
  dsimp only
  rw [items]
  rfl

/-- From the answer of the board the page reads what the editor takes as served. -/
theorem readLayout_rawJson {serde : SerdeJsonCore} {device : Device}
    (idle : device.jsonTxInUse = false) {layout : Layout}
    (room : bytes serde.style layout ≤ layoutMaxBytes) :
    readLayout (device.rawJson serde layout) = some (servedElements (some layout)) := by
  rw [Device.rawJson_of_le serde idle room, readLayout, Json.utf8Decode?_utf8]
  simp only [Option.bind_eq_bind, Option.bind_some, Json.read_write]
  exact layoutElements?_toJson layout

/-! ## What the page posts -/

/-- A character takes at most as many code units as bytes. -/
theorem length_encodeChar_le (char : Char) : (Utf16.encodeChar char).length ≤ char.utf8Size := by
  unfold Utf16.encodeChar
  split
  · exact char.utf8Size_pos
  next large =>
    have value : char.val.toNat = char.toNat := rfl
    unfold Char.utf8Size
    simp only [UInt32.le_iff_toNat_le, UInt32.toNat_ofNatLT, value]
    split
    · omega
    · split
      · omega
      · split <;> simp

/-- A text takes at most as many code units as bytes. -/
theorem length_encode_le (text : List Char) : (Utf16.encode text).length ≤ Json.utf8Len text := by
  induction text with
  | nil => exact Nat.le_refl _
  | cons char rest previous =>
    rw [Utf16.encode_cons, List.length_append, Json.utf8Len_cons]
    exact Nat.add_le_add (length_encodeChar_le char) previous

/-- The page does not cut a text the board holds: it bounds the code units, of which there are no
more than bytes. -/
theorem clampElement_served_text (el : Zugli.Element) :
    (clampElement (servedElement el)).v = (servedElement el).v := by
  have short : (Utf16.encode el.v.chars).length ≤ 24 := by
    have bytes : Json.utf8Len el.v.chars ≤ 24 := by
      rw [← HString.len_eq]
      exact el.v.fits
    exact Nat.le_trans (length_encode_le el.v.chars) bytes
  simp only [clampElement, servedElement]
  split
  · rfl
  · rw [Option.map_some, if_neg (by omega)]

/-- A byte clamped on the page is the byte clamped on the board. -/
theorem byteOf_clampI (field : UInt8) {low high : UInt8} (ordered : low ≤ high) :
    byteOf (.number (clampI field.toNat low.toNat high.toNat)) = clampU8 field low high := by
  have small := field.toNat_lt
  have top := high.toNat_lt
  rw [UInt8.le_iff_toNat_le] at ordered
  rw [← UInt8.toNat_inj, byteOf, UInt8.toNat_ofNat', clampI,
    Js.toInt32_of_bounds (by omega) (by omega), clampU8]
  simp only [UInt8.lt_iff_toNat_lt, Int.ofNat_lt]
  split
  · omega
  · split <;> omega

/-- A byte that defaults to zero, clamped on the page. -/
theorem byteOf_clamped_zero {value : Value} {field high : UInt8} (bound : Int)
    (shown : value = .number (clampI (servedByte 0 field).orZero 0 bound))
    (same : high.toNat = bound) : byteOf value = atMost field high := by
  have number : (servedByte 0 field).orZero = field.toNat := by
    by_cases zero : field = 0
    · rw [servedByte, if_pos zero, zero]
      rfl
    · rw [servedByte, if_neg zero]
      rfl
  have under : clampU8 field 0 high = atMost field high := by
    have top : ¬field < 0 := UInt8.not_lt.mpr (UInt8.zero_le)
    rw [clampU8, if_neg top, atMost]
    by_cases within : field ≤ high
    · rw [if_neg (UInt8.not_lt.mpr within), if_pos within]
    · rw [if_pos (UInt8.not_le.mp within), if_neg within]
  rw [shown, number, ← same, ← under]
  exact @byteOf_clampI field 0 high UInt8.zero_le

/-- A byte that defaults to one, clamped on the page. -/
theorem byteOf_clamped_one {value : Value} {field high : UInt8} (bound : Int)
    (shown : value = .number (clampI ((servedByte 1 field).orNullish 1) 1 bound))
    (same : high.toNat = bound) (ordered : 1 ≤ high) : byteOf value = clampU8 field 1 high := by
  have number : (servedByte 1 field).orNullish 1 = field.toNat := by
    by_cases one : field = 1
    · rw [servedByte, if_pos one, one]
      rfl
    · rw [servedByte, if_neg one]
      rfl
  rw [shown, number, ← same]
  exact @byteOf_clampI field 1 high ordered

/-- A served byte denotes its field. -/
theorem denotes_servedByte (default field : UInt8) :
    Parity.Denotes (servedByte default field) default field := by
  by_cases same : field = default
  · rw [servedByte, if_pos same]
    exact .inr ⟨rfl, same⟩
  · rw [servedByte, if_neg same]
    exact .inl rfl

/-- A served element is the board's. -/
theorem represents_served (el : Zugli.Element) : Parity.Represents (servedElement el) el where
  t := .inl rfl
  x := denotes_servedByte 0 el.x
  y := denotes_servedByte 0 el.y
  w := denotes_servedByte 0 el.w
  s := denotes_servedByte 0 el.s
  k := denotes_servedByte 1 el.k
  c := denotes_servedByte 0 el.c
  col := by
    unfold servedElement
    cases el.col with
    | none => exact .inl rfl
    | some rgb => exact rfl
  a := denotes_servedByte 0 el.a
  v := by
    simp only [servedElement]
    split
    next empty => rw [HString.eq_empty empty]; rfl
    next => rfl
  di := denotes_servedByte 0 el.di
  fk := denotes_servedByte 0 el.fk
  sp := by
    unfold servedElement
    cases el.sp <;> rfl
  th := denotes_servedByte 1 el.th
  f := denotes_servedByte 0 el.f
  g := denotes_servedByte 0 el.g

section Served

variable {el : Zugli.Element} (clamped : el.sanitize = el)

include clamped

/-- A served element that the page has clamped fits. -/
theorem served_fits : (clampElement (servedElement el)).Fits := by
  have colour : ColorFits (servedElement el).col :=
    colorFits_of_represents (represents_served el) clamped
  refine ⟨?_, colour⟩
  rw [clampElement_served_text]
  exact textFits_of_represents (represents_served el)

/-- The page posts a served element narrowed to its own ranges. -/
theorem counterpart_served : counterpart (clampElement (servedElement el)) = el.narrowed := by
  have held {α : Type} (field : Zugli.Element → α) : field el.sanitize = field el :=
    congrArg field clamped
  have tag : byteOf (.number el.t.toNat) = el.t := by
    rw [byteOf, Int.toNat_natCast, UInt8.ofNat_toNat]
  have text : textOf (clampElement (servedElement el)).v = el.v := by
    rw [clampElement_served_text]
    apply HString.ext
    rw [(textOf_of_fits (textFits_of_represents (represents_served el))).1,
      (represents_served el).v, Utf16.decode_encode, HString.chars, String.ofList_toList]
  have colour : colorOf (el.col.elim .undefined fun rgb => .number rgb.toNat) = el.col := by
    cases el.col with
    | none => rfl
    | some rgb =>
      show some (UInt32.ofNat rgb.toNat) = _
      rw [UInt32.ofNat_toNat]
  have flag : (if el.sp then some true else none).getD false = el.sp := by
    cases el.sp <;> rfl
  simp only [counterpart, text, Zugli.Element.narrowed, Zugli.Element.mk.injEq]
  exact ⟨tag, byteOf_clamped_zero 63 rfl rfl, byteOf_clamped_zero 63 rfl rfl,
    (byteOf_clamped_zero 64 rfl rfl).trans (held (·.w)),
    (byteOf_clamped_zero 1 rfl rfl).trans (held (·.s)),
    (byteOf_clamped_one 3 rfl rfl (by decide)).trans (held (·.k)),
    (byteOf_clamped_zero 2 rfl rfl).trans (held (·.c)), colour,
    (byteOf_clamped_zero 2 rfl rfl).trans (held (·.a)), trivial,
    (byteOf_clamped_zero 2 rfl rfl).trans (held (·.di)),
    (byteOf_clamped_zero 2 rfl rfl).trans (held (·.fk)), flag,
    (byteOf_clamped_one 2 rfl rfl (by decide)).trans (held (·.th)),
    (byteOf_clamped_zero 1 rfl rfl).trans (held (·.f)), byteOf_clamped_zero 2 rfl rfl⟩

/-- The board's clamp leaves a narrowed element as it is. -/
theorem sanitize_narrowed : el.narrowed.sanitize = el.narrowed := by
  rw [← counterpart_served clamped]
  apply sanitize_counterpart
  · exact clampElement_kept (servedElement_loadable el)
  · exact (served_fits clamped).2

end Served

/-! ## The layout that comes back -/

section Resaving

variable {serde : SerdeJsonCore} {scratch : Nat} (roomy : maxTextLen ≤ scratch) {device : Device}
  (idle : device.jsonTxInUse = false) (posted : Layout) (version : posted.v = 1)
  (room : bytes serde.style posted.sanitize ≤ layoutMaxBytes)

include roomy idle version room

/-- Opened and saved again, a clamped layout comes back narrowed. -/
theorem resave_eq :
    resave serde scratch device posted.sanitize = some posted.sanitize.narrowed := by
  have clamped := clamped_elements (Device.sanitize_sanitize posted)
  have current : posted.sanitize.v = 1 := version
  generalize posted.sanitize = layout at clamped current room
  have few : layout.e.val.length ≤ maxElements := layout.e.fits
  have loaded : normalizeLayout (servedElements (some layout)) =
      layout.e.val.map fun el => clampElement (servedElement el) := by
    rw [normalizeLayout, servedElements, Option.map_some, Option.getD_some,
      List.take_of_length_le (by rwa [List.length_map]), List.map_map]
    rfl
  have kept : ∀ el ∈ layout.e.val.map fun el => clampElement (servedElement el), el.Kept := by
    intro el member
    obtain ⟨served, -, rfl⟩ := List.mem_map.mp member
    exact clampElement_kept (servedElement_loadable served)
  have fits : ∀ el ∈ layout.e.val.map fun el => clampElement (servedElement el), el.Fits := by
    intro el member
    obtain ⟨served, inside, rfl⟩ := List.mem_map.mp member
    exact served_fits (clamped served inside)
  have counterparts : (layout.e.val.map fun el => clampElement (servedElement el)).map counterpart =
      layout.e.val.map Zugli.Element.narrowed := by
    rw [List.map_map]
    exact List.map_congr_left fun el inside => counterpart_served (clamped el inside)
  have short : (layout.e.val.map Zugli.Element.narrowed).length ≤ Zugli.maxElements := by
    rw [List.length_map]
    exact layout.e.fits
  have document : ofJson (postedJson (layout.e.val.map Zugli.Element.narrowed)) =
      some layout.narrowed := by
    rw [ofJson_postedJson short, Layout.narrowed, current]
    rfl
  have same : layout.narrowed.sanitize = layout.narrowed := by
    have items : (layout.e.val.map Zugli.Element.narrowed).map Zugli.Element.sanitize =
        layout.e.val.map Zugli.Element.narrowed := by
      rw [List.map_map]
      exact List.map_congr_left fun el inside => sanitize_narrowed (clamped el inside)
    simp only [Layout.sanitize, Layout.narrowed, HVec.map, items]
  rw [resave, readLayout_rawJson idle room]
  simp only [Option.bind_eq_bind, Option.bind_some, loaded]
  rw [bodyBytes_serializeLayout kept fits, counterparts,
    serde.fromSlice_write .lower (postedJson_within roomy _), document, Option.bind_some, same]

end Resaving

/-- For every layout the board takes, opening and saving it gives a layout. It is the same layout
just when every place is at most 63 and every glyph at most 2; and when every element of a known
type is in the page's ranges, it draws the same on every panel. -/
theorem resave_draws_same (serde : SerdeJsonCore) {scratch : Nat} (roomy : maxTextLen ≤ scratch)
    {device : Device} (idle : device.jsonTxInUse = false) (posted : Layout)
    (version : posted.v = 1) (room : bytes serde.style posted.sanitize ≤ layoutMaxBytes) :
    ∃ resaved, resave serde scratch device posted.sanitize = some resaved ∧
      (resaved = posted.sanitize ↔
        ∀ el ∈ posted.sanitize.e.val, el.x ≤ 63 ∧ el.y ≤ 63 ∧ el.g ≤ 2) ∧
      ((∀ el ∈ posted.sanitize.e.val, el.InPageRange) →
        ∀ (canvas : Canvas) (fb : FrameBuffer) (station : List Char) (deps : List Zugli.Departure)
          (frame : UInt32), canvas.drawCustomLayout fb resaved station deps frame =
            canvas.drawCustomLayout fb posted.sanitize station deps frame) :=
  ⟨posted.sanitize.narrowed, resave_eq roomy idle posted version room,
    posted.sanitize.narrowed_eq_iff,
    fun within canvas => canvas.drawCustomLayout_narrowed within⟩

/-- A board without a store. -/
def bareBoard : Device := Device.boot .reference none noFaults

/-- An icon on the panel, a clock whose unused glyph is out of range, and an element of a later
schema off the panel. -/
def reopenable : Layout :=
  ⟨1, ⟨[⟨6, 26, 26, 0, 0, 2, 0, none, 0, .empty, 0, 0, false, 1, 0, 2⟩,
    ⟨3, 63, 2, 0, 1, 1, 0, none, 0, .empty, 0, 0, false, 1, 0, 9⟩,
    ⟨7, 200, 64, 0, 0, 1, 0, none, 0, .empty, 0, 0, false, 1, 0, 0⟩], by decide⟩⟩

/-- They come back changed, and draw the same. -/
theorem resave_draws_same_reopenable :
    ∃ resaved, resave .reference 32 bareBoard reopenable.sanitize = some resaved ∧
      resaved ≠ reopenable.sanitize ∧
      ∀ (canvas : Canvas) (fb : FrameBuffer) (station : List Char) (deps : List Zugli.Departure)
        (frame : UInt32), canvas.drawCustomLayout fb resaved station deps frame =
          canvas.drawCustomLayout fb reopenable.sanitize station deps frame := by
  obtain ⟨resaved, held, same, alike⟩ := @resave_draws_same .reference 32 (by decide) bareBoard rfl
    reopenable rfl (by decide +kernel)
  exact ⟨resaved, held, mt same.mp (by decide +kernel), alike (by decide +kernel)⟩

/-- An icon with a glyph the page does not have, and a divider one column off the panel. -/
def outOfPageRange : Layout :=
  ⟨1, ⟨[⟨6, 26, 26, 0, 0, 1, 0, none, 0, .empty, 0, 0, false, 1, 0, 3⟩,
    ⟨5, 64, 40, 10, 0, 1, 0, none, 0, .empty, 0, 0, false, 1, 0, 0⟩], by decide⟩⟩

/-- The tram comes back as an arrow, and the divider on the last column. -/
theorem resave_redraws : outOfPageRange.sanitize = outOfPageRange ∧
    ∃ resaved, resave .reference 32 bareBoard outOfPageRange = some resaved ∧
      ∀ textLit : TextRaster,
        let canvas : Canvas := ⟨textLit, false, true, 100, none⟩
        let before := (canvas.drawCustomLayout erased outOfPageRange [] [] 0).1
        let after := (canvas.drawCustomLayout erased resaved [] [] 0).1
        before ⟨26, by decide⟩ ⟨28, by decide⟩ = .amber ∧
          after ⟨26, by decide⟩ ⟨28, by decide⟩ = .off ∧
          before ⟨40, by decide⟩ ⟨63, by decide⟩ = .off ∧
          after ⟨40, by decide⟩ ⟨63, by decide⟩ = .amber := by
  have clamped : outOfPageRange.sanitize = outOfPageRange := by decide +kernel
  have held := @resave_eq .reference 32 (by decide) bareBoard rfl outOfPageRange rfl
    (by decide +kernel)
  rw [clamped] at held
  refine ⟨clamped, _, held, fun textLit => ?_⟩
  -- Neither element is a text, so any rasteriser will do.
  have textless (layout : Layout) (among : layout = outOfPageRange ∨
      layout = outOfPageRange.narrowed) :
      (⟨textLit, false, true, 100, none⟩ : Canvas).drawCustomLayout erased layout [] [] 0 =
        (⟨fun _ _ _ _ => false, false, true, 100, none⟩ : Canvas).drawCustomLayout erased layout
          [] [] 0 := by
    rcases among with rfl | rfl <;> rfl
  dsimp only
  rw [textless _ (.inl rfl), textless _ (.inr rfl)]
  decide +kernel

end Web

end Zugli
