import Zugli.Firmware.Poll

/-!
# Stationboards of the API

The stationboards the API answers with, and which of their entries the firmware decodes: those
whose texts fit the capacities of the fields and whose time fits 64 bits.
-/

namespace Zugli

open Serde

/-- An entry of the API: each field is a text or null, the time an integer or null. -/
structure ApiEntry where
  /-- Category of the service. -/
  category : Option String
  /-- Number of the line. -/
  number : Option String
  /-- Name of the service. -/
  name : Option String
  /-- `to`, the final destination. -/
  toward : Option String
  /-- Unix time of the departure. -/
  departureTimestamp : Option Int
deriving DecidableEq

/-- A text or null. -/
def textOrNull : Option String → Json
  | none => .null
  | some text => .str text

/-- An integer or null. -/
def integerOrNull : Option Int → Json
  | none => .null
  | some value => .num value

namespace ApiEntry

/-- The line of an entry: its number, unless that is null or empty, else its name. -/
def line (entry : ApiEntry) : String :=
  ((entry.number.filter (· ≠ "")).or entry.name).getD ""

/-- The destination of an entry. -/
def destination (entry : ApiEntry) : String := entry.toward.getD ""

/-- An object has the fields of an entry, in any order and among any others. -/
structure WrittenAs (entry : ApiEntry) (members : List (String × Json)) : Prop where
  /-- Its category. -/
  category : member "category" members = some (some (textOrNull entry.category))
  /-- Its number. -/
  number : member "number" members = some (some (textOrNull entry.number))
  /-- Its name. -/
  name : member "name" members = some (some (textOrNull entry.name))
  /-- Its destination. -/
  toward : member "to" members = some (some (textOrNull entry.toward))
  /-- The stop, with its time. -/
  stop : ∃ stop, member "stop" members = some (some (.obj stop)) ∧
    member "departureTimestamp" stop = some (some (integerOrNull entry.departureTimestamp))

/-- The members of an entry, in the order in which the poll asks for the fields. -/
def members (entry : ApiEntry) : List (String × Json) :=
  [("number", textOrNull entry.number), ("name", textOrNull entry.name),
    ("category", textOrNull entry.category), ("to", textOrNull entry.toward),
    ("stop", .obj [("departureTimestamp", integerOrNull entry.departureTimestamp)])]

/-- They have the fields of the entry. -/
theorem writtenAs_members (entry : ApiEntry) : entry.WrittenAs entry.members where
  category := rfl
  number := rfl
  name := rfl
  toward := rfl
  stop := ⟨_, rfl, rfl⟩

/-- The texts of an entry fit the fields of the firmware, and its time fits 64 bits. -/
structure Fits (entry : ApiEntry) : Prop where
  /-- Its category. -/
  category : ∀ text ∈ entry.category, text.utf8ByteSize ≤ 24
  /-- Its number. -/
  number : ∀ text ∈ entry.number, text.utf8ByteSize ≤ 24
  /-- Its name. -/
  name : ∀ text ∈ entry.name, text.utf8ByteSize ≤ 24
  /-- Its destination. -/
  toward : ∀ text ∈ entry.toward, text.utf8ByteSize ≤ 64
  /-- Its time. -/
  departureTimestamp : ∀ value ∈ entry.departureTimestamp, -2 ^ 63 ≤ value ∧ value < 2 ^ 63

/-- What the firmware keeps of an entry. -/
structure DecodesTo (entry : ApiEntry) (kept : Entry) : Prop where
  /-- Its category. -/
  category : kept.category.map HString.val = entry.category
  /-- Its number. -/
  number : kept.number.map HString.val = entry.number
  /-- Its name. -/
  name : kept.name.map HString.val = entry.name
  /-- Its destination. -/
  toward : kept.toward.map HString.val = entry.toward
  /-- Its time. -/
  departureTimestamp :
    kept.stop.departureTimestamp.map Int64.toInt = entry.departureTimestamp

/-! ## Decoding -/

/-- A text or null is decoded as it stands. -/
theorem ofJson_textOrNull {capacity : Nat} {text : Option String}
    {kept : Option (HString capacity)} :
    ofJson (textOrNull text) = some kept ↔ kept.map HString.val = text := by
  cases text with
  | none =>
    show some none = some kept ↔ _
    cases kept <;> simp
  | some text =>
    show (HString.ofString? text).map some = some kept ↔ _
    cases kept with
    | none => simp
    | some kept => simp [HString.ofString?_eq_some]

/-- An integer or null is decoded as it stands. -/
theorem ofJson_integerOrNull {value : Option Int} {kept : Option Int64} :
    ofJson (integerOrNull value) = some kept ↔ kept.map Int64.toInt = value := by
  cases value with
  | none =>
    show some none = some kept ↔ _
    cases kept <;> simp
  | some value =>
    show (readI64 (.num value)).map some = some kept ↔ _
    cases kept with
    | none => simp
    | some kept =>
      simp only [Option.map_eq_some_iff, Option.some.injEq, exists_eq_right, Option.map_some,
        readI64]
      have bounds := kept.le_toInt
      have bound := kept.toInt_lt
      constructor
      · intro read
        split at read
        next inside =>
          cases read
          exact Int64.toInt_ofInt_of_le inside.1 inside.2
        next => cases read
      · rintro rfl
        rw [if_pos ⟨bounds, bound⟩, Int64.ofInt_toInt]

/-- An entry is decoded field by field. -/
theorem ofMembers_eq_some {entry : ApiEntry} {members : List (String × Json)}
    (written : entry.WrittenAs members) {kept : Entry} :
    Entry.ofMembers members = some kept ↔ entry.DecodesTo kept := by
  obtain ⟨stop, isStop, time⟩ := written.stop
  have stopRead : ∀ keptStop : EntryStop, required "stop" members = some keptStop ↔
      keptStop.departureTimestamp.map Int64.toInt = entry.departureTimestamp := by
    intro keptStop
    simp only [required, isStop, Option.bind_eq_bind, Option.bind_some]
    show EntryStop.ofMembers stop = some keptStop ↔ _
    simp only [EntryStop.ofMembers, withDefault, time, Option.bind_eq_bind, Option.bind_some]
    rw [← ofJson_integerOrNull, Option.bind_eq_some_iff]
    constructor
    · rintro ⟨read, found, same⟩
      cases same
      exact found
    · intro found
      exact ⟨keptStop.departureTimestamp, found, rfl⟩
  simp only [Entry.ofMembers, withDefault, written.category, written.number, written.name,
    written.toward, Option.bind_eq_bind, Option.bind_some, Option.bind_eq_some_iff,
    ofJson_textOrNull, stopRead, Option.some.injEq]
  constructor
  · rintro ⟨_, category, _, number, _, name, _, toward, _, departureTimestamp, rfl⟩
    exact ⟨category, number, name, toward, departureTimestamp⟩
  · rintro ⟨category, number, name, toward, departureTimestamp⟩
    exact ⟨_, category, _, number, _, name, _, toward, _, departureTimestamp, rfl⟩

/-- A text that fits can be kept. -/
theorem exists_kept {capacity : Nat} {text : Option String}
    (fits : ∀ value ∈ text, value.utf8ByteSize ≤ capacity) :
    ∃ kept : Option (HString capacity), kept.map HString.val = text := by
  cases text with
  | none => exact ⟨none, rfl⟩
  | some value => exact ⟨some ⟨value, fits value rfl⟩, rfl⟩

/-- What is kept fits. -/
theorem fits_of_kept {capacity : Nat} {text : Option String} {kept : Option (HString capacity)}
    (same : kept.map HString.val = text) : ∀ value ∈ text, value.utf8ByteSize ≤ capacity := by
  intro value held
  rw [← same] at held
  obtain ⟨inner, _, rfl⟩ := Option.map_eq_some_iff.mp held
  exact inner.fits

/-- An entry is decoded if and only if it fits. -/
theorem decodes_iff (entry : ApiEntry) : (∃ kept, entry.DecodesTo kept) ↔ entry.Fits := by
  constructor
  · rintro ⟨kept, decoded⟩
    refine ⟨fits_of_kept decoded.category, fits_of_kept decoded.number, fits_of_kept decoded.name,
      fits_of_kept decoded.toward, ?_⟩
    intro value held
    rw [← decoded.departureTimestamp] at held
    obtain ⟨inner, _, rfl⟩ := Option.map_eq_some_iff.mp held
    exact ⟨inner.le_toInt, inner.toInt_lt⟩
  · intro fits
    obtain ⟨category, isCategory⟩ := exists_kept fits.category
    obtain ⟨number, isNumber⟩ := exists_kept fits.number
    obtain ⟨name, isName⟩ := exists_kept fits.name
    obtain ⟨toward, isToward⟩ := exists_kept fits.toward
    refine ⟨⟨category, number, name, toward, ⟨entry.departureTimestamp.map Int64.ofInt⟩⟩,
      isCategory, isNumber, isName, isToward, ?_⟩
    cases held : entry.departureTimestamp with
    | none => rfl
    | some value =>
      obtain ⟨lower, upper⟩ := fits.departureTimestamp value held
      exact congrArg some (Int64.toInt_ofInt_of_le lower upper)

/-- The line of an entry that was decoded. -/
theorem DecodesTo.line {entry : ApiEntry} {kept : Entry} (decoded : entry.DecodesTo kept) :
    kept.line = entry.line := by
  rw [Entry.line, decoded.number, decoded.name, ApiEntry.line]

/-- The destination of an entry that was decoded. -/
theorem DecodesTo.destination {entry : ApiEntry} {kept : Entry}
    (decoded : entry.DecodesTo kept) : kept.destination = entry.destination := by
  rw [Entry.destination, decoded.toward, ApiEntry.destination]

end ApiEntry

/-! ## The document -/

/-- A stationboard with these entries, among any other members. -/
def stationboard (left right : List (String × Json)) (entries : List Json) : Json :=
  .obj (left ++ ("stationboard", .arr entries) :: right)

/-- A member between others is found if no other has its name. -/
theorem member_between (left right : List (String × Json)) (name : String) (value : Json) :
    member name (left ++ (name, value) :: right) =
      if (left ++ right).any (fun other => other.1 == name) then none else some (some value) := by
  by_cases others : (left ++ right).any (fun other => other.1 == name) = true
  · rw [if_pos others]
    obtain ⟨other, inside, same⟩ := List.any_eq_true.mp others
    have twice : 2 ≤ ((left ++ (name, value) :: right).filter fun other => other.1 == name).length := by
      have least : 0 < ((left ++ right).filter fun other => other.1 == name).length :=
        List.length_pos_of_mem (List.mem_filter.mpr ⟨inside, same⟩)
      simp only [List.filter_append, List.length_append, List.filter_cons, beq_self_eq_true,
        if_true, List.length_cons] at least ⊢
      omega
    unfold member
    split
    next found => simp [found] at twice
    next found => simp [found] at twice
    next => rfl
  · rw [if_neg others]
    have none : ∀ other ∈ left ++ right, (other.1 == name) ≠ true := by
      intro other inside same
      exact others (List.any_eq_true.mpr ⟨other, inside, same⟩)
    have before : left.filter (fun other => other.1 == name) = [] :=
      List.filter_eq_nil_iff.mpr fun other inside => none other (List.mem_append_left _ inside)
    have after : right.filter (fun other => other.1 == name) = [] :=
      List.filter_eq_nil_iff.mpr fun other inside => none other (List.mem_append_right _ inside)
    simp [member, before, after]

/-- A stationboard is decoded entry by entry, when there is no other. -/
theorem ofJson_stationboard {left right : List (String × Json)} {entries : List Json}
    {board : Board} : ofJson (stationboard left right entries) = some board ↔
      (left ++ right).any (fun other => other.1 == "stationboard") = false ∧
        List.Forall₂ (fun entry kept => ofJson entry = some kept) entries
          board.stationboard.val := by
  show Board.ofMembers _ = some board ↔ _
  simp only [Board.ofMembers, required, member_between, ← readHVec_arr_iff]
  cases (left ++ right).any (fun other => other.1 == "stationboard") with
  | true => simp
  | false =>
    show (readHVec (.arr entries)).bind (fun read => some (Board.mk read)) = some board ↔ _
    rw [Option.bind_eq_some_iff]
    constructor
    · rintro ⟨read, found, same⟩
      cases same
      exact ⟨rfl, found⟩
    · rintro ⟨_, found⟩
      exact ⟨board.stationboard, found, rfl⟩

/-- The text of a stationboard of the API. -/
def stationboardText (entries : List ApiEntry) : List UInt8 :=
  Json.utf8 (Json.write .upper (stationboard [] [] (entries.map fun entry => .obj entry.members)))

/-- A text that fits, or null, fits the scratch buffer. -/
theorem textOrNull_within {capacity : Nat} {text : Option String}
    (fits : ∀ value ∈ text, value.utf8ByteSize ≤ capacity) (small : capacity ≤ 64) :
    (textOrNull text).StringsWithin boardUnescapeSize := by
  cases text with
  | none => trivial
  | some value => exact Nat.le_trans (fits value rfl) (Nat.le_trans small (by decide))

/-- The strings of an entry that fits are held by the scratch buffer. -/
theorem ApiEntry.Fits.within {entry : ApiEntry} (fits : entry.Fits) :
    (Json.obj entry.members).StringsWithin boardUnescapeSize := by
  have time : (integerOrNull entry.departureTimestamp).StringsWithin boardUnescapeSize := by
    cases entry.departureTimestamp <;> trivial
  have short : ∀ name ∈ ["number", "name", "category", "to", "stop", "departureTimestamp"],
      name.utf8ByteSize ≤ boardUnescapeSize := by decide
  exact ⟨⟨short _ (by simp), textOrNull_within fits.number (by decide)⟩,
    ⟨short _ (by simp), textOrNull_within fits.name (by decide)⟩,
    ⟨short _ (by simp), textOrNull_within fits.category (by decide)⟩,
    ⟨short _ (by simp), textOrNull_within fits.toward (by decide)⟩,
    ⟨short _ (by simp), ⟨short _ (by simp), time⟩, trivial⟩, trivial⟩

/-- So are the strings of a stationboard of such entries. -/
theorem stationboard_within {entries : List ApiEntry} (fits : ∀ entry ∈ entries, entry.Fits) :
    (stationboard [] [] (entries.map fun entry => .obj entry.members)).StringsWithin
      boardUnescapeSize := by
  have each : ∀ item ∈ entries.map fun entry => Json.obj entry.members,
      item.StringsAll fun text => text.utf8ByteSize ≤ boardUnescapeSize := by
    intro item member
    obtain ⟨entry, listed, rfl⟩ := List.mem_map.mp member
    exact (fits entry listed).within
  have name : "stationboard".utf8ByteSize ≤ boardUnescapeSize := by decide
  exact ⟨⟨name, (Json.itemsAll_iff _ _).mpr each⟩, trivial⟩

/-- The reference crate decodes the entries of a stationboard that fit. -/
theorem reference_stationboardText {entries : List ApiEntry} {board : Board}
    (kept : List.Forall₂ ApiEntry.DecodesTo entries board.stationboard.val) :
    SerdeJsonCore.reference.fromSlice Board boardUnescapeSize (stationboardText entries) =
      some board := by
  have fits : ∀ entry ∈ entries, entry.Fits := by
    intro entry member
    obtain ⟨index, inside, rfl⟩ := List.getElem_of_mem member
    have other : index < board.stationboard.val.length := kept.length_eq ▸ inside
    exact (ApiEntry.decodes_iff _).mp ⟨_, kept.get inside other⟩
  rw [stationboardText, SerdeJsonCore.fromSlice_write _ _ (stationboard_within fits),
    ofJson_stationboard, List.forall₂_map_left_iff]
  exact ⟨rfl, kept.imp fun entry _ decoded =>
    (ApiEntry.ofMembers_eq_some entry.writtenAs_members).mpr decoded⟩

end Zugli
