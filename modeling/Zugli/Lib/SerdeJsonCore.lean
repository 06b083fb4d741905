import Zugli.Lib.Json.Reader
import Zugli.Lib.SerdeTypes

/-!
# The `serde_json_core` crate

The crate is not part of the verified sources, so it is a parameter: a writer of JSON texts in
one style, and a reader whose documented behaviour is a law. `to_slice` fails when the text
does not fit the buffer. `from_slice_escaped` decodes a string with an escape through a scratch
buffer, which has to hold it; a string without one is read where it stands. Nothing is assumed of
the reader on other inputs.

`SerdeJsonCore.reference` is an instance: the crate's minimal escapes and the reader of this
library.
-/

namespace Json

/-! ## The longest string of a document -/

/-- Every string and member name has at most `capacity` bytes. -/
def StringsWithin (capacity : Nat) (value : Json) : Prop :=
  value.StringsAll fun text => text.utf8ByteSize ≤ capacity

/-- Strings within a capacity are within a larger one. -/
theorem StringsWithin.mono {small large : Nat} {value : Json} (within : value.StringsWithin small)
    (larger : small ≤ large) : value.StringsWithin large :=
  StringsAll.mono (fun _ short => Nat.le_trans short larger) value within

/-- Strings within a capacity fit a buffer of that size, whatever is escaped. -/
theorem StringsWithin.unescapes {capacity : Nat} {value : Json}
    (within : value.StringsWithin capacity) (style : Style) :
    value.StringsAll (style.Unescapes fun size => size ≤ capacity) :=
  StringsAll.mono (fun _ short => .inr (decide_eq_true short)) value within

mutual

/-- Deleting members adds no string. -/
theorem stringsAll_prune {asked : String → Prop} : ∀ (value : Json) (drop : Path → Bool),
    value.StringsAll asked → (prune drop value).StringsAll asked
  | .null, _, held | .bool _, _, held | .num _, _, held | .str _, _, held => by
    simpa only [prune] using held
  | .arr items, drop, held => by
    rw [prune]
    exact itemsAll_prune items drop 0 held
  | .obj members, drop, held => by
    rw [prune]
    exact membersAll_prune members drop held

/-- Deleting members of items adds no string. -/
theorem itemsAll_prune {asked : String → Prop} : ∀ (items : List Json) (drop : Path → Bool)
    (index : Nat), ItemsAll asked items → ItemsAll asked (pruneItems drop index items)
  | [], _, _, _ => trivial
  | item :: items, drop, index, held => by
    rw [pruneItems]
    exact ⟨stringsAll_prune item _ held.1, itemsAll_prune items drop (index + 1) held.2⟩

/-- Deleting members of an object adds no string. -/
theorem membersAll_prune {asked : String → Prop} : ∀ (members : List (String × Json))
    (drop : Path → Bool), MembersAll asked members → MembersAll asked (pruneMembers drop members)
  | [], _, _ => trivial
  | (name, value) :: members, drop, held => by
    have others := membersAll_prune members drop held.2
    rw [pruneMembers]
    split
    · exact others
    · exact ⟨⟨held.1.1, stringsAll_prune value _ held.1.2⟩, others⟩

end

/-! ## Minimal escapes -/

namespace Style

/-- The shortest spelling of a character, with the given hexadecimal digits. -/
def minimalEscape (digit : Nat → Char) (c : Char) : List Char :=
  if c = '"' then ['\\', '"']
  else if c = '\\' then ['\\', '\\']
  else if c = '\x08' then ['\\', 'b']
  else if c = '\t' then ['\\', 't']
  else if c = '\n' then ['\\', 'n']
  else if c = '\x0c' then ['\\', 'f']
  else if c = '\r' then ['\\', 'r']
  else if c.toNat < 0x20 then ['\\', 'u', '0', '0', digit (c.toNat / 16), digit (c.toNat % 16)]
  else [c]

/-- The minimal spellings are spellings. -/
theorem spells_minimalEscape {digit : Nat → Char}
    (digits : ∀ value < 16, hexValue (digit value) = some value) (c : Char) :
    Spells c (minimalEscape digit c) := by
  unfold minimalEscape
  by_cases quotation : c = '"'
  · simpa [quotation] using @Spells.short '"' '"' rfl
  by_cases solidus : c = '\\'
  · simpa [solidus] using @Spells.short '\\' '\\' rfl
  by_cases backspace : c = '\x08'
  · simpa [backspace] using @Spells.short '\x08' 'b' rfl
  by_cases tab : c = '\t'
  · simpa [tab] using @Spells.short '\t' 't' rfl
  by_cases newline : c = '\n'
  · simpa [newline] using @Spells.short '\n' 'n' rfl
  by_cases feed : c = '\x0c'
  · simpa [feed] using @Spells.short '\x0c' 'f' rfl
  by_cases carriage : c = '\r'
  · simpa [carriage] using @Spells.short '\r' 'r' rfl
  simp only [quotation, solidus, backspace, tab, newline, feed, carriage, ↓reduceIte]
  by_cases control : c.toNat < 0x20
  · have high := digits (c.toNat / 16) (by omega)
    have low := digits (c.toNat % 16) (by omega)
    rw [if_pos control]
    refine Spells.unicode ?_
    have zero : hexValue '0' = some 0 := rfl
    simp only [hexValue4, zero, high, low, Option.bind_eq_bind, Option.bind_some,
      Option.some.injEq]
    omega
  · rw [if_neg control]
    exact Spells.plain ⟨quotation, solidus, by omega⟩

/-- A hexadecimal digit in upper case. -/
def upperDigit (value : Nat) : Char :=
  if value < 10 then Char.ofNat (48 + value) else Char.ofNat (55 + value)

/-- A hexadecimal digit in lower case. -/
def lowerDigit (value : Nat) : Char :=
  if value < 10 then Char.ofNat (48 + value) else Char.ofNat (87 + value)

/-- Minimal escapes with digits in upper case, as `serde_json_core` writes them. -/
def upper : Style := ⟨minimalEscape upperDigit, spells_minimalEscape (by decide)⟩

/-- Minimal escapes with digits in lower case, as `JSON.stringify` writes them. -/
def lower : Style := ⟨minimalEscape lowerDigit, spells_minimalEscape (by decide)⟩

end Style

end Json

namespace Serde

open Json (utf8 write utf8Decode? Style StringsWithin)

/-- A field with a short name whose value has short strings. -/
def EntryWithin (capacity : Nat) (entry : String × Option Json) : Prop :=
  entry.1.utf8ByteSize ≤ capacity ∧ ∀ value ∈ entry.2, value.StringsWithin capacity

/-- A field that is always written. -/
theorem entryWithin_emit {α : Type} [Serialize α] {capacity : Nat} {name : String} {value : α}
    (short : name.utf8ByteSize ≤ capacity) (within : (toJson value).StringsWithin capacity) :
    EntryWithin capacity (emit name value) :=
  ⟨short, by simpa [emit] using within⟩

/-- A field that may be skipped. -/
theorem entryWithin_emitUnless {α : Type} [Serialize α] {capacity : Nat} {name : String}
    {value : α} (skip : α → Bool) (short : name.utf8ByteSize ≤ capacity)
    (within : (toJson value).StringsWithin capacity) :
    EntryWithin capacity (emitUnless skip name value) := by
  refine ⟨short, ?_⟩
  by_cases skipped : skip value = true <;> simp [emitUnless, skipped, within]

/-- A field that is never written. -/
theorem entryWithin_never {capacity : Nat} {name : String} (short : name.utf8ByteSize ≤ capacity) :
    EntryWithin capacity (name, none) :=
  ⟨short, by simp⟩

/-- A type whose values are written without strings. -/
class Stringless (α : Type) [Serialize α] : Prop where
  /-- Whatever is asked of its strings, there are none. -/
  stringless : ∀ (asked : String → Prop) (value : α), (toJson value).StringsAll asked

instance : Stringless Bool := ⟨fun _ _ => trivial⟩

instance : Stringless UInt8 := ⟨fun _ _ => trivial⟩

instance : Stringless UInt16 := ⟨fun _ _ => trivial⟩

instance : Stringless UInt32 := ⟨fun _ _ => trivial⟩

instance {α : Type} [Serialize α] [Stringless α] : Stringless (Option α) where
  stringless asked value := by
    cases value with
    | none => trivial
    | some value => exact Stringless.stringless asked value

section Fields

variable {α : Type} [Serialize α] [Stringless α] {capacity : Nat} {name : String}

/-- A field without strings that is always written. -/
theorem stringless_emit (value : α) (short : name.utf8ByteSize ≤ capacity) :
    EntryWithin capacity (emit name value) :=
  entryWithin_emit short (Stringless.stringless _ value)

/-- A field without strings that may be skipped. -/
theorem stringless_emitUnless (skip : α → Bool) (value : α)
    (short : name.utf8ByteSize ≤ capacity) : EntryWithin capacity (emitUnless skip name value) :=
  entryWithin_emitUnless skip short (Stringless.stringless _ value)

end Fields

/-- An object whose fields have short strings has short strings. -/
theorem stringsWithin_table {capacity : Nat} {table : Table}
    (short : ∀ entry ∈ table, EntryWithin capacity entry) :
    (Json.obj table.members).StringsWithin capacity := by
  rw [StringsWithin, Json.StringsAll, Json.membersAll_iff]
  intro member written
  obtain ⟨entry, listed, found⟩ := List.mem_filterMap.mp written
  obtain ⟨value, present, rfl⟩ := Option.map_eq_some_iff.mp found
  exact ⟨(short entry listed).1, (short entry listed).2 value present⟩

/-- The crate: how it spells the characters of a string, and its reader. -/
structure SerdeJsonCore where
  /-- The spellings `to_slice` writes. -/
  style : Style
  /-- The document in a slice, with a scratch buffer of the given size for decoding escapes. -/
  fromSliceEscaped : Nat → List UInt8 → Option Json
  /-- Every document written without blanks is read, if the scratch buffer holds those of its
  strings that have an escape. -/
  reads : ∀ (spelling : Style) (scratch : Nat) (value : Json),
    value.StringsAll (spelling.Unescapes fun size => size ≤ scratch) →
    fromSliceEscaped scratch (utf8 (write spelling value)) = some value

namespace SerdeJsonCore

variable (serde : SerdeJsonCore)

/-- `to_slice`: the bytes written to a buffer, or an error when they do not fit it. -/
def toSlice {α : Type} [Serialize α] (value : α) (capacity : Nat) : Option (List UInt8) :=
  let bytes := utf8 (write serde.style (toJson value))
  if bytes.length ≤ capacity then some bytes else none

/-- `from_slice_escaped` at a type. -/
def fromSlice (α : Type) [Deserialize α] (scratch : Nat) (bytes : List UInt8) : Option α := do
  ofJson (← serde.fromSliceEscaped scratch bytes)

/-- Bytes `to_slice` needs for a value. -/
def len {α : Type} [Serialize α] (value : α) : Nat := (toJson value).size serde.style

theorem toSlice_of_le {α : Type} [Serialize α] {value : α} {capacity : Nat}
    (fits : serde.len value ≤ capacity) :
    serde.toSlice value capacity = some (utf8 (write serde.style (toJson value))) := by
  have bound : (utf8 (write serde.style (toJson value))).length ≤ capacity := by
    rwa [Json.length_utf8]
  simp only [toSlice, if_pos bound]

theorem toSlice_of_lt {α : Type} [Serialize α] {value : α} {capacity : Nat}
    (overflows : capacity < serde.len value) : serde.toSlice value capacity = none := by
  have bound : ¬(utf8 (write serde.style (toJson value))).length ≤ capacity := by
    rw [Json.length_utf8]
    exact Nat.not_le.mpr overflows
  simp only [toSlice, if_neg bound]

/-- Reading a written document at a type reads the value of the document. -/
theorem fromSlice_spelled {α : Type} [Deserialize α] {spelling : Style} {scratch : Nat}
    {value : Json} (strings : value.StringsAll (spelling.Unescapes fun size => size ≤ scratch)) :
    serde.fromSlice α scratch (utf8 (write spelling value)) = ofJson value := by
  simp [fromSlice, serde.reads spelling scratch value strings]

/-- So does reading one whose strings all fit the scratch buffer. -/
theorem fromSlice_write {α : Type} [Deserialize α] (spelling : Style) {scratch : Nat}
    {value : Json} (within : value.StringsWithin scratch) :
    serde.fromSlice α scratch (utf8 (write spelling value)) = ofJson value :=
  serde.fromSlice_spelled (within.unescapes spelling)

/-- An instance: minimal escapes in upper case, read by the reader of this library. -/
def reference : SerdeJsonCore where
  style := .upper
  fromSliceEscaped scratch bytes := do
    Json.readWith (fun size => size ≤ scratch) (← utf8Decode? bytes)
  reads spelling _ _ strings := by simp [Json.readWith_write spelling strings]

/-! ## What is not a document -/

/-- Bytes some of which have landed on blank flash. -/
def Torn (written bytes : List UInt8) : Prop :=
  List.Forall₂ (fun byte left => left = byte ∨ left = 0xFF) written bytes

/-- A reader that refuses what is left of a document of a type that reads each member it writes:
some of its bytes and of zeros behind it, the others still blank. -/
structure Strict (α : Type) [Serialize α] [Deserialize α] : Prop where
  /-- What is left is refused, unless it is the document. -/
  refuses_torn : ∀ (scratch : Nat) (value : α) (padding : Nat) (bytes : List UInt8),
    (toJson value).StringsWithin scratch →
    Torn (utf8 (write serde.style (toJson value)) ++ List.replicate padding 0) bytes →
    bytes ≠ utf8 (write serde.style (toJson value)) → serde.fromSlice α scratch bytes = none

/-- Zeros behind a document are the bytes of a text. -/
theorem utf8_zeros (text : List Char) (count : Nat) :
    utf8 text ++ List.replicate count 0 =
      utf8 (text ++ List.replicate count (Char.ofNat 0)) := by
  have zeros : (List.replicate count (Char.ofNat 0)).flatMap String.utf8EncodeChar =
      List.replicate count 0 := by
    induction count with
    | zero => rfl
    | succ count previous =>
      rw [List.replicate_succ, List.flatMap_cons, previous]
      rfl
  simp only [utf8, List.flatMap_append, zeros]

/-- What has landed without a blank byte is what was written. -/
theorem Torn.eq_of_no_ones {written bytes : List UInt8} (torn : Torn written bytes)
    (landed : 0xFF ∉ bytes) : bytes = written := by
  induction torn with
  | nil => rfl
  | @cons byte left written bytes either _ previous =>
    rw [List.mem_cons, not_or] at landed
    have same : left = byte := either.resolve_right (Ne.symm landed.1)
    rw [same, previous landed.2]

/-- The reader of this library reads no document with zeros behind it. -/
theorem reference_zeros {scratch : Nat} {value : Json} (within : value.StringsWithin scratch)
    (count : Nat) : reference.fromSliceEscaped scratch
      (utf8 (write reference.style value) ++ List.replicate (count + 1) 0) = none := by
  have ends : Json.EndsNumber (List.replicate (count + 1) (Char.ofNat 0)) :=
    Json.endsNumber_cons (by decide)
  have enough : (write reference.style value).length ≤
      (write reference.style value ++ List.replicate (count + 1) (Char.ofNat 0)).length := by simp
  have left := Json.readValue_write reference.style value _ _ (within.unescapes _) enough ends
  rw [utf8_zeros]
  show (do Json.readWith _ (← utf8Decode? _)) = none
  simp only [Json.utf8Decode?_utf8, Option.bind_eq_bind, Option.bind_some, Json.readWith, left]
  rfl

/-- The reader of this library refuses what is left of a document. -/
theorem reference_strict (α : Type) [Serialize α] [Deserialize α] : reference.Strict α where
  refuses_torn scratch value padding bytes within torn other := by
    have unread : reference.fromSliceEscaped scratch bytes = none := by
      by_cases ones : 0xFF ∈ bytes
      · have undecoded : utf8Decode? bytes = none := Json.utf8Decode?_of_ones ones
        simp [reference, undecoded]
      · obtain rfl := torn.eq_of_no_ones ones
        cases padding with
        | zero => exact absurd (List.append_nil _) other
        | succ count => exact reference_zeros within count
    rw [fromSlice, unread]
    rfl

end SerdeJsonCore

end Serde
