import Zugli.Lib.Js
import Zugli.Lib.SerdeJsonCore

/-!
# `JSON.stringify`

The text a script makes of plain data, as code units, without blanks. A string is quoted code
point by code point, a lone surrogate as an escape. `stringify_ofJson` says that data whose strings
have no lone surrogate is written as the JSON writer writes it in the minimal style.
-/

namespace Js

open Json (Style)

/-- Plain data: numbers are integers, members stand in insertion order. -/
inductive Data where
  /-- `null`. -/
  | null
  /-- A boolean. -/
  | bool (value : Bool)
  /-- An integer. -/
  | number (value : Int)
  /-- A string. -/
  | string (value : Str)
  /-- An array. -/
  | array (items : List Data)
  /-- An object. -/
  | object (members : List (String × Data))

/-- The code units of a literal. -/
def units (text : String) : Str := Utf16.encode text.toList

/-- A `\u` escape of a code point below `0x10000`. -/
def unicodeEscape (code : Nat) : Str :=
  Utf16.encode (['\\', 'u'] ++ [0x1000, 0x100, 0x10, 1].map fun weight =>
    Style.lowerDigit (code / weight % 16))

/-- A code point of a quoted string: a character in its shortest spelling, a surrogate escaped. -/
def quoteCode (code : Nat) : Str :=
  if code.isValidChar then Utf16.encode (Style.lower.escape (Char.ofNat code))
  else unicodeEscape code

/-- `QuoteJSONString`. -/
def quote (value : Str) : Str :=
  units "\"" ++ ((Utf16.codePoints value).flatMap quoteCode ++ units "\"")

mutual

/-- `JSON.stringify`. -/
def stringify : Data → Str
  | .null => units "null"
  | .bool true => units "true"
  | .bool false => units "false"
  | .number value => numberToString value
  | .string value => quote value
  | .array [] => units "[]"
  | .array (item :: items) => units "[" ++ (stringify item ++ stringifyItems items)
  | .object [] => units "\x7b\x7d"
  | .object ((name, value) :: members) =>
    units "\x7b" ++ (quote (units name) ++
      (units ":" ++ (stringify value ++ stringifyMembers members)))

/-- The rest of an array after one of its items. -/
def stringifyItems : List Data → Str
  | [] => units "]"
  | item :: items => units "," ++ (stringify item ++ stringifyItems items)

/-- The rest of an object after one of its members. -/
def stringifyMembers : List (String × Data) → Str
  | [] => units "\x7d"
  | (name, value) :: members =>
    units "," ++ (quote (units name) ++
      (units ":" ++ (stringify value ++ stringifyMembers members)))

end

mutual

/-- A JSON value as the data a script reads from it. -/
def Data.ofJson : Json → Data
  | .null => .null
  | .bool value => .bool value
  | .num value => .number value
  | .str value => .string (units value)
  | .arr items => .array (Data.ofItems items)
  | .obj members => .object (Data.ofMembers members)

/-- The items of an array. -/
def Data.ofItems : List Json → List Data
  | [] => []
  | item :: items => Data.ofJson item :: Data.ofItems items

/-- The members of an object. -/
def Data.ofMembers : List (String × Json) → List (String × Data)
  | [] => []
  | (name, value) :: members => (name, Data.ofJson value) :: Data.ofMembers members

end

/-- A list of values is read item by item. -/
theorem ofItems_eq_map (items : List Json) : Data.ofItems items = items.map Data.ofJson := by
  induction items with
  | nil => rfl
  | cons item items previous => rw [Data.ofItems, previous, List.map_cons]

/-- A list of members is read member by member. -/
theorem ofMembers_eq_map (members : List (String × Json)) :
    Data.ofMembers members = members.map fun member => (member.1, Data.ofJson member.2) := by
  induction members with
  | nil => rfl
  | cons member members previous => rw [Data.ofMembers, previous, List.map_cons]

/-- A string without lone surrogates is quoted as the minimal style quotes it. -/
theorem quote_encode (value : String) :
    quote (units value) = Utf16.encode (Json.quote .lower value) := by
  have scalar : ∀ char : Char, char.toNat.isValidChar := fun char => char.valid
  have body : ∀ text : List Char, (text.map Char.toNat).flatMap quoteCode =
      Utf16.encode (text.flatMap Style.lower.escape) := by
    intro text
    induction text with
    | nil => rfl
    | cons char text previous =>
      rw [List.map_cons, List.flatMap_cons, List.flatMap_cons, Utf16.encode_append, previous,
        quoteCode, if_pos (scalar char), Char.ofNat_toNat]
  have codes : Utf16.codePoints (units value) = value.toList.map Char.toNat :=
    Utf16.codePoints_encode value.toList
  rw [quote, codes, body, Json.quote, Utf16.encode_cons,
    Utf16.encode_append]
  rfl

/-- A number is written in decimal. -/
theorem numberToString_eq_decimal (value : Int) :
    numberToString value = Utf16.encode (Json.decimal value) := by
  cases value with
  | ofNat value => exact numberToString_natCast value
  | negSucc value => rw [numberToString, if_pos (Int.negSucc_lt_zero value), Json.decimal]; rfl

/-- Data without lone surrogates is written as the JSON writer writes it. -/
theorem stringify_ofJson (value : Json) :
    stringify (.ofJson value) = Utf16.encode (Json.write .lower value) :=
  match value with
  | .null => rfl
  | .bool true => rfl
  | .bool false => rfl
  | .num value => by simp only [Data.ofJson, stringify, Json.write, numberToString_eq_decimal]
  | .str value => by simp only [Data.ofJson, stringify, Json.write, quote_encode]
  | .arr [] => rfl
  | .arr (item :: items) => by
    rw [Data.ofJson, Data.ofItems, stringify, stringify_ofJson item, stringify_ofItems items,
      Json.write, Utf16.encode_cons, Utf16.encode_append]
    rfl
  | .obj [] => rfl
  | .obj ((name, value) :: members) => by
    rw [Data.ofJson, Data.ofMembers, stringify, stringify_ofJson value,
      stringify_ofMembers members, quote_encode, Json.write, Utf16.encode_cons,
      Utf16.encode_append, Utf16.encode_cons, Utf16.encode_append]
    rfl
where
  stringify_ofItems : ∀ items : List Json,
      stringifyItems (Data.ofItems items) = Utf16.encode (Json.writeItems .lower items)
    | [] => rfl
    | item :: items => by
      rw [Data.ofItems, stringifyItems, stringify_ofJson item, stringify_ofItems items,
        Json.writeItems, Utf16.encode_cons, Utf16.encode_append]
      rfl
  stringify_ofMembers : ∀ members : List (String × Json),
      stringifyMembers (Data.ofMembers members) = Utf16.encode (Json.writeMembers .lower members)
    | [] => rfl
    | (name, value) :: members => by
      rw [Data.ofMembers, stringifyMembers, stringify_ofJson value, stringify_ofMembers members,
        quote_encode, Json.writeMembers, Utf16.encode_cons, Utf16.encode_append,
        Utf16.encode_cons, Utf16.encode_append]
      rfl

/-- The bytes a request carries for a string. -/
def bodyBytes (body : Str) : List UInt8 := Json.utf8 (Utf16.decode body)

/-- The bytes posted for data without lone surrogates are those of the JSON writer. -/
theorem bodyBytes_stringify (value : Json) :
    bodyBytes (stringify (.ofJson value)) = Json.utf8 (Json.write .lower value) := by
  rw [bodyBytes, stringify_ofJson, Utf16.decode_encode]

end Js
