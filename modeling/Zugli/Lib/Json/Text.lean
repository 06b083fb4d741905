import Mathlib

/-!
# JSON values and their texts

A JSON value keeps the order of its object members and may repeat a member name, as a text can.
A text is a list of Unicode scalar values; its bytes are their UTF-8 encodings. Writers differ
only in how they spell the characters of a string: a `Style` is one spelling, with the proof
that each spelling is one of the forms of RFC 8259. A text has no insignificant blanks.
-/

/-- A JSON value; numbers are integers. -/
inductive Json where
  /-- The literal `null`. -/
  | null
  /-- The literals `true` and `false`. -/
  | bool (value : Bool)
  /-- A number without fraction and exponent. -/
  | num (value : Int)
  /-- A string of Unicode scalar values. -/
  | str (value : String)
  /-- An array. -/
  | arr (items : List Json)
  /-- An object, its members in text order. -/
  | obj (members : List (String × Json))

namespace Json

/-! ## UTF-8 -/

/-- Bytes of a text. -/
def utf8 (text : List Char) : List UInt8 := text.flatMap String.utf8EncodeChar

/-- Number of bytes of a text. -/
def utf8Len (text : List Char) : Nat := (text.map Char.utf8Size).sum

/-- The text of a byte list, when it is UTF-8. -/
def utf8Decode? (bytes : List UInt8) : Option (List Char) :=
  bytes.toByteArray.utf8Decode?.map Array.toList

@[simp] theorem utf8Len_nil : utf8Len [] = 0 := rfl

@[simp] theorem utf8Len_cons (head : Char) (tail : List Char) :
    utf8Len (head :: tail) = head.utf8Size + utf8Len tail := by simp [utf8Len]

@[simp] theorem utf8Len_append (left right : List Char) :
    utf8Len (left ++ right) = utf8Len left + utf8Len right := by simp [utf8Len]

/-- The byte count of a text is the length of its bytes. -/
@[simp] theorem length_utf8 (text : List Char) : (utf8 text).length = utf8Len text := by
  induction text with
  | nil => rfl
  | cons head tail ih => simp_all [utf8]

/-- A text has at least a byte for each character. -/
theorem length_le_utf8Len (text : List Char) : text.length ≤ utf8Len text := by
  induction text with
  | nil => exact Nat.le_refl _
  | cons head tail previous =>
    have positive := head.utf8Size_pos
    rw [utf8Len_cons, List.length_cons]
    omega

/-- The byte size of a string is the byte count of its characters. -/
theorem utf8ByteSize_eq (value : String) : value.utf8ByteSize = utf8Len value.toList := by
  have bytes : value.toByteArray = (utf8 value.toList).toByteArray := by
    conv_lhs => rw [← String.ofList_toList (s := value), String.toByteArray_ofList]
    rfl
  rw [← String.size_toByteArray, bytes, List.size_toByteArray, length_utf8]

/-- Decoding the bytes of a text returns the text. -/
@[simp] theorem utf8Decode?_utf8 (text : List Char) : utf8Decode? (utf8 text) = some text := by
  have decoded := List.utf8Decode?_utf8Encode (l := text)
  simp only [List.utf8Encode] at decoded
  simp [utf8Decode?, utf8, decoded]

/-- No byte of a character is all ones. -/
theorem ne_ones_of_mem_utf8EncodeChar (c : Char) :
    ∀ byte ∈ String.utf8EncodeChar c, byte ≠ 0xFF := by
  have small : ∀ value : Nat, value < 255 → UInt8.ofNat value ≠ 0xFF := by
    intro value low same
    have values : value % 2 ^ 8 = 255 := by
      rw [← UInt8.toNat_ofNat', same]
      rfl
    omega
  rw [String.utf8EncodeChar]
  split_ifs
  all_goals
    simp only [List.forall_mem_cons, List.not_mem_nil, false_implies, implies_true, and_true]
    and_intros <;> exact small _ (by omega)

/-- Bytes with one that is all ones are no text. -/
theorem utf8Decode?_of_ones {bytes : List UInt8} (ones : 0xFF ∈ bytes) :
    utf8Decode? bytes = none := by
  have invalid : bytes.toByteArray.utf8Decode? = none := by
    rw [← Option.not_isSome_iff_eq_none, ByteArray.isSome_utf8Decode?_iff]
    rintro ⟨text, same⟩
    obtain rfl : bytes = text.flatMap String.utf8EncodeChar := List.toByteArray_inj.mp same
    obtain ⟨c, _, member⟩ := List.mem_flatMap.mp ones
    exact ne_ones_of_mem_utf8EncodeChar c 0xFF member rfl
  rw [utf8Decode?, invalid, Option.map_none]

/-! ## Spellings of a character -/

/-- A character that may stand for itself in a string. -/
def Plain (c : Char) : Prop := c ≠ '"' ∧ c ≠ '\\' ∧ 0x20 ≤ c.toNat

instance (c : Char) : Decidable (Plain c) := inferInstanceAs (Decidable (_ ∧ _ ∧ _))

/-- The character named by the letter of a two-character escape. -/
def shortEscape : Char → Option Char
  | '"' => some '"'
  | '\\' => some '\\'
  | '/' => some '/'
  | 'b' => some '\x08'
  | 'f' => some '\x0c'
  | 'n' => some '\n'
  | 'r' => some '\r'
  | 't' => some '\t'
  | _ => none

/-- Value of a hexadecimal digit of either case. -/
def hexValue (c : Char) : Option Nat :=
  if '0' ≤ c ∧ c ≤ '9' then some (c.toNat - 48)
  else if 'a' ≤ c ∧ c ≤ 'f' then some (c.toNat - 87)
  else if 'A' ≤ c ∧ c ≤ 'F' then some (c.toNat - 55)
  else none

/-- Value of the four digits of a `\u` escape. -/
def hexValue4 (a b c d : Char) : Option Nat := do
  some (4096 * (← hexValue a) + 256 * (← hexValue b) + 16 * (← hexValue c) + (← hexValue d))

/-- The texts that may stand for a character in a string. -/
inductive Spells (c : Char) : List Char → Prop where
  /-- The character itself. -/
  | plain : Plain c → Spells c [c]
  /-- A reverse solidus and a letter. -/
  | short {letter : Char} : shortEscape letter = some c → Spells c ['\\', letter]
  /-- A reverse solidus, `u` and four hexadecimal digits. -/
  | unicode {x y z w : Char} : hexValue4 x y z w = some c.toNat → Spells c ['\\', 'u', x, y, z, w]

/-- A hexadecimal digit takes one byte. -/
theorem utf8Size_of_hexValue {c : Char} {value : Nat} (digit : hexValue c = some value) :
    c.utf8Size = 1 := by
  have low : c.val ≤ 127 := by
    simp only [hexValue] at digit
    split at digit
    · rename_i decimal
      exact UInt32.le_trans decimal.2 (by decide)
    · split at digit
      · rename_i lower
        exact UInt32.le_trans lower.2 (by decide)
      · split at digit
        · rename_i upper
          exact UInt32.le_trans upper.2 (by decide)
        · cases digit
  simp [Char.utf8Size, low]

/-- The letter of an escape takes one byte. -/
theorem utf8Size_of_shortEscape {letter c : Char} (named : shortEscape letter = some c) :
    letter.utf8Size = 1 := by
  unfold shortEscape at named
  split at named <;> first | rfl | cases named

/-- A spelling takes at most six bytes. -/
theorem Spells.utf8Len_le {c : Char} {text : List Char} (spelled : Spells c text) :
    utf8Len text ≤ 6 := by
  have solidus : Char.utf8Size '\\' = 1 := rfl
  have mark : Char.utf8Size 'u' = 1 := rfl
  cases spelled with
  | plain =>
    have := c.utf8Size_le_four
    simp only [utf8Len_cons, utf8Len_nil]
    omega
  | short named =>
    simp only [utf8Len_cons, utf8Len_nil, solidus, utf8Size_of_shortEscape named]
    omega
  | unicode code =>
    simp only [hexValue4, Option.bind_eq_bind, Option.bind_eq_some_iff] at code
    obtain ⟨_, first, _, second, _, third, _, fourth, _⟩ := code
    simp only [utf8Len_cons, utf8Len_nil, solidus, mark, utf8Size_of_hexValue first,
      utf8Size_of_hexValue second, utf8Size_of_hexValue third, utf8Size_of_hexValue fourth]
    omega

/-- A character that is spelled as itself may stand for itself. -/
theorem Spells.plain_of_self {c : Char} (spelled : Spells c [c]) : Plain c := by
  cases spelled with
  | plain plain => exact plain

/-- One choice of a spelling for every character. -/
structure Style where
  /-- The text written for a character of a string. -/
  escape : Char → List Char
  /-- It is a spelling of the character. -/
  spells : ∀ c, Spells c (escape c)

/-! ## The writer -/

/-- A number in decimal, without leading zeros. -/
def decimal : Int → List Char
  | .ofNat value => Nat.toDigits 10 value
  | .negSucc value => '-' :: Nat.toDigits 10 (value + 1)

@[simp] theorem decimal_natCast (value : Nat) : decimal value = Nat.toDigits 10 value := rfl

/-- A string between its quotation marks. -/
def quote (style : Style) (value : String) : List Char :=
  '"' :: (value.toList.flatMap style.escape ++ ['"'])

mutual

/-- The text of a value. -/
def write (style : Style) : Json → List Char
  | .null => ['n', 'u', 'l', 'l']
  | .bool true => ['t', 'r', 'u', 'e']
  | .bool false => ['f', 'a', 'l', 's', 'e']
  | .num value => decimal value
  | .str value => quote style value
  | .arr [] => ['[', ']']
  | .arr (item :: items) => '[' :: (write style item ++ writeItems style items)
  | .obj [] => ['{', '}']
  | .obj ((name, value) :: members) =>
    '{' :: (quote style name ++ ':' :: (write style value ++ writeMembers style members))

/-- The rest of an array after one of its items. -/
def writeItems (style : Style) : List Json → List Char
  | [] => [']']
  | item :: items => ',' :: (write style item ++ writeItems style items)

/-- The rest of an object after one of its members. -/
def writeMembers (style : Style) : List (String × Json) → List Char
  | [] => ['}']
  | (name, value) :: members =>
    ',' :: (quote style name ++ ':' :: (write style value ++ writeMembers style members))

end

/-! ## Byte counts -/

/-- Bytes of a string with its quotation marks. -/
def quoteSize (style : Style) (value : String) : Nat :=
  2 + (value.toList.map fun c => utf8Len (style.escape c)).sum

/-- A string takes at most six bytes a character. -/
theorem quoteSize_le (style : Style) (value : String) :
    quoteSize style value ≤ 2 + 6 * value.toList.length := by
  have each : ∀ text : List Char,
      (text.map fun c => utf8Len (style.escape c)).sum ≤ 6 * text.length := by
    intro text
    induction text with
    | nil => exact Nat.le_refl _
    | cons head tail ih =>
      have first := (style.spells head).utf8Len_le
      simp only [List.map_cons, List.sum_cons, List.length_cons]
      omega
  exact Nat.add_le_add_left (each _) 2

/-- Bytes of the text of a value. -/
def size (style : Style) (value : Json) : Nat := utf8Len (write style value)

/-- Bytes of an object member, its colon included. -/
def memberSize (style : Style) (member : String × Json) : Nat :=
  quoteSize style member.1 + 1 + member.2.size style

theorem utf8Len_flatMap (escape : Char → List Char) (text : List Char) :
    utf8Len (text.flatMap escape) = (text.map fun c => utf8Len (escape c)).sum := by
  induction text with
  | nil => rfl
  | cons head tail ih => simp [ih]

theorem utf8Len_quote (style : Style) (value : String) :
    utf8Len (quote style value) = quoteSize style value := by
  simp only [quote, quoteSize, utf8Len_cons, utf8Len_append, utf8Len_flatMap, utf8Len_nil]
  simp only [show Char.utf8Size '"' = 1 from rfl]
  omega

/-- The rest of an array spends a comma for each item and closes the bracket. -/
theorem utf8Len_writeItems (style : Style) (items : List Json) :
    utf8Len (writeItems style items) = 1 + (items.map fun item => 1 + item.size style).sum := by
  induction items with
  | nil => rfl
  | cons item items ih =>
    simp only [writeItems, utf8Len_cons, utf8Len_append, ih, List.map_cons, List.sum_cons, size,
      show Char.utf8Size ',' = 1 from rfl]
    omega

/-- The rest of an object spends a comma for each member and closes the brace. -/
theorem utf8Len_writeMembers (style : Style) (members : List (String × Json)) :
    utf8Len (writeMembers style members) =
      1 + (members.map fun member => 1 + memberSize style member).sum := by
  induction members with
  | nil => rfl
  | cons member members ih =>
    obtain ⟨name, value⟩ := member
    simp only [writeMembers, utf8Len_cons, utf8Len_append, utf8Len_quote, ih, List.map_cons,
      List.sum_cons, memberSize, size, show Char.utf8Size ',' = 1 from rfl,
      show Char.utf8Size ':' = 1 from rfl]
    omega

/-- Bytes of an array, with one comma fewer than items. -/
theorem size_arr (style : Style) (items : List Json) :
    (arr items).size style =
      2 + (items.map fun item => 1 + item.size style).sum - (if items = [] then 0 else 1) := by
  cases items with
  | nil => rfl
  | cons item items =>
    simp only [size, write, utf8Len_cons, utf8Len_append, utf8Len_writeItems, List.map_cons,
      List.sum_cons, reduceCtorEq, ↓reduceIte, show Char.utf8Size '[' = 1 from rfl]
    omega

/-- Bytes of an object, with one comma fewer than members. -/
theorem size_obj (style : Style) (members : List (String × Json)) :
    (obj members).size style = 2 + (members.map fun member => 1 + memberSize style member).sum -
      (if members = [] then 0 else 1) := by
  cases members with
  | nil => rfl
  | cons member members =>
    obtain ⟨name, value⟩ := member
    simp only [size, write, utf8Len_cons, utf8Len_append, utf8Len_quote, utf8Len_writeMembers,
      List.map_cons, List.sum_cons, memberSize, reduceCtorEq, ↓reduceIte,
      show Char.utf8Size '{' = 1 from rfl, show Char.utf8Size ':' = 1 from rfl]
    omega

/-- A digit of a number takes one byte. -/
theorem utf8Len_toDigits (value : Nat) :
    utf8Len (Nat.toDigits 10 value) = (Nat.toDigits 10 value).length := by
  have ascii : ∀ text : List Char, (∀ c ∈ text, c.isDigit = true) →
      utf8Len text = text.length := by
    intro text digits
    induction text with
    | nil => rfl
    | cons head tail ih =>
      have one : head.utf8Size = 1 := by
        have := digits head List.mem_cons_self
        simp only [Char.isDigit, Bool.and_eq_true, decide_eq_true_eq] at this
        have low : head.val ≤ 127 := UInt32.le_trans this.2 (by decide)
        simp [Char.utf8Size, low]
      have others := ih fun c inside => digits c (List.mem_cons_of_mem _ inside)
      simp only [utf8Len_cons, one, others, List.length_cons]
      omega
  exact ascii _ fun c inside => Nat.isDigit_of_mem_toDigits (by decide) (by decide) inside

/-- Every text has a byte. -/
theorem size_pos (style : Style) (value : Json) : 0 < value.size style := by
  have head : ∀ text : List Char, text ≠ [] → 0 < utf8Len text := by
    intro text filled
    cases text with
    | nil => contradiction
    | cons first rest =>
      have := first.utf8Size_pos
      simp only [utf8Len_cons]
      omega
  apply head
  match value with
  | .null | .bool true | .bool false | .str _ => simp [write, quote]
  | .num (.ofNat _) => simp [write, decimal]
  | .num (.negSucc _) => simp [write, decimal]
  | .arr [] | .arr (_ :: _) | .obj [] | .obj ((_, _) :: _) => simp [write]

/-! ## The strings of a value -/

mutual

/-- Every string and member name is as asked. -/
def StringsAll (asked : String → Prop) : Json → Prop
  | .null | .bool _ | .num _ => True
  | .str value => asked value
  | .arr items => ItemsAll asked items
  | .obj members => MembersAll asked members

/-- `StringsAll` for the items of an array. -/
def ItemsAll (asked : String → Prop) : List Json → Prop
  | [] => True
  | item :: items => StringsAll asked item ∧ ItemsAll asked items

/-- `StringsAll` for the members of an object. -/
def MembersAll (asked : String → Prop) : List (String × Json) → Prop
  | [] => True
  | (name, value) :: members =>
    (asked name ∧ StringsAll asked value) ∧ MembersAll asked members

end

theorem itemsAll_iff (asked : String → Prop) (items : List Json) :
    ItemsAll asked items ↔ ∀ item ∈ items, StringsAll asked item := by
  induction items with
  | nil => simp [ItemsAll]
  | cons item items ih => simp [ItemsAll, ih]

theorem membersAll_iff (asked : String → Prop) (members : List (String × Json)) :
    MembersAll asked members ↔
      ∀ member ∈ members, asked member.1 ∧ StringsAll asked member.2 := by
  induction members with
  | nil => simp [MembersAll]
  | cons member members ih => simp [MembersAll, ih]

mutual

/-- Whether every string of a value is as asked. -/
def decideStrings (asked : String → Prop) [DecidablePred asked] :
    ∀ value : Json, Decidable (value.StringsAll asked)
  | .null | .bool _ | .num _ => .isTrue trivial
  | .str value => inferInstanceAs (Decidable (asked value))
  | .arr items => decideItems asked items
  | .obj members => decideMembers asked members

/-- Whether every string of some items is as asked. -/
def decideItems (asked : String → Prop) [DecidablePred asked] :
    ∀ items : List Json, Decidable (ItemsAll asked items)
  | [] => .isTrue trivial
  | item :: items =>
    @instDecidableAnd _ _ (decideStrings asked item) (decideItems asked items)

/-- Whether every string of some members is as asked. -/
def decideMembers (asked : String → Prop) [DecidablePred asked] :
    ∀ members : List (String × Json), Decidable (MembersAll asked members)
  | [] => .isTrue trivial
  | (name, value) :: members =>
    @instDecidableAnd _ _
      (@instDecidableAnd _ _ (inferInstanceAs (Decidable (asked name))) (decideStrings asked value))
      (decideMembers asked members)

end

instance (asked : String → Prop) [DecidablePred asked] (value : Json) :
    Decidable (value.StringsAll asked) := decideStrings asked value

mutual

/-- Less may be asked of the strings of a value. -/
theorem StringsAll.mono {asked granted : String → Prop}
    (grants : ∀ text, asked text → granted text) :
    ∀ value : Json, value.StringsAll asked → value.StringsAll granted
  | .null, _ | .bool _, _ | .num _, _ => trivial
  | .str value, held => grants value held
  | .arr items, held => ItemsAll.mono grants items held
  | .obj members, held => MembersAll.mono grants members held

/-- Less may be asked of the strings of items. -/
theorem ItemsAll.mono {asked granted : String → Prop}
    (grants : ∀ text, asked text → granted text) :
    ∀ items : List Json, ItemsAll asked items → ItemsAll granted items
  | [], _ => trivial
  | item :: items, held =>
    ⟨StringsAll.mono grants item held.1, ItemsAll.mono grants items held.2⟩

/-- Less may be asked of the strings of members. -/
theorem MembersAll.mono {asked granted : String → Prop}
    (grants : ∀ text, asked text → granted text) :
    ∀ members : List (String × Json), MembersAll asked members → MembersAll granted members
  | [], _ => trivial
  | (name, value) :: members, held =>
    ⟨⟨grants name held.1.1, StringsAll.mono grants value held.1.2⟩,
      MembersAll.mono grants members held.2⟩

end

mutual

/-- Nothing is asked of the strings of a value. -/
theorem stringsAll_of_forall {asked : String → Prop} (granted : ∀ text, asked text)
    (value : Json) : value.StringsAll asked := by
  cases value with
  | null | bool _ | num _ => trivial
  | str value => exact granted value
  | arr items => exact itemsAll_of_forall granted items
  | obj members => exact membersAll_of_forall granted members

/-- Nothing is asked of the strings of items. -/
theorem itemsAll_of_forall {asked : String → Prop} (granted : ∀ text, asked text)
    (items : List Json) : ItemsAll asked items := by
  cases items with
  | nil => trivial
  | cons item items =>
    exact ⟨stringsAll_of_forall granted item, itemsAll_of_forall granted items⟩

/-- Nothing is asked of the strings of members. -/
theorem membersAll_of_forall {asked : String → Prop} (granted : ∀ text, asked text)
    (members : List (String × Json)) : MembersAll asked members := by
  cases members with
  | nil => trivial
  | cons member members =>
    cases member with
    | mk name value =>
      exact ⟨⟨granted name, stringsAll_of_forall granted value⟩,
        membersAll_of_forall granted members⟩

end

/-- A string whose characters all stand for themselves. -/
def Style.Bare (style : Style) (value : String) : Prop :=
  ∀ c ∈ value.toList, style.escape c = [c]

instance (style : Style) (value : String) : Decidable (style.Bare value) :=
  List.decidableBAll (fun c => style.escape c = [c]) value.toList

/-- A string that a buffer holds, unless no character of it is escaped. -/
def Style.Unescapes (style : Style) (holds : Nat → Bool) (value : String) : Prop :=
  style.Bare value ∨ holds value.utf8ByteSize = true

instance (style : Style) (holds : Nat → Bool) (value : String) :
    Decidable (style.Unescapes holds value) :=
  inferInstanceAs (Decidable (_ ∨ _))

end Json
