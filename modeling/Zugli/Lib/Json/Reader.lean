import Zugli.Lib.Json.Text

/-!
# Reading JSON texts

A recursive-descent reader for the texts of `Json.write`. It is total through a fuel argument;
the length of a text is always enough. A string with an escape is decoded through a buffer, which
has to hold it. `readWith_write` is the round trip for every style, and `read_write` the one of a
reader without such a buffer; with it no two values share a text.
-/

namespace Json

/-- Read the characters of a string up to its closing quotation mark. -/
def readBody : List Char → Option (List Char × List Char)
  | [] => none
  | '"' :: rest => some ([], rest)
  | '\\' :: 'u' :: x :: y :: z :: w :: rest => do
    let code ← hexValue4 x y z w
    let (body, rest) ← readBody rest
    if code.isValidChar then some (Char.ofNat code :: body, rest) else none
  | '\\' :: letter :: rest => do
    let c ← shortEscape letter
    let (body, rest) ← readBody rest
    some (c :: body, rest)
  | c :: rest => do
    let (body, rest) ← readBody rest
    if Plain c then some (c :: body, rest) else none

section Values

-- Whether the buffer holds a string of so many bytes.
variable (holds : Nat → Bool)

/-- Read a string after its opening quotation mark. Without an escape it needs no buffer. -/
def readString (text : List Char) : Option (String × List Char) := do
  let (body, rest) ← readBody text
  if holds (utf8Len body) || !(text.take body.length).contains '\\' then
    some (String.ofList body, rest)
  else none

/-- Read the digits of a natural number; a leading zero is refused. -/
def readNat (text : List Char) : Option (Nat × List Char) :=
  let digits := text.takeWhile Char.isDigit
  let value := Nat.ofDigitChars 10 digits 0
  if digits = Nat.toDigits 10 value then some (value, text.dropWhile Char.isDigit) else none

/-- Read a literal after its first letter. -/
def readLiteral (letters : List Char) (value : Json) (text : List Char) :
    Option (Json × List Char) :=
  if letters.isPrefixOf text then some (value, text.drop letters.length) else none

/-- Read one expected character. -/
def readChar (expected : Char) : List Char → Option (List Char)
  | [] => none
  | c :: rest => if c = expected then some rest else none

mutual

/-- Read one value from the front of a text, returning the text after it. -/
def readValue : Nat → List Char → Option (Json × List Char)
  | 0, _ => none
  | _ + 1, [] => none
  | fuel + 1, c :: rest =>
    if c = 'n' then readLiteral ['u', 'l', 'l'] .null rest
    else if c = 't' then readLiteral ['r', 'u', 'e'] (.bool true) rest
    else if c = 'f' then readLiteral ['a', 'l', 's', 'e'] (.bool false) rest
    else if c = '"' then (readString holds rest).map fun (value, rest) => (.str value, rest)
    else if c = '-' then (readNat rest).map fun (value, rest) => (.num (-value), rest)
    else if c = '[' then
      match rest with
      | ']' :: rest => some (.arr [], rest)
      | rest => do
        let (item, rest) ← readValue fuel rest
        let (items, rest) ← readItems fuel rest
        some (.arr (item :: items), rest)
    else if c = '{' then
      match rest with
      | '}' :: rest => some (.obj [], rest)
      | rest => do
        let (member, rest) ← readMember fuel rest
        let (members, rest) ← readMembers fuel rest
        some (.obj (member :: members), rest)
    else (readNat (c :: rest)).map fun (value, rest) => (.num value, rest)

/-- Read the rest of an array after one of its items. -/
def readItems : Nat → List Char → Option (List Json × List Char)
  | 0, _ => none
  | _ + 1, [] => none
  | fuel + 1, c :: rest =>
    if c = ']' then some ([], rest)
    else if c = ',' then do
      let (item, rest) ← readValue fuel rest
      let (items, rest) ← readItems fuel rest
      some (item :: items, rest)
    else none

/-- Read a member name, its colon and its value. -/
def readMember : Nat → List Char → Option ((String × Json) × List Char)
  | 0, _ => none
  | fuel + 1, text => do
    let rest ← readChar '"' text
    let (name, rest) ← readString holds rest
    let rest ← readChar ':' rest
    let (value, rest) ← readValue fuel rest
    some ((name, value), rest)

/-- Read the rest of an object after one of its members. -/
def readMembers : Nat → List Char → Option (List (String × Json) × List Char)
  | 0, _ => none
  | _ + 1, [] => none
  | fuel + 1, c :: rest =>
    if c = '}' then some ([], rest)
    else if c = ',' then do
      let (member, rest) ← readMember fuel rest
      let (members, rest) ← readMembers fuel rest
      some (member :: members, rest)
    else none

end

/-- Read a whole text with a buffer for escapes. -/
def readWith (text : List Char) : Option Json :=
  match readValue holds text.length text with
  | some (value, []) => some value
  | _ => none

end Values

/-- Read a whole text. -/
def read (text : List Char) : Option Json := readWith (fun _ => true) text

/-! ## Strings -/

/-- A spelling in front of a body adds its character to the body. -/
theorem readBody_spelling {c : Char} {spelling : List Char} (spelled : Spells c spelling)
    (rest : List Char) :
    readBody (spelling ++ rest) = (readBody rest).map fun (body, rest) => (c :: body, rest) := by
  cases spelled with
  | plain plain =>
    have quotation := plain.1
    have solidus := plain.2.1
    rw [List.singleton_append, readBody]
    · simp only [plain, ↓reduceIte]
      cases readBody rest <;> rfl
    · exact quotation
    · exact fun _ _ _ _ _ same => absurd same solidus
    · exact fun _ _ same => absurd same solidus
  | @short letter named =>
    have notU : letter ≠ 'u' := by
      rintro rfl
      simp [shortEscape] at named
    rw [List.cons_append, List.singleton_append, readBody]
    · simp only [named, Option.bind_eq_bind, Option.bind_some]
      cases readBody rest <;> rfl
    · rintro _ _ _ _ _ rfl
      exact absurd rfl notU
  | @unicode x y z w code =>
    have valid : c.toNat.isValidChar := c.valid
    have same : Char.ofNat c.toNat = c := Char.ofNat_toNat c
    simp only [List.cons_append, List.nil_append, readBody, code, Option.bind_eq_bind,
      Option.bind_some, valid, ↓reduceIte, same]
    cases readBody rest <;> rfl

/-- The escaped characters of a string are read back up to its closing quotation mark. -/
theorem readBody_escaped (style : Style) (body rest : List Char) :
    readBody (body.flatMap style.escape ++ '"' :: rest) = some (body, rest) := by
  induction body with
  | nil => simp [readBody]
  | cons c body ih =>
    rw [List.flatMap_cons, List.append_assoc, readBody_spelling (style.spells c), ih]
    rfl

/-- The text of a bare string is the string. -/
theorem Style.Bare.escaped {style : Style} {value : String} (bare : style.Bare value) :
    value.toList.flatMap style.escape = value.toList := by
  rw [List.flatMap_congr bare, List.flatMap_singleton']

/-- A bare string has no reverse solidus. -/
theorem Style.Bare.no_solidus {style : Style} {value : String} (bare : style.Bare value) :
    '\\' ∉ value.toList := by
  intro inside
  have spelled := style.spells '\\'
  rw [bare _ inside] at spelled
  exact spelled.plain_of_self.2.1 rfl

/-- A quoted string that the buffer holds, if it needs it, is read back after its opening quotation
mark. -/
theorem readString_quote {style : Style} {holds : Nat → Bool} {value : String}
    (held : style.Unescapes holds value) (rest : List Char) :
    readString holds (value.toList.flatMap style.escape ++ '"' :: rest) = some (value, rest) := by
  simp only [readString, readBody_escaped, Option.bind_eq_bind, Option.bind_some]
  have read : (holds (utf8Len value.toList) ||
      !((value.toList.flatMap style.escape ++ '"' :: rest).take value.toList.length).contains
        '\\') = true := by
    rw [Bool.or_eq_true]
    obtain bare | roomy := held
    · right
      rw [bare.escaped, List.take_left]
      simpa using bare.no_solidus
    · left
      rwa [← utf8ByteSize_eq]
  rw [if_pos read, String.ofList_toList]

/-! ## Numbers -/

/-- A text that does not continue a number. -/
def EndsNumber (text : List Char) : Prop := ∀ c rest, text = c :: rest → c.isDigit = false

theorem endsNumber_cons {c : Char} {rest : List Char} (other : c.isDigit = false) :
    EndsNumber (c :: rest) := by
  rintro _ _ ⟨⟩
  exact other

theorem isDigit_of_mem_toDigits {value : Nat} {c : Char} (digit : c ∈ Nat.toDigits 10 value) :
    c.isDigit = true := Nat.isDigit_of_mem_toDigits (by decide) (by decide) digit

/-- The decimal digits of a natural number are read back. -/
theorem readNat_toDigits (value : Nat) {rest : List Char} (ends : EndsNumber rest) :
    readNat (Nat.toDigits 10 value ++ rest) = some (value, rest) := by
  have digits : ∀ c ∈ Nat.toDigits 10 value, c.isDigit = true :=
    fun _ digit => isDigit_of_mem_toDigits digit
  have stop : rest.takeWhile Char.isDigit = [] ∧ rest.dropWhile Char.isDigit = rest := by
    cases rest with
    | nil => simp
    | cons c tail => simp [ends c tail rfl]
  have taken : (Nat.toDigits 10 value ++ rest).takeWhile Char.isDigit = Nat.toDigits 10 value := by
    rw [List.takeWhile_append_of_pos digits, stop.1, List.append_nil]
  have dropped : (Nat.toDigits 10 value ++ rest).dropWhile Char.isDigit = rest := by
    rw [List.dropWhile_append_of_pos digits, stop.2]
  simp [readNat, taken, dropped, Nat.ofDigitChars_toDigits]

/-! ## Values -/

theorem endsNumber_writeItems (style : Style) (items : List Json) (rest : List Char) :
    EndsNumber (writeItems style items ++ rest) := by
  cases items <;> exact endsNumber_cons (by decide)

theorem endsNumber_writeMembers (style : Style) (members : List (String × Json))
    (rest : List Char) : EndsNumber (writeMembers style members ++ rest) := by
  cases members <;> exact endsNumber_cons (by decide)

/-- A text starts with a character that does not close a bracket. -/
theorem write_head (style : Style) (value : Json) :
    ∃ c tail, write style value = c :: tail ∧ c ≠ ']' := by
  match value with
  | .null | .bool true | .bool false | .str _ => exact ⟨_, _, rfl, by decide⟩
  | .num (.negSucc _) => exact ⟨_, _, rfl, by decide⟩
  | .arr [] | .arr (_ :: _) | .obj [] | .obj ((_, _) :: _) => exact ⟨_, _, rfl, by decide⟩
  | .num (.ofNat count) =>
    cases digits : Nat.toDigits 10 count with
    | nil => exact absurd digits Nat.toDigits_ne_nil
    | cons c tail =>
      refine ⟨c, tail, digits, ?_⟩
      rintro rfl
      have digit : (']' : Char).isDigit = true :=
        @isDigit_of_mem_toDigits count _ (by rw [digits]; exact List.mem_cons_self)
      exact absurd digit (by decide)

/-- A number is read back. -/
theorem readValue_decimal (holds : Nat → Bool) (value : Int) (fuel : Nat) {rest : List Char}
    (ends : EndsNumber rest) :
    readValue holds (fuel + 1) (decimal value ++ rest) = some (.num value, rest) := by
  match value with
  | .negSucc count =>
    simp only [decimal, List.cons_append, readValue, Char.reduceEq, ↓reduceIte,
      readNat_toDigits _ ends, Option.map_some]
    rfl
  | .ofNat count =>
    have found := readNat_toDigits count ends
    cases digits : Nat.toDigits 10 count with
    | nil => exact absurd digits Nat.toDigits_ne_nil
    | cons c tail =>
      have digit : c.isDigit = true :=
        @isDigit_of_mem_toDigits count _ (by rw [digits]; exact List.mem_cons_self)
      have other : ∀ letter : Char, letter.isDigit = false → c ≠ letter := by
        rintro letter notDigit rfl
        simp [digit] at notDigit
      rw [digits, List.cons_append] at found
      simp only [decimal, digits, List.cons_append, readValue, other 'n' rfl, other 't' rfl,
        other 'f' rfl, other '"' rfl, other '-' rfl, other '[' rfl, other '{' rfl, ↓reduceIte,
        found, Option.map_some]
      rfl

section Written

variable (style : Style) {holds : Nat → Bool}

mutual

/-- A value is read back in front of any text that does not continue a number. -/
theorem readValue_write :
    ∀ (value : Json) (fuel : Nat) (rest : List Char), value.StringsAll (style.Unescapes holds) →
      (write style value).length ≤ fuel → EndsNumber rest →
      readValue holds fuel (write style value ++ rest) = some (value, rest)
  | .null, fuel, rest, _, enough, _ => by
    cases fuel with
    | zero => simp [write] at enough
    | succ fuel => simp [write, readValue, readLiteral]
  | .bool true, fuel, rest, _, enough, _ => by
    cases fuel with
    | zero => simp [write] at enough
    | succ fuel => simp [write, readValue, readLiteral]
  | .bool false, fuel, rest, _, enough, _ => by
    cases fuel with
    | zero => simp [write] at enough
    | succ fuel => simp [write, readValue, readLiteral]
  | .num value, fuel, rest, _, enough, ends => by
    obtain ⟨c, tail, text, _⟩ := write_head style (.num value)
    cases fuel with
    | zero => simp [text] at enough
    | succ fuel => exact readValue_decimal holds value fuel ends
  | .str value, fuel, rest, strings, enough, _ => by
    cases fuel with
    | zero => simp [write, quote] at enough
    | succ fuel =>
      simp only [write, quote, List.cons_append, List.append_assoc, List.nil_append, readValue,
        Char.reduceEq, ↓reduceIte, readString_quote strings, Option.map_some]
  | .arr [], fuel, rest, _, enough, _ => by
    cases fuel with
    | zero => simp [write] at enough
    | succ fuel => simp [write, readValue]
  | .arr (item :: items), fuel, rest, strings, enough, _ => by
    rw [StringsAll, ItemsAll] at strings
    cases fuel with
    | zero => simp [write] at enough
    | succ fuel =>
      simp only [write, List.length_cons, List.length_append] at enough
      have first := readValue_write item fuel (writeItems style items ++ rest) strings.1 (by omega)
        (endsNumber_writeItems style items rest)
      have others := readItems_write items fuel rest strings.2 (by omega)
      obtain ⟨c, tail, text, notClosing⟩ := write_head style item
      simp only [text, List.cons_append] at first
      simp only [write, text, List.cons_append, List.append_assoc, readValue, Char.reduceEq,
        ↓reduceIte]
      split
      · next heq => exact absurd (List.cons.inj heq).1 notClosing
      · simp [first, others]
  | .obj [], fuel, rest, _, enough, _ => by
    cases fuel with
    | zero => simp [write] at enough
    | succ fuel => simp [write, readValue]
  | .obj ((name, value) :: members), fuel, rest, strings, enough, _ => by
    rw [StringsAll, MembersAll] at strings
    cases fuel with
    | zero => simp [write] at enough
    | succ fuel =>
      simp only [write, List.length_cons, List.length_append] at enough
      have first := readMember_write name value fuel (writeMembers style members ++ rest)
        strings.1.1 strings.1.2 (by simp only [List.length_append, List.length_cons]; omega)
        (endsNumber_writeMembers style members rest)
      have others := readMembers_write members fuel rest strings.2 (by omega)
      simp only [quote, List.cons_append, List.append_assoc, List.nil_append] at first
      simp only [write, quote, List.cons_append, List.append_assoc, readValue, Char.reduceEq,
        ↓reduceIte]
      simp [first, others]

/-- The rest of an array is read back. -/
theorem readItems_write :
    ∀ (items : List Json) (fuel : Nat) (rest : List Char), ItemsAll (style.Unescapes holds) items →
      (writeItems style items).length ≤ fuel →
      readItems holds fuel (writeItems style items ++ rest) = some (items, rest)
  | [], fuel, rest, _, enough => by
    cases fuel with
    | zero => simp [writeItems] at enough
    | succ fuel => simp [writeItems, readItems]
  | item :: items, fuel, rest, strings, enough => by
    rw [ItemsAll] at strings
    cases fuel with
    | zero => simp [writeItems] at enough
    | succ fuel =>
      simp only [writeItems, List.length_cons, List.length_append] at enough
      have first := readValue_write item fuel (writeItems style items ++ rest) strings.1 (by omega)
        (endsNumber_writeItems style items rest)
      have others := readItems_write items fuel rest strings.2 (by omega)
      simp [writeItems, readItems, first, others]

/-- A member is read back. -/
theorem readMember_write (name : String) (value : Json) :
    ∀ (fuel : Nat) (rest : List Char), style.Unescapes holds name →
      value.StringsAll (style.Unescapes holds) →
      (quote style name ++ ':' :: write style value).length ≤ fuel → EndsNumber rest →
      readMember holds fuel (quote style name ++ ':' :: (write style value ++ rest)) =
        some ((name, value), rest)
  | fuel, rest, named, strings, enough, ends => by
    cases fuel with
    | zero => simp [quote] at enough
    | succ fuel =>
      simp only [quote, List.length_cons, List.length_append] at enough
      have read := readValue_write value fuel rest strings (by omega) ends
      simp [readMember, quote, readChar, readString_quote named, read]

/-- The rest of an object is read back. -/
theorem readMembers_write :
    ∀ (members : List (String × Json)) (fuel : Nat) (rest : List Char),
      MembersAll (style.Unescapes holds) members → (writeMembers style members).length ≤ fuel →
      readMembers holds fuel (writeMembers style members ++ rest) = some (members, rest)
  | [], fuel, rest, _, enough => by
    cases fuel with
    | zero => simp [writeMembers] at enough
    | succ fuel => simp [writeMembers, readMembers]
  | (name, value) :: members, fuel, rest, strings, enough => by
    rw [MembersAll] at strings
    cases fuel with
    | zero => simp [writeMembers] at enough
    | succ fuel =>
      simp only [writeMembers, List.length_cons, List.length_append] at enough
      have first := readMember_write name value fuel (writeMembers style members ++ rest)
        strings.1.1 strings.1.2 (by simp only [List.length_append, List.length_cons]; omega)
        (endsNumber_writeMembers style members rest)
      have others := readMembers_write members fuel rest strings.2 (by omega)
      simp [writeMembers, readMembers, first, others]

end

/-- A value is read back from its text, if the buffer holds its strings with an escape. -/
theorem readWith_write {value : Json} (strings : value.StringsAll (style.Unescapes holds)) :
    readWith holds (write style value) = some value := by
  have whole := readValue_write style value (write style value).length [] strings (Nat.le_refl _)
    (fun _ _ impossible => by cases impossible)
  rw [List.append_nil] at whole
  simp [readWith, whole]

end Written

/-- Every value is read back from its text, whatever the spelling of its strings. -/
theorem read_write (style : Style) (value : Json) : read (write style value) = some value :=
  readWith_write style (stringsAll_of_forall (fun _ => .inr rfl) value)

end Json
