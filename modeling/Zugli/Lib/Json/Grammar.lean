import Zugli.Lib.Json.Text

/-!
# The grammar of JSON texts

The grammar of RFC 8259 over Unicode scalar values, with blanks, fractions and exponents. Every text
of the writer is in it. No text of the grammar has a control character inside of a string, which a
scan that only tells strings from what is around them finds out.
-/

namespace Json

/-! ## The grammar -/

/-- Insignificant whitespace. -/
def Blank (text : List Char) : Prop := ∀ c ∈ text, c = ' ' ∨ c = '\t' ∨ c = '\n' ∨ c = '\r'

/-- One or more digits. -/
def Digits (text : List Char) : Prop := text ≠ [] ∧ ∀ c ∈ text, c.isDigit = true

/-- A sign, an integer without leading zeros, a fraction and an exponent. -/
structure IsNumber (text : List Char) : Prop where
  /-- The parts, of which all but the integer may be missing. -/
  parts : ∃ sign integer fraction exponent : List Char,
    text = sign ++ (integer ++ (fraction ++ exponent)) ∧ (sign = [] ∨ sign = ['-']) ∧
    (∃ value, integer = Nat.toDigits 10 value) ∧
    (fraction = [] ∨ ∃ digits, fraction = '.' :: digits ∧ Digits digits) ∧
    (exponent = [] ∨ ∃ letter sign digits, exponent = letter :: (sign ++ digits) ∧
      (letter = 'e' ∨ letter = 'E') ∧ (sign = [] ∨ sign = ['+'] ∨ sign = ['-']) ∧ Digits digits)

/-- A character of a string, or an escape. -/
inductive StringPiece : List Char → Prop where
  /-- A character that stands for itself. -/
  | plain {c : Char} : Plain c → StringPiece [c]
  /-- A reverse solidus and a letter. -/
  | short {letter : Char} : (shortEscape letter).isSome = true → StringPiece ['\\', letter]
  /-- A reverse solidus, `u` and four hexadecimal digits. -/
  | unicode {x y z w : Char} : (hexValue4 x y z w).isSome = true →
    StringPiece ['\\', 'u', x, y, z, w]

/-- Characters and escapes between quotation marks. -/
def IsString (text : List Char) : Prop :=
  ∃ pieces : List (List Char), (∀ piece ∈ pieces, StringPiece piece) ∧
    text = '"' :: (pieces.flatten ++ ['"'])

/-- The forms of the grammar. -/
inductive Form where
  /-- A value. -/
  | value
  /-- A value among blanks. -/
  | element
  /-- The rest of an array after one of its elements. -/
  | elements
  /-- A member of an object, among blanks. -/
  | member
  /-- The rest of an object after one of its members. -/
  | members

/-- The texts of a form. -/
inductive Derives : Form → List Char → Prop where
  /-- The literal `null`. -/
  | null : Derives .value ['n', 'u', 'l', 'l']
  /-- The literal `true`. -/
  | true : Derives .value ['t', 'r', 'u', 'e']
  /-- The literal `false`. -/
  | false : Derives .value ['f', 'a', 'l', 's', 'e']
  /-- A number. -/
  | number {text : List Char} : IsNumber text → Derives .value text
  /-- A string. -/
  | string {text : List Char} : IsString text → Derives .value text
  /-- An array of nothing. -/
  | emptyArray {blank : List Char} : Blank blank → Derives .value ('[' :: (blank ++ [']']))
  /-- An array. -/
  | array {item rest : List Char} : Derives .element item → Derives .elements rest →
    Derives .value ('[' :: (item ++ rest))
  /-- An object of nothing. -/
  | emptyObject {blank : List Char} : Blank blank → Derives .value ('{' :: (blank ++ ['}']))
  /-- An object. -/
  | object {first rest : List Char} : Derives .member first → Derives .members rest →
    Derives .value ('{' :: (first ++ rest))
  /-- A value among blanks. -/
  | element {before value after : List Char} : Blank before → Derives .value value → Blank after →
    Derives .element (before ++ (value ++ after))
  /-- The end of an array. -/
  | lastElement : Derives .elements [']']
  /-- One more element. -/
  | nextElement {item rest : List Char} : Derives .element item → Derives .elements rest →
    Derives .elements (',' :: (item ++ rest))
  /-- A name, a colon and a value. -/
  | member {before name after value : List Char} : Blank before → IsString name → Blank after →
    Derives .element value → Derives .member (before ++ (name ++ (after ++ ':' :: value)))
  /-- The end of an object. -/
  | lastMember : Derives .members ['}']
  /-- One more member. -/
  | nextMember {next rest : List Char} : Derives .member next → Derives .members rest →
    Derives .members (',' :: (next ++ rest))

/-- A JSON text. -/
def IsText (text : List Char) : Prop := Derives .element text

/-! ## The writer -/

/-- No blank is a blank. -/
theorem blank_nil : Blank [] := fun _ member => absurd member List.not_mem_nil

/-- A value without blanks around it. -/
theorem Derives.alone {value : List Char} (derived : Derives .value value) :
    Derives .element value := by
  have among := Derives.element blank_nil derived blank_nil
  rwa [List.nil_append, List.append_nil] at among

/-- A decimal is a number. -/
theorem isNumber_decimal (value : Int) : IsNumber (decimal value) := by
  cases value with
  | ofNat value =>
    exact ⟨[], Nat.toDigits 10 value, [], [], by simp [decimal], .inl rfl, ⟨value, rfl⟩, .inl rfl,
      .inl rfl⟩
  | negSucc value =>
    exact ⟨['-'], Nat.toDigits 10 (value + 1), [], [], by simp [decimal], .inr rfl,
      ⟨value + 1, rfl⟩, .inl rfl, .inl rfl⟩

/-- A spelling is a piece of a string. -/
theorem Spells.piece {c : Char} {spelling : List Char} (spelled : Spells c spelling) :
    StringPiece spelling := by
  cases spelled with
  | plain plain => exact .plain plain
  | short named => exact .short (by rw [named]; rfl)
  | unicode code => exact .unicode (by rw [code]; rfl)

/-- A quoted string is a string. -/
theorem isString_quote (style : Style) (value : String) : IsString (quote style value) := by
  refine ⟨value.toList.map style.escape, ?_, ?_⟩
  · intro piece member
    obtain ⟨c, _, rfl⟩ := List.mem_map.mp member
    exact (style.spells c).piece
  · rw [quote, List.flatMap_def]

mutual

/-- What is written for a value is a value. -/
theorem derives_write (style : Style) : ∀ value : Json, Derives .value (write style value)
  | .null => .null
  | .bool value => by
    cases value with
    | true => exact .true
    | false => exact .false
  | .num value => .number (isNumber_decimal value)
  | .str value => .string (isString_quote style value)
  | .arr [] => .emptyArray blank_nil
  | .arr (item :: items) => .array (derives_write style item).alone (derives_writeItems style items)
  | .obj [] => .emptyObject blank_nil
  | .obj ((name, value) :: members) => by
    have first := Derives.member blank_nil (isString_quote style name) blank_nil
      (derives_write style value).alone
    have whole := Derives.object first (derives_writeMembers style members)
    simpa only [write, List.nil_append, List.append_assoc, List.cons_append] using whole

/-- What is written for the rest of an array is one. -/
theorem derives_writeItems (style : Style) :
    ∀ items : List Json, Derives .elements (writeItems style items)
  | [] => .lastElement
  | item :: items => .nextElement (derives_write style item).alone (derives_writeItems style items)

/-- What is written for the rest of an object is one. -/
theorem derives_writeMembers (style : Style) :
    ∀ members : List (String × Json), Derives .members (writeMembers style members)
  | [] => .lastMember
  | (name, value) :: members => by
    have next := Derives.member blank_nil (isString_quote style name) blank_nil
      (derives_write style value).alone
    have whole := Derives.nextMember next (derives_writeMembers style members)
    simpa only [writeMembers, List.nil_append, List.append_assoc, List.cons_append] using whole

end

/-- Every text of the writer is a JSON text. -/
theorem isText_write (style : Style) (value : Json) : IsText (write style value) :=
  (derives_write style value).alone

/-! ## The scan -/

/-- Where a scan stands. -/
inductive Mode where
  /-- Outside of the strings. -/
  | outside
  /-- In a string. -/
  | inside
  /-- In a string, behind a reverse solidus. -/
  | escaped
deriving DecidableEq

/-- Go on by a character; a control character in a string is refused. -/
def Mode.next : Mode → Char → Option Mode
  | .outside, c => some (if c = '"' then .inside else .outside)
  | .inside, c =>
    if c.toNat < 0x20 then none
    else some (if c = '"' then .outside else if c = '\\' then .escaped else .inside)
  | .escaped, c => if c.toNat < 0x20 then none else some .inside

/-- Go on by a text. -/
def scan (mode : Mode) (text : List Char) : Option Mode := text.foldlM Mode.next mode

@[simp] theorem scan_nil (mode : Mode) : scan mode [] = some mode := rfl

theorem scan_cons (mode : Mode) (c : Char) (text : List Char) :
    scan mode (c :: text) = (mode.next c).bind fun next => scan next text := rfl

theorem scan_append (mode : Mode) (first second : List Char) :
    scan mode (first ++ second) = (scan mode first).bind fun next => scan next second := by
  simp [scan]

/-- A text without quotation marks stays outside of strings. -/
theorem scan_outside {text : List Char} (unquoted : '"' ∉ text) :
    scan .outside text = some .outside := by
  induction text with
  | nil => rfl
  | cons c text previous =>
    rw [List.mem_cons, not_or] at unquoted
    rw [scan_cons, Mode.next, if_neg (Ne.symm unquoted.1), Option.bind_some, previous unquoted.2]

/-- Texts that stay outside of strings stay there together. -/
theorem scan_outside_append {first second : List Char} (left : scan .outside first = some .outside)
    (right : scan .outside second = some .outside) :
    scan .outside (first ++ second) = some .outside := by
  rw [scan_append, left, Option.bind_some, right]

/-- A character other than a quotation mark stays outside of strings. -/
theorem scan_outside_cons {c : Char} {text : List Char} (other : c ≠ '"')
    (rest : scan .outside text = some .outside) : scan .outside (c :: text) = some .outside := by
  rw [scan_cons, Mode.next, if_neg other, Option.bind_some, rest]

/-- Blanks have no quotation mark. -/
theorem Blank.scan {text : List Char} (blank : Blank text) :
    Json.scan .outside text = some .outside := by
  refine scan_outside fun quoted => ?_
  have impossible := blank '"' quoted
  revert impossible
  decide

/-- Digits have no quotation mark. -/
theorem Digits.unquoted {text : List Char} (digits : Digits text) : '"' ∉ text := by
  intro quoted
  have impossible := digits.2 '"' quoted
  revert impossible
  decide

/-- Numbers have no quotation mark. -/
theorem IsNumber.scan {text : List Char} (number : IsNumber text) :
    Json.scan .outside text = some .outside := by
  obtain ⟨sign, integer, fraction, exponent, rfl, isSign, ⟨value, rfl⟩, isFraction, isExponent⟩ :=
    number.parts
  refine scan_outside ?_
  simp only [List.mem_append, not_or]
  refine ⟨?_, ?_, ?_, ?_⟩
  · rcases isSign with rfl | rfl <;> decide
  · intro quoted
    have impossible : ('"' : Char).isDigit = true :=
      Nat.isDigit_of_mem_toDigits (by decide) (by decide) quoted
    revert impossible
    decide
  · rcases isFraction with rfl | ⟨digits, rfl, isDigits⟩
    · exact List.not_mem_nil
    · exact List.not_mem_cons_of_ne_of_not_mem (by decide) isDigits.unquoted
  · rcases isExponent with rfl | ⟨letter, sign, digits, rfl, isLetter, isSign, isDigits⟩
    · exact List.not_mem_nil
    · refine List.not_mem_cons_of_ne_of_not_mem ?_ ?_
      · rcases isLetter with rfl | rfl <;> decide
      · rw [List.mem_append, not_or]
        refine ⟨?_, isDigits.unquoted⟩
        rcases isSign with rfl | rfl | rfl <;> decide

/-- A character that is plain stays in the string. -/
theorem next_inside {c : Char} (plain : Plain c) : Mode.inside.next c = some .inside := by
  have high : ¬c.toNat < 0x20 := Nat.not_lt.mpr plain.2.2
  rw [Mode.next, if_neg high, if_neg plain.1, if_neg plain.2.1]

/-- A hexadecimal digit is plain. -/
theorem plain_of_hexValue {c : Char} (digit : (hexValue c).isSome = true) : Plain c := by
  have low : 0x20 ≤ c.toNat := by
    unfold hexValue at digit
    split at digit
    next decimal => exact Nat.le_trans (by decide) (UInt32.le_iff_toNat_le.mp decimal.1)
    next =>
      split at digit
      next lower => exact Nat.le_trans (by decide) (UInt32.le_iff_toNat_le.mp lower.1)
      next =>
        split at digit
        next upper => exact Nat.le_trans (by decide) (UInt32.le_iff_toNat_le.mp upper.1)
        next => cases digit
  refine ⟨?_, ?_, low⟩ <;> rintro rfl <;> revert digit <;> decide

/-- The letter of an escape is no control character. -/
theorem toNat_of_shortEscape {letter : Char} (named : (shortEscape letter).isSome = true) :
    ¬letter.toNat < 0x20 := by
  unfold shortEscape at named
  split at named <;> first | decide | cases named

/-- A piece of a string stays in the string. -/
theorem StringPiece.scan {piece : List Char} (isPiece : StringPiece piece) :
    Json.scan .inside piece = some .inside := by
  cases isPiece with
  | plain plain => rw [scan_cons, next_inside plain, Option.bind_some, scan_nil]
  | @short letter named =>
    rw [scan_cons]
    show Json.scan .escaped [letter] = _
    rw [scan_cons, Mode.next, if_neg (toNat_of_shortEscape named), Option.bind_some, scan_nil]
  | @unicode x y z w code =>
    obtain ⟨value, code⟩ := Option.isSome_iff_exists.mp code
    simp only [hexValue4, Option.bind_eq_bind, Option.bind_eq_some_iff] at code
    obtain ⟨_, first, _, second, _, third, _, fourth, _⟩ := code
    have plain : ∀ {c : Char} {value : Nat}, hexValue c = some value → Plain c :=
      fun digit => plain_of_hexValue (by rw [digit]; rfl)
    rw [scan_cons]
    show Json.scan .escaped ['u', x, y, z, w] = _
    rw [scan_cons]
    show Json.scan .inside [x, y, z, w] = _
    rw [scan_cons, next_inside (plain first), Option.bind_some, scan_cons,
      next_inside (plain second), Option.bind_some, scan_cons, next_inside (plain third),
      Option.bind_some, scan_cons, next_inside (plain fourth), Option.bind_some, scan_nil]

/-- A string is left again. -/
theorem IsString.scan {text : List Char} (isString : IsString text) :
    Json.scan .outside text = some .outside := by
  obtain ⟨pieces, isPieces, rfl⟩ := isString
  have body : Json.scan .inside pieces.flatten = some .inside := by
    induction pieces with
    | nil => rfl
    | cons piece pieces previous =>
      rw [List.forall_mem_cons] at isPieces
      rw [List.flatten_cons, scan_append, isPieces.1.scan, Option.bind_some, previous isPieces.2]
  rw [scan_cons]
  show Json.scan .inside _ = _
  rw [scan_append, body]
  rfl

/-- Every text of the grammar ends outside of its strings, without a control character in one. -/
theorem Derives.scan {form : Form} {text : List Char} (derived : Derives form text) :
    Json.scan .outside text = some .outside := by
  induction derived with
  | null | true | false | lastElement | lastMember => rfl
  | number number => exact number.scan
  | string string => exact string.scan
  | emptyArray blank => exact scan_outside_cons (by decide) (scan_outside_append blank.scan rfl)
  | emptyObject blank => exact scan_outside_cons (by decide) (scan_outside_append blank.scan rfl)
  | array _ _ first rest => exact scan_outside_cons (by decide) (scan_outside_append first rest)
  | object _ _ first rest => exact scan_outside_cons (by decide) (scan_outside_append first rest)
  | nextElement _ _ first rest =>
    exact scan_outside_cons (by decide) (scan_outside_append first rest)
  | nextMember _ _ first rest =>
    exact scan_outside_cons (by decide) (scan_outside_append first rest)
  | element before _ after value =>
    exact scan_outside_append before.scan (scan_outside_append value after.scan)
  | member before name after _ value =>
    exact scan_outside_append before.scan (scan_outside_append name.scan
      (scan_outside_append after.scan (scan_outside_cons (by decide) value)))

/-- A JSON text has no control character in a string. -/
theorem IsText.scan {text : List Char} (isText : IsText text) :
    Json.scan .outside text = some .outside := Derives.scan isText

end Json
