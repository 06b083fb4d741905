/-!
# UTF-16 strings

A string as its 16-bit code units, the way a script sees it. A unit that is not half of a
surrogate pair may stand anywhere, so not every string encodes characters; one that does gives its
characters back as code points, and searching it for ASCII text is searching its characters.
-/

namespace Utf16

/-- The code units of a character. -/
def encodeChar (char : Char) : List UInt16 :=
  if char.toNat < 0x10000 then [.ofNat char.toNat]
  else [.ofNat (0xD800 + (char.toNat - 0x10000) / 0x400),
    .ofNat (0xDC00 + (char.toNat - 0x10000) % 0x400)]

/-- The code units of a text. -/
def encode (text : List Char) : List UInt16 := text.flatMap encodeChar

/-- Whether a unit opens a surrogate pair. -/
def isHigh (unit : UInt16) : Bool := decide (0xD800 ≤ unit.toNat ∧ unit.toNat < 0xDC00)

/-- Whether a unit closes a surrogate pair. -/
def isLow (unit : UInt16) : Bool := decide (0xDC00 ≤ unit.toNat ∧ unit.toNat < 0xE000)

/-- The code point of a surrogate pair. -/
def combine (high low : UInt16) : Nat :=
  0x10000 + (high.toNat - 0xD800) * 0x400 + (low.toNat - 0xDC00)

/-- Code points in order, a surrogate pair as one and a lone surrogate as itself. -/
def codePoints : List UInt16 → List Nat
  | [] => []
  | [unit] => [unit.toNat]
  | unit :: next :: rest =>
    if isHigh unit ∧ isLow next then combine unit next :: codePoints rest
    else unit.toNat :: codePoints (next :: rest)

/-- The text of a string, a replacement character for each lone surrogate. -/
def decode (units : List UInt16) : List Char :=
  (codePoints units).map fun code => if code.isValidChar then Char.ofNat code else '\uFFFD'

/-- Whether a string has no lone surrogate. -/
def WellFormed (units : List UInt16) : Prop := encode (decode units) = units

instance (units : List UInt16) : Decidable (WellFormed units) :=
  inferInstanceAs (Decidable (_ = _))

/-- Position of the first occurrence of a text. -/
def indexOf (needle : List UInt16) : List UInt16 → Option Nat
  | [] => if needle.isEmpty then some 0 else none
  | unit :: rest =>
    if needle.isPrefixOf (unit :: rest) then some 0 else (indexOf needle rest).map (· + 1)

@[simp] theorem encode_nil : encode [] = [] := rfl

@[simp] theorem encode_cons (char : Char) (text : List Char) :
    encode (char :: text) = encodeChar char ++ encode text := rfl

@[simp] theorem encode_append (left right : List Char) :
    encode (left ++ right) = encode left ++ encode right := List.flatMap_append

/-- A character's code units: one that is no surrogate, or a surrogate pair. -/
theorem encodeChar_cases (char : Char) :
    (∃ unit, encodeChar char = [unit] ∧ unit.toNat = char.toNat ∧ isHigh unit = false ∧
      isLow unit = false) ∨
    ∃ high low, encodeChar char = [high, low] ∧ isHigh high = true ∧ isLow low = true ∧
      combine high low = char.toNat := by
  have scalar : char.toNat < 0xD800 ∨ 0xDFFF < char.toNat ∧ char.toNat < 0x110000 := char.valid
  unfold encodeChar
  split
  next small =>
    have value : (UInt16.ofNat char.toNat).toNat = char.toNat := by
      rw [UInt16.toNat_ofNat']
      omega
    refine .inl ⟨_, rfl, value, ?_, ?_⟩
    · rw [isHigh, value]
      simp only [decide_eq_false_iff_not]
      omega
    · rw [isLow, value]
      simp only [decide_eq_false_iff_not]
      omega
  next large =>
    obtain ⟨upper, lower, split, upperBound, lowerBound⟩ : ∃ upper lower,
        char.toNat = 0x10000 + upper * 0x400 + lower ∧ upper < 0x400 ∧ lower < 0x400 :=
      ⟨(char.toNat - 0x10000) / 0x400, (char.toNat - 0x10000) % 0x400, by omega, by omega, by omega⟩
    have quotient : (char.toNat - 0x10000) / 0x400 = upper := by omega
    have remainder : (char.toNat - 0x10000) % 0x400 = lower := by omega
    have highValue : (UInt16.ofNat (0xD800 + upper)).toNat = 0xD800 + upper := by
      rw [UInt16.toNat_ofNat']
      omega
    have lowValue : (UInt16.ofNat (0xDC00 + lower)).toNat = 0xDC00 + lower := by
      rw [UInt16.toNat_ofNat']
      omega
    rw [quotient, remainder]
    refine .inr ⟨UInt16.ofNat (0xD800 + upper), UInt16.ofNat (0xDC00 + lower), rfl, ?_, ?_, ?_⟩
    · simp only [isHigh, highValue, decide_eq_true_eq]
      omega
    · simp only [isLow, lowValue, decide_eq_true_eq]
      omega
    · unfold combine
      omega

/-- A unit that closes no pair is its own code point after any unit that opens none. -/
theorem codePoints_cons {unit : UInt16} (alone : isHigh unit = false) (rest : List UInt16) :
    codePoints (unit :: rest) = unit.toNat :: codePoints rest := by
  cases rest with
  | nil => rfl
  | cons next rest => simp [codePoints, alone]

/-- The code points of an encoded text are its characters. -/
theorem codePoints_encode (text : List Char) : codePoints (encode text) = text.map Char.toNat := by
  induction text with
  | nil => rfl
  | cons char rest previous =>
    rcases encodeChar_cases char with ⟨unit, coded, value, noHigh, -⟩ | ⟨high, low, coded, opens,
      closes, value⟩
    · rw [encode_cons, coded, List.singleton_append, codePoints_cons noHigh, previous, value,
        List.map_cons]
    · rw [encode_cons, coded, List.map_cons, ← previous, ← value]
      simp [codePoints, opens, closes]

/-- The text of an encoded text is the text. -/
@[simp] theorem decode_encode (text : List Char) : decode (encode text) = text := by
  have scalar : ∀ char : Char, char.toNat.isValidChar := fun char => char.valid
  simp [decode, codePoints_encode, Function.comp_def, scalar]

/-- An encoded text has no lone surrogate. -/
theorem wellFormed_encode (text : List Char) : WellFormed (encode text) := by
  rw [WellFormed, decode_encode]

/-- A text is as long in code points as in characters. -/
theorem codePoints_encode_length (text : List Char) :
    (codePoints (encode text)).length = text.length := by
  rw [codePoints_encode, List.length_map]

/-- A text has code units when it has characters. -/
theorem encode_length_pos {text : List Char} : 0 < (encode text).length ↔ text ≠ [] := by
  cases text with
  | nil => simp
  | cons char rest =>
    rcases encodeChar_cases char with ⟨unit, single, -⟩ | ⟨high, low, pair, -⟩
    · simp [single]
    · simp [pair]

/-- Characters below the surrogates take one unit each. -/
theorem encode_of_small {text : List Char} (small : ∀ char ∈ text, char.toNat < 0x10000) :
    encode text = text.map fun char => .ofNat char.toNat := by
  induction text with
  | nil => rfl
  | cons char rest previous =>
    rw [encode_cons, encodeChar, if_pos (small char List.mem_cons_self),
      previous fun c member => small c (List.mem_cons_of_mem _ member)]
    rfl

/-- An encoded text that starts with a unit of no pair starts with its character. -/
theorem encode_eq_cons {text : List Char} {unit : UInt16} {units : List UInt16}
    (alone : isHigh unit = false) (starts : encode text = unit :: units) :
    ∃ char rest, text = char :: rest ∧ char.toNat = unit.toNat ∧ encode rest = units := by
  cases text with
  | nil => simp at starts
  | cons char rest =>
    rcases encodeChar_cases char with ⟨coded, single, value, -⟩ | ⟨high, low, pair, opens, -⟩
    · rw [encode_cons, single, List.singleton_append, List.cons.injEq] at starts
      obtain ⟨rfl, follows⟩ := starts
      exact ⟨char, rest, rfl, value.symm, follows⟩
    · rw [encode_cons, pair, List.cons_append, List.cons.injEq] at starts
      rw [starts.1, alone] at opens
      exact absurd opens (by decide)

/-- A string that does not start with the needle is searched past its first unit. -/
theorem indexOf_cons {needle : List UInt16} {unit : UInt16} {rest : List UInt16}
    (elsewhere : ¬needle <+: unit :: rest) :
    indexOf needle (unit :: rest) = (indexOf needle rest).map (· + 1) := by
  rw [indexOf, if_neg (mt List.isPrefixOf_iff_prefix.mp elsewhere)]

/-- A needle that starts with no closing unit is searched past a character it does not start at. -/
theorem indexOf_skip {first : UInt16} {needle : List UInt16} (plain : isLow first = false)
    {char : Char} {rest : List Char} (elsewhere : ¬first :: needle <+: encode (char :: rest)) :
    indexOf (first :: needle) (encode (char :: rest)) =
      (indexOf (first :: needle) (encode rest)).map (· + (encodeChar char).length) := by
  rw [encode_cons] at elsewhere ⊢
  rcases encodeChar_cases char with ⟨unit, single, -⟩ | ⟨high, low, pair, -, closes, -⟩
  · rw [single] at elsewhere ⊢
    exact indexOf_cons elsewhere
  · rw [pair] at elsewhere ⊢
    have inside : ¬first :: needle <+: low :: encode rest := by
      intro starts
      rw [(List.cons_prefix_cons.mp starts).1, closes] at plain
      exact absurd plain (by decide)
    change ¬first :: needle <+: high :: low :: encode rest at elsewhere
    change indexOf (first :: needle) (high :: low :: encode rest) = _
    rw [indexOf_cons elsewhere, indexOf_cons inside, Option.map_map]
    rfl

end Utf16
