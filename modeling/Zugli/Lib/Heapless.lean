import Zugli.Lib.Json.Text

/-!
# Fixed-capacity strings and vectors

The capacity is part of the type and its bound is a field of the value, so a string or vector
that overflows its storage cannot be built. A string's capacity counts UTF-8 bytes, a vector's
counts items.
-/

/-- A string of at most `capacity` bytes. -/
structure HString (capacity : Nat) where
  /-- Its characters. -/
  val : String
  /-- Their bytes fit. -/
  fits : val.utf8ByteSize ≤ capacity
deriving DecidableEq

namespace HString

variable {capacity : Nat}

@[ext] theorem ext {left right : HString capacity} (same : left.val = right.val) :
    left = right := by
  cases left
  cases right
  simp_all

/-- The empty string. -/
def empty : HString capacity := ⟨"", by simp⟩

/-- Whether a string has no character. -/
def isEmpty (value : HString capacity) : Bool := value.val == ""

/-- Build a string, refusing one that overflows the capacity. -/
def ofString? (value : String) : Option (HString capacity) :=
  if fits : value.utf8ByteSize ≤ capacity then some ⟨value, fits⟩ else none

@[simp] theorem ofString?_val (value : HString capacity) : ofString? value.val = some value := by
  simp [ofString?, value.fits]

/-- A string is built from its own characters only. -/
theorem ofString?_eq_some {text : String} {value : HString capacity} :
    ofString? text = some value ↔ value.val = text := by
  constructor
  · intro built
    rw [ofString?] at built
    split at built
    · cases built
      rfl
    · cases built
  · rintro rfl
    exact ofString?_val value

/-- An empty string is the empty string. -/
theorem eq_empty {value : HString capacity} (noChar : value.isEmpty = true) : value = empty :=
  ext (by simpa [isEmpty, empty] using noChar)

/-- `push`, which fails when the character does not fit. -/
def push? (value : HString capacity) (c : Char) : Option (HString capacity) :=
  ofString? (value.val.push c)

/-- `push_str`, which fails when the text does not fit as a whole. -/
def pushStr? (value : HString capacity) (text : String) : Option (HString capacity) :=
  ofString? (value.val ++ text)

/-- `push`, with a failure ignored. -/
def push (value : HString capacity) (c : Char) : HString capacity := (value.push? c).getD value

/-- `push_str`, with a failure ignored. -/
def pushStr (value : HString capacity) (text : String) : HString capacity :=
  (value.pushStr? text).getD value

/-- `write!` of pieces, which ends with the first that does not fit. -/
def writePieces (value : HString capacity) : List String → HString capacity
  | [] => value
  | piece :: pieces =>
    match value.pushStr? piece with
    | none => value
    | some next => next.writePieces pieces

/-- `len`. -/
def len (value : HString capacity) : Nat := value.val.utf8ByteSize

/-- The characters of a string, in order. -/
def chars (value : HString capacity) : List Char := value.val.toList

/-- Bytes of a string. -/
theorem len_eq (value : HString capacity) : value.len = Json.utf8Len value.chars :=
  Json.utf8ByteSize_eq value.val

/-- A text is pushed when it is ahead in a text that fits. -/
theorem exists_pushStr? {value : HString capacity} {text : String} {whole rest : List Char}
    (fits : Json.utf8Len whole ≤ capacity)
    (ahead : value.chars ++ (text.toList ++ rest) = whole) :
    ∃ next, value.pushStr? text = some next ∧ next.chars ++ rest = whole := by
  have room : (value.val ++ text).utf8ByteSize ≤ capacity := by
    rw [← ahead, ← List.append_assoc, Json.utf8Len_append] at fits
    rw [Json.utf8ByteSize_eq, String.toList_append]
    exact Nat.le_trans (Nat.le_add_right _ _) fits
  refine ⟨⟨value.val ++ text, room⟩, dif_pos room, ?_⟩
  show (value.val ++ text).toList ++ rest = whole
  rw [String.toList_append, List.append_assoc]
  exact ahead

/-- What is left of a text that fits, once its next part is pushed. -/
theorem pushStr_append {value : HString capacity} {text : String} {whole rest : List Char}
    (fits : Json.utf8Len whole ≤ capacity)
    (ahead : value.chars ++ (text.toList ++ rest) = whole) :
    (value.pushStr text).chars ++ rest = whole := by
  obtain ⟨next, pushed, left⟩ := exists_pushStr? fits ahead
  rw [pushStr, pushed]
  exact left

/-- What is left of a text that fits, once its next character is pushed. -/
theorem push_append {value : HString capacity} {c : Char} {whole rest : List Char}
    (fits : Json.utf8Len whole ≤ capacity) (ahead : value.chars ++ c :: rest = whole) :
    (value.push c).chars ++ rest = whole := by
  have single : value.chars ++ ((String.singleton c).toList ++ rest) = whole := by
    simpa using ahead
  have same : value.push c = value.pushStr (String.singleton c) := by
    rw [push, push?, pushStr, pushStr?, String.append_singleton]
  rw [same]
  exact pushStr_append fits single

/-- What is left of a text that fits, once its next pieces are written. -/
theorem writePieces_append {value : HString capacity} {pieces : List String}
    {whole rest : List Char} (fits : Json.utf8Len whole ≤ capacity)
    (ahead : value.chars ++ (pieces.flatMap String.toList ++ rest) = whole) :
    (value.writePieces pieces).chars ++ rest = whole := by
  induction pieces generalizing value with
  | nil => exact ahead
  | cons piece pieces previous =>
    rw [List.flatMap_cons, List.append_assoc] at ahead
    obtain ⟨next, pushed, left⟩ := exists_pushStr? fits ahead
    simp only [writePieces, pushed]
    exact previous left

/-- A string has at most as many characters as bytes. -/
theorem length_chars_le (value : HString capacity) : value.chars.length ≤ capacity := by
  have bytes := value.fits
  rw [Json.utf8ByteSize_eq] at bytes
  exact Nat.le_trans (Json.length_le_utf8Len _) bytes

end HString

/-- A vector of at most `capacity` items. -/
structure HVec (α : Type) (capacity : Nat) where
  /-- Its items in order. -/
  val : List α
  /-- They fit. -/
  fits : val.length ≤ capacity
deriving DecidableEq

namespace HVec

variable {α : Type} {capacity : Nat}

@[ext] theorem ext {left right : HVec α capacity} (same : left.val = right.val) :
    left = right := by
  cases left
  cases right
  simp_all

/-- No item. -/
def empty : HVec α capacity := ⟨[], Nat.zero_le _⟩

/-- Build a vector, refusing one that overflows the capacity. -/
def ofList? (items : List α) : Option (HVec α capacity) :=
  if fits : items.length ≤ capacity then some ⟨items, fits⟩ else none

/-- A vector is built from its own items only. -/
theorem ofList?_eq_some {list : List α} {items : HVec α capacity} :
    ofList? list = some items ↔ items.val = list := by
  constructor
  · intro built
    rw [ofList?] at built
    split at built
    · cases built
      rfl
    · cases built
  · rintro rfl
    exact dif_pos items.fits

/-- `is_full`. -/
def isFull (items : HVec α capacity) : Bool := items.val.length == capacity

/-- `push`, which fails when there is no room. -/
def push? (items : HVec α capacity) (item : α) : Option (HVec α capacity) :=
  ofList? (items.val ++ [item])

/-- Rewrite the item at an index in place. -/
def modify (f : α → α) (items : HVec α capacity) (index : Nat) : HVec α capacity :=
  ⟨items.val.modify index f, by simpa using items.fits⟩

/-- Rewrite every item in place. -/
def map (f : α → α) (items : HVec α capacity) : HVec α capacity :=
  ⟨items.val.map f, by simpa using items.fits⟩

/-- Rewrite every item in place, given its index. -/
def mapIdx (f : Nat → α → α) (items : HVec α capacity) : HVec α capacity :=
  ⟨items.val.mapIdx f, by simpa using items.fits⟩

@[simp] theorem mapIdx_id (items : HVec α capacity) : items.mapIdx (fun _ item => item) = items :=
  ext (by simp [mapIdx, List.mapIdx_eq_zipIdx_map])

end HVec
