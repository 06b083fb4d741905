import Zugli.Lib.Serde

/-!
# Serialization of the standard types

Integers, booleans, strings, vectors and options as JSON values. An integer outside its width,
a string over its capacity and a vector with too many items are refused, not cut.
-/

namespace Serde

open Json (Path Step prune under)

/-- A type without members is read back whole. -/
@[reducible] def Tolerant.leaf {α : Type} [Serialize α] [Deserialize α]
    (still : ∀ (drop : Path → Bool) (value : α), prune drop (toJson value) = toJson value)
    (roundtrip : ∀ value : α, ofJson (toJson value) = some value) : Tolerant α where
  defaulted _ := false
  reset _ value := value
  ofJson_prune drop value _ := by rw [still, roundtrip]

/-- A number below a bound. -/
def readUnsigned (bound : Nat) : Json → Option Nat
  | .num value => if 0 ≤ value ∧ value < bound then some value.toNat else none
  | _ => none

/-- A natural number below the bound is read back. -/
theorem readUnsigned_num {bound value : Nat} (small : value < bound) :
    readUnsigned bound (.num value) = some value := by
  have inside : (0 : Int) ≤ value ∧ (value : Int) < bound := by omega
  simp [readUnsigned, inside]

instance : Serialize UInt8 := ⟨fun value => .num value.toNat⟩

instance : Deserialize UInt8 := ⟨fun json => (readUnsigned (2 ^ 8) json).map UInt8.ofNat⟩

instance : Tolerant UInt8 := Tolerant.leaf (fun _ _ => by simp only [toJson, prune])
  (fun value => by simp [ofJson, toJson, readUnsigned_num value.toNat_lt])

@[simp] theorem reset_u8 (drop : Path → Bool) (value : UInt8) :
    Tolerant.reset drop value = value := rfl

instance : Serialize UInt16 := ⟨fun value => .num value.toNat⟩

instance : Deserialize UInt16 := ⟨fun json => (readUnsigned (2 ^ 16) json).map UInt16.ofNat⟩

instance : Tolerant UInt16 := Tolerant.leaf (fun _ _ => by simp only [toJson, prune])
  (fun value => by simp [ofJson, toJson, readUnsigned_num value.toNat_lt])

@[simp] theorem reset_u16 (drop : Path → Bool) (value : UInt16) :
    Tolerant.reset drop value = value := rfl

instance : Serialize UInt32 := ⟨fun value => .num value.toNat⟩

instance : Deserialize UInt32 := ⟨fun json => (readUnsigned (2 ^ 32) json).map UInt32.ofNat⟩

instance : Tolerant UInt32 := Tolerant.leaf (fun _ _ => by simp only [toJson, prune])
  (fun value => by simp [ofJson, toJson, readUnsigned_num value.toNat_lt])

instance : NotNull UInt32 := ⟨fun _ => by simp [toJson]⟩

/-- An integer within the range of 64 bits. -/
def readI64 : Json → Option Int64
  | .num value => if -2 ^ 63 ≤ value ∧ value < 2 ^ 63 then some (.ofInt value) else none
  | _ => none

instance : Deserialize Int64 := ⟨readI64⟩

/-- A boolean. -/
def readBool : Json → Option Bool
  | .bool value => some value
  | _ => none

instance : Serialize Bool := ⟨.bool⟩

instance : Deserialize Bool := ⟨readBool⟩

instance : Tolerant Bool := Tolerant.leaf (fun _ _ => by simp only [toJson, prune])
  (fun _ => by simp [ofJson, toJson, readBool])

@[simp] theorem reset_bool (drop : Path → Bool) (value : Bool) :
    Tolerant.reset drop value = value := rfl

/-- A string within a capacity. -/
def readHString {capacity : Nat} : Json → Option (HString capacity)
  | .str value => HString.ofString? value
  | _ => none

instance {capacity : Nat} : Serialize (HString capacity) := ⟨fun value => .str value.val⟩

instance {capacity : Nat} : Deserialize (HString capacity) := ⟨readHString⟩

instance {capacity : Nat} : Tolerant (HString capacity) :=
  Tolerant.leaf (fun _ _ => by simp only [toJson, prune])
    (fun _ => by simp [ofJson, toJson, readHString])

@[simp] theorem reset_string {capacity : Nat} (drop : Path → Bool) (value : HString capacity) :
    Tolerant.reset drop value = value := rfl

/-- A list is read when each of its items is. -/
theorem mapM_eq_some_iff {Item Value : Type} {read : Item → Option Value} {items : List Item}
    {values : List Value} : items.mapM read = some values ↔
      List.Forall₂ (fun item value => read item = some value) items values := by
  induction items generalizing values with
  | nil => cases values <;> simp
  | cons item items previous =>
    cases values with
    | nil => simp [Option.bind_eq_some_iff]
    | cons value values =>
      simp only [List.mapM_cons, Option.pure_def, Option.bind_eq_bind, Option.bind_eq_some_iff,
        Option.some.injEq, List.cons.injEq, List.forall₂_cons, ← previous]
      constructor
      · rintro ⟨first, read, rest, reads, rfl, rfl⟩
        exact ⟨read, reads⟩
      · rintro ⟨read, reads⟩
        exact ⟨value, read, values, reads, rfl, rfl⟩

section Containers

variable {α : Type} [Serialize α] [Deserialize α]

/-- An optional value, `null` when there is none. -/
def readOption : Json → Option (Option α)
  | .null => some none
  | json => (ofJson json).map some

instance : Serialize (Option α) := ⟨fun value => (value.map toJson).getD .null⟩

instance : Deserialize (Option α) := ⟨readOption⟩

omit [Serialize α] in
/-- Reading a value other than `null` reads the optional value in it. -/
theorem readOption_of_ne_null {json : Json} (present : json ≠ .null) :
    readOption (α := α) json = (ofJson json).map some := by
  cases json <;> first | contradiction | rfl

instance [Tolerant α] [NotNull α] : Tolerant (Option α) where
  defaulted := Tolerant.defaulted α
  reset drop value := value.map (Tolerant.reset drop)
  ofJson_prune drop value declared := by
    cases value with
    | none => simp [toJson, prune, ofJson, readOption]
    | some value =>
      have present := Json.prune_ne_null (NotNull.toJson_ne_null value) drop
      have read := Tolerant.ofJson_prune drop value declared
      show readOption (prune drop (toJson value)) = _
      rw [readOption_of_ne_null present, read]
      rfl

@[simp] theorem reset_option [Tolerant α] [NotNull α] (drop : Path → Bool) (value : Option α) :
    Tolerant.reset drop value = value.map (Tolerant.reset drop) := rfl

/-- A vector within a capacity. -/
def readHVec {capacity : Nat} : Json → Option (HVec α capacity)
  | .arr items => do HVec.ofList? (← items.mapM ofJson)
  | _ => none

instance {capacity : Nat} : Serialize (HVec α capacity) :=
  ⟨fun items => .arr (items.val.map toJson)⟩

instance {capacity : Nat} : Deserialize (HVec α capacity) := ⟨readHVec⟩

omit [Serialize α] in
/-- A vector is read item by item. -/
theorem readHVec_arr_iff {capacity : Nat} {items : List Json} {values : HVec α capacity} :
    readHVec (.arr items) = some values ↔
      List.Forall₂ (fun item value => ofJson item = some value) items values.val := by
  simp only [readHVec, Option.bind_eq_bind, Option.bind_eq_some_iff, HVec.ofList?_eq_some]
  constructor
  · rintro ⟨read, reads, rfl⟩
    exact mapM_eq_some_iff.mp reads
  · intro reads
    exact ⟨values.val, mapM_eq_some_iff.mpr reads, rfl⟩

/-- Items are read back in order, each with the deletions made below it. -/
theorem mapM_pruneItems [Tolerant α] (drop : Path → Bool) (items : List α) (index : Nat)
    (below : ∀ step path, drop (step :: path) = true → Tolerant.defaulted α path = true) :
    (Json.pruneItems drop index (items.map toJson)).mapM (ofJson (α := α)) =
      some (items.mapIdx fun offset item =>
        Tolerant.reset (under (.item (index + offset)) drop) item) := by
  induction items generalizing index with
  | nil => rfl
  | cons item items ih =>
    have first := Tolerant.ofJson_prune (under (.item index) drop) item
      (fun path chosen => below _ path chosen)
    simp [Json.pruneItems, first, ih, Nat.add_assoc, Nat.add_comm 1]

instance {capacity : Nat} [Tolerant α] : Tolerant (HVec α capacity) where
  defaulted
    | .item _ :: path => Tolerant.defaulted α path
    | _ => false
  reset drop items := items.mapIdx fun index => Tolerant.reset (under (.item index) drop)
  ofJson_prune drop items declared := by
    have below : ∀ step path, drop (step :: path) = true →
        Tolerant.defaulted α path = true := by
      intro step path chosen
      have := declared _ chosen
      cases step with
      | key => simp at this
      | item => exact this
    have read := mapM_pruneItems drop items.val 0 below
    simp only [Nat.zero_add] at read
    have fits : (items.mapIdx fun index =>
        Tolerant.reset (under (.item index) drop)).val.length ≤ capacity := HVec.fits _
    simp only [ofJson, toJson, prune, readHVec, read, Option.bind_eq_bind, Option.bind_some,
      HVec.ofList?]
    exact dif_pos fits

@[simp] theorem reset_vec {capacity : Nat} [Tolerant α] (drop : Path → Bool)
    (items : HVec α capacity) : Tolerant.reset drop items =
      items.mapIdx fun index => Tolerant.reset (under (.item index) drop) := rfl

end Containers

end Serde
