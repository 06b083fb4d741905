import Zugli.Lib.Heapless
import Zugli.Lib.Json.Prune

/-!
# Derived serialization

What `derive(Serialize, Deserialize)` generates for a struct, at the level of JSON values. A
struct is written as an object whose members come from a table: each field in declaration
order, or nothing where its `skip_serializing` attribute says so. It is read by looking up each
field by name: unknown members are ignored, a repeated one is refused, and a missing one is
refused unless the field declares a default.

`Tolerant` states how a value reads back when members with a default are deleted from its
object; with nothing deleted this is the round trip.
-/

namespace Serde

open Json (Path Step prune under)

/-- A type that is written as a JSON value. -/
class Serialize (α : Type) where
  /-- The value written. -/
  toJson : α → Json

/-- A type that is read from a JSON value. -/
class Deserialize (α : Type) where
  /-- The value read, or a refusal. -/
  ofJson : Json → Option α

export Serialize (toJson)
export Deserialize (ofJson)

/-- A type whose values read back after the deletion of members that have a default. -/
class Tolerant (α : Type) [Serialize α] [Deserialize α] where
  /-- Whether a path names a member with a default. -/
  defaulted : Path → Bool
  /-- The value with the deleted members at their defaults. -/
  reset : (Path → Bool) → α → α
  /-- Reading what is left gives exactly that value. -/
  ofJson_prune : ∀ (drop : Path → Bool) (value : α),
    (∀ path, drop path = true → defaulted path = true) →
      ofJson (prune drop (toJson value)) = some (reset drop value)

/-- A type that is never written as `null`. -/
class NotNull (α : Type) [Serialize α] : Prop where
  /-- Its values are written as something else. -/
  toJson_ne_null : ∀ value : α, toJson value ≠ .null

/-! ## Tables of fields -/

/-- The fields of a struct in declaration order, a skipped one without a value. -/
abbrev Table := List (String × Option Json)

/-- The members written for a table. -/
def Table.members (table : Table) : List (String × Json) :=
  table.filterMap fun entry => entry.2.map (entry.1, ·)

/-- A field that is always written. -/
def emit {α : Type} [Serialize α] (name : String) (value : α) : String × Option Json :=
  (name, some (toJson value))

/-- A field with `skip_serializing_if`. -/
def emitUnless {α : Type} [Serialize α] (skip : α → Bool) (name : String) (value : α) :
    String × Option Json :=
  (name, if skip value then none else some (toJson value))

/-- The member of a name, if there is one; a repeated member is refused. -/
def member (name : String) (members : List (String × Json)) : Option (Option Json) :=
  match members.filter fun member => member.1 == name with
  | [] => some none
  | [(_, value)] => some (some value)
  | _ => none

/-- A field without a default. -/
def required {α : Type} [Deserialize α] (name : String) (members : List (String × Json)) :
    Option α := do
  match ← member name members with
  | none => none
  | some value => ofJson value

/-- A field with a default. -/
def withDefault {α : Type} [Deserialize α] (default : α) (name : String)
    (members : List (String × Json)) : Option α := do
  match ← member name members with
  | none => some default
  | some value => ofJson value

/-- What is left of a field after a deletion. -/
def pruneEntry (drop : Path → Bool) (entry : String × Option Json) : String × Option Json :=
  (entry.1, if drop [.key entry.1] then none else entry.2.map (prune (under (.key entry.1) drop)))

@[simp] theorem members_none (name : String) (table : Table) :
    Table.members ((name, none) :: table) = table.members := rfl

@[simp] theorem members_some (name : String) (value : Json) (table : Table) :
    Table.members ((name, some value) :: table) = (name, value) :: table.members := rfl

/-- Deleting members of an object is deleting fields of its table. -/
theorem pruneMembers_members (drop : Path → Bool) (table : Table) :
    Json.pruneMembers drop table.members = Table.members (table.map (pruneEntry drop)) := by
  induction table with
  | nil => rfl
  | cons entry table ih =>
    obtain ⟨name, value⟩ := entry
    by_cases dropped : drop [.key name] = true
    · cases value <;> simp [pruneEntry, dropped, Json.pruneMembers, ih]
    · cases value <;> simp [pruneEntry, dropped, Json.pruneMembers, ih]

/-- A name missing from a table names no member. -/
theorem filter_members_nil {table : Table} {name : String} (missing : name ∉ table.map Prod.fst) :
    table.members.filter (fun member => member.1 == name) = [] := by
  rw [List.filter_eq_nil_iff]
  intro found inside
  obtain ⟨entry, inTable, written⟩ := List.mem_filterMap.mp inside
  obtain ⟨value, _, rfl⟩ := Option.map_eq_some_iff.mp written
  have other : entry.1 ≠ name := by
    rintro rfl
    exact missing (List.mem_map_of_mem inTable)
  simpa using other

/-- When field names differ, looking up a member finds what the table says of its field. -/
theorem member_members {table : Table} (distinct : (table.map Prod.fst).Nodup) (name : String) :
    member name table.members = some (table.lookup name).join := by
  induction table with
  | nil => rfl
  | cons entry table ih =>
    obtain ⟨head, value⟩ := entry
    rw [List.map_cons, List.nodup_cons] at distinct
    have later := ih distinct.2
    by_cases same : name = head
    · subst same
      have others := filter_members_nil distinct.1
      cases value <;> simp [member, others]
    · have different : (head == name) = false := by simpa using Ne.symm same
      have lookup : List.lookup name ((head, value) :: table) = List.lookup name table := by
        simp [List.lookup_cons, beq_eq_false_iff_ne.mpr same]
      rw [lookup, ← later]
      cases value <;> simp [member, different]

/-- The order of the members does not matter to a lookup. -/
theorem member_perm {left right : List (String × Json)} (reordered : left.Perm right)
    (name : String) : member name left = member name right := by
  have found := reordered.filter fun member => member.1 == name
  unfold member
  generalize left.filter (fun member => member.1 == name) = first at found ⊢
  generalize right.filter (fun member => member.1 == name) = second at found ⊢
  have count := found.length_eq
  match first, second with
  | [], [] => rfl
  | [_], [_] => rw [List.singleton_perm_singleton.mp found]
  | _ :: _ :: _, _ :: _ :: _ => rfl
  | [], _ :: _ | _ :: _, [] => simp at count
  | [_], _ :: _ :: _ | _ :: _ :: _, [_] => simp at count

/-- A field without a default is read alike from reordered members. -/
theorem required_perm {α : Type} [Deserialize α] {left right : List (String × Json)}
    (reordered : left.Perm right) (name : String) :
    required (α := α) name left = required name right := by
  rw [required, required, member_perm reordered]

/-- A field with a default is read alike from reordered members. -/
theorem withDefault_perm {α : Type} [Deserialize α] {left right : List (String × Json)}
    (reordered : left.Perm right) (default : α) (name : String) :
    withDefault default name left = withDefault default name right := by
  rw [withDefault, withDefault, member_perm reordered]

/-- The fields left after a deletion keep their names. -/
theorem map_fst_pruneEntry (drop : Path → Bool) (table : Table) :
    (table.map (pruneEntry drop)).map Prod.fst = table.map Prod.fst := by
  simp [pruneEntry, Function.comp_def]

/-- Looking up a field after a deletion. -/
theorem lookup_pruneEntry (drop : Path → Bool) (table : Table) (name : String) :
    ((table.map (pruneEntry drop)).lookup name).join =
      if drop [.key name] then none
      else (table.lookup name).join.map (prune (under (.key name) drop)) := by
  induction table with
  | nil => simp
  | cons entry table ih =>
    obtain ⟨head, value⟩ := entry
    by_cases same : name = head
    · subst same
      simp [pruneEntry]
    · simpa [List.lookup_cons, beq_eq_false_iff_ne.mpr same, pruneEntry] using ih

/-- The field of a table read after a deletion: nothing if it was skipped or deleted. -/
theorem member_prune {table : Table} (distinct : (table.map Prod.fst).Nodup) (drop : Path → Bool)
    (name : String) :
    member name (Json.pruneMembers drop table.members) =
      some (if drop [.key name] then none
        else (table.lookup name).join.map (prune (under (.key name) drop))) := by
  rw [pruneMembers_members, member_members (by rwa [map_fst_pruneEntry]), lookup_pruneEntry]

/-! ## Reading one field back -/

section Fields

variable {α : Type} [Serialize α] [Deserialize α] [Tolerant α]

/-- A field that is always written and never deleted is read back. -/
theorem required_prune {table : Table} (distinct : (table.map Prod.fst).Nodup)
    {drop : Path → Bool} (name : String) (value : α)
    (listed : (table.lookup name).join = some (toJson value)) (kept : drop [.key name] = false)
    (below : ∀ path, drop (.key name :: path) = true → Tolerant.defaulted α path = true) :
    required name (Json.pruneMembers drop table.members) =
      some (Tolerant.reset (under (.key name) drop) value) := by
  simp [required, member_prune distinct, kept, listed,
    Tolerant.ofJson_prune (under (.key name) drop) value below]

/-- A field that is always written is read back, or at its default where it was deleted. -/
theorem withDefault_prune {table : Table} (distinct : (table.map Prod.fst).Nodup)
    {drop : Path → Bool} (name : String) (default value : α)
    (listed : (table.lookup name).join = some (toJson value))
    (below : ∀ path, drop (.key name :: path) = true → Tolerant.defaulted α path = true ∨ path = []) :
    withDefault default name (Json.pruneMembers drop table.members) =
      some (if drop [.key name] then default
        else Tolerant.reset (under (.key name) drop) value) := by
  by_cases dropped : drop [.key name] = true
  · simp [withDefault, member_prune distinct, dropped]
  · have inner : ∀ path, under (.key name) drop path = true →
        Tolerant.defaulted α path = true := by
      intro path chosen
      rcases below path chosen with declared | rfl
      · exact declared
      · exact absurd chosen dropped
    simp [withDefault, member_prune distinct, dropped, listed,
      Tolerant.ofJson_prune (under (.key name) drop) value inner]

/-- A field skipped at its default is read back, or at its default where it was deleted. -/
theorem withDefault_skipped {table : Table} (distinct : (table.map Prod.fst).Nodup)
    {drop : Path → Bool} (name : String) (default value : α) (skip : α → Bool)
    (listed : (table.lookup name).join = if skip value then none else some (toJson value))
    (skips : skip value = true → Tolerant.reset (under (.key name) drop) value = default)
    (below : ∀ path, drop (.key name :: path) = true → Tolerant.defaulted α path = true ∨ path = []) :
    withDefault default name (Json.pruneMembers drop table.members) =
      some (if drop [.key name] then default
        else Tolerant.reset (under (.key name) drop) value) := by
  by_cases skipped : skip value = true
  · simp [withDefault, member_prune distinct, listed, skipped, skips skipped]
  · exact withDefault_prune distinct name default value (by simpa [skipped] using listed) below

end Fields

end Serde
