import Zugli.Lib.Json.Text

/-!
# Deleting object members

`prune` deletes a chosen set of object members, each named by its path from the root, and
leaves everything else in place. A pruned text is never longer than the text it came from.
-/

namespace Json

/-- One step into a value. -/
inductive Step where
  /-- The member of an object with this name. -/
  | key (name : String)
  /-- The item of an array at this index. -/
  | item (index : Nat)
deriving DecidableEq

/-- A place in a value, from its root. -/
abbrev Path := List Step

/-- The choice made below one step. -/
def under (step : Step) (drop : Path → Bool) : Path → Bool := fun path => drop (step :: path)

mutual

/-- Delete the members whose paths are chosen. -/
def prune (drop : Path → Bool) : Json → Json
  | .arr items => .arr (pruneItems drop 0 items)
  | .obj members => .obj (pruneMembers drop members)
  | .null => .null
  | .bool value => .bool value
  | .num value => .num value
  | .str value => .str value

/-- Delete the chosen members below the items of an array, the first at `index`. -/
def pruneItems (drop : Path → Bool) (index : Nat) : List Json → List Json
  | [] => []
  | item :: items => prune (under (.item index) drop) item :: pruneItems drop (index + 1) items

/-- Delete the chosen members of an object and below it. -/
def pruneMembers (drop : Path → Bool) : List (String × Json) → List (String × Json)
  | [] => []
  | (name, value) :: members =>
    if drop [.key name] then pruneMembers drop members
    else (name, prune (under (.key name) drop) value) :: pruneMembers drop members

end

/-- Choosing no member changes nothing. -/
theorem prune_none (value : Json) : prune (fun _ => false) value = value :=
  match value with
  | .null | .bool _ | .num _ | .str _ => by simp only [prune]
  | .arr items => by rw [prune, pruneItems_none items 0]
  | .obj members => by rw [prune, pruneMembers_none members]
where
  pruneItems_none : ∀ (items : List Json) (index : Nat),
      pruneItems (fun _ => false) index items = items
    | [], _ => rfl
    | item :: items, index => by
      have first := prune_none item
      simp only [pruneItems, pruneItems_none items (index + 1), List.cons.injEq, and_true]
      exact first
  pruneMembers_none : ∀ members : List (String × Json),
      pruneMembers (fun _ => false) members = members
    | [] => rfl
    | (name, value) :: members => by
      have first := prune_none value
      simp only [pruneMembers, pruneMembers_none members, Bool.false_eq_true, ↓reduceIte,
        List.cons.injEq, Prod.mk.injEq, true_and, and_true]
      exact first

/-- A value other than `null` stays other than `null`. -/
theorem prune_ne_null {value : Json} (other : value ≠ .null) (drop : Path → Bool) :
    prune drop value ≠ .null := by
  cases value <;> simp_all [prune]

/-- Deleting members never makes a text longer. -/
theorem size_prune_le (style : Style) (value : Json) (drop : Path → Bool) :
    (prune drop value).size style ≤ value.size style :=
  match value with
  | .null | .bool _ | .num _ | .str _ => by simp only [prune, Nat.le_refl]
  | .arr items => by
    have fewer := sum_pruneItems_le items drop 0
    rw [prune, size_arr, size_arr]
    cases items with
    | nil => exact Nat.le_refl _
    | cons item items =>
      simp only [pruneItems, reduceCtorEq, ↓reduceIte] at fewer ⊢
      omega
  | .obj members => by
    have fewer := sum_pruneMembers_le members drop
    rw [prune, size_obj, size_obj]
    by_cases empty : pruneMembers drop members = []
    · simp only [empty, List.map_nil, List.sum_nil, ↓reduceIte]
      cases members with
      | nil => simp
      | cons member members =>
        simp only [List.map_cons, List.sum_cons, reduceCtorEq, ↓reduceIte]
        omega
    · have filled : members ≠ [] := by
        rintro rfl
        exact empty rfl
      simp only [empty, filled, ↓reduceIte]
      omega
where
  sum_pruneItems_le : ∀ (items : List Json) (drop : Path → Bool) (index : Nat),
      ((pruneItems drop index items).map fun item => 1 + item.size style).sum ≤
        (items.map fun item => 1 + item.size style).sum
    | [], _, _ => Nat.le_refl _
    | item :: items, drop, index => by
      have first := size_prune_le style item (under (.item index) drop)
      have others := sum_pruneItems_le items drop (index + 1)
      simp only [pruneItems, List.map_cons, List.sum_cons]
      omega
  sum_pruneMembers_le : ∀ (members : List (String × Json)) (drop : Path → Bool),
      ((pruneMembers drop members).map fun member => 1 + memberSize style member).sum ≤
        (members.map fun member => 1 + memberSize style member).sum
    | [], _ => Nat.le_refl _
    | (name, value) :: members, drop => by
      have first : memberSize style (name, prune (under (.key name) drop) value) ≤
          memberSize style (name, value) :=
        Nat.add_le_add_left (size_prune_le style value (under (.key name) drop)) _
      have others := sum_pruneMembers_le members drop
      by_cases dropped : drop [.key name] = true
      · simp only [pruneMembers, dropped, ↓reduceIte, List.map_cons, List.sum_cons]
        omega
      · simp only [pruneMembers, dropped, Bool.false_eq_true, ↓reduceIte, List.map_cons,
          List.sum_cons]
        omega

end Json
