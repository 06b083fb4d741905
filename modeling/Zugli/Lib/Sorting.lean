import Mathlib.Data.List.Perm.Basic
import Mathlib.Data.List.Sort

/-!
# The standard library's unstable sort

`sort_unstable_by_key` orders the items of a slice by their keys; in which order it leaves items of
one key is not documented. It is a parameter whose laws say just that. `UnstableSort.reference` is
an instance that keeps the order of such items.
-/

/-- The sort: it loses no item and orders the keys. -/
structure UnstableSort where
  /-- The items in their new order. -/
  sort : {α : Type} → (α → Int) → List α → List α
  /-- No item is lost or made up. -/
  perm : ∀ {α : Type} (key : α → Int) (items : List α), (sort key items).Perm items
  /-- The keys are in order. -/
  sorted : ∀ {α : Type} (key : α → Int) (items : List α),
    (sort key items).Pairwise fun first second => key first ≤ key second

/-- The merge sort, which is stable. -/
def UnstableSort.reference : UnstableSort where
  sort key items := items.mergeSort fun first second => decide (key first ≤ key second)
  perm key items := List.mergeSort_perm items _
  sorted key items := by
    have transitive : ∀ first second third, decide (key first ≤ key second) = true →
        decide (key second ≤ key third) = true → decide (key first ≤ key third) = true := by
      intro first second third lower upper
      simp only [decide_eq_true_eq] at lower upper ⊢
      exact Int.le_trans lower upper
    have total : ∀ first second,
        (decide (key first ≤ key second) || decide (key second ≤ key first)) = true := by
      intro first second
      simpa using Int.le_total (key first) (key second)
    have ordered := List.pairwise_mergeSort transitive total items
    exact ordered.imp fun later => of_decide_eq_true later

namespace UnstableSort

variable (sorting : UnstableSort) {Item Out : Type}

/-- Sorting the images of items arranges the items themselves. -/
theorem exists_arranged (key : Out → Int) (image : Item → Out) (items : List Item) :
    ∃ arranged : List Item, arranged.Perm items ∧
      sorting.sort key (items.map image) = arranged.map image := by
  have images : List.Forall₂ (fun out item => out = image item) (items.map image) items := by
    rw [List.forall₂_map_left_iff, List.forall₂_same]
    exact fun _ _ => rfl
  obtain ⟨arranged, pairs, perm⟩ := List.perm_comp_forall₂ (sorting.perm key _) images
  refine ⟨arranged, perm, ?_⟩
  generalize sorting.sort key (items.map image) = sorted at pairs
  clear perm images
  induction pairs with
  | nil => rfl
  | cons first _ rest => rw [List.map_cons, ← first, ← rest]

/-- The first of sorted items are in order, and no later than the others. -/
theorem soonest (key : Item → Int) {items : List Item}
    (ordered : items.Pairwise fun first second => key first ≤ key second) (count : Nat) :
    (items.take count).Pairwise (fun first second => key first ≤ key second) ∧
      ∀ chosen ∈ items.take count, ∀ left ∈ items.drop count, key chosen ≤ key left := by
  rw [← List.take_append_drop count items, List.pairwise_append] at ordered
  exact ⟨ordered.1, ordered.2.2⟩

end UnstableSort
