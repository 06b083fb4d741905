import Mathlib.Data.List.Nodup

/-!
# Bounded lists of keyed entries

Entries are merged by their key: the entry of a key is replaced where it stands, and a new key is
added at the end while there is room. A merged list has each key once, keeps every key at its
place, holds the last entry of each key, and misses a key only once it is full.
-/

namespace Keyed

variable {Key Entry : Type} (key : Entry → Key) (capacity : Nat)

/-- An entry is the last one of its key. -/
def IsLast (seen : List Entry) (entry : Entry) : Prop :=
  ∃ earlier later, seen = earlier ++ entry :: later ∧ ∀ other ∈ later, key other ≠ key entry

/-- What merging entries into an empty list leaves. -/
structure Merged (seen entries : List Entry) : Prop where
  /-- There is room for the entries. -/
  bounded : entries.length ≤ capacity
  /-- Each key is there once. -/
  distinct : (entries.map key).Nodup
  /-- Each entry is the last one seen of its key. -/
  last : ∀ entry ∈ entries, IsLast key seen entry
  /-- A key that was seen is missing only from a full list. -/
  complete : ∀ entry ∈ seen, key entry ∉ entries.map key → entries.length = capacity

/-- Nothing is merged yet. -/
theorem Merged.nil : Merged key capacity [] [] :=
  ⟨Nat.zero_le _, List.nodup_nil, by simp, by simp⟩

/-- An entry is the last one of its key once it is seen. -/
theorem isLast_snoc_self (seen : List Entry) (entry : Entry) :
    IsLast key (seen ++ [entry]) entry :=
  ⟨seen, [], rfl, by simp⟩

variable {key capacity}

/-- The last entry of a key is still the last one after an entry of another key. -/
theorem IsLast.snoc {seen : List Entry} {entry next : Entry} (last : IsLast key seen entry)
    (other : key next ≠ key entry) : IsLast key (seen ++ [next]) entry := by
  obtain ⟨earlier, later, rfl, apart⟩ := last
  refine ⟨earlier, later ++ [next], by simp, ?_⟩
  intro found member
  rcases List.mem_append.mp member with old | new
  · exact apart found old
  · rw [List.mem_singleton.mp new]
    exact other

/-- Replacing an entry by one of its key keeps the keys. -/
theorem keys_set {entries : List Entry} {entry : Entry} {index : Nat}
    (inside : index < entries.length) (same : key entries[index] = key entry) :
    (entries.set index entry).map key = entries.map key := by
  rw [List.map_set, ← same, ← List.getElem_map key, List.set_getElem_self]
  simpa using inside

section Snoc

variable {seen entries : List Entry} (merged : Merged key capacity seen entries) {entry : Entry}

include merged

/-- An entry whose key is there carries on what merging leaves. -/
theorem merged_replace {index : Nat} (inside : index < entries.length)
    (same : key entries[index] = key entry) :
    Merged key capacity (seen ++ [entry]) (entries.set index entry) := by
  have keys := keys_set inside same
  have distinct : ((entries.set index entry).map key).Nodup := keys ▸ merged.distinct
  have there : entry ∈ entries.set index entry := List.mem_set inside entry
  refine ⟨by simpa using merged.bounded, distinct, ?_, ?_⟩
  · intro found member
    by_cases own : key found = key entry
    · rw [List.inj_on_of_nodup_map distinct member there own]
      exact isLast_snoc_self key seen entry
    · rcases List.mem_or_eq_of_mem_set member with old | rfl
      · exact (merged.last found old).snoc (Ne.symm own)
      · exact absurd rfl own
  · intro found member missing
    rw [keys] at missing
    rw [List.length_set]
    rcases List.mem_append.mp member with old | new
    · exact merged.complete found old missing
    · have known : key entry ∈ entries.map key := by
        rw [← same]
        exact List.mem_map_of_mem (List.getElem_mem inside)
      rw [List.mem_singleton.mp new] at missing
      exact absurd known missing

/-- The entries there are still the last ones of their keys after an entry of a new key. -/
theorem isLast_fresh (fresh : key entry ∉ entries.map key) {found : Entry}
    (member : found ∈ entries) : IsLast key (seen ++ [entry]) found := by
  have other : key entry ≠ key found := fun same => fresh (same ▸ List.mem_map_of_mem member)
  exact (merged.last found member).snoc other

/-- An entry of a new key that there is room for carries on what merging leaves. -/
theorem merged_add (fresh : key entry ∉ entries.map key) (room : entries.length < capacity) :
    Merged key capacity (seen ++ [entry]) (entries ++ [entry]) := by
  refine ⟨by rw [List.length_append, List.length_singleton]; omega, ?_, ?_, ?_⟩
  · rw [List.map_append, List.nodup_append]
    refine ⟨merged.distinct, List.nodup_singleton _, ?_⟩
    intro first old second new
    rw [List.map_singleton, List.mem_singleton] at new
    rintro rfl
    exact fresh (new ▸ old)
  · intro found member
    rcases List.mem_append.mp member with old | new
    · exact isLast_fresh merged fresh old
    · rw [List.mem_singleton.mp new]
      exact isLast_snoc_self key seen entry
  · intro found member missing
    rw [List.map_append, List.mem_append, not_or] at missing
    rcases List.mem_append.mp member with old | new
    · have full : entries.length = capacity := merged.complete found old missing.1
      omega
    · rw [List.mem_singleton.mp new] at missing
      exact absurd (List.mem_singleton.mpr rfl) missing.2

/-- An entry of a new key that there is no room for carries on what merging leaves. -/
theorem merged_full (fresh : key entry ∉ entries.map key) (full : capacity ≤ entries.length) :
    Merged key capacity (seen ++ [entry]) entries := by
  have filled : entries.length = capacity := Nat.le_antisymm merged.bounded full
  exact ⟨merged.bounded, merged.distinct, fun _ member => isLast_fresh merged fresh member,
    fun _ _ _ => filled⟩

end Snoc

section Merge

variable [DecidableEq Key]

variable (key capacity) in
/-- Merge an entry into a list. -/
def merge (entries : List Entry) (entry : Entry) : List Entry :=
  match entries.findIdx? (fun other => key other = key entry) with
  | some index => entries.set index entry
  | none => if entries.length < capacity then entries ++ [entry] else entries

variable (key capacity) in
/-- The three ways to merge an entry: its key is there, there is room for it, or there is none. -/
theorem merge_cases (entries : List Entry) (entry : Entry) :
    (∃ index, ∃ inside : index < entries.length, key entries[index] = key entry ∧
        merge key capacity entries entry = entries.set index entry) ∨
      (key entry ∉ entries.map key ∧ entries.length < capacity ∧
        merge key capacity entries entry = entries ++ [entry]) ∨
      key entry ∉ entries.map key ∧ capacity ≤ entries.length ∧
        merge key capacity entries entry = entries := by
  cases found : entries.findIdx? (fun other => key other = key entry) with
  | some index =>
    obtain ⟨inside, same, _⟩ := List.findIdx?_eq_some_iff_getElem.mp found
    exact .inl ⟨index, inside, of_decide_eq_true same, by rw [merge, found]⟩
  | none =>
    right
    have fresh : key entry ∉ entries.map key := by
      intro known
      obtain ⟨other, member, same⟩ := List.mem_map.mp known
      have apart := List.findIdx?_eq_none_iff.mp found other member
      exact of_decide_eq_false apart same
    by_cases room : entries.length < capacity
    · exact .inl ⟨fresh, room, by rw [merge, found]; exact if_pos room⟩
    · exact .inr ⟨fresh, by omega, by rw [merge, found]; exact if_neg room⟩

/-- Merging keeps every key at its place. -/
theorem keys_prefix_merge (entries : List Entry) (entry : Entry) :
    entries.map key <+: (merge key capacity entries entry).map key := by
  rcases merge_cases key capacity entries entry with
    ⟨index, inside, same, merged⟩ | ⟨_, _, merged⟩ | ⟨_, _, merged⟩
  · have kept : (merge key capacity entries entry).map key = entries.map key := by
      rw [merged, keys_set inside same]
    exact kept.symm ▸ List.prefix_rfl
  · rw [merged, List.map_append]
    exact List.prefix_append _ _
  · exact (congrArg (List.map key) merged).symm ▸ List.prefix_rfl

/-- Merging carries on what it leaves. -/
theorem merged_merge {seen entries : List Entry} (merged : Merged key capacity seen entries)
    (entry : Entry) :
    Merged key capacity (seen ++ [entry]) (merge key capacity entries entry) := by
  rcases merge_cases key capacity entries entry with
    ⟨index, inside, same, replaced⟩ | ⟨fresh, room, added⟩ | ⟨fresh, full, left⟩
  · rw [replaced]
    exact merged_replace merged inside same
  · rw [added]
    exact merged_add merged fresh room
  · rw [left]
    exact merged_full merged fresh full

/-- Merging keeps every key at its place, however many entries are merged. -/
theorem keys_prefix_foldl (entries found : List Entry) :
    entries.map key <+: (found.foldl (merge key capacity) entries).map key := by
  induction found generalizing entries with
  | nil => exact List.prefix_rfl
  | cons entry found previous =>
    exact (keys_prefix_merge entries entry).trans (previous (merge key capacity entries entry))

/-- Merging carries on what it leaves, however many entries are merged. -/
theorem merged_foldl {seen entries : List Entry} (merged : Merged key capacity seen entries)
    (found : List Entry) :
    Merged key capacity (seen ++ found) (found.foldl (merge key capacity) entries) := by
  induction found generalizing seen entries with
  | nil => simpa using merged
  | cons entry found previous =>
    have next := previous (merged_merge merged entry)
    rwa [List.append_assoc] at next

end Merge

end Keyed
