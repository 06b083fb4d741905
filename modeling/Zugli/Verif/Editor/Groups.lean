import Zugli.Verif.Editor.Kept

/-!
# What the editor keeps of a layout made from nothing

A layout that the editor builds from the empty one has few elements, each as the clamp leaves it,
and its departure fields fall into slots: no field is there twice, and the fields of a slot are all
split or all connected, and then all three are there. Only loading a layout can undo that.
-/

namespace Zugli.Web

open Js (Str Value)

/-! ## Positions of a list -/

section Positions

variable {α β : Type}

/-- A list without the items at some positions. -/
def dropAt (idxs : List Nat) (items : List α) : List α :=
  ((List.range items.length).filter (· ∉ idxs)).filterMap (items[·]?)

/-- All positions of a list in order are the list. -/
theorem filterMap_range (items : List α) :
    (List.range items.length).filterMap (items[·]?) = items := by
  induction items using List.reverseRecOn with
  | nil => rfl
  | append_singleton items last previous =>
    have before : (List.range items.length).filterMap ((items ++ [last])[·]?) =
        (List.range items.length).filterMap (items[·]?) :=
      List.filterMap_congr fun position inside =>
        List.getElem?_append_left (List.mem_range.mp inside)
    rw [List.length_append, List.length_singleton, List.range_succ, List.filterMap_append, before,
      previous]
    simp

/-- What is left stays in order. -/
theorem dropAt_sublist (idxs : List Nat) (items : List α) : (dropAt idxs items).Sublist items := by
  have positions := List.filter_sublist (p := (· ∉ idxs)) (l := List.range items.length)
  have kept := positions.filterMap (items[·]?)
  rwa [filterMap_range] at kept

/-- What is left is at another position. -/
theorem mem_dropAt {idxs : List Nat} {items : List α} {item : α} :
    item ∈ dropAt idxs items ↔ ∃ position ∉ idxs, items[position]? = some item := by
  simp only [dropAt, List.mem_filterMap, List.mem_filter, List.mem_range, decide_eq_true_eq]
  constructor
  · rintro ⟨position, ⟨-, other⟩, found⟩
    exact ⟨position, other, found⟩
  · rintro ⟨position, other, found⟩
    exact ⟨position, ⟨(List.getElem?_eq_some_iff.mp found).1, other⟩, found⟩

/-- Positions are dropped before or after a function is applied. -/
theorem map_dropAt (f : α → β) (idxs : List Nat) (items : List α) :
    (dropAt idxs items).map f = dropAt idxs (items.map f) := by
  simp [dropAt, List.map_filterMap]

end Positions

/-! ## Departure groups -/

/-- What an element counts for in the departure groups. -/
structure Part where
  /-- The type tag. -/
  t : Int
  /-- The departure slot. -/
  di : Int
  /-- The field. -/
  fk : Int
  /-- Whether it is a departure field that has not been split. -/
  connected : Bool
deriving DecidableEq

/-- The part of an element. -/
def Element.part (el : Element) : Part where
  t := el.t.toInt32
  di := el.di.toInt32
  fk := el.fk.toInt32
  connected := isConnectedDep el

namespace Part

/-- A field of a departure slot. -/
def InSlot (part : Part) (di : Int) : Prop := part.t = 1 ∧ part.di = di

/-- A field that splitting disconnects. -/
def split (di : Int) (part : Part) : Part :=
  if part.connected = true ∧ part.di = di then { part with connected := false } else part

end Part

/-- Departure fields that fall into slots. -/
structure Grouped (parts : List Part) : Prop where
  /-- No field of a slot is there twice. -/
  distinct : parts.Pairwise fun one other =>
    one.t = 1 → other.t = 1 → ¬(one.di = other.di ∧ one.fk = other.fk)
  /-- The fields of a slot are all split, or they are all connected and all three are there. -/
  whole : ∀ di, (∀ part ∈ parts, part.InSlot di → part.connected = false) ∨
    ((∀ part ∈ parts, part.InSlot di → part.connected = true) ∧
      ∀ fk ∈ [0, 1, 2], ∃ part ∈ parts, part.InSlot di ∧ part.fk = fk)

namespace Grouped

/-- No parts. -/
theorem nil : Grouped [] where
  distinct := .nil
  whole _ := .inl (by simp)

variable {parts : List Part} (grouped : Grouped parts)

include grouped

/-- Adding an element that is no departure field. -/
theorem append_other {part : Part} (other : part.t ≠ 1) : Grouped (parts ++ [part]) where
  distinct := by
    refine List.pairwise_append.mpr ⟨grouped.distinct, List.pairwise_singleton _ _, ?_⟩
    intro one _ last member _ departure
    rw [List.mem_singleton.mp member] at departure
    exact absurd departure other
  whole di := by
    have unslotted : ¬part.InSlot di := fun slotted => other slotted.1
    rcases grouped.whole di with split | ⟨connected, three⟩
    · left
      intro one member slotted
      rcases List.mem_append.mp member with earlier | last
      · exact split one earlier slotted
      · exact absurd (List.mem_singleton.mp last ▸ slotted) unslotted
    · right
      refine ⟨fun one member slotted => ?_, fun fk field => ?_⟩
      · rcases List.mem_append.mp member with earlier | last
        · exact connected one earlier slotted
        · exact absurd (List.mem_singleton.mp last ▸ slotted) unslotted
      · obtain ⟨one, earlier, found⟩ := three fk field
        exact ⟨one, List.mem_append_left _ earlier, found⟩

/-- Adding the three fields of a free slot. -/
theorem append_departure {slot : Int} (free : ∀ part ∈ parts, ¬part.InSlot slot) :
    Grouped (parts ++ [⟨1, slot, 0, true⟩, ⟨1, slot, 1, true⟩, ⟨1, slot, 2, true⟩]) where
  distinct := by
    refine List.pairwise_append.mpr ⟨grouped.distinct, by simp, ?_⟩
    intro one earlier last member departure _ same
    have slotted : last.di = slot := by
      simp only [List.mem_cons, List.not_mem_nil, or_false] at member
      rcases member with rfl | rfl | rfl <;> rfl
    exact free one earlier ⟨departure, same.1.trans slotted⟩
  whole di := by
    by_cases here : di = slot
    · right
      subst here
      refine ⟨fun one member slotted => ?_, fun fk field => ?_⟩
      · rcases List.mem_append.mp member with earlier | last
        · exact absurd slotted (free one earlier)
        · simp only [List.mem_cons, List.not_mem_nil, or_false] at last
          rcases last with rfl | rfl | rfl <;> rfl
      · refine ⟨⟨1, di, fk, true⟩, List.mem_append_right _ ?_, ⟨rfl, rfl⟩, rfl⟩
        simp only [List.mem_cons, List.not_mem_nil, or_false] at field
        rcases field with rfl | rfl | rfl <;> simp
    · have elsewhere : ∀ part ∈ ([⟨1, slot, 0, true⟩, ⟨1, slot, 1, true⟩, ⟨1, slot, 2, true⟩] :
          List Part), ¬part.InSlot di := by
        rintro part member ⟨-, slotted⟩
        simp only [List.mem_cons, List.not_mem_nil, or_false] at member
        rcases member with rfl | rfl | rfl <;> exact here slotted.symm
      rcases grouped.whole di with split | ⟨connected, three⟩
      · left
        intro one member slotted
        rcases List.mem_append.mp member with earlier | last
        · exact split one earlier slotted
        · exact absurd slotted (elsewhere one last)
      · right
        refine ⟨fun one member slotted => ?_, fun fk field => ?_⟩
        · rcases List.mem_append.mp member with earlier | last
          · exact connected one earlier slotted
          · exact absurd slotted (elsewhere one last)
        · obtain ⟨one, earlier, found⟩ := three fk field
          exact ⟨one, List.mem_append_left _ earlier, found⟩

/-- Removing positions that hold all connected fields of a slot or none of them. -/
theorem dropAt {idxs : List Nat}
    (uniform : ∀ di,
      (∀ (position : Nat) (part : Part), parts[position]? = some part → part.InSlot di →
        part.connected = true → position ∈ idxs) ∨
      ∀ (position : Nat) (part : Part), parts[position]? = some part → part.InSlot di →
        part.connected = true → position ∉ idxs) : Grouped (dropAt idxs parts) where
  distinct := grouped.distinct.sublist (dropAt_sublist idxs parts)
  whole di := by
    have inside {part : Part} (left : part ∈ Web.dropAt idxs parts) : part ∈ parts :=
      (dropAt_sublist idxs parts).mem left
    rcases uniform di with removed | kept
    · left
      intro part left slotted
      obtain ⟨position, other, found⟩ := mem_dropAt.mp left
      cases connected : part.connected with
      | false => rfl
      | true => exact absurd (removed position part found slotted connected) other
    · rcases grouped.whole di with split | ⟨connected, three⟩
      · exact .inl fun part left slotted => split part (inside left) slotted
      · right
        refine ⟨fun part left slotted => connected part (inside left) slotted, fun fk field => ?_⟩
        obtain ⟨part, member, slotted, held⟩ := three fk field
        obtain ⟨position, found⟩ := List.getElem?_of_mem member
        have left := kept position part found slotted (connected part member slotted)
        exact ⟨part, mem_dropAt.mpr ⟨position, left, found⟩, slotted, held⟩

omit grouped in
/-- Splitting a part keeps its slot. -/
theorem split_inSlot (slot di : Int) (part : Part) :
    (part.split slot).InSlot di ↔ part.InSlot di := by
  unfold Part.split
  split <;> rfl

/-- Splitting the connected fields of a slot. -/
theorem split (slot : Int) : Grouped (parts.map (Part.split slot)) where
  distinct := by
    refine List.pairwise_map.mpr (grouped.distinct.imp fun {one other} distinct => ?_)
    unfold Part.split
    split <;> split <;> exact distinct
  whole di := by
    have unfolded {part : Part} (member : part ∈ parts.map (Part.split slot)) :
        ∃ whole ∈ parts, whole.split slot = part := List.mem_map.mp member
    by_cases here : di = slot
    · left
      rintro part member slotted
      obtain ⟨whole, inside, rfl⟩ := unfolded member
      have before := (split_inSlot slot di whole).mp slotted
      unfold Part.split
      split
      · rfl
      next kept =>
        rw [before.2, here, and_iff_left rfl] at kept
        exact eq_false_of_ne_true kept
    · have same {part : Part} (slotted : part.InSlot di) : part.split slot = part :=
        if_neg fun found => here (slotted.2.symm.trans found.2)
      rcases grouped.whole di with split | ⟨connected, three⟩
      · left
        rintro part member slotted
        obtain ⟨whole, inside, rfl⟩ := unfolded member
        have before := (split_inSlot slot di whole).mp slotted
        rw [same before]
        exact split whole inside before
      · right
        refine ⟨fun part member slotted => ?_, fun fk field => ?_⟩
        · obtain ⟨whole, inside, rfl⟩ := unfolded member
          have before := (split_inSlot slot di whole).mp slotted
          rw [same before]
          exact connected whole inside before
        · obtain ⟨part, member, slotted, held⟩ := three fk field
          exact ⟨part, List.mem_map.mpr ⟨part, member, same slotted⟩, slotted, held⟩

end Grouped

/-- The elements that move with an element: the connected fields of its slot, or it alone. -/
theorem groupIdx_uniform (els : List Element) (i : Nat) (di : Int) :
    (∀ (position : Nat) (part : Part), (els.map Element.part)[position]? = some part →
      part.InSlot di → part.connected = true → position ∈ groupIdx els i) ∨
    ∀ (position : Nat) (part : Part), (els.map Element.part)[position]? = some part →
      part.InSlot di → part.connected = true → position ∉ groupIdx els i := by
  have element {position : Nat} {part : Part}
      (found : (els.map Element.part)[position]? = some part) :
      ∃ el, els[position]? = some el ∧ el.part = part := by
    rw [List.getElem?_map] at found
    exact Option.map_eq_some_iff.mp found
  unfold groupIdx
  split
  next nowhere =>
    right
    intro position part found _ _ alone
    obtain ⟨el, here, -⟩ := element found
    rw [List.mem_singleton.mp alone, nowhere] at here
    cases here
  next el here =>
    split
    next connected =>
      by_cases same : el.di.toInt32 = di
      · left
        intro position part found slotted moves
        obtain ⟨other, there, rfl⟩ := element found
        refine List.mem_filter.mpr
          ⟨List.mem_range.mpr (List.getElem?_eq_some_iff.mp there).1, ?_⟩
        rw [there, Option.any_some, show isConnectedDep other = true from moves, Bool.true_and]
        exact beq_iff_eq.mpr (slotted.2.trans same.symm)
      · right
        intro position part found slotted moves member
        obtain ⟨other, there, rfl⟩ := element found
        have slot := (List.mem_filter.mp member).2
        rw [there, Option.any_some, Bool.and_eq_true, beq_iff_eq] at slot
        exact same (slot.2.symm.trans slotted.2)
    next unconnected =>
      right
      intro position part found _ moves alone
      obtain ⟨other, there, rfl⟩ := element found
      rw [List.mem_singleton.mp alone, here] at there
      cases there
      exact unconnected moves

/-! ## Elements -/

/-- A number within bounds is not clamped. -/
theorem clampI_of_between {n lo hi : Int} (within : lo ≤ n ∧ n ≤ hi) (low : -0x80000000 ≤ lo)
    (high : hi < 0x80000000) : clampI n lo hi = n := by
  rw [clampI, Js.toInt32_of_bounds (by omega) (by omega), if_neg (by omega), if_neg (by omega)]

/-- Clamping leaves a kept object as it is. -/
theorem clampElement_of_kept {el : Element} (kept : el.Kept) : clampElement el = el := by
  have zero {value : Value} {lo hi : Int} (held : value.Between lo hi) (low : 0 ≤ lo)
      (high : hi ≤ 255) : Value.number (clampI value.orZero lo hi) = value := by
    obtain ⟨n, rfl, within⟩ := held
    rw [Value.orZero, clampI_of_between within (by omega) (by omega)]
  have one {value : Value} {lo hi : Int} (held : value.Between lo hi) (low : 0 ≤ lo)
      (high : hi ≤ 255) : Value.number (clampI (value.orNullish 1) lo hi) = value := by
    obtain ⟨n, rfl, within⟩ := held
    rw [Value.orNullish, clampI_of_between within (by omega) (by omega)]
  have text : (el.v.map fun text => if 24 < text.length then text.take 24 else text) = el.v := by
    cases held : el.v with
    | none => rfl
    | some value =>
      have short := kept.v value held
      rw [Option.map_some, if_neg (by omega)]
  rw [clampElement, zero kept.x (by decide) (by decide), zero kept.y (by decide) (by decide),
    zero kept.w (by decide) (by decide), zero kept.s (by decide) (by decide),
    one kept.k (by decide) (by decide), zero kept.c (by decide) (by decide),
    zero kept.a (by decide) (by decide), zero kept.di (by decide) (by decide),
    zero kept.fk (by decide) (by decide), one kept.th (by decide) (by decide),
    zero kept.f (by decide) (by decide), zero kept.g (by decide) (by decide), text]

/-- Clamping an object whose slot and field are in range keeps its part. -/
theorem clampElement_part {el : Element} (di : el.di.Between 0 2) (fk : el.fk.Between 0 2) :
    (clampElement el).part = el.part := by
  have clamped {value : Value} (held : value.Between 0 2) :
      Value.number (clampI value.orZero 0 2) = value := by
    obtain ⟨n, rfl, within⟩ := held
    rw [Value.orZero, clampI_of_between within (by decide) (by decide)]
  have slot : (clampElement el).di = el.di := clamped di
  have field : (clampElement el).fk = el.fk := clamped fk
  have connected : isConnectedDep (clampElement el) = isConnectedDep el := rfl
  rw [Element.part, slot, field, connected]
  rfl

/-! ## The editor -/

namespace Editor

/-- The parts of the working layout. -/
def parts (editor : Editor) : List Part := editor.elements.map Element.part

/-- What holds of the working layout until one is loaded. -/
structure Shaped (editor : Editor) : Prop where
  /-- Its elements have been made. -/
  known : ∀ id ∈ editor.working, id < editor.next
  /-- Its departure fields fall into slots. -/
  grouped : Grouped editor.parts

/-- A later state of an editor: shaped, with no field connected that was not. -/
structure Follows (editor later : Editor) : Prop where
  /-- The later state is shaped. -/
  shaped : later.Shaped
  /-- What has been made stays so. -/
  next : editor.next ≤ later.next
  /-- What is connected was connected. -/
  connected : ∀ id < editor.next, isConnectedDep (later.objects id) = true →
    isConnectedDep (editor.objects id) = true

/-- An editor with the same working layout but for what parts do not tell. -/
structure Alike (editor later : Editor) : Prop where
  /-- The same elements. -/
  working : later.working = editor.working
  /-- As many have been made. -/
  next : later.next = editor.next
  /-- Each has the same part. -/
  part : ∀ id, (later.objects id).part = (editor.objects id).part

/-- Nothing changed. -/
theorem Alike.refl (editor : Editor) : editor.Alike editor := ⟨rfl, rfl, fun _ => rfl⟩

/-- Two changes. -/
theorem Alike.trans {editor later last : Editor} (earlier : editor.Alike later)
    (next : later.Alike last) : editor.Alike last where
  working := next.working.trans earlier.working
  next := next.next.trans earlier.next
  part id := (next.part id).trans (earlier.part id)

/-- A change of what is neither in the working layout nor in an object. -/
theorem Alike.beside {editor later last : Editor} (alike : editor.Alike later)
    (working : last.working = later.working) (next : last.next = later.next)
    (objects : last.objects = later.objects) : editor.Alike last where
  working := working.trans alike.working
  next := next.trans alike.next
  part id := by
    rw [objects]
    exact alike.part id

/-- The parts of a list of objects. -/
theorem parts_eq (editor : Editor) :
    editor.parts = editor.working.map fun id => (editor.objects id).part := by
  rw [parts, elements, List.map_map]
  rfl

/-- An alike editor is as shaped. -/
theorem Alike.follows {editor later : Editor} (alike : editor.Alike later)
    (shaped : editor.Shaped) : editor.Follows later where
  shaped :=
    { known := by
        rw [alike.working, alike.next]
        exact shaped.known
      grouped := by
        have same : later.parts = editor.parts := by
          rw [parts_eq, parts_eq, alike.working]
          exact List.map_congr_left fun id _ => alike.part id
        rw [same]
        exact shaped.grouped }
  next := alike.next.ge
  connected id _ still := (congrArg Part.connected (alike.part id)).symm.trans still

/-- A change beside the working layout keeps the editor shaped. -/
theorem Shaped.beside {editor last : Editor} (shaped : editor.Shaped)
    (working : last.working = editor.working) (next : last.next = editor.next)
    (objects : last.objects = editor.objects) : editor.Follows last :=
  ((Alike.refl editor).beside working next objects).follows shaped

section Steps

variable {editor : Editor}

/-- Changing an object but not its part. -/
theorem update_alike (id : Nat) (change : Element → Element)
    (same : (change (editor.objects id)).part = (editor.objects id).part) :
    editor.Alike (editor.update id change) where
  working := rfl
  next := rfl
  part other := by
    unfold update
    dsimp only
    split
    next here =>
      rw [here]
      exact same
    · rfl

/-- Changing the selected element but not its part. -/
theorem change_alike {apply : Element → Element}
    (same : ∀ id, (apply (editor.objects id)).part = (editor.objects id).part) :
    editor.Alike (editor.change apply) := by
  unfold change
  split
  · exact .refl editor
  next id _ => exact (update_alike id apply (same id)).beside rfl rfl rfl

/-- Typing a text. -/
theorem inputText_alike (value : Str) : editor.Alike (editor.inputText value) := by
  unfold inputText
  split
  · exact .refl editor
  next id _ =>
    split
    · have typed := update_alike id (fun el => { el with v := some (value.take 24) })
        (show _ = (editor.objects id).part from rfl)
      exact typed.beside rfl rfl rfl
    · exact .refl editor

/-- Shifting elements. -/
theorem shift_alike (dx dy : Int) (targets : List (Nat × Int × Int)) :
    editor.Alike (editor.shift dx dy targets).1 := by
  unfold shift
  generalize false = changed
  induction targets generalizing editor changed with
  | nil => exact .refl editor
  | cons target targets previous =>
    rw [List.foldl_cons]
    dsimp only
    split
    · exact previous changed
    · exact (update_alike target.1 _ rfl).trans (previous true)

/-- Moving the pointer. -/
theorem pointerMove_alike (kept : editor.Kept) (ctx : Context) (lx ly : Rat) :
    editor.Alike (editor.pointerMove ctx lx ly) := by
  unfold pointerMove
  split
  · exact .refl editor
  next corner id b0 moved held =>
    have within := kept.objects id
    have resized : (clampElement (resizeTo ctx corner b0 lx ly (editor.objects id)).1).part =
        (editor.objects id).part := by
      obtain ⟨x, y, w, s, k, same⟩ := resizeTo_resized ctx corner b0 lx ly (editor.objects id)
      rw [same]
      exact clampElement_part within.di within.fk
    dsimp only
    split
    · have changed := update_alike id
        (fun _ => clampElement (resizeTo ctx corner b0 lx ly (editor.objects id)).1) resized
      exact changed.beside rfl rfl rfl
    · exact .refl editor
  next id startLX startLY idxs starts moved held =>
    dsimp only
    split
    · exact .refl editor
    · split
      · exact .refl editor
      · split
        · exact (shift_alike _ _ _).beside rfl rfl rfl
        · exact .refl editor

/-- Pressing the pointer. -/
theorem pointerDown_alike (ctx : Context) (lx ly cssPitch : Rat) :
    editor.Alike (editor.pointerDown ctx lx ly cssPitch) := by
  unfold pointerDown
  dsimp only
  split
  · exact .refl editor
  · split
    · exact ⟨rfl, rfl, fun _ => rfl⟩
    · split <;> exact ⟨rfl, rfl, fun _ => rfl⟩

/-- Releasing the pointer. -/
theorem pointerUp_alike (now : Nat) : editor.Alike (editor.pointerUp now) := by
  unfold pointerUp
  split
  · exact .refl editor
  · dsimp only
    split
    · split <;> exact ⟨rfl, rfl, fun _ => rfl⟩
    · exact ⟨rfl, rfl, fun _ => rfl⟩

/-- Posting the working layout. -/
theorem save_alike : editor.Alike editor.save.1 := by
  unfold save
  split
  · exact .refl editor
  · split <;> exact ⟨rfl, rfl, fun _ => rfl⟩

/-- A failure of a request. -/
theorem failed_alike (position : Nat) :
    editor.Alike (editor.finish position fun editor => editor.failed) := by
  unfold finish
  split
  · exact .refl editor
  next request _ => cases request <;> exact ⟨rfl, rfl, fun _ => rfl⟩

/-! ## Adding, removing and splitting -/

/-- Adding elements whose parts go with those of the working layout. -/
theorem push_follows (shaped : editor.Shaped) {els : List Element}
    (goes : Grouped (editor.parts ++ els.map Element.part)) : editor.Follows (editor.push els) := by
  unfold push
  split
  · exact shaped.beside rfl rfl rfl
  · have old {id : Nat} (made : id < editor.next) :
        (editor.allocate els).objects id = editor.objects id := if_neg (by omega)
    have new : (editor.fresh els).map (editor.allocate els).objects = els := by
      refine List.ext_getElem (by simp [fresh]) fun position _ inside => ?_
      simp only [fresh, allocate, List.getElem_map, List.getElem_range', Nat.one_mul,
        Nat.le_add_right, if_true, Nat.add_sub_cancel_left, List.getElem?_eq_getElem inside,
        Option.getD_some]
    refine ⟨⟨?_, ?_⟩, Nat.le_add_right _ _, ?_⟩
    · intro id member
      rcases List.mem_append.mp member with earlier | added
      · exact Nat.lt_add_right _ (shaped.known id earlier)
      · exact (List.mem_range'_1.mp added).2
    · have appended : (editor.working ++ editor.fresh els).map (editor.allocate els).objects =
          editor.elements ++ els := by
        rw [List.map_append, new]
        exact congrArg (· ++ els) (List.map_congr_left fun id member =>
          old (shaped.known id member))
      show Grouped (((editor.working ++ editor.fresh els).map
        (editor.allocate els).objects).map Element.part)
      rw [appended, List.map_append]
      exact goes
    · intro id made still
      exact (congrArg isConnectedDep (old made)).symm.trans still

/-- Removing the elements that move with one of them. -/
theorem remove_follows (shaped : editor.Shaped) {idxs : List Nat}
    (uniform : ∀ di,
      (∀ (position : Nat) (part : Part), editor.parts[position]? = some part → part.InSlot di →
        part.connected = true → position ∈ idxs) ∨
      ∀ (position : Nat) (part : Part), editor.parts[position]? = some part → part.InSlot di →
        part.connected = true → position ∉ idxs) : editor.Follows (editor.remove idxs) where
  shaped :=
    { known := fun id member => shaped.known id ((dropAt_sublist idxs editor.working).mem member)
      grouped := by
        have left : (editor.remove idxs).parts = dropAt idxs editor.parts := by
          show ((dropAt idxs editor.working).map editor.objects).map Element.part = _
          rw [map_dropAt, map_dropAt]
          rfl
        rw [left]
        exact shaped.grouped.dropAt uniform }
  next := Nat.le_refl _
  connected _ _ still := still

/-- Setting split flags changes the objects they are set on. -/
theorem splitAll_eq (ids : List Nat) :
    ids.foldl (fun editor member =>
      editor.update member fun el => { el with sp := some true }) editor =
    { editor with
      objects := fun id =>
        if id ∈ ids then { editor.objects id with sp := some true } else editor.objects id } := by
  induction ids generalizing editor with
  | nil => simp
  | cons member ids previous =>
    rw [List.foldl_cons, previous]
    simp only [update, Editor.mk.injEq, and_true]
    funext id
    by_cases here : id = member
    · simp [here]
    · simp [here]

/-- The object at a position is an element. -/
theorem elements_getElem? {i id : Nat} (found : editor.working[i]? = some id) :
    editor.elements[i]? = some (editor.objects id) := by
  rw [elements, List.getElem?_map, found]
  rfl

/-- The group of a connected element holds the connected fields of its slot. -/
theorem mem_group_of_connected {i id other : Nat} (found : editor.working[i]? = some id)
    (connected : isConnectedDep (editor.objects id) = true) (member : other ∈ editor.working) :
    other ∈ (groupIdx editor.elements i).filterMap (editor.working[·]?) ↔
      isConnectedDep (editor.objects other) = true ∧
        (editor.objects other).di.toInt32 = (editor.objects id).di.toInt32 := by
  simp only [groupIdx, elements_getElem? found, connected, if_true, List.mem_filterMap,
    List.mem_filter, List.mem_range]
  constructor
  · rintro ⟨position, ⟨-, moves⟩, there⟩
    rwa [elements_getElem? there, Option.any_some, Bool.and_eq_true, beq_iff_eq] at moves
  · intro moves
    obtain ⟨position, there⟩ := List.getElem?_of_mem member
    have element := elements_getElem? there
    refine ⟨position, ⟨(List.getElem?_eq_some_iff.mp element).1, ?_⟩, there⟩
    rwa [element, Option.any_some, Bool.and_eq_true, beq_iff_eq]

/-- Any other element is a group of its own. -/
theorem group_of_unconnected {i id : Nat} (found : editor.working[i]? = some id)
    (unconnected : isConnectedDep (editor.objects id) = false) :
    (groupIdx editor.elements i).filterMap (editor.working[·]?) = [id] := by
  simp [groupIdx, elements_getElem? found, unconnected, found]

/-- Splitting the group of an element. -/
theorem splitGroup_follows (shaped : editor.Shaped) (id : Nat) :
    editor.Follows (editor.splitGroup id) := by
  unfold splitGroup
  split
  · exact shaped.beside rfl rfl rfl
  next i found =>
    rw [splitAll_eq]
    generalize members : (groupIdx editor.elements i).filterMap (editor.working[·]?) = ids
    obtain ⟨inside, first, -⟩ := List.idxOf?_eq_some_iff.mp found
    have here : editor.working[i]? = some id := by rw [List.getElem?_eq_getElem inside, first]
    refine ⟨⟨shaped.known, ?_⟩, Nat.le_refl _, ?_⟩
    · show Grouped (parts _)
      rw [parts_eq]
      cases connected : isConnectedDep (editor.objects id) with
      | true =>
        have same : (editor.working.map fun other => (if other ∈ ids then
            { editor.objects other with sp := some true } else editor.objects other).part) =
              editor.parts.map (Part.split (editor.objects id).di.toInt32) := by
          rw [parts_eq, List.map_map]
          refine List.map_congr_left fun other member => ?_
          have moves := mem_group_of_connected here connected member
          rw [members] at moves
          have slot : ((editor.objects other).part.connected = true ∧
              (editor.objects other).part.di = (editor.objects id).di.toInt32) ↔ other ∈ ids :=
            moves.symm
          simp only [Function.comp_apply, Part.split, slot]
          split
          · simp [Element.part, isConnectedDep]
          · rfl
        exact same ▸ shaped.grouped.split _
      | false =>
        have same : (editor.working.map fun other => (if other ∈ ids then
            { editor.objects other with sp := some true } else editor.objects other).part) =
              editor.parts := by
          rw [group_of_unconnected here connected] at members
          rw [parts_eq, ← members]
          refine List.map_congr_left fun other _ => ?_
          split
          next alone =>
            rw [List.mem_singleton.mp alone]
            simp only [Element.part, connected, Part.mk.injEq, true_and]
            simp [isConnectedDep]
          · rfl
        exact same ▸ shaped.grouped
    · intro other _ still
      by_cases member : other ∈ ids
      · simp [mutated, member, isConnectedDep] at still
      · simpa [mutated, member] using still

/-! ## Events -/

/-- Adding a departure. -/
theorem addDeparture_follows (shaped : editor.Shaped) : editor.Follows editor.addDeparture := by
  unfold addDeparture
  split
  · exact shaped.beside rfl rfl rfl
  next di free =>
    have slot : di = 0 ∨ di = 1 ∨ di = 2 := by
      have member := List.mem_of_find?_eq_some free
      simpa using member
    have unused : ∀ part ∈ editor.parts, ¬part.InSlot di := by
      rintro part member ⟨departure, here⟩
      obtain ⟨el, inside, rfl⟩ := List.mem_map.mp member
      have none := List.find?_some free
      rw [Bool.not_eq_true', List.any_eq_false] at none
      refine none el inside ?_
      rw [Bool.and_eq_true, beq_iff_eq, beq_iff_eq]
      exact ⟨departure, here⟩
    have fields : ((makeDeparture di).map clampElement).map Element.part =
        [⟨1, di, 0, true⟩, ⟨1, di, 1, true⟩, ⟨1, di, 2, true⟩] := by
      rcases slot with rfl | rfl | rfl <;> decide
    refine push_follows shaped ?_
    rw [fields]
    exact shaped.grouped.append_departure unused

/-- Adding another element. -/
theorem addElement_follows (shaped : editor.Shaped) (template : Template) :
    editor.Follows (editor.addElement template) := by
  have other : (clampElement (makeElement template)).part.t ≠ 1 := by
    cases template <;> decide
  exact push_follows shaped (shaped.grouped.append_other other)

/-- Deleting. -/
theorem delete_follows (shaped : editor.Shaped) : editor.Follows editor.delete := by
  unfold delete
  split
  next i id selected current =>
    split
    · exact shaped.beside rfl rfl rfl
    next unconnected =>
      have found : editor.working[i]? = some id := by
        rwa [cur, selected, Option.bind_some] at current
      have alone : groupIdx editor.elements i = [i] := by
        simp [groupIdx, elements_getElem? found, unconnected]
      exact remove_follows shaped (alone ▸ groupIdx_uniform editor.elements i)
  · exact shaped.beside rfl rfl rfl

/-- Confirming the dialog. -/
theorem confirmYes_follows (shaped : editor.Shaped) : editor.Follows editor.confirmYes := by
  have hidden : editor.hideConfirm.Shaped := ⟨shaped.known, shaped.grouped⟩
  unfold confirmYes
  dsimp only
  split
  · exact shaped.beside rfl rfl rfl
  · exact shaped.beside rfl rfl rfl
  · have removed : editor.hideConfirm.Follows (editor.hideConfirm.remove
        (editor.hideConfirm.sel.elim [] (groupIdx editor.hideConfirm.elements))) := by
      refine remove_follows hidden fun di => ?_
      cases editor.hideConfirm.sel with
      | none => exact .inr fun position _ _ _ _ member => absurd member List.not_mem_nil
      | some i => exact groupIdx_uniform editor.hideConfirm.elements i di
    exact ⟨removed.shaped, removed.next, removed.connected⟩
  next id _ =>
    have split := splitGroup_follows hidden id
    exact ⟨split.shaped, split.next, split.connected⟩
  · exact shaped.beside rfl rfl rfl

/-- An event that puts another layout into the working one. -/
def Loads (editor : Editor) : Event → Prop
  | .openEditor => True
  | .answered position _ => editor.pending[position]? = some .opened
  | _ => False

/-- An answer that loads nothing. -/
theorem answered_follows (shaped : editor.Shaped) {position : Nat} (served : Option Layout)
    (edits : editor.pending[position]? ≠ some .opened) :
    editor.Follows (editor.finish position fun editor => editor.answered served) := by
  unfold finish
  split
  · exact shaped.beside rfl rfl rfl
  next request found =>
    cases request with
    | boot => exact shaped.beside rfl rfl rfl
    | opened => exact absurd found edits
    | save objects => exact shaped.beside rfl rfl rfl
    | apply => exact shaped.beside rfl rfl rfl
    | clear => exact ⟨⟨fun id member => absurd member List.not_mem_nil, .nil⟩, Nat.le_refl _,
        fun _ _ still => still⟩

/-- Every event that loads nothing. -/
theorem step_follows (shaped : editor.Shaped) (kept : editor.Kept) (event : Event)
    (edits : ¬editor.Loads event) : editor.Follows (editor.step event).1 := by
  cases event with
  | openEditor => exact absurd trivial edits
  | cancel =>
    simp only [step, cancelEditor]
    split <;> exact shaped.beside rfl rfl rfl
  | escape =>
    simp only [step, escape, cancelEditor]
    split
    · exact shaped.beside rfl rfl rfl
    · split
      · exact shaped.beside rfl rfl rfl
      · split <;> exact shaped.beside rfl rfl rfl
  | addDeparture => exact addDeparture_follows shaped
  | addElement template => exact addElement_follows shaped template
  | inputText value => exact (inputText_alike value).follows shaped
  | chooseSegment segment v =>
    refine (change_alike fun id => ?_).follows shaped
    have within := kept.objects id
    cases segment <;> exact clampElement_part within.di within.fk
  | chooseSwatch c => exact (change_alike fun id => rfl).follows shaped
  | inputColor rgb => exact (change_alike fun id => rfl).follows shaped
  | nudge axis up =>
    cases axis <;> exact (change_alike fun id => rfl).follows shaped
  | enter axis value =>
    cases axis <;> exact (change_alike fun id => rfl).follows shaped
  | deselect => exact shaped.beside rfl rfl rfl
  | delete => exact delete_follows shaped
  | split =>
    simp only [step, split]
    split
    · exact shaped.beside rfl rfl rfl
    · split <;> exact shaped.beside rfl rfl rfl
  | confirmYes => exact confirmYes_follows shaped
  | confirmNo => exact shaped.beside rfl rfl rfl
  | pointerDown ctx lx ly cssPitch => exact (pointerDown_alike ctx lx ly cssPitch).follows shaped
  | pointerMove ctx lx ly => exact (pointerMove_alike kept ctx lx ly).follows shaped
  | pointerUp now => exact (pointerUp_alike now).follows shaped
  | pointerCancel => exact shaped.beside rfl rfl rfl
  | save => exact save_alike.follows shaped
  | clear => exact shaped.beside rfl rfl rfl
  | answered position served => exact answered_follows shaped served edits
  | failed position => exact (failed_alike position).follows shaped

/-- Any number of events that load nothing. -/
theorem run_follows {events : List Event} (shaped : editor.Shaped) (kept : editor.Kept)
    (edits : Machine.Along step (fun editor event => ¬editor.Loads event) editor events) :
    editor.Follows (Machine.run step editor events).1 := by
  induction events generalizing editor with
  | nil => exact shaped.beside rfl rfl rfl
  | cons event events previous =>
    have first := step_follows shaped kept event edits.1
    have rest := previous first.shaped (step_kept kept event) edits.2
    exact ⟨rest.shaped, Nat.le_trans first.next rest.next, fun id made still =>
      first.connected id made (rest.connected id (Nat.lt_of_lt_of_le made first.next) still)⟩

end Steps

/-- The structure of a layout made from nothing. -/
structure Structured (els : List Element) : Prop where
  /-- It has few elements. -/
  few : els.length ≤ maxElements
  /-- Its departure fields are in at most three slots. -/
  slots : ((els.filter fun el => el.t.toInt32 = 1).map fun el => el.di.toInt32).dedup.length ≤ 3
  /-- Its departure fields fall into slots. -/
  grouped : Grouped (els.map Element.part)
  /-- Each element is as the clamp leaves it. -/
  clamped : ∀ el ∈ els, clampElement el = el

/-- A kept editor whose working layout is shaped has a structured one. -/
theorem structured {editor : Editor} (kept : editor.Kept) (shaped : editor.Shaped) :
    Structured editor.elements where
  few := by
    rw [elements, List.length_map]
    exact kept.few
  slots := by
    have range : ((editor.elements.filter fun el => el.t.toInt32 = 1).map
        fun el => el.di.toInt32).dedup ⊆ [0, 1, 2] := by
      intro di member
      obtain ⟨el, inside, rfl⟩ := List.mem_map.mp (List.mem_dedup.mp member)
      obtain ⟨id, -, rfl⟩ := List.mem_map.mp (List.mem_filter.mp inside).1
      obtain ⟨n, held, low, high⟩ := (kept.objects id).di
      have small : n = 0 ∨ n = 1 ∨ n = 2 := by omega
      rw [held]
      rcases small with rfl | rfl | rfl <;> decide
    exact ((List.nodup_dedup _).subperm range).length_le
  grouped := shaped.grouped
  clamped el member := by
    obtain ⟨id, -, rfl⟩ := List.mem_map.mp member
    exact clampElement_of_kept (kept.objects id)

/-- From the empty layout on, whatever happens to the editor but loading a layout leaves the
working layout structured, and no field that was split is ever connected again. -/
theorem structure_kept (history earlier later : List Event)
    (empty : (Machine.run step start history).1.working = [])
    (edits : Machine.Along step (fun editor event => ¬editor.Loads event)
      (Machine.run step start history).1 (earlier ++ later)) :
    let before := (Machine.run step (Machine.run step start history).1 earlier).1
    let after := (Machine.run step before later).1
    Structured after.elements ∧
      ∀ id ∈ before.working, isConnectedDep (before.objects id) = false →
        isConnectedDep (after.objects id) = false := by
  intro before after
  have kept := run_kept history
  have shaped : (Machine.run step start history).1.Shaped := by
    refine ⟨?_, ?_⟩
    · rw [empty]
      exact fun id member => absurd member List.not_mem_nil
    · rw [parts_eq, empty]
      exact .nil
  rw [Machine.along_append] at edits
  have opened := run_follows shaped kept edits.1
  have beforeKept : before.Kept := @Machine.run_invariant _ _ _ step Kept earlier
    (fun event _ _ kept => step_kept kept event) _ kept
  have afterKept : after.Kept := @Machine.run_invariant _ _ _ step Kept later
    (fun event _ _ kept => step_kept kept event) _ beforeKept
  have changed := run_follows opened.shaped beforeKept edits.2
  refine ⟨structured afterKept changed.shaped, fun id member split => ?_⟩
  cases still : isConnectedDep (after.objects id) with
  | false => rfl
  | true =>
    have connected := changed.connected id (opened.shaped.known id member) still
    rw [split] at connected
    cases connected

/-- A departure is added and split, and another is added: the fields of the first stay split. -/
theorem structure_kept_split :
    let before := (Machine.run step (Machine.run step start []).1
      [.addDeparture, .split, .confirmYes]).1
    let after := (Machine.run step before [.addDeparture, .nudge .x true]).1
    before.working.length = 3 ∧ Structured after.elements ∧
      ∀ id ∈ before.working, isConnectedDep (after.objects id) = false := by
  have kept := structure_kept [] [.addDeparture, .split, .confirmYes]
    [.addDeparture, .nudge .x true] rfl (by simp [Machine.Along, Loads])
  refine ⟨by decide +kernel, kept.1, fun id member => kept.2 id member ?_⟩
  revert id
  decide +kernel

end Editor

end Zugli.Web
