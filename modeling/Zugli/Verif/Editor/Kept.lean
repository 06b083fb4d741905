import Zugli.Lib.Runs
import Zugli.Web.Editor

/-!
# What the editor keeps

Whatever happens to the editor, every object it holds has its numbers within the ranges of the
clamp, its colour within 32 bits and a text of at most 24 code units, and the working layout has
at most `maxElements` of them.
-/

namespace Zugli.Web

open Js (Str Value)

/-! ## Elements -/

/-- An object whose tag is a byte and whose colour has 32 bits. -/
structure Element.Loadable (el : Element) : Prop where
  /-- The tag. -/
  t : el.t.Between 0 255
  /-- The colour, if there is one. -/
  col : el.col = .undefined ∨ el.col.Between 0 0xffffffff

/-- An object with its properties within the ranges of the clamp. -/
structure Element.Kept (el : Element) : Prop extends el.Loadable where
  /-- The left edge. -/
  x : el.x.Between 0 63
  /-- The top edge. -/
  y : el.y.Between 0 63
  /-- The width. -/
  w : el.w.Between 0 64
  /-- The font. -/
  s : el.s.Between 0 1
  /-- The scale. -/
  k : el.k.Between 1 3
  /-- The preset colour. -/
  c : el.c.Between 0 2
  /-- The alignment. -/
  a : el.a.Between 0 2
  /-- The text. -/
  v : ∀ text ∈ el.v, text.length ≤ 24
  /-- The slot. -/
  di : el.di.Between 0 2
  /-- The field. -/
  fk : el.fk.Between 0 2
  /-- The thickness. -/
  th : el.th.Between 1 2
  /-- The format. -/
  f : el.f.Between 0 1
  /-- The icon. -/
  g : el.g.Between 0 2

/-- A clamped number is within the bounds. -/
theorem clampI_between (v : Int) {lo hi : Int} (ordered : lo ≤ hi) :
    (Value.number (clampI v lo hi)).Between lo hi := by
  refine ⟨_, rfl, ?_⟩
  unfold clampI
  dsimp only
  split
  · omega
  · split <;> omega

/-- Clamping brings every property into its range. -/
theorem clampElement_kept {el : Element} (loadable : el.Loadable) : (clampElement el).Kept where
  toLoadable := ⟨loadable.t, loadable.col⟩
  x := clampI_between _ (by decide)
  y := clampI_between _ (by decide)
  w := clampI_between _ (by decide)
  s := clampI_between _ (by decide)
  k := clampI_between _ (by decide)
  c := clampI_between _ (by decide)
  a := clampI_between _ (by decide)
  v := by
    intro text held
    obtain ⟨longer, -, rfl⟩ := Option.map_eq_some_iff.mp held
    split
    · simp only [List.length_take]
      omega
    · omega
  di := clampI_between _ (by decide)
  fk := clampI_between _ (by decide)
  th := clampI_between _ (by decide)
  f := clampI_between _ (by decide)
  g := clampI_between _ (by decide)

/-- A fresh object with a tag is loadable. -/
theorem ofTag_loadable {t : Int} (byte : 0 ≤ t ∧ t ≤ 255) : (Element.ofTag t).Loadable :=
  ⟨⟨t, rfl, byte⟩, .inl rfl⟩

/-- The templates are loadable. -/
theorem makeElement_loadable (template : Template) : (makeElement template).Loadable := by
  cases template <;> exact ⟨⟨_, rfl, by decide⟩, .inl rfl⟩

/-- The fields of a departure are loadable. -/
theorem makeDeparture_loadable (di : Int) : ∀ el ∈ makeDeparture di, el.Loadable := by
  intro el member
  simp only [makeDeparture, List.mem_cons, List.not_mem_nil, or_false] at member
  rcases member with rfl | rfl | rfl <;> exact ⟨⟨1, rfl, by decide⟩, .inl rfl⟩

/-- A served element is loadable. -/
theorem servedElement_loadable (el : Zugli.Element) : (servedElement el).Loadable := by
  have tag := el.t.toNat_lt
  refine ⟨⟨_, rfl, by omega, by omega⟩, ?_⟩
  unfold servedElement
  cases el.col with
  | none => exact .inl rfl
  | some rgb =>
    have bound := rgb.toNat_lt
    exact .inr ⟨_, rfl, by omega, by omega⟩

/-- A masked colour is loadable. -/
theorem bitAnd_between (n : Int) : (Value.number (Js.bitAnd n 0xffffff)).Between 0 0xffffffff :=
  have bounds := Js.bitAnd_bounds n 0xffffff
  ⟨_, rfl, bounds.1, Int.le_trans bounds.2 (by decide)⟩

/-- A small number stays itself through `| 0`. -/
theorem toInt32_of_between {value : Value} {lo hi : Int} (held : value.Between lo hi)
    (low : 0 ≤ lo) (high : hi < 0x80000000) : value = .number value.toInt32 := by
  obtain ⟨n, rfl, lower, upper⟩ := held
  rw [Value.toInt32, Js.toInt32_of_bounds (by omega) (by omega)]

/-- What is posted of a loadable object is loadable. -/
theorem packElement_loadable {el : Element} (loadable : el.Loadable) :
    (packElement el).Loadable := by
  refine ⟨?_, ?_⟩
  · change (Value.number el.t.toInt32).Between 0 255
    rw [← toInt32_of_between loadable.t (by decide) (by decide)]
    exact loadable.t
  · rcases loadable.col with absent | ⟨n, held, -, -⟩
    · exact .inl (by rw [packElement, absent, maskColor])
    · refine .inr ?_
      rw [packElement, held]
      exact bitAnd_between n

namespace Element

/-- Two objects with the same tag and the same colour. -/
def SameKind (changed el : Element) : Prop := changed.t = el.t ∧ changed.col = el.col

/-- An object of the same kind is as loadable. -/
theorem SameKind.loadable {changed el : Element} (same : changed.SameKind el)
    (loadable : el.Loadable) : changed.Loadable :=
  ⟨same.1 ▸ loadable.t, same.2 ▸ loadable.col⟩

end Element

/-- A segment changes neither tag nor colour. -/
theorem segment_sameKind (segment : Editor.Segment) (v : Int) (el : Element) :
    (segment.apply v el).SameKind el := by
  cases segment <;> exact ⟨rfl, rfl⟩

namespace Element

/-- An object at another place, of another size, font and scale. -/
def Resized (changed el : Element) : Prop :=
  ∃ x y w s k, changed = { el with x := x, y := y, w := w, s := s, k := k }

/-- An object that did not change. -/
theorem Resized.refl (el : Element) : el.Resized el := ⟨_, _, _, _, _, rfl⟩

/-- An object that changed twice. -/
theorem Resized.trans {last changed el : Element} (later : last.Resized changed)
    (earlier : changed.Resized el) : last.Resized el := by
  obtain ⟨x, y, w, s, k, rfl⟩ := later
  obtain ⟨_, _, _, _, _, rfl⟩ := earlier
  exact ⟨x, y, w, s, k, rfl⟩

/-- It keeps its tag and its colour. -/
theorem Resized.sameKind {changed el : Element} (resized : changed.Resized el) :
    changed.SameKind el := by
  obtain ⟨_, _, _, _, _, rfl⟩ := resized
  exact ⟨rfl, rfl⟩

end Element

theorem scaleTo_resized (anchor size : Int × Int) (lx ly : Rat) (el : Element) :
    (scaleTo anchor size lx ly el).1.Resized el := by
  unfold scaleTo
  dsimp only
  split <;> exact ⟨_, _, _, _, _, rfl⟩

theorem widthTo_resized (left : Bool) (anchorX : Int) (lx : Rat) (el : Element) :
    (widthTo left anchorX lx el).1.Resized el := by
  unfold widthTo
  dsimp only
  split
  · split <;> split <;> exact ⟨_, _, _, _, _, rfl⟩
  · exact .refl el

theorem heightTo_resized (top : Bool) (anchorY : Int) (ly : Rat) (el : Element) :
    (heightTo top anchorY ly el).1.Resized el := by
  unfold heightTo
  dsimp only
  split
  · exact .refl el
  · split <;> exact ⟨_, _, _, _, _, rfl⟩

/-- Resizing changes the place, the size, the font and the scale only. -/
theorem resizeTo_resized (ctx : Context) (corner : Corner) (b0 : Box) (lx ly : Rat)
    (el : Element) : (resizeTo ctx corner b0 lx ly el).1.Resized el := by
  unfold resizeTo
  dsimp only
  split
  · exact scaleTo_resized _ _ lx ly el
  · split
    · exact scaleTo_resized _ _ lx ly el
    · exact (heightTo_resized corner.top (corner.anchor b0).2 ly _).trans
        (widthTo_resized corner.left (corner.anchor b0).1 lx el)

/-- A property of an axis is set within its range. -/
theorem axis_kept {el : Element} (kept : el.Kept) (axis : Editor.Axis) (value : Int) :
    (axis.set value el).Kept := by
  cases axis with
  | x => exact { kept with x := clampI_between _ (by decide) }
  | y => exact { kept with y := clampI_between _ (by decide) }
  | w => exact { kept with w := clampI_between _ (by decide) }

/-- A normalized layout is kept, if its objects are loadable. -/
theorem normalizeLayout_kept {elements : Option (List Element)}
    (loadable : ∀ els ∈ elements, ∀ el ∈ els, el.Loadable) :
    ∀ el ∈ normalizeLayout elements, el.Kept := by
  intro el member
  obtain ⟨other, taken, rfl⟩ := List.mem_map.mp member
  have inside := List.mem_of_mem_take taken
  cases elements with
  | none => simp at inside
  | some els => exact clampElement_kept (loadable els rfl other inside)

/-- A normalized layout has few elements. -/
theorem normalizeLayout_length (elements : Option (List Element)) :
    (normalizeLayout elements).length ≤ maxElements := by
  rw [normalizeLayout, List.length_map, List.length_take]
  omega

/-- What the board serves is loadable. -/
theorem servedElements_loadable (served : Option Layout) :
    ∀ els ∈ servedElements served, ∀ el ∈ els, el.Loadable := by
  intro els held el member
  obtain ⟨layout, -, rfl⟩ := Option.map_eq_some_iff.mp held
  obtain ⟨other, -, rfl⟩ := List.mem_map.mp member
  exact servedElement_loadable other

/-! ## The editor -/

namespace Editor

/-- What holds of the editor after any events. -/
structure Kept (editor : Editor) : Prop where
  /-- Every object is within its ranges. -/
  objects : ∀ id, (editor.objects id).Kept
  /-- So is the saved layout. -/
  saved : ∀ el ∈ editor.savedLayout, el.Kept
  /-- The saved layout has few elements. -/
  savedFew : editor.savedLayout.length ≤ maxElements
  /-- The working layout has few elements. -/
  few : editor.working.length ≤ maxElements
  /-- What was posted can be loaded again. -/
  pending : ∀ objects, .save objects ∈ editor.pending → ∀ el ∈ objects, el.Loadable

/-- The page as it is loaded. -/
theorem start_kept : start.Kept where
  objects _ := clampElement_kept (ofTag_loadable (by decide))
  saved := by simp [start]
  savedFew := Nat.zero_le _
  few := Nat.zero_le _
  pending := by simp [start]

section Steps

variable {editor : Editor} (kept : editor.Kept)

include kept

/-- Marking the layout as changed. -/
theorem mutated_kept : editor.mutated.Kept := { kept with }

/-- Changing an object to a kept one. -/
theorem update_kept (id : Nat) (change : Element → Element)
    (within : (editor.objects id).Kept → (change (editor.objects id)).Kept) :
    (editor.update id change).Kept where
  objects other := by
    unfold update
    dsimp only
    split
    · exact within (kept.objects id)
    · exact kept.objects other
  saved := kept.saved
  savedFew := kept.savedFew
  few := kept.few
  pending := kept.pending

/-- Making kept objects. -/
theorem allocate_kept {els : List Element} (within : ∀ el ∈ els, el.Kept) :
    (editor.allocate els).Kept where
  objects id := by
    unfold allocate
    dsimp only
    split
    · cases found : els[id - editor.next]? with
      | none => exact kept.objects id
      | some el => exact within el (List.mem_of_getElem? found)
    · exact kept.objects id
  saved := kept.saved
  savedFew := kept.savedFew
  few := kept.few
  pending := kept.pending

/-- Copying the saved layout. -/
theorem reload_kept : editor.reload.Kept :=
  { allocate_kept kept kept.saved with
    few := by simpa [reload, fresh] using kept.savedFew }

/-- Adding elements. -/
theorem push_kept {els : List Element} (within : ∀ el ∈ els, el.Kept) : (editor.push els).Kept := by
  unfold push
  split
  · exact kept
  next room =>
    exact
      { allocate_kept kept within with
        few := by
          simp only [mutated, fresh, List.length_append, List.length_range']
          omega }

/-- Changing the selected element. -/
theorem change_kept {apply : Element → Element} (within : ∀ el : Element, el.Kept → (apply el).Kept) :
    (editor.change apply).Kept := by
  unfold change
  split
  · exact kept
  · exact mutated_kept (update_kept kept _ apply (within _))

/-- Removing elements. -/
theorem remove_kept (idxs : List Nat) : (editor.remove idxs).Kept :=
  { kept with
    few := by
      have fewer := List.length_filterMap_le (editor.working[·]?)
        ((List.range editor.working.length).filter (· ∉ idxs))
      have few := kept.few
      have chosen := List.length_filter_le (· ∉ idxs) (List.range editor.working.length)
      rw [List.length_range] at chosen
      simp only [remove, mutated]
      omega }

/-- Setting split flags. -/
theorem split_kept (ids : List Nat) :
    (ids.foldl (fun editor member =>
      editor.update member fun el => { el with sp := some true }) editor).Kept := by
  induction ids generalizing editor with
  | nil => exact kept
  | cons id ids previous => exact previous (update_kept kept id _ fun within => { within with })

/-- Shifting elements. -/
theorem shift_kept (dx dy : Int) (targets : List (Nat × Int × Int)) :
    (editor.shift dx dy targets).1.Kept := by
  unfold shift
  generalize false = changed
  induction targets generalizing editor changed with
  | nil => exact kept
  | cons target targets previous =>
    rw [List.foldl_cons]
    dsimp only
    split
    · exact previous kept _
    · exact previous (update_kept kept target.1 _ fun within =>
        { within with x := clampI_between _ (by decide), y := clampI_between _ (by decide) }) _

/-- Typing a text. -/
theorem inputText_kept (value : Str) : (editor.inputText value).Kept := by
  unfold inputText
  split
  · exact kept
  next id chosen =>
    split
    · have short : ∀ el : Element, el.Kept → { el with v := some (value.take 24) }.Kept := by
        intro el within
        refine { within with v := ?_ }
        rintro text ⟨⟩
        rw [List.length_take]
        omega
      exact mutated_kept (update_kept kept id _ (short _))
    · exact kept

/-- Deleting. -/
theorem delete_kept : editor.delete.Kept := by
  unfold delete
  split
  · split
    · exact { kept with }
    · exact remove_kept kept _
  · exact kept

/-- Confirming the dialog. -/
theorem confirmYes_kept : editor.confirmYes.Kept := by
  have hidden : editor.hideConfirm.Kept := { kept with }
  unfold confirmYes
  dsimp only
  split
  · exact hidden
  · exact { hidden with }
  · exact remove_kept hidden _
  · unfold splitGroup
    split
    · exact hidden
    · exact mutated_kept (split_kept hidden _)
  · exact
      { hidden with
        pending := by
          intro objects held
          rcases List.mem_append.mp held with earlier | ⟨⟨⟩⟩ | ⟨_, ⟨⟩⟩
          exact hidden.pending objects earlier }

/-- Pressing the pointer. -/
theorem pointerDown_kept (ctx : Context) (lx ly cssPitch : Rat) :
    (editor.pointerDown ctx lx ly cssPitch).Kept := by
  unfold pointerDown
  dsimp only
  split
  · exact kept
  · split
    · exact { kept with }
    · split <;> exact { kept with }

/-- Moving the pointer. -/
theorem pointerMove_kept (ctx : Context) (lx ly : Rat) : (editor.pointerMove ctx lx ly).Kept := by
  unfold pointerMove
  split
  · exact kept
  next corner id b0 moved held =>
    have kind := (resizeTo_resized ctx corner b0 lx ly (editor.objects id)).sameKind
    dsimp only
    split
    · exact
        { update_kept kept id
            (fun _ => clampElement (resizeTo ctx corner b0 lx ly (editor.objects id)).1)
            fun within => clampElement_kept (kind.loadable within.toLoadable) with }
    · exact kept
  next id startLX startLY idxs starts moved held =>
    dsimp only
    split
    · exact kept
    · split
      · exact kept
      · split
        · exact { shift_kept kept _ _ _ with }
        · exact kept

/-- Releasing the pointer. -/
theorem pointerUp_kept (now : Nat) : (editor.pointerUp now).Kept := by
  unfold pointerUp
  split
  · exact kept
  · dsimp only
    split
    · split <;> exact { kept with }
    · exact { kept with }

/-- Waiting for one more request that is no save. -/
theorem wait_kept (request : Pending) (other : ∀ objects, request ≠ .save objects) :
    { editor with pending := editor.pending ++ [request] }.Kept :=
  { kept with
    pending := by
      intro objects held
      rcases List.mem_append.mp held with earlier | last
      · exact kept.pending objects earlier
      · exact absurd (List.mem_singleton.mp last).symm (other objects) }

/-- Posting the working layout. -/
theorem save_kept : editor.save.1.Kept := by
  unfold save
  split
  · exact kept
  · split
    · exact kept
    · refine { kept with pending := ?_ }
      intro objects held el member
      rcases List.mem_append.mp held with earlier | last
      · exact kept.pending objects earlier el member
      · obtain rfl : objects = editor.elements.map packElement :=
          Pending.save.inj (List.mem_singleton.mp last)
        obtain ⟨other, inside, rfl⟩ := List.mem_map.mp member
        obtain ⟨id, -, rfl⟩ := List.mem_map.mp inside
        exact packElement_loadable (kept.objects id).toLoadable

/-- Loading a layout. -/
theorem load_kept {elements : Option (List Element)}
    (loadable : ∀ els ∈ elements, ∀ el ∈ els, el.Loadable) :
    { editor with savedLayout := normalizeLayout elements }.Kept :=
  { kept with
    saved := normalizeLayout_kept loadable
    savedFew := normalizeLayout_length elements }

/-- An answer to a request whose objects are loadable. -/
theorem answered_kept (served : Option Layout) {request : Pending}
    (loadable : ∀ objects, request = .save objects → ∀ el ∈ objects, el.Loadable) :
    (editor.answered served request).Kept := by
  cases request with
  | boot => exact load_kept kept (servedElements_loadable served)
  | opened =>
    unfold answered
    dsimp only
    split
    · exact kept
    · exact reload_kept (load_kept kept (servedElements_loadable served))
  | save objects =>
    have posted : ∀ els ∈ some objects, ∀ el ∈ els, el.Loadable := by
      rintro els ⟨⟩
      exact loadable objects rfl
    exact { wait_kept (load_kept kept posted) .apply (by simp) with }
  | apply => exact { kept with }
  | clear =>
    exact
      { kept with
        saved := by simp [answered]
        savedFew := Nat.zero_le _
        few := Nat.zero_le _ }

/-- A failure of a request. -/
theorem failed_kept (request : Pending) : (editor.failed request).Kept := by
  cases request <;> exact { kept with }

/-- Finishing a request. -/
theorem finish_kept {position : Nat} {rest : Editor → Pending → Editor}
    (rests : ∀ editor request, editor.Kept →
      (∀ objects, request = .save objects → ∀ el ∈ objects, el.Loadable) →
        (rest editor request).Kept) : (editor.finish position rest).Kept := by
  unfold finish
  split
  · exact kept
  next request found =>
    have fewer : { editor with pending := editor.pending.eraseIdx position }.Kept :=
      { kept with
        pending := fun objects held => kept.pending objects (List.mem_of_mem_eraseIdx held) }
    refine rests _ request fewer ?_
    rintro objects rfl
    exact kept.pending objects (List.mem_of_getElem? found)

/-- Every event keeps it. -/
theorem step_kept (event : Event) : (editor.step event).1.Kept := by
  cases event with
  | openEditor => exact { wait_kept (reload_kept kept) .opened (by simp) with }
  | cancel =>
    simp only [step, cancelEditor]
    split <;> exact { kept with }
  | escape =>
    simp only [step, escape, cancelEditor]
    split
    · exact kept
    · split
      · exact { kept with }
      · split <;> exact { kept with }
  | addDeparture =>
    simp only [step, addDeparture]
    split
    · exact kept
    next di free =>
      refine push_kept kept fun el member => ?_
      obtain ⟨other, inside, rfl⟩ := List.mem_map.mp member
      exact clampElement_kept (makeDeparture_loadable di other inside)
  | addElement template =>
    refine push_kept kept fun el member => ?_
    obtain rfl := List.mem_singleton.mp member
    exact clampElement_kept (makeElement_loadable template)
  | inputText value => exact inputText_kept kept value
  | chooseSegment segment v =>
    exact change_kept kept fun el within =>
      clampElement_kept ((segment_sameKind segment v el).loadable within.toLoadable)
  | chooseSwatch c =>
    exact change_kept kept fun el within =>
      { within with col := .inl rfl, c := ⟨_, rfl, by omega, by omega⟩ }
  | inputColor rgb =>
    exact change_kept kept fun el within =>
      { within with col := .inr (bitAnd_between rgb) }
  | nudge axis up => exact change_kept kept fun el within => axis_kept within axis _
  | enter axis value => exact change_kept kept fun el within => axis_kept within axis value
  | deselect => exact { kept with }
  | delete => exact delete_kept kept
  | split =>
    simp only [step, split]
    split
    · exact kept
    · split <;> exact { kept with }
  | confirmYes => exact confirmYes_kept kept
  | confirmNo => exact { kept with }
  | pointerDown ctx lx ly cssPitch => exact pointerDown_kept kept ctx lx ly cssPitch
  | pointerMove ctx lx ly => exact pointerMove_kept kept ctx lx ly
  | pointerUp now => exact pointerUp_kept kept now
  | pointerCancel => exact { kept with }
  | save => exact save_kept kept
  | clear => exact { kept with }
  | answered position served =>
    exact finish_kept kept fun _ _ kept loadable => answered_kept kept served loadable
  | failed position => exact finish_kept kept fun _ request kept _ => failed_kept kept request

end Steps

/-- So does a run. -/
theorem run_kept (events : List Event) : (Machine.run step start events).1.Kept :=
  @Machine.run_invariant _ _ _ step Kept events (fun event _ _ kept => step_kept kept event)
    start start_kept

end Editor

end Zugli.Web
