import Zugli.Verif.Editor.Posted

/-!
# What the editor saves and the firmware accepts

In every state the editor can reach, the firmware takes the body of a save unchanged exactly when
every text fits its string, every colour its 24 bits and the body its buffer. The check of the save
does not see to it: it counts code units, where the firmware counts bytes.
-/

namespace Zugli.Web

open Js (Str)
open Serde

/-! ## Acceptance -/

/-- A text that the firmware holds fits. -/
theorem textFits_of_represents {el : Element} {held : Zugli.Element}
    (represents : Parity.Represents el held) : ∀ text ∈ el.v, TextFits text := by
  intro text found
  have same : text = Utf16.encode held.v.chars := by
    have literal := represents.v
    rwa [show el.v = some text from found, Option.getD_some] at literal
  have bytes := held.v.fits
  rw [Json.utf8ByteSize_eq] at bytes
  subst same
  refine ⟨Utf16.wellFormed_encode _, ?_⟩
  rw [Utf16.decode_encode]
  exact bytes

/-- A colour that clamping leaves as it is fits. -/
theorem colorFits_of_represents {el : Element} {held : Zugli.Element}
    (represents : Parity.Represents el held) (clamped : held.sanitize = held) :
    ColorFits el.col := by
  have masked : held.col.map (· &&& 0x00FFFFFF) = held.col := congrArg Zugli.Element.col clamped
  have denotes := represents.col
  cases colour : held.col with
  | none =>
    rw [colour] at denotes
    rcases denotes with absent | absent <;> rw [absent] <;> trivial
  | some rgb =>
    rw [colour] at denotes
    rw [colour, Option.map_some, Option.some.injEq] at masked
    have bound : (rgb &&& 0x00FFFFFF).toNat ≤ 0xffffff := by
      rw [UInt32.toNat_and]
      exact Nat.and_le_right
    rw [masked] at bound
    rw [show el.col = .number rgb.toNat from denotes]
    show (rgb.toNat : Int) ≤ 0xffffff
    omega

/-- The elements of a layout that clamping leaves as it is are left as they are. -/
theorem clamped_elements {layout : Layout} (clamped : layout.sanitize = layout) :
    ∀ el ∈ layout.e.val, el.sanitize = el := by
  have items : layout.e.val.map Zugli.Element.sanitize = layout.e.val :=
    congrArg (fun layout => layout.e.val) clamped
  rw [← List.map_id layout.e.val, List.map_map] at items
  exact fun el member => List.map_inj_left.mp items el member

/-- Every element of a clamped layout that the firmware holds fits. -/
theorem fits_of_forall₂ {els : List Element} {held : List Zugli.Element}
    (same : List.Forall₂ Parity.Represents els held) (clamped : ∀ el ∈ held, el.sanitize = el) :
    ∀ el ∈ els, el.Fits := by
  induction same with
  | nil => simp
  | cons first _ previous =>
    rw [List.forall_mem_cons] at clamped ⊢
    exact ⟨⟨textFits_of_represents first, colorFits_of_represents first clamped.1⟩,
      previous clamped.2⟩

section Layouts

variable {serde : SerdeJsonCore} {scratch : Nat} {els : List Element}
  (kept : ∀ el ∈ els, el.Kept)

include kept

/-- A layout that is accepted unchanged is postable. -/
theorem postable_of_accepted
    (accepted : AcceptedUnchanged serde scratch (serializeLayout els) els) : Postable els := by
  obtain ⟨short, layout, -, clamped, -, same⟩ := accepted
  have fits := fits_of_forall₂ same (clamped_elements clamped)
  rw [length_bodyBytes kept fits] at short
  exact ⟨fits, short⟩

/-- A postable layout is accepted unchanged: the firmware reads the counterparts. -/
theorem accepted_of_postable (roomy : maxTextLen ≤ scratch) (few : els.length ≤ maxElements)
    (postable : Postable els) : AcceptedUnchanged serde scratch (serializeLayout els) els := by
  obtain ⟨fits, short⟩ := postable
  have room : (els.map counterpart).length ≤ Zugli.maxElements := by rwa [List.length_map]
  refine ⟨?_, ⟨1, ⟨els.map counterpart, room⟩⟩, ?_, ?_, rfl, ?_⟩
  · rwa [length_bodyBytes kept fits]
  · rw [bodyBytes_serializeLayout kept fits,
      serde.fromSlice_write .lower (postedJson_within roomy _), ofJson_postedJson room]
  · have same : (els.map counterpart).map Zugli.Element.sanitize = els.map counterpart := by
      rw [List.map_map]
      exact List.map_congr_left fun el member =>
        sanitize_counterpart (kept el member) (fits el member).2
    simp only [Layout.sanitize, HVec.map, same]
  · rw [List.forall₂_map_right_iff, List.forall₂_same]
    exact fun el member => represents_counterpart (kept el member) (fits el member).1

end Layouts

/-- Sixteen texts that the firmware could hold, in a body that passes the check of the save. -/
example :
    let el : Element :=
      { clampElement (makeElement .text) with
        x := .number 63, y := .number 63, w := .number 64, s := .number 1, k := .number 3
        c := .number 2, a := .number 2, v := some (Js.units "€€€€€€€€"), col := .number 0xffffff }
    el.Fits ∧ (serializeLayout (List.replicate 16 el)).length ≤ bytesMax ∧
      layoutMaxBytes < layoutBytes (List.replicate 16 el) := by decide +kernel

/-! ## Runs -/

namespace Editor

/-- The elements of a reachable working layout are kept, and few. -/
theorem elements_kept (events : List Event) :
    (∀ el ∈ (Machine.run step start events).1.elements, el.Kept) ∧
      (Machine.run step start events).1.elements.length ≤ maxElements := by
  have kept := run_kept events
  refine ⟨?_, ?_⟩
  · intro el member
    obtain ⟨id, -, rfl⟩ := List.mem_map.mp member
    exact kept.objects id
  · rw [elements, List.length_map]
    exact kept.few

/-- A body that passes the check of the save is the layout serialized. -/
theorem eq_of_saveBody {els : List Element} {body : Str} (posted : saveBody els = some body) :
    body = serializeLayout els := by
  unfold saveBody at posted
  dsimp only at posted
  split at posted
  · cases posted
  · exact (Option.some.inj posted).symm

/-- A layout serialized in few code units passes the check. -/
theorem saveBody_of_le {els : List Element} (short : (serializeLayout els).length ≤ bytesMax) :
    saveBody els = some (serializeLayout els) :=
  if_neg (Nat.not_lt.mpr short)

/-- After any events, when the working layout passes the check of the save, the firmware accepts
the body unchanged exactly when the layout is postable. The scratch buffer of the extractor holds a
text literal. -/
theorem accepted_unchanged_iff (serde : SerdeJsonCore) (scratch : Nat)
    (roomy : maxTextLen ≤ scratch) (events : List Event) {body : Str}
    (posted : saveBody (Machine.run step start events).1.elements = some body) :
    AcceptedUnchanged serde scratch body (Machine.run step start events).1.elements ↔
      Postable (Machine.run step start events).1.elements := by
  obtain ⟨kept, few⟩ := elements_kept events
  rw [eq_of_saveBody posted]
  exact ⟨postable_of_accepted kept, accepted_of_postable kept roomy few⟩

/-- The editor is opened, a text is added and typed over. -/
def typed (text : String) : List Event :=
  [.openEditor, .addElement .text, .inputText (Js.units text)]

/-- A station name with an umlaut is accepted. -/
theorem accepted_unchanged_umlaut :
    let editor := (Machine.run step start (typed "Zürich")).1
    AcceptedUnchanged .reference 32 (serializeLayout editor.elements) editor.elements :=
  (accepted_unchanged_iff .reference 32 (by decide) (typed "Zürich")
    (saveBody_of_le (by decide +kernel))).mpr (by decide +kernel)

/-- A text of as many umlauts as the field takes is posted, but whatever reads the body, the
firmware does not hold it. -/
theorem umlauts_not_accepted :
    let editor := (Machine.run step start (typed "üüüüüüüüüüüüüüüüüüüüüüüü")).1
    let body := serializeLayout editor.elements
    editor.save.2 = some body ∧ body.length = 64 ∧
      ∀ serde scratch, ¬AcceptedUnchanged serde scratch body editor.elements := by
  intro editor body
  have size : body.length = 64 := by decide +kernel
  have short : body.length ≤ bytesMax := by
    rw [size]
    decide
  have dirty : editor.dirty = true := by decide +kernel
  refine ⟨?_, size, ?_⟩
  · rw [save, dirty, saveBody_of_le short]
    rfl
  · intro serde scratch accepted
    have postable := postable_of_accepted (elements_kept _).1 accepted
    exact absurd postable (by decide +kernel)

end Editor

end Zugli.Web
