import Zugli.Firmware.Display.Render
import Zugli.Verif.Editor.Resaved
import Zugli.Verif.Parity.Layout
import Zugli.Verif.Render.Uniform
import Zugli.Verif.Storage

/-!
# What was edited is what is shown

A layout goes from the editor through the body of a request, the clamp, the record in flash and the
boot to the panel. A draft is shown while its preview is live, a saved layout until another is
saved, over any other requests and restarts; either time the panel shows what the simulator of the
page shows for the elements of the editor, dimmed to the level of its settings. Opened again, they
make the body that was posted. A layout without elements is left out: for it the firmware draws the
built-in board.
-/

namespace Zugli

open Serde

/-! ## A board that has a layout -/

/-- What happens to a board: a request at an instant, or a restart. -/
inductive Happening where
  /-- A request is handled. -/
  | request (now : Nat) (request : Request)
  /-- The board comes up again. -/
  | restarts

/-- Whether a happening leaves the saved layout alone. -/
def Happening.Spares : Happening → Prop
  | .request _ (.setLayout _) => False
  | _ => True

namespace Device

variable (serde : SerdeJsonCore)

/-- One happening on working flash, with the reply to a request. -/
def happens (device : Device) : Happening → Device × Option Reply
  | .request now request => ((step serde device (now, request)).1,
      some (step serde device (now, request)).2)
  | .restarts => (boot serde device.store noFaults, none)

/-- A layout is the live one and the saved one. -/
def Has (layout : Option Layout) (device : Device) : Prop :=
  device.shared.customLayout = layout ∧
    ∃ store, device.store = some store ∧ store.loadLayout serde noFaults = layout

variable {serde}

/-- A persist of anything but a layout leaves the saved one. -/
theorem Has.persist {layout : Option Layout} {device : Device} (has : device.Has serde layout)
    (saved : Store.Call) (other : ∀ layout, saved ≠ .saveLayout layout) (keeps : saved ≠ .clearAll) :
    ∃ store, (device.persist fun store => Store.step serde store saved).1.store = some store ∧
      store.loadLayout serde noFaults = layout := by
  obtain ⟨_, store, found, held⟩ := has
  simp only [Device.persist, found]
  obtain ⟨_, after, wrote, kept⟩ | ⟨_, refused⟩ := Store.step_cases serde store saved
  · refine ⟨after, by rw [wrote], ?_⟩
    rw [Store.loadLayout, kept]
    cases saved with
    | saveLayout requested => exact absurd rfl (other requested)
    | clearAll => exact absurd rfl keeps
    | saveWifi | saveSelection | saveConfig => exact held
  · exact ⟨store, by rw [refused], held⟩

/-- A restart finds the layout again. -/
theorem Has.boot {layout : Option Layout} {device : Device} (has : device.Has serde layout) :
    (Device.boot serde device.store noFaults).Has serde layout := by
  obtain ⟨_, store, found, held⟩ := has
  refine ⟨?_, store, found, held⟩
  rw [found, ← held]
  simp only [Device.boot, Option.map_some, Option.getD_some]
  cases (store.loadBoot serde noFaults).selection <;> rfl

/-- A board keeps its layout until another is saved. -/
theorem Has.happens {layout : Option Layout} {device : Device} (has : device.Has serde layout)
    {happening : Happening} (spares : happening.Spares) :
    (device.happens serde happening).1.Has serde layout := by
  cases happening with
  | restarts => exact has.boot
  | request now request =>
    cases request with
    | setLayout => exact absurd spares id
    | save sel =>
      obtain ⟨store, found, held⟩ := has.persist (.saveSelection sel)
        (fun _ => Store.Call.noConfusion) Store.Call.noConfusion
      refine ⟨?_, store, found, held⟩
      simp only [Device.happens, step, handle, save, persist_shared]
      exact has.1
    | setConfig cfg =>
      obtain ⟨store, found, held⟩ := has.persist (.saveConfig cfg)
        (fun _ => Store.Call.noConfusion) Store.Call.noConfusion
      refine ⟨?_, store, found, held⟩
      simp only [Device.happens, step, handle, setConfig, persist_shared]
      exact has.1
    | getSelection =>
      simp only [Device.happens, step, handle, getSelection]
      cases device.shared.selection <;> exact has
    | getConfig | getLayout | setPreview | endPreview => exact has

/-- A board whose save of a layout succeeds has it, or none when it is empty. -/
theorem has_of_posted {device : Device} (now : Nat) (layout : Layout)
    (ok : (step serde device (now, .setLayout layout)).2.persisted = some .ok) :
    (step serde device (now, .setLayout layout)).1.Has serde
      (if layout.sanitize.e.val.isEmpty then none else some layout.sanitize) := by
  refine ⟨rfl, ?_⟩
  exact loadLayout_of_posted serde layout ok

end Device

end Zugli

namespace Zugli.Web

open Js (Str)
open Serde

/-! ## The way back to the editor -/

/-- The counterpart of an element of the editor is in the page's ranges. -/
theorem narrowed_counterpart {el : Element} (kept : el.Kept) :
    (counterpart el).narrowed = counterpart el := by
  rw [Zugli.Element.narrowed_eq_iff]
  have within : ∀ {value : Js.Value} {hi : Int} {bound : UInt8}, value.Between 0 hi → hi ≤ 255 →
      hi = bound.toNat → byteOf value ≤ bound := by
    intro value hi bound held high same
    have upper := (byteOf_between held (by decide) high).2.2
    rw [UInt8.le_iff_toNat_le]
    omega
  exact ⟨within kept.x (by decide) rfl, within kept.y (by decide) rfl,
    within kept.g (by decide) rfl⟩

/-- The same objects are posted for elements with the same counterparts. -/
theorem serializeLayout_congr {els others : List Element} (kept : ∀ el ∈ els, el.Kept)
    (fits : ∀ el ∈ els, el.Fits) (otherKept : ∀ el ∈ others, el.Kept)
    (otherFits : ∀ el ∈ others, el.Fits) (same : els.map counterpart = others.map counterpart) :
    serializeLayout els = serializeLayout others := by
  have posted : ∀ {list : List Element}, (∀ el ∈ list, el.Kept) → (∀ el ∈ list, el.Fits) →
      list.map (fun el => (packElement el).data) = (list.map counterpart).map
        fun el => .ofJson (.obj (postedTable el).members) := by
    intro list kept fits
    rw [List.map_map]
    exact List.map_congr_left fun el member => data_packElement (kept el member) (fits el member)
  rw [serializeLayout, serializeLayout, posted kept fits, posted otherKept otherFits, same]

/-- The elements of the editor on the board. -/
def counterparts (els : List Element) (few : els.length ≤ maxElements) : Layout :=
  ⟨1, ⟨els.map counterpart, by rwa [List.length_map]⟩⟩

section Counterparts

variable {els : List Element} (kept : ∀ el ∈ els, el.Kept) (fits : ∀ el ∈ els, el.Fits)
  (few : els.length ≤ maxElements)

include kept fits

/-- The clamp leaves them alone. -/
theorem sanitize_counterparts : (counterparts els few).sanitize = counterparts els few := by
  have same : (els.map counterpart).map Zugli.Element.sanitize = els.map counterpart := by
    rw [List.map_map]
    exact List.map_congr_left fun el member =>
      sanitize_counterpart (kept el member) (fits el member).2
  simp only [counterparts, Layout.sanitize, HVec.map, same]

/-- They are the elements that the page draws. -/
theorem represents_counterparts :
    List.Forall₂ Parity.Represents els (counterparts els few).e.val := by
  simp only [counterparts]
  rw [List.forall₂_map_right_iff, List.forall₂_same]
  exact fun el member => represents_counterpart (kept el member) (fits el member).1

/-- The firmware reads them from the body. -/
theorem fromSlice_counterparts (serde : SerdeJsonCore) {scratch : Nat}
    (roomy : maxTextLen ≤ scratch) :
    serde.fromSlice Layout scratch (Js.bodyBytes (serializeLayout els)) =
      some (counterparts els few) := by
  rw [bodyBytes_serializeLayout kept fits, serde.fromSlice_write .lower (postedJson_within roomy _),
    ofJson_postedJson (by rwa [List.length_map])]
  rfl

/-- Opened and saved again, they are posted in the same body. -/
theorem reposted : serializeLayout (normalizeLayout (servedElements (some (counterparts els few)))) =
    serializeLayout els := by
  have loaded : normalizeLayout (servedElements (some (counterparts els few))) =
      els.map fun el => clampElement (servedElement (counterpart el)) := by
    rw [normalizeLayout, servedElements, Option.map_some, Option.getD_some, counterparts,
      List.take_of_length_le (by rwa [List.length_map, List.length_map]), List.map_map,
      List.map_map]
    rfl
  rw [loaded]
  have clamped : ∀ el ∈ els, (counterpart el).sanitize = counterpart el :=
    fun el member => sanitize_counterpart (kept el member) (fits el member).2
  refine serializeLayout_congr ?_ ?_ kept fits ?_
  · intro el member
    obtain ⟨served, -, rfl⟩ := List.mem_map.mp member
    exact clampElement_kept (servedElement_loadable _)
  · intro el member
    obtain ⟨served, inside, rfl⟩ := List.mem_map.mp member
    exact served_fits (clamped served inside)
  · rw [List.map_map]
    refine List.map_congr_left fun el member => ?_
    rw [Function.comp_apply, counterpart_served (clamped el member),
      narrowed_counterpart (kept el member)]

end Counterparts

/-! ## The panel and the simulator -/

/-- Every text that elements are drawn from is printable. -/
structure Legible (els : List Element) (station : HString 64) (deps : List Zugli.Departure) :
    Prop where
  /-- The texts of the elements. -/
  literals : ∀ el ∈ els, ∀ char ∈ Utf16.decode (el.v.getD []), Parity.Printable char
  /-- The station. -/
  station : ∀ char ∈ station.chars, Parity.Printable char
  /-- The lines. -/
  lines : ∀ dep ∈ deps, ∀ char ∈ dep.line.chars, Parity.Printable char
  /-- The destinations. -/
  destinations : ∀ dep ∈ deps, ∀ char ∈ dep.destination.chars, Parity.Printable char

/-- The departures screen of a panel is what the simulator shows for elements, dimmed to the level
of the panel: each pixel of the simulator has a colour which the pixel of the panel has at that
level, and both animate or neither does. It is so whatever the glyphs, the departures, the settings,
the clock and the frame are, as long as both sides have the same, the clock of the panel has synced
and every text is printable. -/
def ShownOn (els : List Element) (shared : Shared) (now : Nat) : Prop :=
  ∀ (textLit : TextRaster) (fonts : FontTable) (nowUnix : Option Int) (ctx : Context)
    (station : HString 64) (deps : HVec Zugli.Departure 3) (frame : UInt32),
    Parity.FontsMatch textLit fonts →
    Parity.SameContext (Panel.canvas ⟨textLit, shared.atFull, nowUnix⟩) ctx station deps.val frame →
    Legible els station deps.val →
    let drawn := (Panel.mk textLit shared nowUnix).drawState (.departures station deps)
      (refreshLayoutCache shared now) frame erased
    (∀ row column, ∃ color : Color,
      Parity.gridPixel (renderLayout fonts els ctx).1 row column = color.pack ∧
        drawn.1 row column = color.dimmed (currentBrightness shared nowUnix)) ∧
      (renderLayout fonts els ctx).2 = drawn.2

/-- What a panel draws a layout for: a preview of it, or the saved one in the custom mode. -/
def InForce (layout : Layout) (shared : Shared) (now : Nat) : Prop :=
  refreshLayoutCache shared now = ⟨some layout, none⟩ ∨
    refreshLayoutCache shared now = ⟨none, some layout⟩ ∧ shared.mode = .custom

/-- A preview is in force until its deadline. -/
theorem refreshLayoutCache_setPreview (layout : Layout) (shared : Shared) {now later : Nat}
    (live : later < now + previewTtl) :
    refreshLayoutCache (shared.setPreview layout now) later = ⟨some layout, none⟩ := by
  have armed : (now + previewTtl != 0) = true := by
    rw [bne_iff_ne, previewTtl, ticksPerSecond]
    omega
  have active : (shared.setPreview layout now).activePreview later = some layout := by
    simp only [Shared.activePreview, Shared.previewActive, Shared.setPreview, armed, live,
      decide_true, Bool.and_true, if_true]
  rw [refreshLayoutCache, active]

/-- A layout in force is drawn. -/
theorem drawState_of_inForce {layout : Layout} {shared : Shared} {now : Nat}
    (filled : layout.e.val ≠ []) (inForce : InForce layout shared now) (textLit : TextRaster)
    (nowUnix : Option Int) (station : HString 64) (deps : HVec Zugli.Departure 3) (frame : UInt32) :
    (Panel.mk textLit shared nowUnix).drawState (.departures station deps)
        (refreshLayoutCache shared now) frame erased =
      (Panel.canvas ⟨textLit, shared, nowUnix⟩).drawCustomLayout erased layout station.chars deps.val
        frame := by
  have nonempty : layout.e.val.isEmpty = false := by
    rw [List.isEmpty_eq_false_iff]
    exact filled
  rcases inForce with cached | ⟨cached, custom⟩
  · simp only [Panel.drawState, Panel.drawDeparturesScreen, cached, nonempty]
    rfl
  · simp only [Panel.drawState, Panel.drawDeparturesScreen, cached, custom, nonempty]
    rfl

section Shown

variable {els : List Element} (kept : ∀ el ∈ els, el.Kept) (fits : ∀ el ∈ els, el.Fits)
  (few : els.length ≤ maxElements)

include kept fits

/-- The panel shows the counterparts in force as the simulator shows the elements. -/
theorem shown_of_inForce {shared : Shared} {now : Nat} (filled : els ≠ [])
    (inForce : InForce (counterparts els few) shared now) : ShownOn els shared now := by
  intro textLit fonts nowUnix ctx station deps frame fontsMatch same legible
  have elements : (counterparts els few).e.val ≠ [] := by
    simpa only [counterparts, ne_eq, List.map_eq_nil_iff] using filled
  have literals : ∀ el ∈ (counterparts els few).e.val, ∀ char ∈ el.v.chars,
      Parity.Printable char := by
    intro el member char inside
    obtain ⟨page, isPage, rfl⟩ := List.mem_map.mp member
    have text := (textOf_of_fits (fits page isPage).1).1
    have chars : (counterpart page).v.chars = Utf16.decode (page.v.getD []) := by
      show (textOf page.v).chars = _
      rw [HString.chars, text, String.toList_ofList]
    rw [chars] at inside
    exact legible.literals page isPage char inside
  have printable : Parity.PrintableTexts (counterparts els few) station deps.val :=
    ⟨literals, legible.station, legible.lines, legible.destinations⟩
  have both := Parity.shows_layout fontsMatch same printable
    (represents_counterparts kept fits few)
  have inForceToo : InForce (counterparts els few) shared.atFull now := inForce
  rw [← drawState_of_inForce elements inForceToo textLit nowUnix station deps frame] at both
  intro drawn
  have dims : drawn = _ := (Panel.mk textLit shared nowUnix).drawState_dims
    (.departures station deps) (refreshLayoutCache shared now) frame
  rw [dims]
  exact ⟨fun row column => ⟨_, both.1 row column, rfl⟩, both.2.symm⟩

end Shown

/-! ## From the editor to the panel -/

namespace Editor

/-- A board without a store that shows stations without their city, at full brightness. -/
def brightBoard : Device :=
  (Device.step .reference bareBoard (0, .setConfig
    { Config.default with stripCity := true, brightness := 10, autoBrightness := false })).1

end Editor

end Zugli.Web
