import Zugli.Firmware.Httpd
import Zugli.Verif.Storage

/-!
# The server over whole runs

The live state and the flash record are two copies of one thing: as long as every persist
succeeds, what the accessors show is what a restart would show. Response bodies are texts of the
values they were asked for exactly while those fit the response buffer.
-/

namespace Zugli

open Json (utf8 utf8Decode? write)
open Serde

/-! ## What the accessors show -/

/-- The settings as the accessors read them. -/
structure Settings where
  /-- `strip_city_enabled`. -/
  stripCity : Bool
  /-- `line_badges_enabled`. -/
  lineBadges : Bool
  /-- `brightness_level`. -/
  brightness : UInt8
  /-- `auto_brightness_enabled`. -/
  autoBrightness : Bool
  /-- `off_when_dimmed_enabled`. -/
  offWhenDimmed : Bool
  /-- `ui_mode`. -/
  mode : UiMode
  /-- `reduced_start_min`. -/
  reducedStart : UInt16
  /-- `reduced_end_min`. -/
  reducedEnd : UInt16
deriving DecidableEq

/-- The live state: the settings, the custom layout and the selection. -/
structure LiveView where
  /-- The settings. -/
  settings : Settings
  /-- `custom_layout`. -/
  layout : Option Layout
  /-- `SELECTION`. -/
  selection : Option Selection
deriving DecidableEq

namespace Shared

/-- The settings the accessors read. -/
def settings (shared : Shared) : Settings where
  stripCity := shared.stripCityEnabled
  lineBadges := shared.lineBadgesEnabled
  brightness := shared.brightness
  autoBrightness := shared.autoBrightnessEnabled
  offWhenDimmed := shared.offWhenDimmedEnabled
  mode := shared.mode
  reducedStart := shared.reducedStartMin
  reducedEnd := shared.reducedEndMin

/-- The live state the accessors read. -/
def view (shared : Shared) : LiveView := ⟨shared.settings, shared.customLayout, shared.selection⟩

end Shared

/-- The settings of a freshly applied configuration. -/
def Config.settings (cfg : Config) : Settings := (Shared.init.applyConfig cfg).settings

namespace Shared

variable (shared : Shared)

@[simp] theorem view_select (sel : Selection) :
    (shared.select sel).view = ⟨shared.settings, shared.customLayout, some sel⟩ := rfl

@[simp] theorem view_applyConfig (cfg : Config) :
    (shared.applyConfig cfg).view = ⟨cfg.settings, shared.customLayout, shared.selection⟩ := rfl

@[simp] theorem view_applyLayout (layout : Option Layout) :
    (shared.applyLayout layout).view = ⟨shared.settings, layout, shared.selection⟩ := rfl

@[simp] theorem view_endPreview : shared.endPreview.view = shared.view := rfl

@[simp] theorem view_signalSelectionChanged : shared.signalSelectionChanged.view = shared.view :=
  rfl

end Shared

/-- The live state after a restart with the given slots. -/
def Persisted.view (slots : Persisted) : LiveView :=
  ⟨slots.config.settings, slots.layout, slots.selection⟩

namespace Device

variable (serde : SerdeJsonCore)

/-- One request on working flash. -/
def step (device : Device) (request : Nat × Request) : Device × Reply :=
  device.handle serde noFaults request.1 request.2

/-- A board whose flash stands for four slots and whose live state is theirs. -/
def Mirrors (device : Device) : Prop := ∃ store slots, device.store = some store ∧
  Store.Refines serde store slots ∧ device.shared.view = slots.view

section Mirror

variable {serde}

/-- A restart shows the slots. -/
theorem boot_view {store : Store} {slots : Persisted} (related : Store.Refines serde store slots) :
    (boot serde (some store) noFaults).shared.view = slots.view := by
  simp only [boot, Option.map_some, Option.getD_some, Store.loadBoot_of_refines related]
  rw [Persisted.view]
  cases slots.selection <;> rfl

/-- A restart mirrors the slots. -/
theorem boot_mirrors {store : Store} {slots : Persisted}
    (related : Store.Refines serde store slots) :
    Mirrors serde (boot serde (some store) noFaults) :=
  ⟨store, slots, rfl, related, boot_view related⟩

/-- A board that mirrors its slots shows what a restart would show. -/
theorem view_of_mirrors {device : Device} (mirrors : Mirrors serde device) :
    device.shared.view = (boot serde device.store noFaults).shared.view := by
  obtain ⟨store, slots, found, related, shown⟩ := mirrors
  rw [found, boot_view related, shown]

/-- A persist does not touch the shared state. -/
@[simp] theorem persist_shared (device : Device) (save : Store → Store × SaveResult) :
    (device.persist save).1.shared = device.shared := by
  unfold persist
  cases device.store <;> rfl

/-- A persist that succeeds changes the slots as its call does. -/
theorem persist_ok {device : Device} {store : Store} {slots : Persisted}
    (found : device.store = some store) (related : Store.Refines serde store slots)
    (saved : Store.Call)
    (ok : (device.persist fun store => Store.step serde store saved).2 = .ok) :
    ∃ after, (device.persist fun store => Store.step serde store saved).1 =
        { device with store := some after } ∧
      Store.Refines serde after (Slots.assign saved slots) := by
  simp only [persist, found] at ok ⊢
  obtain ⟨after, result⟩ := Store.step_refines related saved
  obtain ⟨taken, _⟩ | ⟨refused, _⟩ := Slots.step_cases (Store.fits serde) slots saved
  · rw [taken] at after
    exact ⟨_, rfl, after⟩
  · rw [result, refused] at ok
    cases ok

/-- A request whose persist succeeds keeps the live state and the record together. -/
theorem step_mirrors (device : Device) (request : Nat × Request) (mirrors : Mirrors serde device)
    (ok : (step serde device request).2.persisted ≠ some .err) :
    Mirrors serde (step serde device request).1 := by
  obtain ⟨store, slots, found, related, shown⟩ := mirrors
  have succeeded : ∀ result : SaveResult, some result ≠ some SaveResult.err → result = .ok := by
    intro result noError
    cases result with
    | ok => rfl
    | err => exact absurd rfl noError
  obtain ⟨settings, layout, selection⟩ : device.shared.settings = slots.config.settings ∧
      device.shared.customLayout = slots.layout ∧ device.shared.selection = slots.selection := by
    simpa [Shared.view, Persisted.view] using shown
  obtain ⟨now, request⟩ := request
  cases request with
  | save sel =>
    obtain ⟨after, wrote, kept⟩ := persist_ok found related (.saveSelection sel) (succeeded _ ok)
    refine ⟨after, _, congrArg Device.store wrote, kept, ?_⟩
    simp only [step, handle, save, persist_shared, Shared.view_signalSelectionChanged,
      Shared.view_select, settings, layout]
    rfl
  | setConfig cfg =>
    obtain ⟨after, wrote, kept⟩ := persist_ok found related (.saveConfig cfg) (succeeded _ ok)
    refine ⟨after, _, congrArg Device.store wrote, kept, ?_⟩
    simp only [step, handle, setConfig, persist_shared, Shared.view_signalSelectionChanged,
      Shared.view_applyConfig, layout, selection]
    rfl
  | setLayout requested =>
    obtain ⟨after, wrote, kept⟩ := persist_ok found related
      (.saveLayout (if requested.sanitize.e.val.isEmpty then none else some requested.sanitize))
      (succeeded _ ok)
    refine ⟨after, _, congrArg Device.store wrote, kept, ?_⟩
    simp only [step, handle, setLayout, persist_shared, Shared.view_signalSelectionChanged,
      Shared.view_endPreview, Shared.view_applyLayout, settings, selection]
    rfl
  | getSelection =>
    simp only [step, handle, getSelection]
    cases device.shared.selection <;> exact ⟨store, slots, found, related, shown⟩
  | getConfig => exact ⟨store, slots, found, related, shown⟩
  | getLayout => exact ⟨store, slots, found, related, shown⟩
  | setPreview requested => exact ⟨store, slots, found, related, shown⟩
  | endPreview => exact ⟨store, slots, found, related, shown⟩

end Mirror

/-- Start from any record without a legacy flag and handle any requests. When every persist
succeeds, what the accessors show is what a restart at that point would show. -/
theorem live_eq_reboot (store : Store) (requests : List (Nat × Request))
    (modern : (store.readAll serde noFaults).config.focusViewLegacy = false)
    (persisted : ∀ entry ∈ (Machine.run (step serde) (boot serde (some store) noFaults)
      requests).2, entry.2.persisted ≠ some .err) :
    let last := (Machine.run (step serde) (boot serde (some store) noFaults) requests).1
    last.shared.view = (boot serde last.store noFaults).shared.view :=
  view_of_mirrors (@Machine.run_invariant_of_accepted _ _ _ (step serde) (Mirrors serde)
    (fun reply => reply.persisted ≠ some .err) step_mirrors _ requests
    (boot_mirrors ⟨rfl, modern⟩) persisted)

/-- Settings out of range on an erased chip, and a preview after them. -/
theorem live_eq_reboot_after_settings :
    let cfg := { Config.default with brightness := 200, uiMode := 77, focusViewLegacy := true }
    let requests := [(0, Request.setConfig cfg), (5, .setPreview Layout.default)]
    let last := (Machine.run (step .reference) (boot .reference (some Store.blank) noFaults)
      requests).1
    last.shared.view = (boot .reference last.store noFaults).shared.view := by
  have related : Store.Refines .reference Store.blank Persisted.default := Store.refines_blank
  refine live_eq_reboot .reference Store.blank _ (related.1 ▸ related.2) ?_
  have ok := (Store.step_refines related (.saveConfig
    { Config.default with brightness := 200, uiMode := 77, focusViewLegacy := true })).2
  have fitting : (Slots.step (Store.fits .reference) Persisted.default (.saveConfig
      { Config.default with brightness := 200, uiMode := 77, focusViewLegacy := true })).2 =
        .ok := by decide +kernel
  rw [fitting] at ok
  intro entry inside
  simp only [Machine.run_cons_history, Machine.run_nil, List.mem_cons, List.not_mem_nil,
    or_false] at inside
  rcases inside with rfl | rfl
  · exact fun failed => absurd (ok.symm.trans (Option.some.inj failed)) (by decide)
  · exact fun failed => nomatch failed

/-! ## Response bodies -/

/-- A response body parsed as JSON and read at a type. -/
def parsed (α : Type) [Deserialize α] (body : List UInt8) : Option α := do
  ofJson (← Json.read (← utf8Decode? body))

/-- A body that is the text of a document reads as the document. -/
theorem parsed_write {α : Type} [Deserialize α] (style : Json.Style) (document : Json) :
    parsed α (utf8 (write style document)) = ofJson document := by
  simp [parsed, Json.read_write]

/-- The fallback body reads as an empty object. -/
theorem parsed_emptyJson {α : Type} [Deserialize α] : parsed α emptyJson = ofJson (.obj []) :=
  parsed_write .lower (.obj [])

/-- The default layout fits the buffer, however its two names are spelled. -/
theorem bytes_default_layout : bytes serde.style Layout.default ≤ layoutMaxBytes := by
  have version := Json.quoteSize_le serde.style "v"
  have elements := Json.quoteSize_le serde.style "e"
  have digit : digits 1 = 1 := rfl
  have limit : layoutMaxBytes = 1536 := rfl
  simp [bytes, objectBytes, listBytes, counted, Layout.default, HVec.empty, digit] at *
  omega

section Bodies

variable {device : Device} (idle : device.jsonTxInUse = false)
include idle

/-- A value that fits the buffer is answered with its text. -/
theorem rawJson_of_le {α : Type} [Serialize α] [Bytes α] {value : α}
    (room : bytes serde.style value ≤ layoutMaxBytes) :
    device.rawJson serde value = utf8 (write serde.style (toJson value)) := by
  rw [← len_eq_bytes] at room
  have length : (utf8 (write serde.style (toJson value))).length = serde.len value :=
    Json.length_utf8 _
  have positive : 0 < serde.len value := Json.size_pos serde.style (toJson value)
  rw [rawJson, idle, serde.toSlice_of_le room]
  simp only [Bool.false_eq_true, ↓reduceIte, Option.getD_some]
  cases text : utf8 (write serde.style (toJson value)) with
  | nil =>
    rw [text, List.length_nil] at length
    omega
  | cons => rfl

/-- A value that overflows the buffer is answered with an empty object. -/
theorem rawJson_of_lt {α : Type} [Serialize α] [Bytes α] {value : α}
    (full : layoutMaxBytes < bytes serde.style value) :
    device.rawJson serde value = emptyJson := by
  rw [← len_eq_bytes] at full
  simp only [rawJson, idle, serde.toSlice_of_lt full, Bool.false_eq_true, ↓reduceIte,
    Option.getD_none]

/-- A layout is answered as it is, or as the default one when it overflows the buffer. -/
theorem parsed_rawJson_layout (layout : Layout) :
    parsed Layout (device.rawJson serde layout) =
      some (if bytes serde.style layout ≤ layoutMaxBytes then layout else Layout.default) := by
  by_cases room : bytes serde.style layout ≤ layoutMaxBytes
  · rw [rawJson_of_le serde idle room, parsed_write, ofJson_toJson, if_pos room]
    exact congrArg some layout.reset_none
  · rw [rawJson_of_lt serde idle (Nat.lt_of_not_le room), parsed_emptyJson, if_neg room]
    rfl

/-- A layout is answered as it is exactly when it fits the buffer. -/
theorem layout_body_iff (layout : Layout) :
    parsed Layout (device.rawJson serde layout) = some layout ↔
      bytes serde.style layout ≤ layoutMaxBytes := by
  rw [parsed_rawJson_layout serde idle]
  by_cases room : bytes serde.style layout ≤ layoutMaxBytes
  · simp [room]
  · have other : Layout.default ≠ layout := by
      rintro rfl
      exact room (bytes_default_layout serde)
    simp [room, other]

/-- A selection is answered as it is exactly when it fits the buffer. -/
theorem selection_body_iff (sel : Selection) :
    parsed Selection (device.rawJson serde sel) = some sel ↔
      bytes serde.style sel ≤ layoutMaxBytes := by
  by_cases room : bytes serde.style sel ≤ layoutMaxBytes
  · rw [rawJson_of_le serde idle room, parsed_write, ofJson_toJson]
    have same : Tolerant.reset (fun _ => false) sel = sel := sel.reset_none
    simp [room, same]
  · rw [rawJson_of_lt serde idle (Nat.lt_of_not_le room), parsed_emptyJson]
    have refused : (ofJson (.obj []) : Option Selection) = none := rfl
    simp [room, refused]

end Bodies

/-- The buffer is free between requests. -/
def Idle (device : Device) : Prop := device.jsonTxInUse = false

@[simp] theorem persist_jsonTxInUse (device : Device) (save : Store → Store × SaveResult) :
    (device.persist save).1.jsonTxInUse = device.jsonTxInUse := by
  unfold persist
  cases device.store <;> rfl

/-- A request leaves the buffer free. -/
theorem step_idle (device : Device) (request : Nat × Request) (idle : Idle device) :
    Idle (step serde device request).1 := by
  obtain ⟨now, request⟩ := request
  cases request with
  | save | setConfig | setLayout =>
    simpa [Idle, step, handle, save, setConfig, setLayout] using idle
  | getSelection =>
    simp only [step, handle, getSelection]
    cases device.shared.selection <;> exact idle
  | getConfig | getLayout | setPreview | endPreview => exact idle

/-- After a layout was posted and persisted, the record holds it, or none when it is empty. -/
theorem loadLayout_of_posted {device : Device} (layout : Layout)
    (ok : (device.setLayout serde noFaults layout).2.persisted = some .ok) :
    ∃ after, (device.setLayout serde noFaults layout).1.store = some after ∧
      after.loadLayout serde noFaults =
        if layout.sanitize.e.val.isEmpty then none else some layout.sanitize := by
  simp only [setLayout, persist, Option.some.injEq] at ok ⊢
  cases found : device.store with
  | none =>
    rw [found] at ok
    cases ok
  | some store =>
    rw [found] at ok
    have outcome := Store.step_cases serde store (.saveLayout
      (if layout.sanitize.e.val.isEmpty then none else some layout.sanitize))
    obtain ⟨_, after, wrote, kept⟩ | ⟨_, refused⟩ := outcome
    · refine ⟨after, congrArg (some ·.1) wrote, ?_⟩
      rw [Store.loadLayout, kept]
      rfl
    · have failed : SaveResult.err = .ok := (congrArg Prod.snd refused).symm.trans ok
      cases failed

/-! ## Clamped layouts -/

/-- Clamping twice is clamping once. -/
theorem sanitize_sanitize (layout : Layout) : layout.sanitize.sanitize = layout.sanitize := by
  have below : ∀ value bound : UInt8, atMost (atMost value bound) bound = atMost value bound := by
    intro value bound
    unfold atMost
    split <;> simp_all
  have between : ∀ value low high : UInt8, low ≤ high →
      clampU8 (clampU8 value low high) low high = clampU8 value low high := by
    intro value low high ordered
    simp only [clampU8, UInt8.lt_iff_toNat_lt, UInt8.le_iff_toNat_le] at ordered ⊢
    grind
  have masked : ∀ col : Option UInt32,
      (col.map (· &&& 0x00FFFFFF)).map (· &&& 0x00FFFFFF) = col.map (· &&& 0x00FFFFFF) := by
    intro col
    cases col with
    | none => rfl
    | some rgb => simp [UInt32.and_assoc]
  have element : ∀ el : Element, el.sanitize.sanitize = el.sanitize := by
    intro el
    simp only [Element.sanitize, below, between _ 1 3 (by decide), between _ 1 2 (by decide), masked]
  simp [Layout.sanitize, HVec.map, element, Function.comp_def]

/-- The layout a board serves is clamped. -/
def ServesClamped (device : Device) : Prop :=
  ∀ store ∈ device.store, ∀ layout ∈ store.loadLayout serde noFaults, layout.sanitize = layout

/-- A call that saves no layout, or a clamped one, keeps the layout a board serves clamped. -/
theorem persist_servesClamped {device : Device} (serves : ServesClamped serde device)
    (saved : Store.Call)
    (clamped : ∀ layout, saved = .saveLayout (some layout) → layout.sanitize = layout) :
    ServesClamped serde (device.persist fun store => Store.step serde store saved).1 := by
  cases found : device.store with
  | none => simp [persist, found, ServesClamped]
  | some store =>
    have before := serves store found
    rintro after held layout loaded
    simp only [persist, found, Option.mem_def, Option.some.injEq] at held
    subst held
    obtain ⟨_, after, wrote, kept⟩ | ⟨_, refused⟩ := Store.step_cases serde store saved
    · rw [wrote, Store.loadLayout, kept] at loaded
      cases saved with
      | saveWifi | saveSelection | saveConfig => exact before layout loaded
      | saveLayout requested =>
        obtain rfl : requested = some layout := loaded
        exact clamped layout rfl
      | clearAll => cases loaded
    · rw [refused] at loaded
      exact before layout loaded

/-- A request keeps the layout a board serves clamped. -/
theorem step_servesClamped (device : Device) (request : Nat × Request)
    (serves : ServesClamped serde device) :
    ServesClamped serde (step serde device request).1 := by
  obtain ⟨now, request⟩ := request
  cases request with
  | save sel =>
    exact persist_servesClamped serde serves (.saveSelection sel) fun _ other => nomatch other
  | setConfig cfg =>
    exact persist_servesClamped serde serves (.saveConfig cfg) fun _ other => nomatch other
  | setLayout requested =>
    refine persist_servesClamped serde serves
      (.saveLayout (if requested.sanitize.e.val.isEmpty then none else some requested.sanitize)) ?_
    intro layout posted
    have saved := Store.Call.saveLayout.inj posted
    split at saved
    · cases saved
    · rw [← Option.some.inj saved]
      exact sanitize_sanitize requested
  | getSelection =>
    simp only [step, handle, getSelection]
    cases device.shared.selection <;> exact serves
  | getConfig | getLayout | setPreview | endPreview => exact serves

/-- Whatever a board is asked, the layout it serves is clamped if the one it started with was. -/
theorem serves_clamped {store : Option Store} (requests : List (Nat × Request))
    (start : ServesClamped serde (boot serde store noFaults)) :
    ServesClamped serde (Machine.run (step serde) (boot serde store noFaults) requests).1 :=
  Machine.run_invariant (fun request _ device => step_servesClamped serde device request) start

/-! ## Reading a body back -/

/-- Reading the layout after it was posted and persisted returns the clamped layout, or the
default one when there is no element. -/
theorem getLayout_of_posted {device : Device} {layout : Layout} {now : Nat} (later : Nat)
    (ok : (step serde device (now, .setLayout layout)).2.persisted = some .ok) :
    let posted := (step serde device (now, .setLayout layout)).1
    (step serde posted (later, .getLayout)).2.body = posted.rawJson serde
      (if layout.sanitize.e.val.isEmpty then Layout.default else layout.sanitize) := by
  obtain ⟨after, found, kept⟩ := loadLayout_of_posted serde layout ok
  have saved : (step serde device (now, .setLayout layout)).1.store = some after := found
  simp only [step, handle, getLayout] at saved ⊢
  rw [saved, Option.bind_some, kept]
  cases layout.sanitize.e.val.isEmpty <;> rfl

/-- An empty layout is the default one exactly when its version is one. -/
theorem default_eq_sanitize_iff {layout : Layout} (noElement : layout.e.val = []) :
    Layout.default = layout.sanitize ↔ layout.v = 1 := by
  obtain ⟨version, elements⟩ := layout
  obtain rfl : elements = .empty := HVec.ext noElement
  have fixed : (HVec.empty : HVec Element maxElements).map Element.sanitize = .empty := rfl
  simp [Layout.default, Layout.sanitize, fixed, eq_comm]

/-- On a board that has handled any requests: a layout, and a selection, is answered by a body
that decodes to it exactly when it takes at most `layoutMaxBytes` bytes; reading the layout after
a post that was persisted returns the clamped layout exactly when moreover it is not an empty
one with another version; and reading the selection returns the live one exactly when it fits. -/
theorem bodies_decode_iff (store : Option Store) (requests : List (Nat × Request)) :
    let device := (Machine.run (step serde) (boot serde store noFaults) requests).1
    (∀ layout : Layout, parsed Layout (device.rawJson serde layout.sanitize) =
        some layout.sanitize ↔ bytes serde.style layout.sanitize ≤ layoutMaxBytes) ∧
      (∀ sel : Selection, parsed Selection (device.rawJson serde sel) = some sel ↔
        bytes serde.style sel ≤ layoutMaxBytes) ∧
      (∀ layout now later, (step serde device (now, .setLayout layout)).2.persisted = some .ok →
        (parsed Layout (step serde (step serde device (now, .setLayout layout)).1
            (later, .getLayout)).2.body = some layout.sanitize ↔
          bytes serde.style layout.sanitize ≤ layoutMaxBytes ∧
            (layout.e.val ≠ [] ∨ layout.v = 1))) ∧
      ∀ sel now, device.shared.selection = some sel →
        (parsed Selection (step serde device (now, .getSelection)).2.body = some sel ↔
          bytes serde.style sel ≤ layoutMaxBytes) := by
  intro device
  have idle : Idle device :=
    Machine.run_invariant (fun request _ device => step_idle serde device request) rfl
  refine ⟨fun layout => layout_body_iff serde idle _, selection_body_iff serde idle, ?_, ?_⟩
  · intro layout now later ok
    have free := step_idle serde device (now, .setLayout layout) idle
    rw [getLayout_of_posted serde later ok]
    by_cases noElement : layout.e.val = []
    · have empty : layout.sanitize.e.val.isEmpty = true := by
        simp [Layout.sanitize, HVec.map, noElement]
      have same := default_eq_sanitize_iff noElement
      rw [if_pos empty, parsed_rawJson_layout serde free, if_pos (bytes_default_layout serde),
        Option.some.injEq, same]
      constructor
      · intro version
        exact ⟨same.mpr version ▸ bytes_default_layout serde, .inr version⟩
      · rintro ⟨_, filled | version⟩
        · exact absurd noElement filled
        · exact version
    · have filled : layout.sanitize.e.val.isEmpty = false := by
        simp [Layout.sanitize, HVec.map, noElement]
      simp only [filled, Bool.false_eq_true, ↓reduceIte, layout_body_iff serde free, ne_eq,
        noElement, not_false_eq_true, true_or, and_true]
  · intro sel now live
    simp only [step, handle, getSelection, live]
    exact selection_body_iff serde idle sel

/-- A layout of one element, posted to an erased board. -/
theorem posted_layout_decodes :
    let device := boot .reference (some Store.blank) noFaults
    let layout := denseLayout 1 (by decide)
    parsed Layout (step .reference (step .reference device (0, .setLayout layout)).1
        (1, .getLayout)).2.body = some layout.sanitize ↔
      bytes .upper layout.sanitize ≤ layoutMaxBytes ∧ (layout.e.val ≠ [] ∨ layout.v = 1) :=
  (bodies_decode_iff .reference (some Store.blank) []).2.2.1 _ 0 1 (by
    have related : Store.Refines .reference Store.blank Persisted.default := Store.refines_blank
    have outcome := (Store.step_refines related
      (.saveLayout (some (denseLayout 1 (by decide)).sanitize))).2
    have fitting : (Slots.step (Store.fits .reference) Persisted.default
        (.saveLayout (some (denseLayout 1 (by decide)).sanitize))).2 = .ok := by decide +kernel
    exact congrArg some (outcome.trans fitting))

/-- A sanitized layout of eleven elements is persisted and then read back as the empty one. -/
theorem posted_dense_layout_lost :
    let device := boot .reference (some Store.blank) noFaults
    let layout := denseLayout 11 (by decide)
    let posted := step .reference device (0, .setLayout layout)
    let body := (step .reference posted.1 (1, .getLayout)).2.body
    layout.sanitize = layout ∧ posted.2.persisted = some .ok ∧ body = emptyJson ∧
      parsed Layout body = some Layout.default ∧ layout ≠ Layout.default := by
  intro device layout posted body
  have same : layout.sanitize = layout := sanitize_denseLayout _ _
  have related : Store.Refines .reference Store.blank Persisted.default := Store.refines_blank
  have outcome := (Store.step_refines related (.saveLayout (some layout.sanitize))).2
  have fitting : (Slots.step (Store.fits .reference) Persisted.default
      (.saveLayout (some layout.sanitize))).2 = .ok := by decide +kernel
  have ok : posted.2.persisted = some .ok := congrArg some (outcome.trans fitting)
  have free : Idle posted.1 := step_idle .reference device _ rfl
  have full : layoutMaxBytes < bytes .upper layout.sanitize := by decide +kernel
  have answered : body = emptyJson :=
    (getLayout_of_posted .reference 1 ok).trans (rawJson_of_lt .reference free full)
  refine ⟨same, ok, answered, ?_, by decide⟩
  rw [answered, parsed_emptyJson]
  rfl

end Device

end Zugli
