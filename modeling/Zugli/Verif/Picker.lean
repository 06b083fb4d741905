import Zugli.Lib.Runs
import Zugli.Web.Picker

/-!
# Connections of the chosen stop

While the save button is shown, the picked connections are those that a stationboard of the chosen
stop has listed, and so are the rows that can be tapped. This lasts as long as no stationboard of
another stop is rendered, and the stop is not exchanged under connections that can be saved.
-/

namespace Zugli.Web.Picker

open Machine
open Js (Str)

/-- A stationboard that was fetched for a stop has listed a connection. -/
def Lists (page : Picker) (stopId : Str) (c : Connection) : Prop :=
  ∃ arrived ∈ page.received, arrived.1 = stopId ∧ c ∈ listed arrived.2

instance (page : Picker) (stopId : Str) (c : Connection) : Decidable (page.Lists stopId c) :=
  inferInstanceAs (Decidable (∃ arrived ∈ page.received, _))

/-- Connections that stationboards of the chosen stop have listed. -/
def FromStop (page : Picker) (conns : List Connection) : Prop :=
  ∀ stop ∈ page.selectedStop, ∀ c ∈ conns, page.Lists stop.id c

/-- What can be saved or tapped was listed for the chosen stop. -/
structure Consistent (page : Picker) : Prop where
  /-- The picked connections, while they can be saved. -/
  picks : page.allConnections = false → page.saveShown = true → page.FromStop page.selectedConns
  /-- The rows that can be tapped, and what they are added to. -/
  rows : page.allConnections = false → page.connsShown = true → page.rows ≠ [] →
    page.FromStop page.rows ∧ page.FromStop page.selectedConns

/-! ## Conditions on a step -/

/-- No connection that can be saved is left behind when a stop is chosen. -/
def Leaves (page : Picker) (stopId : Str) : Prop :=
  page.saveShown = true → page.selectedConns = [] ∨
    page.allConnections = false ∧ page.selectedStop.map Stop.id = some stopId

/-- A stop is exchanged only while no connection of another one can be saved, and a stationboard is
rendered only while its stop, or none, is chosen. -/
def Meets (page : Picker) : Event → Prop
  | .chosen index => ∀ s ∈ page.results[index]?, page.allConnections = false → page.Leaves s.id
  | .boardArrived index board =>
    ∀ request ∈ page.boards[index]?, ∀ entries ∈ board, listed entries ≠ [] →
      page.allConnections = false → ∀ stop ∈ page.selectedStop, stop.id = request.stopId
  | .selectionArrived saved =>
    ∀ s ∈ saved, page.restoring = true → s.stopName ≠ [] → s.allConnections = false →
      page.Leaves s.stopId ∧ (s.stopId = [] → page.connsShown = true → page.rows = [])
  | _ => True

instance (page : Picker) (stopId : Str) : Decidable (page.Leaves stopId) :=
  inferInstanceAs (Decidable (_ → _))

instance (page : Picker) : ∀ event, Decidable (page.Meets event)
  | .chosen _ => inferInstanceAs (Decidable (∀ s ∈ _, _ → _))
  | .boardArrived _ _ => inferInstanceAs (Decidable (∀ request ∈ _, ∀ entries ∈ _, _ → _ → _))
  | .selectionArrived _ => inferInstanceAs (Decidable (∀ s ∈ _, _ → _ → _ → _))
  | .typed _ | .searched | .found _ | .modeClicked _ | .toggled _ | .saveClicked => .isTrue trivial

variable {page : Picker}

/-! ## Steps -/

/-- A page that tracks the whole stop is consistent. -/
theorem consistent_of_all (all : page.allConnections = true) : page.Consistent where
  picks := fun specific => absurd (all.symm.trans specific) (by decide)
  rows := fun specific => absurd (all.symm.trans specific) (by decide)

/-- A page without a chosen stop is consistent. -/
theorem consistent_of_none (none : page.selectedStop = none) : page.Consistent := by
  have vacuous : ∀ conns, page.FromStop conns := by
    intro conns stop chosen
    rw [none] at chosen
    cases chosen
  exact ⟨fun _ _ => vacuous _, fun _ _ _ => ⟨vacuous _, vacuous _⟩⟩

/-- Connections that can be saved when a stop is chosen were listed for it. -/
theorem lists_of_leaves (consistent : page.Consistent) {stopId : Str} (leaves : page.Leaves stopId)
    (shown : page.saveShown = true) : ∀ c ∈ page.selectedConns, page.Lists stopId c := by
  obtain none | ⟨specific, same⟩ := leaves shown
  · simp [none]
  · obtain ⟨stop, chosen, rfl⟩ := Option.map_eq_some_iff.mp same
    exact consistent.picks specific shown stop chosen

/-- Choosing a stop for which the list of connections is fetched. -/
theorem consistent_load (consistent : page.Consistent) {s : Stop} (leaves : page.Leaves s.id)
    {next : Picker} (stop : next.selectedStop = some s)
    (picked : next.selectedConns = page.selectedConns) (known : next.received = page.received)
    (shown : next.saveShown = page.saveShown) (rows : next.connsShown = true → next.rows = []) :
    next.Consistent where
  picks := by
    intro _ visible other chosen c member
    obtain rfl : s = other := Option.some.inj (stop.symm.trans chosen)
    rw [picked] at member
    rw [Lists, known]
    exact lists_of_leaves consistent leaves (shown.symm.trans visible) c member
  rows := fun _ visible some => absurd (rows visible) some

/-- What the page shows of a save button changes nothing of what is picked. -/
theorem consistent_updateSpecificSave (some : page.allConnections = false → page.connsShown = true →
      page.rows ≠ [] → page.FromStop page.rows)
    (picks : page.allConnections = false → page.FromStop page.selectedConns) :
    page.updateSpecificSave.Consistent := by
  unfold updateSpecificSave
  split
  · rename_i all
    exact consistent_of_all all
  · exact ⟨fun specific _ => picks specific, fun specific visible rows =>
      ⟨some specific visible rows, picks specific⟩⟩

/-- Choosing a stop keeps the page consistent. -/
theorem consistent_chooseStop (consistent : page.Consistent) (s : Stop)
    (leaves : page.allConnections = false → page.Leaves s.id) : (page.chooseStop s).Consistent := by
  simp only [chooseStop]
  split
  · rename_i all
    exact consistent_of_all all
  · rename_i specific
    have specific : page.allConnections = false := by simpa using specific
    exact consistent_load consistent (leaves specific) rfl rfl rfl rfl fun _ => rfl

/-- Restoring the saved selection keeps the page consistent. -/
theorem consistent_restored (consistent : page.Consistent) (s : SaveBody)
    (leaves : s.stopName ≠ [] → s.allConnections = false → page.Leaves s.stopId ∧
      (s.stopId = [] → page.connsShown = true → page.rows = [])) :
    (page.restored s).Consistent := by
  unfold restored
  split
  · exact consistent
  · rename_i named
    split
    · rename_i all
      exact consistent_of_all all
    · rename_i specific
      have specific : s.allConnections = false := by simpa using specific
      obtain ⟨leaves, empty⟩ := leaves named specific
      split
      · rename_i missing
        exact consistent_load consistent leaves rfl rfl rfl rfl (empty missing)
      · exact consistent_load consistent leaves rfl rfl rfl rfl fun _ => rfl

/-- A stationboard of the chosen stop keeps the page consistent. -/
theorem consistent_boardArrived (consistent : page.Consistent) (index : Nat)
    (board : Option (List BoardEntry)) (meets : page.Meets (.boardArrived index board)) :
    (page.boardArrived index board).Consistent := by
  unfold boardArrived
  cases pending : page.boards[index]? with
  | none => exact consistent
  | some request =>
    cases board with
    | none => exact ⟨consistent.picks, fun _ _ some => absurd rfl some⟩
    | some entries =>
      simp only [renderConnections]
      split
      · rename_i all
        exact consistent_of_all all
      · rename_i specific
        have specific : page.allConnections = false := by simpa using specific
        have fresh : ∀ stop ∈ page.selectedStop, ∀ c ∈ listed entries,
            ∃ arrived ∈ page.received ++ [(request.stopId, entries)],
              arrived.1 = stop.id ∧ c ∈ listed arrived.2 := by
          intro stop chosen c member
          have same : stop.id = request.stopId :=
            meets request pending entries rfl (List.ne_nil_of_mem member) specific stop chosen
          exact ⟨(request.stopId, entries), by simp, same.symm, member⟩
        apply consistent_updateSpecificSave
        · exact fun _ _ _ => fresh
        · intro _ stop chosen c member
          have inside : c ∈ listed entries :=
            (List.mem_filter.mp (List.mem_of_mem_take member)).1
          exact fresh stop chosen c inside

/-- Tapping a row keeps the page consistent. -/
theorem consistent_toggleConnection (consistent : page.Consistent) (shown : page.connsShown = true)
    {c : Connection} (row : c ∈ page.rows) : (page.toggleConnection c).Consistent := by
  have both : page.allConnections = false →
      page.FromStop page.rows ∧ page.FromStop page.selectedConns := fun specific =>
    consistent.rows specific shown (List.ne_nil_of_mem row)
  unfold toggleConnection
  split
  · apply consistent_updateSpecificSave
    · exact fun specific _ _ => (both specific).1
    · intro specific stop chosen other member
      exact (both specific).2 stop chosen other (List.mem_of_mem_eraseIdx member)
  · split
    · exact consistent
    · apply consistent_updateSpecificSave
      · exact fun specific _ _ => (both specific).1
      · intro specific stop chosen other member
        obtain known | rfl : other ∈ page.selectedConns ∨ other = c := by simpa using member
        · exact (both specific).2 stop chosen other known
        · exact (both specific).1 stop chosen other row

/-- Switching the tracking mode keeps the page consistent. -/
theorem consistent_setMode (consistent : page.Consistent) (all : Bool) :
    (page.setMode all).Consistent := by
  simp only [setMode]
  split
  · exact consistent
  · cases all with
    | true => exact consistent_of_all rfl
    | false =>
      simp only [Bool.false_eq_true, ↓reduceIte]
      cases chosen : page.selectedStop with
      | none => exact consistent_of_none rfl
      | some stop =>
        refine ⟨fun _ visible => ?_, fun _ _ some => absurd rfl some⟩
        cases visible

/-- An event that meets the condition keeps the page consistent. -/
theorem step_consistent (page : Picker) (event : Event) (consistent : page.Consistent)
    (meets : page.Meets event) : (step page event).1.Consistent := by
  cases event with
  | typed long => exact consistent_of_none rfl
  | searched =>
    simp only [step, searched]
    split
    · exact ⟨consistent.picks, consistent.rows⟩
    · exact consistent
  | found stations =>
    simp only [step, found]
    split
    · exact consistent
    · exact ⟨consistent.picks, consistent.rows⟩
  | chosen index =>
    cases row : page.results[index]? with
    | none => simpa [step, row] using consistent
    | some s =>
      have kept := consistent_chooseStop consistent s (meets s row)
      simpa [step, row] using kept
  | modeClicked all => exact consistent_setMode consistent all
  | boardArrived index board => exact consistent_boardArrived consistent index board meets
  | selectionArrived saved =>
    simp only [step, selectionArrived]
    split
    · rename_i waiting
      cases saved with
      | none => exact ⟨consistent.picks, consistent.rows⟩
      | some s =>
        have still : { page with restoring := false }.Consistent :=
          ⟨consistent.picks, consistent.rows⟩
        exact consistent_restored still s (meets s rfl waiting)
    · exact consistent
  | toggled index =>
    simp only [step]
    split
    · rename_i shown
      cases row : page.rows[index]? with
      | none => exact consistent
      | some c => exact consistent_toggleConnection consistent shown (List.mem_of_getElem? row)
    · exact consistent
  | saveClicked => exact consistent

/-! ## Runs -/

/-- What a consistent page saves of specific connections was listed for the saved stop. -/
theorem lists_of_save (consistent : page.Consistent) {body : SaveBody}
    (saved : body ∈ (step page .saveClicked).2) (specific : body.allConnections = false) :
    ∀ c ∈ body.connections, page.Lists body.stopId c := by
  simp only [step] at saved
  split at saved
  · rename_i shown
    unfold save at saved
    cases chosen : page.selectedStop with
    | none => simp [chosen] at saved
    | some stop =>
      simp only [chosen] at saved
      split at saved
      · cases saved
      · obtain rfl := Option.some.inj saved
        have mode : page.allConnections = false := specific
        simp only [mode, Bool.false_eq_true, ↓reduceIte]
        exact consistent.picks mode shown stop chosen
  · cases saved

/-- In every run whose steps all meet the condition, each connection that is saved in specific mode
was listed on a stationboard fetched for the stop it is saved with. -/
theorem saved_connections_listed (events : List Event) (meets : Along step Meets start events) :
    let page := (run step start events).1
    ∀ body ∈ (step page .saveClicked).2, body.allConnections = false →
      ∀ c ∈ body.connections, page.Lists body.stopId c := by
  intro page body saved specific
  have consistent : page.Consistent :=
    run_invariant_along step_consistent (consistent_of_none rfl) meets
  exact lists_of_save consistent saved specific

/-- Two stops, and an entry of a stationboard. -/
def bern : Stop := ⟨Js.units "1", Js.units "Bern"⟩

/-- Another stop. -/
def zurich : Stop := ⟨Js.units "2", Js.units "Z"⟩

/-- An entry of a stationboard. -/
def tram : BoardEntry := ⟨some (Js.units "9"), none, some (Js.units "Wabern"), some (Js.units "T")⟩

/-- A connection of the chosen stop is picked and saved. -/
theorem saved_connections_listed_once :
    let events := [Event.typed true, .searched, .found (some [bern]), .chosen 0,
      .boardArrived 0 (some [tram]), .toggled 0]
    let page := (run step start events).1
    ∀ body ∈ (step page .saveClicked).2, body.allConnections = false →
      ∀ c ∈ body.connections, page.Lists body.stopId c :=
  saved_connections_listed [.typed true, .searched, .found (some [bern]), .chosen 0,
    .boardArrived 0 (some [tram]), .toggled 0] (by decide +kernel)

/-- The stationboard of an earlier stop arrives after another one has been chosen: its connection is
saved with the other stop. -/
theorem late_board_saved :
    let events := [Event.typed true, .searched, .found (some [bern]), .chosen 0, .typed true,
      .searched, .found (some [zurich]), .chosen 0, .boardArrived 0 (some [tram]), .toggled 0]
    let page := (run step start events).1
    ∃ body ∈ (step page .saveClicked).2, body.allConnections = false ∧
      ∃ c ∈ body.connections, ¬page.Lists body.stopId c := by
  decide +kernel

end Zugli.Web.Picker
