import Zugli.Lib.Runs
import Zugli.Verif.Settings.Texts

/-!
# Changing settings

The page posts its whole object, so a change reaches the board alone exactly while the object is what
the board shows once the requests under way are handled. `Chain` says so, request by request. It is
kept as long as changes are made on a loaded object, a request fails only as the newest one, and the
next change waits for its failure.
-/

namespace Zugli.Web

open Machine
open Serde

/-- Handled in order, the requests under way lead from what the board shows to the object of the
page. A failed request is the newest one. -/
def Chain : Cfg → List ConfigPost → Cfg → Prop
  | board, [], cfg => cfg = board
  | board, post :: posts, cfg =>
    match post.outcome with
    | .underWay => post.previous = board ∧ Chain post.sent posts cfg
    | .accepted => Chain board posts cfg
    | .failed => posts = [] ∧ post.previous = board

section Chain

variable {board cfg : Cfg} {posts : List ConfigPost} {post : ConfigPost} {index : Nat}

/-- A new change goes on from the object of the page. -/
theorem chain_append (chain : Chain board posts cfg)
    (none : ∀ post ∈ posts, post.outcome ≠ .failed) (change : Change) :
    Chain board (posts ++ [⟨change, cfg, .underWay⟩]) (change.mutate cfg) := by
  induction posts generalizing board with
  | nil =>
    have same : cfg = board := chain
    exact ⟨same, rfl⟩
  | cons post posts previous =>
    rw [List.forall_mem_cons] at none
    simp only [Chain, List.cons_append] at chain ⊢
    cases outcome : post.outcome with
    | underWay =>
      simp only [outcome] at chain
      exact ⟨chain.1, previous chain.2 none.2⟩
    | accepted =>
      simp only [outcome] at chain
      exact previous chain none.2
    | failed => exact absurd outcome none.1

/-- The oldest request under way goes on from what the board shows, and leaves the rest. -/
theorem chain_decideOldest (chain : Chain board posts cfg) (first : oldest posts = some post) :
    post.previous = board ∧ Chain post.sent (decideOldest .accepted posts) cfg := by
  induction posts with
  | nil => cases first
  | cons head posts previous =>
    rw [oldest, List.find?_cons] at first
    cases outcome : head.outcome with
    | underWay =>
      simp only [outcome, decide_true, Option.some.injEq] at first
      subst first
      simp only [Chain, outcome] at chain
      simp only [decideOldest, outcome, ↓reduceIte, Chain]
      exact chain
    | accepted =>
      simp only [outcome, reduceCtorEq, decide_false] at first
      simp only [Chain, outcome] at chain
      simp only [decideOldest, outcome, reduceCtorEq, ↓reduceIte, Chain]
      exact previous chain first
    | failed =>
      simp only [outcome, reduceCtorEq, decide_false] at first
      simp only [Chain, outcome] at chain
      rw [chain.1] at first
      cases first

/-- The newest request may fail. -/
theorem chain_refuse (chain : Chain board posts cfg) (found : posts[index]? = some post)
    (waiting : post.outcome = .underWay) (newest : posts.length ≤ index + 1) :
    Chain board (posts.set index { post with outcome := .failed }) cfg := by
  induction posts generalizing board index with
  | nil => cases found
  | cons head posts previous =>
    cases index with
    | zero =>
      obtain rfl : head = post := Option.some.inj found
      have alone : posts = [] := List.eq_nil_of_length_eq_zero (by
        rw [List.length_cons] at newest
        omega)
      simp only [Chain, waiting] at chain
      exact ⟨alone, chain.1⟩
    | succ index =>
      rw [List.getElem?_cons_succ] at found
      rw [List.length_cons] at newest
      simp only [Chain, List.set_cons_succ] at chain ⊢
      cases outcome : head.outcome with
      | underWay =>
        simp only [outcome] at chain
        exact ⟨chain.1, previous chain.2 found (by omega)⟩
      | accepted =>
        simp only [outcome] at chain
        exact previous chain found (by omega)
      | failed =>
        simp only [outcome] at chain
        rw [chain.1] at found
        cases found

/-- An accepted request may be forgotten, and a failed one is taken back. -/
theorem chain_settle {settled : Cfg} (chain : Chain board posts cfg)
    (found : posts[index]? = some post)
    (outcome : post.outcome = .accepted ∧ settled = cfg ∨
      post.outcome = .failed ∧ settled = post.previous) :
    Chain board (posts.eraseIdx index) settled := by
  induction posts generalizing board index with
  | nil => cases found
  | cons head posts previous =>
    cases index with
    | zero =>
      obtain rfl : head = post := Option.some.inj found
      rw [List.eraseIdx_cons_zero]
      obtain ⟨accepted, rfl⟩ | ⟨failed, rfl⟩ := outcome
      · simpa only [Chain, accepted] using chain
      · simp only [Chain, failed] at chain
        rw [chain.1]
        exact chain.2
    | succ index =>
      rw [List.getElem?_cons_succ] at found
      simp only [Chain, List.eraseIdx_cons_succ] at chain ⊢
      cases stage : head.outcome with
      | underWay =>
        simp only [stage] at chain
        exact ⟨chain.1, previous chain.2 found⟩
      | accepted =>
        simp only [stage] at chain
        exact previous chain found
      | failed =>
        -- nothing stands behind a failed request
        simp only [stage] at chain
        rw [chain.1] at found
        cases found

end Chain

/-- A control leaves the other settings of the object. -/
theorem value_mutate (cfg : Cfg) (change : Change) {setting : Setting}
    (other : setting ≠ change.setting) : (change.mutate cfg).value setting = cfg.value setting := by
  cases change <;> cases setting <;> first | rfl | exact absurd rfl other

/-- A control keeps the bounds of the controls. -/
theorem valid_mutate {cfg : Cfg} (valid : cfg.Valid) (change : Change) :
    (change.mutate cfg).Valid := by
  obtain ⟨view, low, high⟩ := valid
  cases change with
  | brightness level bounds => exact ⟨view, bounds.1, bounds.2⟩
  | uiMode mode =>
    have small : ∀ mode : Fin 3, UInt8.ofNat mode < 3 := by decide
    exact ⟨small mode, low, high⟩
  | stripCity | showLineBadges | autoBrightness | offWhenDimmed | reducedStart | reducedEnd =>
    exact ⟨view, low, high⟩

namespace SettingsPage

/-! ## Conditions on a step -/

/-- A change is made while no failure is still to be taken back, a request fails only as the newest
one, and no answer of an accepted request is lost. -/
def Orderly (page : SettingsPage) : Event → Prop
  | .changed _ | .modeClicked _ _ => ∀ post ∈ page.posts, post.outcome ≠ .failed
  | .refused index => page.posts.length ≤ index + 1
  | .lost index => ∀ post ∈ page.posts[index]?, post.outcome ≠ .accepted
  | _ => True

/-- A change is made on loaded settings, with no request to read them under way. -/
def Informed (page : SettingsPage) : Event → Prop
  | .changed _ | .modeClicked _ _ => page.configLoaded = true ∧ page.gets = []
  | _ => True

/-- The conditions on a step that keeps the object of the page in line with the board. -/
def Meets (page : SettingsPage) (event : Event) : Prop :=
  page.Orderly event ∧ page.Informed event

/-! ## The invariant -/

/-- The page is in line with the board. -/
structure InLine (page : SettingsPage) : Prop where
  /-- The board shows settings it took over. -/
  applied : ∃ config : Config, page.device.shared.settings = config.settings
  /-- The object is within the bounds of the controls. -/
  valid : page.cfg.Valid
  /-- So is every object a change started from. -/
  snapshots : ∀ post ∈ page.posts, post.previous.Valid
  /-- Settings are changed only once no request to read them is under way. -/
  quiet : page.gets ≠ [] → page.posts = []
  /-- Nothing is changed before the settings are loaded. -/
  unloaded : page.configLoaded = false → page.posts = []
  /-- An answer on its way shows what the board shows. -/
  answers : ∀ body, some body ∈ page.gets → body = page.device.getConfig.2.body
  /-- Once loaded, the object is what the board shows after the requests under way. -/
  chain : page.configLoaded = true →
    Chain page.device.shared.settings.cfg page.posts page.cfg

variable {serde : SerdeJsonCore} {scratch : Nat} {page : SettingsPage}

/-- The board takes over the oldest request under way. -/
theorem handled_oldest (roomy : 14 ≤ scratch) {post : ConfigPost}
    (first : oldest page.posts = some post) (faults : Faults) :
    page.handled serde scratch faults =
      ({ page with
          posts := decideOldest .accepted page.posts
          device := (page.device.setConfig serde faults post.sent.config).1 },
        some ⟨post.change, post.sent.config⟩) := by
  simp [handled, first, Cfg.fromSlice_body serde roomy]

/-- The board shows the settings it took over. -/
theorem settings_setConfig (device : Device) (faults : Faults) (config : Config) :
    (device.setConfig serde faults config).1.shared.settings = config.settings := rfl

/-- Deciding the oldest request keeps the snapshots. -/
theorem previous_decideOldest (outcome : Outcome) (posts : List ConfigPost) :
    (decideOldest outcome posts).map ConfigPost.previous = posts.map ConfigPost.previous := by
  induction posts with
  | nil => rfl
  | cons post posts same =>
    rw [decideOldest]
    split
    · rfl
    · rw [List.map_cons, List.map_cons, same]

/-- A page with a change under way has loaded the settings. -/
theorem loaded_of_mem {post : ConfigPost} (inLine : page.InLine) (member : post ∈ page.posts) :
    page.configLoaded = true := by
  cases known : page.configLoaded with
  | true => rfl
  | false => exact absurd (inLine.unloaded known) (List.ne_nil_of_mem member)

/-- A change that meets the condition keeps the page in line. -/
theorem inLine_applyChange (inLine : page.InLine)
    (orderly : ∀ post ∈ page.posts, post.outcome ≠ .failed)
    (informed : page.configLoaded = true ∧ page.gets = []) (change : Change) :
    (page.applyChange change).InLine where
  applied := inLine.applied
  valid := valid_mutate inLine.valid change
  snapshots := by
    intro post member
    obtain known | rfl := by simpa [applyChange] using member
    · exact inLine.snapshots post known
    · exact inLine.valid
  quiet := fun reading => absurd informed.2 reading
  unloaded := fun unread => absurd (unread.symm.trans informed.1) (by decide)
  answers := inLine.answers
  chain := fun loaded => chain_append (inLine.chain loaded) orderly change

/-- A request whose outcome reaches the page keeps it in line. -/
theorem inLine_eraseIdx {settled : Cfg} {index : Nat} {post : ConfigPost} (inLine : page.InLine)
    (found : page.posts[index]? = some post)
    (outcome : post.outcome = .accepted ∧ settled = page.cfg ∨
      post.outcome = .failed ∧ settled = post.previous) (valid : settled.Valid) :
    { page with cfg := settled, posts := page.posts.eraseIdx index }.InLine := by
  have some : page.posts ≠ [] := List.ne_nil_of_mem (List.mem_of_getElem? found)
  exact { inLine with
    valid := valid
    snapshots := fun other inside => inLine.snapshots other (List.mem_of_mem_eraseIdx inside)
    quiet := fun reading => absurd (inLine.quiet reading) some
    unloaded := fun unread => absurd (inLine.unloaded unread) some
    chain := fun known => chain_settle (inLine.chain known) found outcome }

/-- Opening the settings keeps the page in line: they are asked for only while none is known. -/
theorem inLine_openSettings (inLine : page.InLine) : page.openSettings.InLine := by
  unfold openSettings
  split
  · exact inLine
  · rename_i unread
    have unread : page.configLoaded = false := by simpa using unread
    exact { inLine with
      quiet := fun _ => inLine.unloaded unread
      answers := by
        intro body member
        exact inLine.answers body (by simpa using member) }

/-- The board answers with the settings it shows. -/
theorem inLine_answered (inLine : page.InLine) (index : Nat) : (page.answered index).InLine := by
  unfold answered
  split
  · rename_i asked
    have reading : page.gets ≠ [] := by
      rintro none
      simp [none] at asked
    exact { inLine with
      quiet := fun _ => inLine.quiet reading
      answers := by
        intro body member
        obtain known | fresh := List.mem_or_eq_of_mem_set member
        · exact inLine.answers body known
        · exact Option.some.inj fresh }
  · exact inLine

/-- The page takes over the settings the board shows. -/
theorem inLine_loaded (inLine : page.InLine) (index : Nat) : (page.loaded index).InLine := by
  unfold loaded
  split
  · rename_i body found
    have answer : body = page.device.getConfig.2.body :=
      inLine.answers body (List.mem_of_getElem? found)
    have none : page.posts = [] := inLine.quiet (by
      rintro empty
      simp [empty] at found)
    obtain ⟨config, shown⟩ := inLine.applied
    simp only [answer, Cfg.load_getConfig]
    exact
      { applied := inLine.applied
        valid := by
          rw [shown]
          exact Cfg.valid_settings config
        snapshots := inLine.snapshots
        quiet := fun _ => none
        unloaded := fun unread => nomatch unread
        answers := fun body member => inLine.answers body (List.mem_of_mem_eraseIdx member)
        chain := by
          intro _
          simp only [none]
          rfl }
  · exact inLine

/-- The board takes over what was sent, which the next request under way started from. -/
theorem inLine_handled (roomy : 14 ≤ scratch) (inLine : page.InLine) (faults : Faults) :
    (page.handled serde scratch faults).1.InLine := by
  cases first : oldest page.posts with
  | none => simpa [handled, first] using inLine
  | some post =>
    rw [handled_oldest roomy first]
    have member : post ∈ page.posts := List.mem_of_find?_eq_some first
    have some : page.posts ≠ [] := List.ne_nil_of_mem member
    have known : page.configLoaded = true := loaded_of_mem inLine member
    have still : page.gets = [] := by
      by_contra reading
      exact some (inLine.quiet reading)
    have valid : post.sent.Valid := valid_mutate (inLine.snapshots post member) post.change
    obtain ⟨_, chain⟩ := chain_decideOldest (inLine.chain known) first
    exact
      { applied := ⟨post.sent.config, settings_setConfig page.device faults post.sent.config⟩
        valid := inLine.valid
        snapshots := by
          have kept := previous_decideOldest .accepted page.posts
          intro other inside
          have listed : other.previous ∈ page.posts.map ConfigPost.previous :=
            kept ▸ List.mem_map_of_mem inside
          obtain ⟨source, held, same⟩ := List.mem_map.mp listed
          exact same ▸ inLine.snapshots source held
        quiet := fun reading => absurd still reading
        unloaded := fun unread => absurd (unread.symm.trans known) (by decide)
        answers := by
          intro body reading
          rw [still] at reading
          cases reading
        chain := by
          intro _
          rw [settings_setConfig, Cfg.settings_config valid]
          exact chain }

/-- A request that fails while it is the newest one keeps the page in line. -/
theorem inLine_refused (inLine : page.InLine) {index : Nat}
    (newest : page.Orderly (.refused index)) : (page.refused index).InLine := by
  unfold refused
  split
  · rename_i post found
    split
    · rename_i waiting
      have member : post ∈ page.posts := List.mem_of_getElem? found
      have some : page.posts ≠ [] := List.ne_nil_of_mem member
      exact { inLine with
        snapshots := by
          intro other inside
          obtain known | rfl := List.mem_or_eq_of_mem_set inside
          · exact inLine.snapshots other known
          · exact inLine.snapshots post member
        quiet := fun reading => absurd (inLine.quiet reading) some
        unloaded := fun unread => absurd (inLine.unloaded unread) some
        chain := fun known => chain_refuse (inLine.chain known) found waiting newest }
    · exact inLine
  · exact inLine

/-- An outcome that reaches the page keeps it in line. -/
theorem inLine_settled (inLine : page.InLine) (index : Nat) : (page.settled index).InLine := by
  unfold settled
  split
  · rename_i post found
    split
    · exact inLine
    · rename_i accepted
      exact inLine_eraseIdx inLine found (.inl ⟨accepted, rfl⟩) inLine.valid
    · rename_i failed
      have valid : post.previous.Valid := inLine.snapshots post (List.mem_of_getElem? found)
      exact inLine_eraseIdx inLine found (.inr ⟨failed, rfl⟩) valid
  · exact inLine

/-- An event that meets the condition keeps the page in line. -/
theorem step_inLine (roomy : 14 ≤ scratch) (page : SettingsPage) (event : Event)
    (inLine : page.InLine) (meets : page.Meets event) :
    (step serde scratch page event).1.InLine := by
  obtain ⟨orderly, informed⟩ := meets
  cases event with
  | changed change => exact inLine_applyChange inLine orderly informed change
  | modeClicked mode layoutSaved =>
    show (page.modeClicked mode layoutSaved).InLine
    unfold modeClicked
    split
    · exact inLine
    · split
      · exact inLine
      · exact inLine_applyChange inLine orderly informed _
  | openSettings => exact inLine_openSettings inLine
  | answered index => exact inLine_answered inLine index
  | loaded index => exact inLine_loaded inLine index
  | loadFailed index =>
    exact { inLine with
      quiet := fun reading => inLine.quiet (by
        intro none
        exact reading (by simp [step, none]))
      answers := fun body member => inLine.answers body (List.mem_of_mem_eraseIdx member) }
  | handled faults => exact inLine_handled roomy inLine faults
  | refused index => exact inLine_refused inLine orderly
  | settled index => exact inLine_settled inLine index
  | lost index =>
    show (page.lost index).InLine
    unfold lost
    split
    · rename_i post found
      have waiting : post.outcome ≠ .accepted := orderly post found
      rw [if_neg waiting]
      exact inLine
    · exact inLine

/-- What happens at the page leaves the board alone, and asks for nothing once the settings are
loaded. -/
structure AtPage (page next : SettingsPage) : Prop where
  /-- The board. -/
  device : next.device = page.device
  /-- The settings stay loaded. -/
  asks : page.configLoaded = true → page.gets = [] → next.configLoaded = true ∧ next.gets = []

/-- The board handles a request, or the event happens at the page and the board takes over
nothing. -/
theorem step_atPage (serde : SerdeJsonCore) (scratch : Nat) (page : SettingsPage) (event : Event) :
    (∃ faults, event = .handled faults) ∨
      (step serde scratch page event).2 = none ∧
        AtPage page (step serde scratch page event).1 := by
  cases event with
  | changed => exact .inr ⟨rfl, rfl, .intro⟩
  | modeClicked mode layoutSaved =>
    refine .inr ⟨rfl, ?_⟩
    simp only [step, modeClicked]
    split
    · exact ⟨rfl, .intro⟩
    · split <;> exact ⟨rfl, .intro⟩
  | openSettings =>
    refine .inr ⟨rfl, ?_⟩
    simp only [step, openSettings]
    split
    · exact ⟨rfl, .intro⟩
    · rename_i unread
      exact ⟨rfl, fun known => absurd known unread⟩
  | answered index =>
    refine .inr ⟨rfl, ?_⟩
    simp only [step, answered]
    split
    · exact ⟨rfl, fun known none => ⟨known, by simp [none]⟩⟩
    · exact ⟨rfl, .intro⟩
  | loaded index =>
    refine .inr ⟨rfl, ?_⟩
    simp only [step, loaded]
    split
    · rename_i asked
      have impossible : page.gets ≠ [] := by
        rintro none
        simp [none] at asked
      split <;> exact ⟨rfl, fun _ none => absurd none impossible⟩
    · exact ⟨rfl, .intro⟩
  | loadFailed index =>
    exact .inr ⟨rfl, rfl, fun known none => ⟨known, by simp [step, none]⟩⟩
  | handled faults => exact .inl ⟨faults, rfl⟩
  | refused index =>
    refine .inr ⟨rfl, ?_⟩
    simp only [step, refused]
    split
    · split <;> exact ⟨rfl, .intro⟩
    · exact ⟨rfl, .intro⟩
  | settled index =>
    refine .inr ⟨rfl, ?_⟩
    simp only [step, settled]
    split
    · split <;> exact ⟨rfl, .intro⟩
    · exact ⟨rfl, .intro⟩
  | lost index =>
    refine .inr ⟨rfl, ?_⟩
    simp only [step, lost]
    split
    · split <;> exact ⟨rfl, .intro⟩
    · exact ⟨rfl, .intro⟩

/-- An event leaves the board as it is, or the board takes over the oldest request under way. -/
theorem step_board (roomy : 14 ≤ scratch) (page : SettingsPage) (event : Event) :
    ((step serde scratch page event).2 = none ∧
        (step serde scratch page event).1.device = page.device) ∨
      ∃ post, oldest page.posts = some post ∧
        (step serde scratch page event).2 = some ⟨post.change, post.sent.config⟩ ∧
        (step serde scratch page event).1.device.shared.settings = post.sent.config.settings := by
  obtain ⟨faults, rfl⟩ | ⟨none, atPage⟩ := step_atPage serde scratch page event
  · show ((page.handled serde scratch faults).2 = none ∧ _) ∨ _
    cases first : oldest page.posts with
    | none => exact .inl (by simp [step, handled, first])
    | some post =>
      refine .inr ⟨post, rfl, ?_⟩
      simp only [step, handled_oldest roomy first, settings_setConfig, and_self]
  · exact .inl ⟨none, atPage.device⟩

/-- A page whose requests are in line, as the board takes over the oldest one: the board showed what
the change started from, and shows what was sent. -/
theorem board_oldest {post : ConfigPost} (inLine : page.InLine)
    (first : oldest page.posts = some post) :
    page.device.shared.settings.cfg = post.previous ∧
      post.sent.config.settings.cfg = post.sent := by
  have member : post ∈ page.posts := List.mem_of_find?_eq_some first
  have known : page.configLoaded = true := loaded_of_mem inLine member
  have valid : post.sent.Valid := valid_mutate (inLine.snapshots post member) post.change
  exact ⟨(chain_decideOldest (inLine.chain known) first).1.symm, Cfg.settings_config valid⟩

/-! ## Runs -/

/-- The page as it is loaded is in line with the board. -/
theorem start_inLine (device : Device) (config : Config)
    (applied : device.shared.settings = config.settings) : (start device).InLine where
  applied := ⟨config, applied⟩
  valid := show Cfg.initial.Valid by decide
  snapshots := fun _ member => nomatch member
  quiet := fun _ => rfl
  unloaded := fun _ => rfl
  answers := fun _ member => by simp [start] at member
  chain := fun known => nomatch known

/-- In every run whose steps all meet the condition, a request that one control triggered leaves
every other setting of the board as it was. -/
theorem change_keeps_others (serde : SerdeJsonCore) (scratch : Nat) (roomy : 14 ≤ scratch)
    (device : Device) (config : Config) (applied : device.shared.settings = config.settings)
    (events : List Event) (event : Event)
    (meets : Along (step serde scratch) Meets (start device) (events ++ [event])) :
    let page := (run (step serde scratch) (start device) events).1
    let after := step serde scratch page event
    ∀ accepted ∈ after.2, ∀ setting, setting ≠ accepted.change.setting →
      after.1.device.shared.settings.cfg.value setting =
        page.device.shared.settings.cfg.value setting := by
  intro page after accepted output setting other
  have inLine : page.InLine :=
    run_invariant_along (step_inLine roomy) (start_inLine device config applied)
      ((along_append _ _ _).mp meets).1
  obtain ⟨none, _⟩ | ⟨post, first, found, shown⟩ := @step_board serde _ roomy page event
  · rw [none] at output
    cases output
  · obtain ⟨before, sent⟩ := board_oldest inLine first
    obtain rfl : ⟨post.change, post.sent.config⟩ = accepted :=
      Option.some.inj (found.symm.trans output)
    rw [shown, before, sent]
    exact value_mutate post.previous post.change other

/-- The initial load is answered. -/
theorem run_load (device : Device) : (run (step serde scratch) (start device)
    [.answered 0, .loaded 0]).1 = ⟨device.shared.settings.cfg, true, [], [], device⟩ := by
  simp [step, start, answered, loaded, Cfg.load_getConfig]

/-- A board that has no store and hides city names. -/
def hidingBoard : Device where
  store := none
  shared := Shared.init.applyConfig { Config.default with stripCity := true }
  jsonTxInUse := false

/-- A change after the initial load. -/
theorem change_keeps_others_loaded :
    let page := (run (step .reference 32) (start hidingBoard)
      [.answered 0, .loaded 0, .changed (.showLineBadges false)]).1
    let after := step .reference 32 page (.handled noFaults)
    ∀ accepted ∈ after.2, ∀ setting, setting ≠ accepted.change.setting →
      after.1.device.shared.settings.cfg.value setting =
        page.device.shared.settings.cfg.value setting := by
  apply change_keeps_others .reference 32 (by decide) hidingBoard
    { Config.default with stripCity := true } rfl
  have before : Along (step .reference 32) Meets (start hidingBoard) [.answered 0, .loaded 0] := by
    simp [Along, Meets, Orderly, Informed]
  rw [show [Event.answered 0, .loaded 0, .changed (.showLineBadges false)] ++ [.handled noFaults] =
    [.answered 0, .loaded 0] ++ [.changed (.showLineBadges false), .handled noFaults] from rfl,
    along_append, run_load]
  have change : Meets ⟨hidingBoard.shared.settings.cfg, true, [], [], hidingBoard⟩
      (.changed (.showLineBadges false)) := ⟨by simp [Orderly], rfl, rfl⟩
  exact ⟨before, change, ⟨trivial, trivial⟩, trivial⟩

/-- A change before the settings are loaded posts the defaults of the page: the board stops hiding
city names when line badges are turned off. -/
theorem defaults_posted_before_load :
    let page := (run (step .reference 32) (start hidingBoard)
      [.changed (.showLineBadges false)]).1
    let after := step .reference 32 page (.handled noFaults)
    (∃ accepted ∈ after.2, accepted.change.setting = .showLineBadges) ∧
      page.device.shared.settings.cfg.value .stripCity = .inl true ∧
      after.1.device.shared.settings.cfg.value .stripCity = .inl false := by
  intro page after
  have first : oldest page.posts = some ⟨.showLineBadges false, .initial, .underWay⟩ := rfl
  have handled : after = page.handled .reference 32 noFaults := rfl
  rw [handled, handled_oldest (by decide) first]
  refine ⟨⟨_, rfl, rfl⟩, rfl, ?_⟩
  rw [settings_setConfig]
  rfl

/-! ## Settling -/

/-- The page is in line with the board and has nothing more to load. -/
def Loaded (page : SettingsPage) : Prop :=
  page.InLine ∧ page.configLoaded = true ∧ page.gets = []

/-- The page after the initial load is in line with the board. -/
theorem loaded_of_applied (device : Device) (config : Config)
    (applied : device.shared.settings = config.settings) :
    Loaded ⟨device.shared.settings.cfg, true, [], [], device⟩ where
  left :=
    { applied := ⟨config, applied⟩
      valid := by
        rw [applied]
        exact Cfg.valid_settings config
      snapshots := fun _ member => nomatch member
      quiet := fun _ => rfl
      unloaded := fun _ => rfl
      answers := fun _ member => nomatch member
      chain := fun _ => rfl }
  right := ⟨rfl, rfl⟩

/-- Once loaded, an orderly event meets the whole condition, and nothing more is asked for. -/
theorem step_loaded (roomy : 14 ≤ scratch) (page : SettingsPage) (event : Event)
    (loaded : page.Loaded) (orderly : page.Orderly event) :
    (step serde scratch page event).1.Loaded := by
  obtain ⟨inLine, known, none⟩ := loaded
  have informed : page.Informed event := by
    cases event with
    | changed | modeClicked => exact ⟨known, none⟩
    | _ => trivial
  refine ⟨step_inLine roomy page event inLine ⟨orderly, informed⟩, ?_⟩
  obtain ⟨faults, rfl⟩ | ⟨_, atPage⟩ := step_atPage serde scratch page event
  · show (page.handled serde scratch faults).1.configLoaded = true ∧ _
    cases first : oldest page.posts with
    | none => simp [step, handled, first, known, none]
    | some post => simp [step, handled_oldest roomy first, known, none]
  · exact atPage.asks known none

/-- The settings the board shows, as the page posts them. -/
def shown (page : SettingsPage) : Config := page.device.shared.settings.cfg.config

/-- The settings the board takes over in a step. -/
def taken (_ : Event) (accepted : Option Accepted) : Option Config := accepted.map Accepted.config

/-- The board shows what it took over last. -/
theorem step_shown (roomy : 14 ≤ scratch) (page : SettingsPage) (event : Event)
    (inLine : page.InLine) :
    shown (step serde scratch page event).1 =
      (taken event (step serde scratch page event).2).getD (shown page) := by
  obtain ⟨none, same⟩ | ⟨post, first, found, after⟩ := @step_board serde _ roomy page event
  · rw [none, shown, same]
    rfl
  · rw [found, shown, after, (board_oldest inLine first).2]
    rfl

/-- The only request under way is accepted, and the page learns so. -/
theorem run_accepted (roomy : 14 ≤ scratch) (page : SettingsPage) (post : ConfigPost)
    (alone : page.posts = [post]) (waiting : post.outcome = .underWay) (faults : Faults) :
    run (step serde scratch) page [.handled faults, .settled 0] =
      ({ page with
          posts := []
          device := (page.device.setConfig serde faults post.sent.config).1 },
        [(.handled faults, some ⟨post.change, post.sent.config⟩), (.settled 0, none)]) := by
  have first : oldest page.posts = some post := by simp [alone, oldest, waiting]
  simp [run, step, handled_oldest roomy first, alone, decideOldest, waiting, settled]

/-- In every orderly run after the initial load, once no request is under way the object of the page
is the last one the board accepted. -/
theorem settings_converge (serde : SerdeJsonCore) (scratch : Nat) (roomy : 14 ≤ scratch)
    (device : Device) (config : Config) (applied : device.shared.settings = config.settings)
    (events : List Event) :
    let page := (run (step serde scratch) (start device) [.answered 0, .loaded 0]).1
    let result := run (step serde scratch) page events
    Along (step serde scratch) Orderly page events → result.1.posts = [] →
      result.1.cfg.config = (lastWrite taken result.2).getD page.cfg.config := by
  rw [run_load]
  intro page result orderly idle
  have loaded : page.Loaded := loaded_of_applied device config applied
  have after : result.1.Loaded := run_invariant_along (step_loaded roomy) loaded orderly
  have last : shown result.1 = (lastWrite taken result.2).getD (shown page) :=
    read_run_along (fun page event loaded orderly =>
      ⟨step_loaded roomy page event loaded orderly, step_shown roomy page event loaded.1⟩)
      loaded orderly
  have chain := after.1.chain after.2.1
  rw [idle] at chain
  have same : result.1.cfg = result.1.device.shared.settings.cfg := chain
  rw [same]
  exact last

/-- A change that fails, and then another one that the board accepts. -/
theorem settings_converge_after_failure :
    let page := (run (step .reference 32) (start hidingBoard) [.answered 0, .loaded 0]).1
    let earlier := [Event.changed (.stripCity false), .refused 0, .settled 0,
      .changed (.showLineBadges false)]
    let result := run (step .reference 32) page (earlier ++ [.handled noFaults, .settled 0])
    result.1.cfg.config = (lastWrite taken result.2).getD page.cfg.config := by
  have before : ∀ cfg device, (run (step .reference 32) ⟨cfg, true, [], [], device⟩
      [.changed (.stripCity false), .refused 0, .settled 0, .changed (.showLineBadges false)]).1 =
        ⟨Change.mutate cfg (.showLineBadges false), true, [],
          [⟨.showLineBadges false, cfg, .underWay⟩], device⟩ := fun _ _ => rfl
  apply settings_converge .reference 32 (by decide) hidingBoard _ rfl
  · rw [run_load]
    exact ⟨fun _ member => (nomatch member), by simp [Orderly, step, applyChange], trivial,
      by simp [Orderly, step, applyChange, refused, settled, restore], trivial, trivial, trivial⟩
  · rw [run_load, run_append_state, before, run_accepted (by decide) _ _ rfl rfl]

/-- A change that fails while a later one is under way takes the later one back as well, which the
board then accepts. -/
theorem edit_rolled_back :
    let page := (run (step .reference 32) (start hidingBoard) [.answered 0, .loaded 0]).1
    let earlier := [Event.changed (.stripCity false), .changed (.showLineBadges false), .refused 0,
      .settled 0]
    let result := run (step .reference 32) page (earlier ++ [.handled noFaults, .settled 0])
    result.1.posts = [] ∧
      result.1.cfg.config ≠ (lastWrite taken result.2).getD page.cfg.config := by
  have before : ∀ cfg device, (run (step .reference 32) ⟨cfg, true, [], [], device⟩
      [.changed (.stripCity false), .changed (.showLineBadges false), .refused 0, .settled 0]) =
        (⟨cfg, true, [],
          [⟨.showLineBadges false, Change.mutate cfg (.stripCity false), .underWay⟩], device⟩,
          [(.changed (.stripCity false), none), (.changed (.showLineBadges false), none),
            (.refused 0, none), (.settled 0, none)]) := fun _ _ => rfl
  rw [run_load]
  simp only [run_append_state, run_append_history, before]
  rw [run_accepted (by decide) _ _ rfl rfl]
  refine ⟨rfl, fun same => ?_⟩
  have flag : true = false := congrArg Config.stripCity same
  cases flag

end SettingsPage

end Zugli.Web
