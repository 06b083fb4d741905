import Zugli.Lib.Runs
import Zugli.Web.Preview

/-!
# The preview over whole runs

While the editor stays open, no edit is lost: one request is in flight at most, and what is in
flight, queued or waiting for its timeout ends in a request with the layout of the edit or a later
one. Closing ends the preview for good unless a flush is released, or a timer is set, behind its
back.
-/

namespace Zugli.Web

open Machine

/-! ## The driver -/

namespace Driver

/-- A request is in flight exactly while the flag says so, and a flush is queued only behind it. -/
structure Sound (driver : Driver) : Prop where
  /-- One request at most. -/
  single : driver.posts.length = if driver.inFlight then 1 else 0
  /-- What is queued waits for a request. -/
  behind : driver.queued = true → driver.inFlight = true

variable {driver : Driver} {layout : List Element}

/-- A flush is queued behind the request in flight, or posts the layout. -/
theorem flush_cases (driver : Driver) (layout : List Element) :
    (driver.inFlight = true ∧ driver.flush layout = ({ driver with queued := true }, [])) ∨
      (driver.inFlight = false ∧ driver.flush layout =
        ({ driver with
            inFlight := true
            queued := false
            posts := driver.posts ++ [serializeLayout layout] },
          [.preview (serializeLayout layout)])) := by
  cases flying : driver.inFlight with
  | true => exact .inl ⟨rfl, by simp [flush, flying]⟩
  | false => exact .inr ⟨rfl, by simp [flush, flying]⟩

/-- A request that ends releases the queued flush, if there is one. -/
theorem settle_cases (driver : Driver) (layout : List Element) (index : Nat) :
    driver.settle layout index = (driver, []) ∨
      index < driver.posts.length ∧
        let settled := { driver with posts := driver.posts.eraseIdx index, inFlight := false }
        (driver.queued = false ∧ driver.settle layout index = (settled, []) ∨
          driver.queued = true ∧ driver.settle layout index = settled.flush layout) := by
  by_cases present : index < driver.posts.length
  · refine .inr ⟨present, ?_⟩
    cases waiting : driver.queued with
    | true => exact .inr ⟨rfl, by simp [settle, present, waiting]⟩
    | false => exact .inl ⟨rfl, by simp [settle, present, waiting]⟩
  · exact .inl (if_neg present)

/-- A flush touches no timer. -/
@[simp] theorem timers_flush (driver : Driver) (layout : List Element) :
    (driver.flush layout).1.timers = driver.timers := by
  obtain ⟨_, same⟩ | ⟨_, same⟩ := flush_cases driver layout <;> rw [same]

@[simp] theorem debounce_flush (driver : Driver) (layout : List Element) :
    (driver.flush layout).1.debounce = driver.debounce := by
  obtain ⟨_, same⟩ | ⟨_, same⟩ := flush_cases driver layout <;> rw [same]

@[simp] theorem keep_flush (driver : Driver) (layout : List Element) :
    (driver.flush layout).1.keep = driver.keep := by
  obtain ⟨_, same⟩ | ⟨_, same⟩ := flush_cases driver layout <;> rw [same]

/-- The end of a request touches no timer. -/
theorem timers_settle (driver : Driver) (layout : List Element) (index : Nat) :
    (driver.settle layout index).1.timers = driver.timers ∧
      (driver.settle layout index).1.debounce = driver.debounce ∧
      (driver.settle layout index).1.keep = driver.keep := by
  obtain same | ⟨_, ⟨_, same⟩ | ⟨_, same⟩⟩ := settle_cases driver layout index
  · simp [same]
  · simp [same]
  · simp [same]

/-- A flush keeps one request in flight. -/
theorem flush_sound (sound : driver.Sound) : (driver.flush layout).1.Sound := by
  obtain ⟨flying, same⟩ | ⟨landed, same⟩ := flush_cases driver layout
  · rw [same]
    exact ⟨sound.single, fun _ => flying⟩
  · rw [same]
    have none : driver.posts.length = 0 := by simpa [landed] using sound.single
    constructor
    · simp [none]
    · intro waiting
      cases waiting

/-- The end of a request keeps one request in flight. -/
theorem settle_sound (sound : driver.Sound) (index : Nat) :
    (driver.settle layout index).1.Sound := by
  obtain same | ⟨present, outcome⟩ := settle_cases driver layout index
  · rw [same]
    exact sound
  · have single : driver.posts.length = 1 := by
      have atMost := sound.single
      split at atMost <;> omega
    have landed : (driver.posts.eraseIdx index).length = 0 := by
      rw [List.length_eraseIdx_of_lt present, single]
    obtain ⟨idle, same⟩ | ⟨_, same⟩ := outcome
    · rw [same]
      constructor
      · simpa using landed
      · intro waiting
        exact absurd (idle.symm.trans waiting) (by decide)
    · -- the queued flush finds no request in flight
      rw [same]
      obtain ⟨flying, _⟩ | ⟨_, posted⟩ := flush_cases
        { driver with posts := driver.posts.eraseIdx index, inFlight := false } layout
      · cases flying
      · rw [posted]
        constructor
        · simpa using landed
        · intro waiting
          cases waiting

/-- A driver that only set or cleared timers is as sound as before. -/
theorem sound_of_same {other : Driver} (sound : driver.Sound) (posts : other.posts = driver.posts)
    (flying : other.inFlight = driver.inFlight) (waiting : other.queued = driver.queued) :
    other.Sound := by
  constructor
  · rw [posts, flying]
    exact sound.single
  · rw [flying, waiting]
    exact sound.behind

end Driver

namespace Session

/-- Requests a run issued, in order. -/
def issued (history : List (Event × List PreviewPost)) : List PreviewPost :=
  history.flatMap Prod.snd

theorem issued_append (earlier later : List (Event × List PreviewPost)) :
    issued (earlier ++ later) = issued earlier ++ issued later := List.flatMap_append

theorem issued_cons (entry : Event × List PreviewPost) (history : List (Event × List PreviewPost)) :
    issued (entry :: history) = entry.2 ++ issued history := rfl

/-- The driver stays sound. -/
theorem step_sound (session : Session) (event : Event) (sound : session.driver.Sound) :
    (step session event).1.driver.Sound := by
  cases event with
  | openEditor saved =>
    have flushed : (session.driver.flush saved).1.Sound := Driver.flush_sound sound
    exact Driver.sound_of_same flushed rfl rfl rfl
  | loaded | clear => exact sound
  | mutated | closeEditor => exact Driver.sound_of_same sound rfl rfl rfl
  | clearAnswered ok =>
    simp only [step]
    split
    · exact sound
    · cases ok with
      | true => exact Driver.sound_of_same sound rfl rfl rfl
      | false => exact sound
  | elapsed handle =>
    simp only [step, drive, Driver.elapse]
    split
    · apply Driver.flush_sound
      exact Driver.sound_of_same sound rfl rfl rfl
    · exact sound
  | ticked handle =>
    simp only [step, drive, Driver.tick]
    split
    · exact Driver.flush_sound sound
    · exact sound
  | settled index => exact Driver.settle_sound sound index

/-- The driver is sound after any events. -/
theorem run_sound (events : List Event) : (run step start events).1.driver.Sound := by
  have fresh : start.driver.Sound := ⟨rfl, fun waiting => nomatch waiting⟩
  exact run_invariant (fun event _ session sound => step_sound session event sound) fresh

/-! ## No edit is lost -/

/-- An event that calls `edit`. -/
def Edits (session : Session) : Event → Prop
  | .mutated _ => True
  | .clearAnswered ok => ok = true ∧ session.clears ≠ 0
  | _ => False

instance (session : Session) : ∀ event, Decidable (Edits session event)
  | .mutated _ => .isTrue trivial
  | .clearAnswered _ => inferInstanceAs (Decidable (_ ∧ _))
  | .openEditor _ | .loaded _ | .clear | .closeEditor | .elapsed _ | .ticked _ | .settled _ =>
    .isFalse id

/-- A request is still to come: a timeout waits, or a flush is queued. -/
def Pending (session : Session) : Prop :=
  session.driver.timers.timeouts ≠ [] ∨
    session.driver.inFlight = true ∧ session.driver.queued = true

/-- After `edit` a timeout waits. -/
theorem pending_of_edits {session : Session} {event : Event} (edits : Edits session event) :
    Pending (step session event).1 := by
  refine .inl ?_
  cases event with
  | mutated layout => simp [step, Driver.edit]
  | clearAnswered ok =>
    obtain ⟨rfl, waiting⟩ := edits
    simp [step, waiting, Driver.edit]
  | openEditor | loaded | clear | closeEditor | elapsed | ticked | settled => cases edits

/-- A flush that posts nothing is queued; one that posts, posts the layout. -/
theorem flush_pending (driver : Driver) (layout : List Element) :
    ((driver.flush layout).2 = [] ∧
        (driver.flush layout).1.inFlight = true ∧ (driver.flush layout).1.queued = true) ∨
      (driver.flush layout).2 = [.preview (serializeLayout layout)] := by
  obtain ⟨flying, same⟩ | ⟨_, same⟩ := Driver.flush_cases driver layout
  · rw [same]
    exact .inl ⟨rfl, flying, rfl⟩
  · rw [same]
    exact .inr rfl

/-- While the editor stays open, an event posts the working layout, or posts nothing and leaves
what was to come still to come. -/
theorem step_pending (session : Session) (event : Event) (stays : event ≠ .closeEditor) :
    ((step session event).2 = [] ∧ (Pending session → Pending (step session event).1)) ∨
      (step session event).2 = [.preview (serializeLayout (step session event).1.working)] := by
  have flushing : ∀ (driver : Driver) (layout : List Element),
      ((driver.flush layout).2 = [] ∧
          (Pending session → (driver.flush layout).1.timers.timeouts ≠ [] ∨
            (driver.flush layout).1.inFlight = true ∧ (driver.flush layout).1.queued = true)) ∨
        (driver.flush layout).2 = [.preview (serializeLayout layout)] := by
    intro driver layout
    obtain ⟨silent, waiting⟩ | posted := flush_pending driver layout
    · exact .inl ⟨silent, fun _ => .inr waiting⟩
    · exact .inr posted
  cases event with
  | openEditor saved =>
    obtain ⟨silent, waiting⟩ | posted := flush_pending session.driver saved
    · exact .inl ⟨silent, fun _ => .inr waiting⟩
    · exact .inr posted
  | loaded | clear => exact .inl ⟨rfl, id⟩
  | mutated layout => exact .inl ⟨rfl, fun _ => pending_of_edits trivial⟩
  | clearAnswered ok =>
    by_cases none : session.clears = 0
    · rw [step, if_pos none]
      exact .inl ⟨rfl, id⟩
    · cases ok with
      | true =>
        refine .inl ⟨by simp [step, none], fun _ => ?_⟩
        exact pending_of_edits ⟨rfl, none⟩
      | false =>
        simp only [step, none, ↓reduceIte, Bool.false_eq_true]
        exact .inl ⟨trivial, id⟩
  | closeEditor => exact absurd rfl stays
  | elapsed handle =>
    simp only [step, drive, Driver.elapse]
    split
    · exact flushing _ _
    · exact .inl ⟨rfl, id⟩
  | ticked handle =>
    simp only [step, drive, Driver.tick]
    split
    · exact flushing _ _
    · exact .inl ⟨rfl, id⟩
  | settled index =>
    simp only [step, drive]
    obtain same | ⟨_, ⟨idle, same⟩ | ⟨_, same⟩⟩ :=
      Driver.settle_cases session.driver session.working index
    · rw [same]
      exact .inl ⟨rfl, id⟩
    · rw [same]
      refine .inl ⟨rfl, ?_⟩
      rintro (waiting | ⟨_, queued⟩)
      · exact .inl waiting
      · exact absurd (idle.symm.trans queued) (by decide)
    · rw [same]
      exact flushing _ _

/-- From a state in which a request is to come, while the editor stays open: it is still to come,
or the last request has the working layout of one of the states since. -/
theorem run_covers {session : Session} (pending : Pending session) (later : List Event)
    (stays : .closeEditor ∉ later) :
    Pending (run step session later).1 ∨
      ∃ covered rest, later = covered ++ rest ∧
        (issued (run step session later).2).getLast? =
          some (.preview (serializeLayout (run step session covered).1.working)) := by
  induction later using List.reverseRecOn with
  | nil => exact .inl pending
  | append_singleton later event previous =>
    rw [List.mem_append, not_or, List.mem_singleton] at stays
    have last : run step (run step session later).1 [event] =
        ((step (run step session later).1 event).1,
          [(event, (step (run step session later).1 event).2)]) := rfl
    rw [run_append_state, run_append_history, issued_append, last]
    obtain ⟨silent, kept⟩ | posted :=
      step_pending (run step session later).1 event (Ne.symm stays.2)
    · have nothing : issued [(event, (step (run step session later).1 event).2)] = [] := by
        rw [silent]
        rfl
      rw [nothing, List.append_nil]
      obtain waiting | ⟨covered, rest, split, found⟩ := previous stays.1
      · exact .inl (kept waiting)
      · refine .inr ⟨covered, rest ++ [event], ?_, found⟩
        rw [split, List.append_assoc]
    · refine .inr ⟨later ++ [event], [], (List.append_nil _).symm, ?_⟩
      rw [run_append_state, last]
      simp [issued, posted]

/-- After any events at most one `POST /preview` is in flight. When none is and no timeout waits,
the last request issued has the working layout as it stood at any earlier edit or later, unless the
editor was closed since that edit. -/
theorem edit_is_posted (events : List Event) :
    (run step start events).1.driver.posts.length ≤ 1 ∧
      ∀ earlier edit later, events = earlier ++ edit :: later →
        Edits (run step start earlier).1 edit → .closeEditor ∉ later →
        (run step start events).1.driver.posts = [] →
        (run step start events).1.driver.timers.timeouts = [] →
        ∃ covered rest, later = covered ++ rest ∧
          (issued (run step start events).2).getLast? = some (.preview (serializeLayout
            (run step start (earlier ++ edit :: covered)).1.working)) := by
  have sound := run_sound events
  constructor
  · rw [sound.single]
    split <;> omega
  · rintro earlier edit later rfl edits stays landed elapsed
    have waiting := pending_of_edits edits
    rw [run_append_state, run_cons_state] at landed elapsed sound
    obtain pending | ⟨covered, rest, split, found⟩ := run_covers waiting later stays
    · -- nothing is to come any more
      have single := sound.single
      rw [landed] at single
      obtain timeout | ⟨flying, _⟩ := pending
      · exact absurd elapsed timeout
      · rw [flying] at single
        cases single
    · refine ⟨covered, rest, split, ?_⟩
      rw [run_append_history, run_append_state, run_cons_state, run_cons_history, issued_append,
        issued_cons, List.getLast?_append, List.getLast?_append, found]
      rfl

/-- An edit, posted when its timeout fires, while nothing else is in flight. -/
theorem edit_is_posted_on_timeout :
    let icon := makeElement .icon
    let before := [Event.openEditor [], .settled 0]
    let later := [Event.elapsed 2, .settled 0]
    ∃ covered rest, later = covered ++ rest ∧
      (issued (run step start (before ++ .mutated [icon] :: later)).2).getLast? =
        some (.preview (serializeLayout
          (run step start (before ++ .mutated [icon] :: covered)).1.working)) := by
  intro icon before later
  have stays : .closeEditor ∉ later := by simp [later]
  exact (edit_is_posted (before ++ .mutated [icon] :: later)).2 before (.mutated [icon]) later rfl
    trivial stays rfl rfl

/-! ## Closing -/

/-- Nothing releases a flush, and nothing sets a timer, while the editor is closed, and no
interval is replaced while it is open. -/
def Settles (session : Session) : Event → Prop
  | .openEditor _ => session.editorOpen = false
  | .mutated _ => session.editorOpen = true
  | .clearAnswered ok => ok = false ∨ session.editorOpen = true
  | .settled _ => session.editorOpen = true ∨ session.driver.queued = false
  | _ => True

instance (session : Session) : ∀ event, Decidable (Settles session event)
  | .openEditor _ | .mutated _ => inferInstanceAs (Decidable (_ = _))
  | .clearAnswered _ | .settled _ => inferInstanceAs (Decidable (_ ∨ _))
  | .loaded _ | .clear | .closeEditor | .elapsed _ | .ticked _ => .isTrue trivial

/-- The driver can name its timers, and has none while the editor is closed. -/
structure Tidy (session : Session) : Prop where
  /-- The timeout that waits is the last one set. -/
  timeouts : ∀ handle ∈ session.driver.timers.timeouts, handle = session.driver.debounce
  /-- The interval that runs is the last one set. -/
  intervals : ∀ handle ∈ session.driver.timers.intervals, handle = session.driver.keep
  /-- A closed editor has no timer. -/
  closed : session.editorOpen = false →
    session.driver.timers.timeouts = [] ∧ session.driver.timers.intervals = []

/-- Setting a new timeout leaves it the only one. -/
theorem tidy_edit {session : Session} (tidy : session.Tidy) (opened : session.editorOpen = true)
    (layout : List Element) (clears : Nat) :
    Tidy ⟨session.driver.edit, layout, session.editorOpen, clears⟩ := by
  have cleared : (session.driver.timers.clear session.driver.debounce).timeouts = [] :=
    Js.Timers.timeouts_clear _ tidy.timeouts
  constructor
  · intro handle waiting
    simpa [Driver.edit, cleared] using waiting
  · intro handle running
    have kept : handle ∈ session.driver.timers.intervals := by
      have filtered : handle ∈ (session.driver.timers.clear session.driver.debounce).intervals :=
        running
      exact (List.mem_filter.mp filtered).1
    exact tidy.intervals handle kept
  · intro closed
    exact absurd (opened.symm.trans closed) (by decide)

/-- Closing clears both timers. -/
theorem tidy_close {session : Session} (tidy : session.Tidy) :
    Tidy { session with editorOpen := false, driver := session.driver.close.1 } := by
  have timeouts : session.driver.close.1.timers.timeouts = [] := by
    apply Js.Timers.timeouts_clear
    intro handle waiting
    exact tidy.timeouts handle (List.mem_filter.mp waiting).1
  have intervals : session.driver.close.1.timers.intervals = [] := by
    have cleared : (session.driver.timers.clear session.driver.keep).intervals = [] :=
      Js.Timers.intervals_clear _ tidy.intervals
    simp [Driver.close, Js.Timers.clear] at cleared ⊢
    exact fun handle running _ => cleared handle running
  constructor
  · simp [timeouts]
  · simp [intervals]
  · exact fun _ => ⟨timeouts, intervals⟩

/-- Timers that only went away leave the rest named. -/
theorem tidy_of_subset {session other : Session} (tidy : session.Tidy)
    (debounce : other.driver.debounce = session.driver.debounce)
    (keep : other.driver.keep = session.driver.keep) (same : other.editorOpen = session.editorOpen)
    (timeouts : other.driver.timers.timeouts ⊆ session.driver.timers.timeouts)
    (intervals : other.driver.timers.intervals ⊆ session.driver.timers.intervals) :
    other.Tidy := by
  constructor
  · rw [debounce]
    exact fun handle waiting => tidy.timeouts handle (timeouts waiting)
  · rw [keep]
    exact fun handle running => tidy.intervals handle (intervals running)
  · intro closed
    obtain ⟨noTimeout, noInterval⟩ := tidy.closed (same.symm.trans closed)
    rw [noTimeout, List.subset_nil] at timeouts
    rw [noInterval, List.subset_nil] at intervals
    exact ⟨timeouts, intervals⟩

/-- An event that meets the condition keeps the timers named. -/
theorem step_tidy (session : Session) (event : Event) (tidy : session.Tidy)
    (settles : Settles session event) : (step session event).1.Tidy := by
  cases event with
  | openEditor saved =>
    obtain ⟨noTimeout, noInterval⟩ := tidy.closed settles
    constructor
    · simp [step, drive, Driver.openDriver, noTimeout]
    · simp [step, drive, Driver.openDriver, noInterval]
    · intro closed
      cases closed
  | loaded saved => exact tidy_of_subset tidy rfl rfl rfl (fun _ => id) (fun _ => id)
  | clear => exact tidy_of_subset tidy rfl rfl rfl (fun _ => id) (fun _ => id)
  | mutated layout => exact tidy_edit tidy settles layout session.clears
  | clearAnswered ok =>
    simp only [step]
    split
    · exact tidy
    · cases ok with
      | true =>
        have opened : session.editorOpen = true := settles.resolve_left (by decide)
        exact tidy_edit tidy opened [] (session.clears - 1)
      | false => exact tidy_of_subset tidy rfl rfl rfl (fun _ => id) (fun _ => id)
  | closeEditor => exact tidy_close tidy
  | elapsed handle =>
    simp only [step, drive, Driver.elapse]
    split
    · have fewer : (session.driver.timers.expire handle).timeouts ⊆
          session.driver.timers.timeouts := List.filter_subset_self _
      exact tidy_of_subset tidy (by simp) (by simp) rfl (by simp) (by simp)
    · exact tidy
  | ticked handle =>
    simp only [step, drive, Driver.tick]
    split
    · exact tidy_of_subset tidy (by simp) (by simp) rfl (by simp) (by simp)
    · exact tidy
  | settled index =>
    obtain ⟨timers, debounce, keep⟩ :=
      Driver.timers_settle session.driver session.working index
    refine tidy_of_subset tidy debounce keep rfl ?_ ?_
    · simp [step, drive, timers]
    · simp [step, drive, timers]

/-- While the editor is closed, an event that meets the condition and does not open it leaves it
closed, and issues no `POST /preview`. -/
theorem step_closed {session : Session} {event : Event} (tidy : session.Tidy)
    (closed : session.editorOpen = false) (settles : Settles session event)
    (shut : ∀ saved, event ≠ .openEditor saved) :
    (step session event).1.editorOpen = false ∧
      ∀ post ∈ (step session event).2, post = .previewEnd := by
  obtain ⟨noTimeout, noInterval⟩ := tidy.closed closed
  have opened : session.editorOpen ≠ true := by simp [closed]
  cases event with
  | openEditor saved => exact absurd rfl (shut saved)
  | loaded saved => simp [step, closed]
  | clear => simp [step, closed]
  | mutated layout => exact absurd settles opened
  | clearAnswered ok =>
    have failed : ok = false := settles.resolve_right opened
    subst failed
    simp only [step]
    split <;> simp [closed]
  | closeEditor => simp [step, drive, Driver.close]
  | elapsed handle => simp [step, drive, Driver.elapse, noTimeout, closed]
  | ticked handle => simp [step, drive, Driver.tick, noInterval, closed]
  | settled index =>
    have idle : session.driver.queued = false := settles.resolve_left opened
    obtain same | ⟨_, ⟨_, same⟩ | ⟨waiting, _⟩⟩ :=
      Driver.settle_cases session.driver session.working index
    · simp [step, drive, same, closed]
    · simp [step, drive, same, closed]
    · exact absurd (idle.symm.trans waiting) (by decide)

/-- A list that ends in an item, and goes on with that item only, ends in it. -/
theorem getLast?_append_of_all {α : Type} {item : α} {earlier later : List α}
    (ended : earlier.getLast? = some item) (same : ∀ other ∈ later, other = item) :
    (earlier ++ later).getLast? = some item := by
  rw [List.getLast?_append]
  cases last : later.getLast? with
  | none => simp [ended]
  | some other =>
    have member : other ∈ later := List.mem_of_getLast? last
    simp [same other member]

/-- In every run whose events meet the condition, once the editor is closed no `POST /preview` is
issued until it is opened again: the last request about the preview is its end. -/
theorem close_ends_preview (earlier later : List Event)
    (settles : Along step Settles start (earlier ++ .closeEditor :: later))
    (shut : ∀ saved, .openEditor saved ∉ later) :
    (∀ body, .preview body ∉
        issued (run step (run step start (earlier ++ [.closeEditor])).1 later).2) ∧
      (issued (run step start (earlier ++ .closeEditor :: later)).2).getLast? =
        some .previewEnd := by
  have whole : earlier ++ .closeEditor :: later = (earlier ++ [.closeEditor]) ++ later := by simp
  rw [whole, along_append] at settles
  obtain ⟨before, after⟩ := settles
  have fresh : start.Tidy := ⟨by simp [start, Driver.create, Js.Timers.idle],
    by simp [start, Driver.create, Js.Timers.idle], fun _ => ⟨rfl, rfl⟩⟩
  have tidy : (run step start (earlier ++ [.closeEditor])).1.Tidy :=
    run_invariant_along step_tidy fresh before
  have closed : (run step start (earlier ++ [.closeEditor])).1.editorOpen = false := by
    rw [run_append_state]
    rfl
  have ends : ∀ entry ∈ (run step (run step start (earlier ++ [.closeEditor])).1 later).2,
      ∀ post ∈ entry.2, post = .previewEnd := by
    refine @history_along _ _ _ step (fun session => session.Tidy ∧ session.editorOpen = false)
      Settles (fun _ posts => ∀ post ∈ posts, post = .previewEnd) later ?_ _ ⟨tidy, closed⟩ after
    intro event member session held met
    have still : ∀ saved, event ≠ .openEditor saved := fun saved same => shut saved (same ▸ member)
    obtain ⟨closed, answered⟩ := step_closed held.1 held.2 met still
    exact ⟨⟨step_tidy session event held.1 met, closed⟩, answered⟩
  have only : ∀ post ∈ issued (run step (run step start (earlier ++ [.closeEditor])).1 later).2,
      post = .previewEnd := by
    intro post member
    obtain ⟨entry, listed, inside⟩ := List.mem_flatMap.mp member
    exact ends entry listed post inside
  constructor
  · intro body member
    exact absurd (only _ member) (by simp)
  · have ended : (issued (run step start (earlier ++ [.closeEditor])).2).getLast? =
        some .previewEnd := by
      rw [run_append_history, issued_append, List.getLast?_append]
      rfl
    rw [whole, run_append_history, issued_append]
    exact getLast?_append_of_all ended only

/-- An edit is posted, answered, and the editor closed. -/
theorem close_ends_preview_idle :
    let earlier := [Event.openEditor [], .settled 0, .mutated [makeElement .icon], .elapsed 2,
      .settled 0]
    let later := [Event.ticked 1, .loaded []]
    (∀ body, .preview body ∉
        issued (run step (run step start (earlier ++ [.closeEditor])).1 later).2) ∧
      (issued (run step start (earlier ++ .closeEditor :: later)).2).getLast? =
        some .previewEnd :=
  close_ends_preview
    [.openEditor [], .settled 0, .mutated [makeElement .icon], .elapsed 2, .settled 0]
    [.ticked 1, .loaded []] (by decide +kernel) (by simp)

/-- A draft that is queued behind a slow request when the editor is closed is posted after the end
of the preview, when that request is answered. -/
theorem draft_posted_after_close :
    let draft := [makeElement .icon]
    let events := [Event.openEditor [], .mutated draft, .elapsed 2, .closeEditor, .settled 0]
    issued (run step start events).2 =
      [.preview (serializeLayout []), .previewEnd, .preview (serializeLayout draft)] :=
  rfl

end Session

end Zugli.Web
