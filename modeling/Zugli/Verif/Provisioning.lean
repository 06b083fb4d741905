import Zugli.Firmware.Provisioning
import Zugli.Lib.Runs

/-!
# The WiFi manager

Requests of the setup page, ends of scans and joins, timers and the button come in any order. The
credentials tried are the ones posted last, each of them at most four times; what is saved has been
joined; and the setup network is up whenever no join is under way.
-/

namespace Zugli

namespace Provisioning

open Serde
open Store (Call)

variable {Method : Type}

/-! ## What is seen -/

/-- What is seen of the portal from outside. -/
inductive Sight where
  /-- Credentials are posted. -/
  | posted (creds : WifiCreds)
  /-- The manager turns to credentials. -/
  | tried (creds : WifiCreds)
  /-- A connect is started. -/
  | attempted
  /-- Credentials have joined their network. -/
  | joined (creds : WifiCreds)
  /-- A save is run. -/
  | stored (call : Call)

namespace Sight

/-- The credentials posted. -/
@[simp] def posted? : Sight → Option WifiCreds
  | posted creds => some creds
  | tried _ | attempted | joined _ | stored _ => none

/-- The credentials turned to. -/
@[simp] def tried? : Sight → Option WifiCreds
  | tried creds => some creds
  | posted _ | attempted | joined _ | stored _ => none

/-- The credentials that have joined. -/
@[simp] def joined? : Sight → Option WifiCreds
  | joined creds => some creds
  | posted _ | tried _ | attempted | stored _ => none

/-- How many connects were started since credentials were turned to. -/
@[simp] def countAttempt (count : Nat) : Sight → Nat
  | tried _ => 0
  | attempted => count + 1
  | posted _ | joined _ | stored _ => count

end Sight

/-- The credentials posted, in order. -/
def posted (seen : List Sight) : List WifiCreds := seen.filterMap Sight.posted?

/-- The credentials turned to, in order. -/
def tried (seen : List Sight) : List WifiCreds := seen.filterMap Sight.tried?

/-- The credentials that have joined, in order. -/
def joined (seen : List Sight) : List WifiCreds := seen.filterMap Sight.joined?

/-- How many connects were started for the credentials turned to last. -/
def attempts (seen : List Sight) : Nat := seen.foldl Sight.countAttempt 0

section Readings

variable (seen : List Sight) (sight : Sight)

@[simp] theorem posted_concat :
    posted (seen ++ [sight]) = posted seen ++ sight.posted?.toList := by
  cases sight <;> simp [posted]

@[simp] theorem tried_concat : tried (seen ++ [sight]) = tried seen ++ sight.tried?.toList := by
  cases sight <;> simp [tried]

@[simp] theorem joined_concat :
    joined (seen ++ [sight]) = joined seen ++ sight.joined?.toList := by
  cases sight <;> simp [joined]

@[simp] theorem attempts_concat :
    attempts (seen ++ [sight]) = sight.countAttempt (attempts seen) := by
  simp [attempts]

end Readings

/-- What is seen of an effect. -/
def Effect.sight? : Effect Method → Option Sight
  | .answers _ | .configures _ => none
  | .tries creds => some (.tried creds)
  | .connects => some .attempted
  | .stored call => some (.stored call)

/-- What is seen of an attempt that succeeds. -/
def joinSights : Manager → List Sight
  | .joining creds _ => [.joined creds]
  | _ => []

/-- What is seen of an event. -/
def Event.sights (manager : Manager) : Event Method → List Sight
  | .connects creds => [.posted creds]
  | .joins succeeds => if succeeds then joinSights manager else []
  | _ => []

section Moves

variable (serde : SerdeJsonCore) (wpa2Personal : Method) (p : Provisioning Method)

/-- What is seen of a step. -/
def sights (event : Event Method) : List Sight :=
  if p.isReset then []
  else event.sights p.manager ++
    (p.step serde wpa2Personal event).2.filterMap Effect.sight?

/-! ## What a step can do -/

/-- A step that leaves the manager, its radio and its signals alone. -/
structure Spares (next : Provisioning Method) : Prop where
  /-- The manager. -/
  manager : next.manager = p.manager
  /-- The radio. -/
  radio : next.radio = p.radio
  /-- The scanned networks. -/
  scanCache : next.scanCache = p.scanCache
  /-- The credentials that wait. -/
  connectReq : next.connectReq = p.connectReq

/-- What a step can mean to the manager, and what is seen of it. -/
inductive Move : Provisioning Method → List Sight → Prop where
  /-- It goes on without the manager. -/
  | still {next : Provisioning Method} (spares : p.Spares next) {seen : List Sight}
    (silent : seen = [] ∨ seen = [.stored .clearAll]) : Move next seen
  /-- Credentials are posted. -/
  | posts (creds : WifiCreds) : Move { p with connectReq := some creds } [.posted creds]
  /-- The first scan ends. -/
  | comesUp (first : p.manager = .scanning) (scanCache : HVec (CachedNet Method) 16) :
    Move { p with
      scanCache
      radio := .accessPointStation none apConfig
      manager := .waiting } []
  /-- A later scan ends. -/
  | rescanned (again : p.manager = .rescanning) (scanCache : HVec (CachedNet Method) 16) :
    Move { p with scanCache, manager := .waiting } []
  /-- The credentials that wait are turned to. -/
  | turns (waits : p.manager = .waiting) (creds : WifiCreds) (waiting : p.connectReq = some creds)
    (wakeAt : Nat) :
    Move { p with connectReq := none, manager := .flushing creds wakeAt } [.tried creds]
  /-- A later scan begins. -/
  | rescans (waits : p.manager = .waiting) :
    Move { p with rescanReq := false, manager := .rescanning } []
  /-- A join begins. -/
  | begins (creds : WifiCreds) (wakeAt : Nat) (flushes : p.manager = .flushing creds wakeAt) :
    Move { p with
      radio := .station (some (staConfig creds (p.joinAuth wpa2Personal creds)))
      manager := .joining creds 0 } [.attempted]
  /-- The join is attempted again. -/
  | retries (creds : WifiCreds) (attempt wakeAt : Nat)
    (pauses : p.manager = .pausing creds attempt wakeAt) (left : attempt + 1 < joinAttempts) :
    Move { p with manager := .joining creds (attempt + 1) } [.attempted]
  /-- The join is given up. -/
  | givesUp (creds : WifiCreds) (attempt wakeAt : Nat)
    (pauses : p.manager = .pausing creds attempt wakeAt) :
    Move { p with radio := .accessPointStation none apConfig, manager := .waiting } []
  /-- An attempt succeeds. -/
  | succeeds (creds : WifiCreds) (attempt : Nat) (joins : p.manager = .joining creds attempt) :
    Move { p with manager := .saving creds } [.joined creds]
  /-- An attempt fails. -/
  | fails (creds : WifiCreds) (attempt : Nat) (joins : p.manager = .joining creds attempt)
    (wakeAt : Nat) : Move { p with manager := .pausing creds attempt wakeAt } []
  /-- The credentials are saved. -/
  | saves (creds : WifiCreds) (saving : p.manager = .saving creds) (device : Device)
    (wakeAt : Nat) :
    Move { p with device, manager := .saved creds wakeAt } [.stored (.saveWifi creds)]
  /-- The board is reset. -/
  | resets (creds : WifiCreds) (wakeAt : Nat) (saved : p.manager = .saved creds wakeAt) :
    Move { p with manager := .reset } []

/-- Every step is one of these. -/
theorem moves (event : Event Method) :
    p.Move wpa2Personal (p.step serde wpa2Personal event).1
      (p.sights serde wpa2Personal event) := by
  have same : p.Spares p := ⟨rfl, rfl, rfl, rfl⟩
  unfold sights step
  by_cases stopped : p.isReset = true
  · rw [if_pos stopped, if_pos stopped]
    exact .still same (.inl rfl)
  · rw [if_neg stopped, if_neg stopped]
    cases event with
    | passes | lists | sampled | resets =>
      refine .still ?_ (.inl ?_)
      · exact ⟨rfl, rfl, rfl, rfl⟩
      · rfl
    | connects creds => exact .posts creds
    | scanned found =>
      simp only [stepRunning, scanned]
      split
      case h_1 first => exact .comesUp first _
      case h_2 again => exact .rescanned again _
      case h_3 => exact .still same (.inl rfl)
    | selects =>
      simp only [stepRunning, selects]
      split
      case h_1 creds waits waiting => exact .turns waits creds waiting _
      case h_2 waits _ =>
        split
        · exact .rescans waits
        · exact .still same (.inl rfl)
      case h_3 => exact .still same (.inl rfl)
    | wakes =>
      simp only [stepRunning, wakes]
      split
      case h_1 creds wakeAt flushes =>
        split
        · exact .begins creds wakeAt flushes
        · exact .still same (.inl rfl)
      case h_2 creds attempt wakeAt pauses =>
        split
        · split
          case isTrue left => exact .retries creds attempt wakeAt pauses left
          case isFalse => exact .givesUp creds attempt wakeAt pauses
        · exact .still same (.inl rfl)
      case h_3 creds wakeAt saved =>
        split
        · exact .resets creds wakeAt saved
        · exact .still same (.inl rfl)
      case h_4 => exact .still same (.inl rfl)
    | joins succeeds =>
      cases point : p.manager with
      | joining creds attempt =>
        cases succeeds with
        | true =>
          simp only [stepRunning, joins, point, Event.sights, joinSights, if_true]
          exact .succeeds creds attempt point
        | false =>
          simp only [stepRunning, joins, point]
          exact .fails creds attempt point _
      | scanning | waiting | rescanning | flushing | pausing | saving | saved | reset =>
        simp only [stepRunning, joins, point, Event.sights, joinSights, ite_self]
        refine .still ?_ (.inl ?_)
        · exact ⟨point.symm, rfl, rfl, rfl⟩
        · rfl
    | saves faults =>
      simp only [stepRunning, saves]
      split
      case h_1 creds saving => exact .saves creds saving _ _
      case h_2 => exact .still same (.inl rfl)
    | wipes faults =>
      simp only [stepRunning, wipes]
      split
      · refine .still ?_ (.inr ?_)
        · exact ⟨rfl, rfl, rfl, rfl⟩
        · rfl
      · exact .still same (.inl rfl)

end Moves

/-! ## What always holds -/

section Invariants

variable {serde : SerdeJsonCore} {wpa2Personal : Method} {p next : Provisioning Method}
  {seen noted : List Sight}

/-- What may be seen next. -/
def Allowed (earlier : List Sight) : Sight → Prop
  | .posted _ => True
  | .tried creds => (posted earlier).getLast? = some creds
  | .attempted => tried earlier ≠ [] ∧ attempts earlier < joinAttempts
  | .joined creds => (tried earlier).getLast? = some creds ∧ 0 < attempts earlier
  | .stored call => call = .clearAll ∨ ∃ creds, call = .saveWifi creds ∧
      (tried earlier).getLast? = some creds ∧ (joined earlier).getLast? = some creds

/-- The configuration the manager keeps the radio in, until the reset. -/
def radioFor (wpa2Personal : Method) (p : Provisioning Method) : RadioConfig Method :=
  match p.manager with
  | .scanning => .station none
  | .waiting | .rescanning | .flushing .. => .accessPointStation none apConfig
  | .joining creds _ | .pausing creds .. | .saving creds | .saved creds _ =>
    .station (some (staConfig creds (p.joinAuth wpa2Personal creds)))
  | .reset => p.radio

/-- The credentials waiting are the last ones posted, and otherwise those have been turned to. -/
def Delivers (p : Provisioning Method) (seen : List Sight) : Prop :=
  match p.connectReq with
  | some creds => ∃ before, posted seen = before ++ [creds] ∧ (tried seen).Sublist before
  | none => (tried seen).Sublist (posted seen) ∧ (posted seen).getLast? = (tried seen).getLast?

/-- What the manager is at, by what is seen. -/
def At (p : Provisioning Method) (seen : List Sight) : Prop :=
  match p.manager with
  | .scanning | .waiting | .rescanning | .reset => True
  | .flushing creds _ => (tried seen).getLast? = some creds ∧ attempts seen = 0
  | .joining creds attempt | .pausing creds attempt _ =>
    (tried seen).getLast? = some creds ∧ attempts seen = attempt + 1 ∧ attempt < joinAttempts
  | .saving creds | .saved creds _ =>
    (tried seen).getLast? = some creds ∧ (joined seen).getLast? = some creds

/-- What holds throughout. -/
structure Kept (wpa2Personal : Method) (p : Provisioning Method) (seen : List Sight) : Prop where
  /-- Everything seen was allowed. -/
  traced : Machine.Traced Allowed seen
  /-- The radio is configured for what the manager is at. -/
  radio : p.radio = p.radioFor wpa2Personal
  /-- No credentials are lost. -/
  delivers : p.Delivers seen
  /-- The manager is where the trace says. -/
  place : p.At seen

/-- The last credentials posted wait or have been turned to last. -/
theorem Delivers.last (delivers : p.Delivers seen) :
    p.connectReq.or (tried seen).getLast? = (posted seen).getLast? := by
  unfold Delivers at delivers
  split at delivers
  case h_1 creds waiting =>
    obtain ⟨before, last, -⟩ := delivers
    rw [waiting, last, List.getLast?_concat, Option.some_or]
  case h_2 waiting => rw [waiting, Option.none_or, delivers.2]

/-- The credentials turned to are ones posted, in order. -/
theorem Delivers.sublist (delivers : p.Delivers seen) : (tried seen).Sublist (posted seen) := by
  unfold Delivers at delivers
  split at delivers
  · obtain ⟨before, last, within⟩ := delivers
    rw [last]
    exact within.trans (List.sublist_append_left before _)
  · exact delivers.1

/-- A step that leaves the manager alone keeps what holds. -/
theorem Kept.spared (kept : p.Kept wpa2Personal seen) (spares : p.Spares next) :
    next.Kept wpa2Personal seen := by
  refine ⟨kept.traced, ?_, ?_, ?_⟩
  · have radio := kept.radio
    unfold radioFor joinAuth at radio ⊢
    rw [spares.manager, spares.scanCache, spares.radio]
    exact radio
  · have delivers := kept.delivers
    unfold Delivers at delivers ⊢
    rw [spares.connectReq]
    exact delivers
  · have place := kept.place
    unfold At at place ⊢
    rw [spares.manager]
    exact place

/-- A wipe of the store is no matter of the manager. -/
theorem Kept.wiped (kept : p.Kept wpa2Personal seen) :
    p.Kept wpa2Personal (seen ++ [.stored .clearAll]) := by
  refine ⟨kept.traced.snoc (.inl rfl), kept.radio, ?_, ?_⟩
  · simpa [Delivers] using kept.delivers
  · simpa [At] using kept.place

/-- A step keeps all that. -/
theorem Move.kept (move : p.Move wpa2Personal next noted) (kept : p.Kept wpa2Personal seen) :
    next.Kept wpa2Personal (seen ++ noted) := by
  cases move with
  | still spares silent =>
    obtain rfl | rfl := silent
    · rw [List.append_nil]
      exact kept.spared spares
    · exact kept.wiped.spared spares
  | posts creds =>
    refine ⟨kept.traced.snoc trivial, kept.radio, ?_, ?_⟩
    · exact ⟨posted seen, by simp, by simpa using kept.delivers.sublist⟩
    · simpa [At] using kept.place
  | comesUp | givesUp =>
    rw [List.append_nil]
    exact ⟨kept.traced, rfl, kept.delivers, trivial⟩
  | rescanned again =>
    rw [List.append_nil]
    have radio := kept.radio
    simp only [radioFor, again] at radio
    exact ⟨kept.traced, radio, kept.delivers, trivial⟩
  | rescans waits =>
    rw [List.append_nil]
    have radio := kept.radio
    simp only [radioFor, waits] at radio
    exact ⟨kept.traced, radio, kept.delivers, trivial⟩
  | turns waits creds waiting wakeAt =>
    have delivers := kept.delivers
    have radio := kept.radio
    simp only [Delivers, waiting] at delivers
    simp only [radioFor, waits] at radio
    obtain ⟨before, last, within⟩ := delivers
    refine ⟨kept.traced.snoc ?_, radio, ?_, ?_⟩
    · simp [Allowed, last]
    · simp [Delivers, last, within]
    · simp [At]
  | begins creds wakeAt flushes =>
    have place := kept.place
    simp only [At, flushes] at place
    refine ⟨kept.traced.snoc ⟨?_, ?_⟩, rfl, ?_, ?_⟩
    · exact List.getLast?_isSome.mp (Option.isSome_of_eq_some place.1)
    · rw [place.2]
      decide
    · simpa [Delivers] using kept.delivers
    · simp [At, place, joinAttempts]
  | retries creds attempt wakeAt pauses left =>
    have place := kept.place
    have radio := kept.radio
    simp only [At, pauses] at place
    simp only [radioFor, pauses] at radio
    refine ⟨kept.traced.snoc ⟨?_, ?_⟩, radio, ?_, ?_⟩
    · exact List.getLast?_isSome.mp (Option.isSome_of_eq_some place.1)
    · rw [place.2.1]
      exact left
    · simpa [Delivers] using kept.delivers
    · simp [At, place, left]
  | succeeds creds attempt joins =>
    have place := kept.place
    have radio := kept.radio
    simp only [At, joins] at place
    simp only [radioFor, joins] at radio
    refine ⟨kept.traced.snoc ⟨place.1, ?_⟩, radio, ?_, ?_⟩
    · rw [place.2.1]
      exact Nat.succ_pos attempt
    · simpa [Delivers] using kept.delivers
    · simp [At, place]
  | fails creds attempt joins wakeAt =>
    have place := kept.place
    have radio := kept.radio
    simp only [At, joins] at place
    simp only [radioFor, joins] at radio
    rw [List.append_nil]
    exact ⟨kept.traced, radio, kept.delivers, place⟩
  | saves creds saving device wakeAt =>
    have place := kept.place
    have radio := kept.radio
    simp only [At, saving] at place
    simp only [radioFor, saving] at radio
    refine ⟨kept.traced.snoc (.inr ⟨creds, rfl, place⟩), radio, ?_, ?_⟩
    · simpa [Delivers] using kept.delivers
    · simpa [At] using place
  | resets creds wakeAt saved =>
    rw [List.append_nil]
    exact ⟨kept.traced, rfl, kept.delivers, trivial⟩

/-- It holds throughout a run. -/
theorem run_kept (serde : SerdeJsonCore) (wpa2Personal : Method) (device : Device)
    (events : List (Event Method)) :
    (Machine.run (step serde wpa2Personal) (start device) events).1.Kept wpa2Personal
      (Machine.observed (step serde wpa2Personal) (sights serde wpa2Personal) (start device)
        events) := by
  have booted : (start device : Provisioning Method).Kept wpa2Personal [] :=
    ⟨.nil, rfl, ⟨List.Sublist.refl [], rfl⟩, trivial⟩
  have carried : ∀ (p : Provisioning Method) event seen, p.Kept wpa2Personal seen →
      (p.step serde wpa2Personal event).1.Kept wpa2Personal
        (seen ++ p.sights serde wpa2Personal event) :=
    fun p event _ kept => (p.moves serde wpa2Personal event).kept kept
  exact Machine.observed_invariant carried booted events

/-! ## A join ends -/

/-- The manager is neither waiting for a signal nor past a reset. -/
def Busy (p : Provisioning Method) : Prop := p.manager ≠ .waiting ∧ p.manager ≠ .reset

/-- How many steps the manager has left before it waits for a signal or has reset the board. -/
def rank (p : Provisioning Method) : Nat :=
  match p.manager with
  | .waiting | .reset => 0
  | .scanning | .rescanning | .saved .. => 1
  | .saving _ => 2
  | .pausing _ attempt _ => 2 * (joinAttempts - 1 - attempt) + 2
  | .joining _ attempt => 2 * (joinAttempts - 1 - attempt) + 3
  | .flushing .. => 2 * joinAttempts + 2

/-- It never has more than ten left. -/
theorem rank_le (p : Provisioning Method) : p.rank ≤ 10 := by
  unfold rank joinAttempts
  split <;> omega

/-- A step of the manager. -/
def moved (serde : SerdeJsonCore) (wpa2Personal : Method) (p : Provisioning Method)
    (event : Event Method) : List Unit :=
  if (p.step serde wpa2Personal event).1.manager = p.manager then [] else [()]

/-- A busy manager comes closer to its end with each of its steps. -/
theorem Move.lowers (move : p.Move wpa2Personal next noted) (busy : p.Busy) :
    next.manager = p.manager ∧ next.rank = p.rank ∨ next.rank < p.rank := by
  cases move with
  | still spares _ =>
    refine .inl ⟨spares.manager, ?_⟩
    unfold rank
    rw [spares.manager]
  | posts creds => exact .inl ⟨rfl, rfl⟩
  | turns waits | rescans waits => exact absurd waits busy.1
  | comesUp point | rescanned point | begins _ _ point | givesUp _ _ _ point
  | succeeds _ _ point | fails _ _ point | saves _ point | resets _ _ point =>
    refine .inr ?_
    simp only [rank, point, joinAttempts]
    omega
  | retries creds attempt wakeAt point left =>
    refine .inr ?_
    simp only [rank, point, joinAttempts] at left ⊢
    omega

/-- It makes at most as many of its own steps as it has left. -/
theorem moved_le {events : List (Event Method)}
    (busy : Machine.Along (step serde wpa2Personal) (fun p _ => p.Busy) p events) :
    (Machine.observed (step serde wpa2Personal) (moved serde wpa2Personal) p events).length ≤
      p.rank := by
  refine Machine.observed_length_le (fun p event busy => ?_) busy
  unfold moved
  obtain ⟨same, kept⟩ | less := (p.moves serde wpa2Personal event).lowers busy
  · rw [if_pos same, kept]
    exact Nat.le_of_eq (Nat.zero_add _)
  · split
    · rw [List.length_nil]
      omega
    · rw [List.length_singleton]
      omega

/-- Some event takes a busy manager closer to its end, at the latest after a while. -/
theorem busy_goes_on (serde : SerdeJsonCore) (wpa2Personal : Method) (p : Provisioning Method)
    (running : p.isReset = false) (busy : p.Busy) :
    ∃ ticks event, ({ p with now := p.now + ticks }.step serde wpa2Personal event).1.rank <
      p.rank := by
  have runs (ticks : Nat) (event : Event Method) :
      { p with now := p.now + ticks }.step serde wpa2Personal event =
        { p with now := p.now + ticks }.stepRunning serde wpa2Personal event :=
    if_neg (Bool.eq_false_iff.mp running)
  suffices advances : ∃ ticks event,
      ({ p with now := p.now + ticks }.stepRunning serde wpa2Personal event).1.rank < p.rank by
    obtain ⟨ticks, event, less⟩ := advances
    refine ⟨ticks, event, ?_⟩
    rw [runs]
    exact less
  cases point : p.manager with
  | waiting => exact absurd point busy.1
  | reset => exact absurd point busy.2
  | scanning =>
    refine ⟨0, .scanned [], ?_⟩
    simp [stepRunning, scanned, advertise, configure, rank, point]
  | rescanning =>
    refine ⟨0, .scanned [], ?_⟩
    simp [stepRunning, scanned, rank, point]
  | flushing creds wakeAt =>
    refine ⟨wakeAt, .wakes, ?_⟩
    simp [stepRunning, wakes, rank, point, joinAttempts]
  | joining creds attempt =>
    refine ⟨0, .joins true, ?_⟩
    simp [stepRunning, joins, rank, point]
  | pausing creds attempt wakeAt =>
    refine ⟨wakeAt, .wakes, ?_⟩
    by_cases left : attempt + 1 < joinAttempts
    · simp only [stepRunning, wakes, rank, point, Nat.le_add_left, left, if_true]
      unfold joinAttempts at left ⊢
      omega
    · simp [stepRunning, wakes, rank, point, left, advertise, configure]
  | saving creds =>
    refine ⟨0, .saves noFaults, ?_⟩
    simp [stepRunning, saves, rank, point]
  | saved creds wakeAt =>
    refine ⟨wakeAt, .wakes, ?_⟩
    simp [stepRunning, wakes, rank, point]

/-- The WiFi manager over any run of the portal: requests, scans, joins, timers, flash and the
button in any order. Credentials are tried only when they are the ones posted last, in the order
they were posted, and none posted last is lost: it waits or it is the one tried last. A connect is
attempted at most four times for each. Credentials are saved only once they have joined, and
nothing else is saved but a wipe. The radio offers the open setup network whenever the manager is
neither in its first scan nor in a join, and in a join it is a station for the credentials tried. A
busy manager is never stuck and after at most ten steps of its own waits for requests again, with
the setup network up, or has reset the board. -/
theorem portal_tries_what_is_posted (serde : SerdeJsonCore) (wpa2Personal : Method)
    (device : Device) (events : List (Event Method)) :
    let p := (Machine.run (step serde wpa2Personal) (start device) events).1
    let seen := Machine.observed (step serde wpa2Personal) (sights serde wpa2Personal)
      (start device) events
    Machine.Traced Allowed seen ∧
      (tried seen).Sublist (posted seen) ∧
      p.connectReq.or (tried seen).getLast? = (posted seen).getLast? ∧
      p.radio = p.radioFor wpa2Personal ∧
      (p.isReset = false → p.Busy → ∃ ticks event,
        ({ p with now := p.now + ticks }.step serde wpa2Personal event).1.rank < p.rank) ∧
      ∀ later, Machine.Along (step serde wpa2Personal) (fun p _ => p.Busy) p later →
        (Machine.observed (step serde wpa2Personal) (moved serde wpa2Personal) p later).length ≤
          10 := by
  intro p seen
  have kept : p.Kept wpa2Personal seen := run_kept serde wpa2Personal device events
  refine ⟨kept.traced, kept.delivers.sublist, kept.delivers.last, kept.radio, ?_, ?_⟩
  · exact busy_goes_on serde wpa2Personal p
  · exact fun later busy => Nat.le_trans (moved_le busy) p.rank_le

end Invariants

end Provisioning

end Zugli
