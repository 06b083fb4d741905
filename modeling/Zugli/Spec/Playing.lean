import Zugli.Firmware.Display.Screens
import Zugli.Firmware.Model
import Zugli.Lib.Runs

/-!
# How states are shown

What can be seen of the render task is which states it receives, enters and draws. The connecting
screen counts its frames from zero and is left only once a whole pass of them is drawn; what it then
gives way to, and what every other screen gives way to, is the state received last.
-/

namespace Zugli

open Machine (Traced snoc_split)

/-! ## Sights -/

/-- What can be seen of the render task. -/
inductive Sight where
  /-- It receives a state from `DISPLAY`. -/
  | received (state : DisplayState)
  /-- It enters the inner loop for a state. -/
  | entered (state : DisplayState)
  /-- It draws a frame of a state. -/
  | drawn (state : DisplayState) (counter : UInt32)
deriving DecidableEq

namespace Sight

/-- The state received. -/
def received? : Sight → Option DisplayState
  | .received state => some state
  | .entered _ | .drawn .. => none

/-- The state entered. -/
def entered? : Sight → Option DisplayState
  | .entered state => some state
  | .received _ | .drawn .. => none

/-- The number of a frame of the connecting screen. -/
def counter? : Sight → Option Nat
  | .drawn .connecting counter => some counter.toNat
  | _ => none

/-- Whether a frame is drawn. -/
def isDrawn : Sight → Bool
  | .drawn .. => true
  | .received _ | .entered _ => false

end Sight

/-- The state received last. -/
def lastReceived (seen : List Sight) : Option DisplayState :=
  (seen.filterMap Sight.received?).getLast?

/-- The state entered last. -/
def lastEntered (seen : List Sight) : Option DisplayState :=
  (seen.filterMap Sight.entered?).getLast?

/-- The numbers of the frames drawn of the connecting screen, in order. -/
def connectingFrames (seen : List Sight) : List Nat := seen.filterMap Sight.counter?

/-- Since each start of the connecting screen, so many of its frames have been drawn in order. -/
def Passed (count : Nat) (seen : List Sight) : Prop :=
  ∀ before mid, seen = before ++ .entered .connecting :: mid →
    (List.range count).Sublist (connectingFrames mid)

/-- A state is the one received last, if that was not on the connecting screen and no frame has been
drawn since. -/
def Prompt (state : DisplayState) (seen : List Sight) : Prop :=
  ∀ before received mid, seen = before ++ .received received :: mid →
    (∀ sight ∈ mid, sight.isDrawn = false) → lastEntered before ≠ some .connecting →
    state = received

/-- What may be seen next: a state is entered when it was received last, and a frame is drawn when
that is prompt and no pass of the connecting screen is broken off. -/
def Allowed (seen : List Sight) : Sight → Prop
  | .received _ => True
  | .entered state => lastReceived seen = some state
  | .drawn state _ =>
    (state ≠ .connecting → Passed Canvas.connectCycleFrames seen) ∧ Prompt state seen

/-! ## The phases of the inner loop -/

/-- How far the inner loop is with a frame. -/
inductive Phase where
  /-- It has not been entered. -/
  | unstarted
  /-- The frame is still to be drawn. -/
  | ahead
  /-- The frame is drawn. -/
  | behind (animating : Bool)
deriving DecidableEq

/-- What the render task shows and where it is with that. -/
structure Play where
  /-- The phase of the frame. -/
  phase : Phase
  /-- The state. -/
  state : DisplayState
  /-- The number of the frame. -/
  frame : UInt32
  /-- The state that is parked. -/
  pending : Option DisplayState

/-- The play at the start of a state. -/
def Play.opening (state : DisplayState) : Play := ⟨.ahead, state, 0, none⟩

/-- What a turn of the render task can do and what is seen of it. -/
inductive Turn : Play → List Sight → Play → Prop where
  /-- Nothing. -/
  | still (play : Play) : Turn play [] play
  /-- The frame is drawn; the connecting screen is animating. -/
  | draws (state : DisplayState) (frame : UInt32) (pending : Option DisplayState)
    (animating : Bool) (moves : state = .connecting → animating = true) :
    Turn ⟨.ahead, state, frame, pending⟩ [.drawn state frame]
      ⟨.behind animating, state, frame, pending⟩
  /-- An animating screen draws the frame again. -/
  | repeats (state : DisplayState) (frame : UInt32) (pending : Option DisplayState) :
    Turn ⟨.behind true, state, frame, pending⟩ [] ⟨.ahead, state, frame, pending⟩
  /-- An animating screen goes on to the next frame. -/
  | advances (state : DisplayState) (frame : UInt32) (pending : Option DisplayState) :
    Turn ⟨.behind true, state, frame, pending⟩ [] ⟨.ahead, state, frame + 1, pending⟩
  /-- The connecting screen parks a state. -/
  | parks (frame : UInt32) (pending : Option DisplayState) (next : DisplayState) :
    Turn ⟨.behind true, .connecting, frame, pending⟩ [.received next]
      ⟨.ahead, .connecting, frame, some next⟩
  /-- The first state is received. -/
  | starts (state next : DisplayState) (frame : UInt32) (pending : Option DisplayState) :
    Turn ⟨.unstarted, state, frame, pending⟩ [.received next, .entered next] (.opening next)
  /-- A state is received and entered, by the connecting screen at the end of a pass. -/
  | takes (animating : Bool) (state next : DisplayState) (frame : UInt32)
    (pending : Option DisplayState)
    (done : animating = true → state = .connecting → Canvas.connectCycleDone frame = true) :
    Turn ⟨.behind animating, state, frame, pending⟩ [.received next, .entered next]
      (.opening next)
  /-- The state that is parked is entered at the end of a pass. -/
  | applies (animating : Bool) (state next : DisplayState) (frame : UInt32)
    (done : Canvas.connectCycleDone frame = true) :
    Turn ⟨.behind animating, state, frame, some next⟩ [.entered next] (.opening next)
  /-- A screen that stands still is entered again. -/
  | again (state : DisplayState) (frame : UInt32) (pending : Option DisplayState) :
    Turn ⟨.behind false, state, frame, pending⟩ [.entered state] (.opening state)

/-! ## What has been seen -/

/-- How many frames of a pass are drawn for certain. -/
def Play.quota (play : Play) : Nat :=
  if play.state = .connecting then
    match play.phase with
    | .unstarted | .ahead => play.frame.toNat
    | .behind _ => play.frame.toNat + 1
  else Canvas.connectCycleFrames

/-- How the play goes with what has been seen of it. -/
structure Tracks (play : Play) (seen : List Sight) : Prop where
  /-- Nothing is seen before the start. -/
  unstarted : play.phase = .unstarted → seen = []
  /-- The state received last is the one that is parked, or else the state. -/
  received : play.phase ≠ .unstarted → lastReceived seen = some (play.pending.getD play.state)
  /-- The state is the one entered last. -/
  entered : play.phase ≠ .unstarted → lastEntered seen = some play.state
  /-- Only the connecting screen parks a state. -/
  parked : play.pending ≠ none → play.state = .connecting
  /-- The connecting screen does not stand still. -/
  moves : play.phase = .behind false → play.state ≠ .connecting
  /-- A frame that is drawn is seen. -/
  drawn : ∀ animating, play.phase = .behind animating →
    ∃ earlier state counter, seen = earlier ++ [.drawn state counter]
  /-- The frames of a pass are drawn in order. -/
  passed : Passed play.quota seen
  /-- A state received elsewhere is entered before a frame is drawn. -/
  prompt : Prompt play.state seen

section Snoc

variable (seen : List Sight) (state : DisplayState) (counter : UInt32)

@[simp] theorem lastReceived_received :
    lastReceived (seen ++ [.received state]) = some state := by
  simp [lastReceived, Sight.received?]

@[simp] theorem lastReceived_entered :
    lastReceived (seen ++ [.entered state]) = lastReceived seen := by
  simp [lastReceived, Sight.received?]

@[simp] theorem lastReceived_drawn :
    lastReceived (seen ++ [.drawn state counter]) = lastReceived seen := by
  simp [lastReceived, Sight.received?]

@[simp] theorem lastEntered_received :
    lastEntered (seen ++ [.received state]) = lastEntered seen := by
  simp [lastEntered, Sight.entered?]

@[simp] theorem lastEntered_entered : lastEntered (seen ++ [.entered state]) = some state := by
  simp [lastEntered, Sight.entered?]

@[simp] theorem lastEntered_drawn :
    lastEntered (seen ++ [.drawn state counter]) = lastEntered seen := by
  simp [lastEntered, Sight.entered?]

end Snoc

/-- Fewer frames have been drawn too. -/
theorem Passed.mono {count fewer : Nat} {seen : List Sight} (passed : Passed count seen)
    (le : fewer ≤ count) : Passed fewer seen :=
  fun before mid split => (List.range_sublist.mpr le).trans (passed before mid split)

/-- No frame has to be drawn. -/
theorem passed_zero (seen : List Sight) : Passed 0 seen :=
  fun _ _ _ => List.nil_sublist _

/-- What is seen besides a start of the connecting screen breaks off no pass. -/
theorem Passed.snoc {count : Nat} {seen : List Sight} {sight : Sight} (passed : Passed count seen)
    (other : sight ≠ .entered .connecting) : Passed count (seen ++ [sight]) := by
  intro before mid split
  rcases snoc_split split with ⟨_, _, same⟩ | ⟨rest, rfl, earlier⟩
  · exact absurd same other
  · rw [connectingFrames, List.filterMap_append]
    exact (passed before rest earlier).trans (List.sublist_append_left _ _)

/-- The next frame of a pass is drawn. -/
theorem Passed.drawn {seen : List Sight} {frame : UInt32} (passed : Passed frame.toNat seen) :
    Passed (frame.toNat + 1) (seen ++ [.drawn .connecting frame]) := by
  intro before mid split
  rcases snoc_split split with ⟨_, _, same⟩ | ⟨rest, rfl, earlier⟩
  · cases same
  · have added : connectingFrames (rest ++ [.drawn .connecting frame]) =
        connectingFrames rest ++ [frame.toNat] := by
      simp [connectingFrames, Sight.counter?]
    rw [added, List.range_succ]
    exact (passed before rest earlier).append (List.Sublist.refl _)

/-- Nothing has been received, or a frame has been drawn since. -/
def Quiet (seen : List Sight) : Prop :=
  seen = [] ∨ ∃ earlier state counter, seen = earlier ++ [.drawn state counter]

/-- No state waits to be drawn behind a frame. -/
theorem Quiet.drawn {seen before mid : List Sight} {received : DisplayState} (quiet : Quiet seen)
    (split : seen = before ++ .received received :: mid) :
    ∃ sight ∈ mid, sight.isDrawn = true := by
  rcases quiet with rfl | ⟨earlier, state, counter, rfl⟩
  · exact absurd split (by simp)
  · rcases snoc_split split with ⟨_, _, same⟩ | ⟨rest, rfl, _⟩
    · cases same
    · exact ⟨_, List.mem_append_right _ (List.mem_singleton_self _), rfl⟩

/-- Behind a frame any state may be drawn. -/
theorem Quiet.prompt {seen : List Sight} (quiet : Quiet seen) (state : DisplayState) :
    Prompt state seen := by
  intro before received mid split undrawn _
  obtain ⟨sight, member, isDrawn⟩ := quiet.drawn split
  exact Bool.noConfusion ((undrawn sight member).symm.trans isDrawn)

/-- A state that is received behind a frame is prompt, except on the connecting screen. -/
theorem Quiet.received {seen : List Sight} {state next : DisplayState} (quiet : Quiet seen)
    (agrees : lastEntered seen ≠ some .connecting → state = next) :
    Prompt state (seen ++ [.received next]) := by
  intro before received mid split undrawn elsewhere
  rcases snoc_split split with ⟨_, rfl, same⟩ | ⟨rest, rfl, earlier⟩
  · cases same
    exact agrees elsewhere
  · obtain ⟨sight, member, isDrawn⟩ := quiet.drawn earlier
    have quietly := undrawn sight (List.mem_append_left _ member)
    exact Bool.noConfusion (quietly.symm.trans isDrawn)

/-- A state that is entered stays prompt. -/
theorem Prompt.entered {seen : List Sight} {state next : DisplayState}
    (prompt : Prompt state seen) : Prompt state (seen ++ [.entered next]) := by
  intro before received mid split undrawn elsewhere
  rcases snoc_split split with ⟨_, _, same⟩ | ⟨rest, rfl, earlier⟩
  · cases same
  · exact prompt before received rest earlier
      (fun sight member => undrawn sight (List.mem_append_left _ member)) elsewhere

/-- A state that was received last is entered. -/
theorem tracks_opening {seen : List Sight} {state : DisplayState}
    (received : lastReceived seen = some state)
    (passed : state ≠ .connecting → Passed Canvas.connectCycleFrames seen)
    (prompt : Prompt state seen) : Tracks (.opening state) (seen ++ [.entered state]) where
  unstarted ahead := by cases ahead
  received _ := by rwa [lastReceived_entered]
  entered _ := lastEntered_entered seen state
  parked waits := absurd rfl waits
  moves ahead := by cases ahead
  drawn _ ahead := by cases ahead
  passed := by
    by_cases connecting : state = .connecting
    · rw [Play.quota, Play.opening, if_pos connecting]
      exact passed_zero _
    · rw [Play.quota, Play.opening, if_neg connecting]
      refine (passed connecting).snoc fun same => connecting ?_
      exact Sight.entered.inj same
  prompt := prompt.entered

/-- Behind a frame another state may be entered, on the connecting screen at the end of a pass. -/
theorem Tracks.full {animating : Bool} {state : DisplayState} {frame : UInt32}
    {pending : Option DisplayState} {seen : List Sight}
    (tracks : Tracks ⟨.behind animating, state, frame, pending⟩ seen)
    (done : state = .connecting → Canvas.connectCycleDone frame = true) :
    Passed Canvas.connectCycleFrames seen := by
  refine tracks.passed.mono ?_
  unfold Play.quota
  split
  next connecting =>
    have last := of_decide_eq_true (done connecting)
    show Canvas.connectCycleFrames ≤ frame.toNat + 1
    omega
  next => exact Nat.le_refl _

/-- A frame that is drawn goes on with what is seen. -/
theorem Tracks.draws {state : DisplayState} {frame : UInt32} {pending : Option DisplayState}
    {animating : Bool} {seen : List Sight} (tracks : Tracks ⟨.ahead, state, frame, pending⟩ seen)
    (moves : state = .connecting → animating = true) :
    Tracks ⟨.behind animating, state, frame, pending⟩ (seen ++ [.drawn state frame]) where
  unstarted behind := by cases behind
  received _ := by
    rw [lastReceived_drawn]
    exact tracks.received (by simp)
  entered _ := by
    rw [lastEntered_drawn]
    exact tracks.entered (by simp)
  parked := tracks.parked
  moves still connecting := by
    rw [moves connecting] at still
    cases still
  drawn _ _ := ⟨seen, state, frame, rfl⟩
  passed := by
    have passed := tracks.passed
    unfold Play.quota at passed ⊢
    split at passed
    next connecting =>
      rw [if_pos connecting]
      obtain rfl : state = .connecting := connecting
      exact passed.drawn
    next elsewhere =>
      rw [if_neg elsewhere]
      exact passed.snoc (by simp)
  prompt := Quiet.prompt (.inr ⟨seen, state, frame, rfl⟩) state

/-- Another frame of the screen is begun, the same or the next. -/
theorem Tracks.begins {state : DisplayState} {frame other : UInt32}
    {pending : Option DisplayState} {animating : Bool} {seen : List Sight}
    (tracks : Tracks ⟨.behind animating, state, frame, pending⟩ seen)
    (near : other.toNat ≤ frame.toNat + 1) : Tracks ⟨.ahead, state, other, pending⟩ seen where
  unstarted ahead := by cases ahead
  received _ := tracks.received (by simp)
  entered _ := tracks.entered (by simp)
  parked := tracks.parked
  moves ahead := by cases ahead
  drawn _ ahead := by cases ahead
  passed := by
    refine tracks.passed.mono ?_
    unfold Play.quota
    split
    next => exact near
    next => exact Nat.le_refl _
  prompt := tracks.prompt

/-- The connecting screen goes on to park another state. -/
theorem Tracks.parks {frame : UInt32} {pending : Option DisplayState} {next : DisplayState}
    {seen : List Sight} (tracks : Tracks ⟨.behind true, .connecting, frame, pending⟩ seen) :
    Tracks ⟨.ahead, .connecting, frame, some next⟩ (seen ++ [.received next]) where
  unstarted ahead := by cases ahead
  received _ := lastReceived_received seen next
  entered _ := by
    rw [lastEntered_received]
    exact tracks.entered (by simp)
  parked _ := rfl
  moves ahead := by cases ahead
  drawn _ ahead := by cases ahead
  passed := (tracks.passed.mono (Nat.le_succ _)).snoc (by simp)
  prompt := by
    refine Quiet.received (.inr (tracks.drawn true rfl)) fun elsewhere => ?_
    exact absurd (tracks.entered (by simp)) elsewhere

/-- A state that is received behind a frame may be entered at once. -/
theorem takes_tracks {seen : List Sight} (next : DisplayState) (quiet : Quiet seen)
    (passed : Passed Canvas.connectCycleFrames seen) (traced : Traced Allowed seen) :
    Tracks (.opening next) (seen ++ [Sight.received next, Sight.entered next]) ∧
      Traced Allowed (seen ++ [Sight.received next, Sight.entered next]) := by
  have received : Allowed seen (.received next) := trivial
  have entered : Allowed (seen ++ [.received next]) (.entered next) :=
    lastReceived_received seen next
  have opened := tracks_opening entered (fun _ => passed.snoc (by simp))
    (quiet.received fun _ => rfl)
  have trace := (traced.snoc received).snoc entered
  rw [List.append_assoc] at opened trace
  exact ⟨opened, trace⟩

/-- A turn is allowed, and goes on with what is seen of it. -/
theorem Turn.tracks {play next : Play} {new : List Sight} (turn : Turn play new next)
    {seen : List Sight} (tracks : Tracks play seen) (traced : Traced Allowed seen) :
    Tracks next (seen ++ new) ∧ Traced Allowed (seen ++ new) := by
  cases turn with
  | still =>
    rw [List.append_nil]
    exact ⟨tracks, traced⟩
  | draws state frame pending animating moves =>
    refine ⟨tracks.draws moves, traced.snoc ⟨fun elsewhere => ?_, tracks.prompt⟩⟩
    have passed := tracks.passed
    rwa [Play.quota, if_neg elsewhere] at passed
  | repeats state frame pending =>
    rw [List.append_nil]
    exact ⟨tracks.begins (Nat.le_succ _), traced⟩
  | advances state frame pending =>
    rw [List.append_nil]
    refine ⟨tracks.begins ?_, traced⟩
    rw [UInt32.toNat_add]
    exact Nat.mod_le _ _
  | parks frame pending next => exact ⟨tracks.parks, traced.snoc trivial⟩
  | starts state next frame pending =>
    obtain rfl := tracks.unstarted rfl
    exact takes_tracks next (.inl rfl) (fun _ _ split => absurd split (by simp)) traced
  | takes animating state next frame pending done =>
    refine takes_tracks next (.inr (tracks.drawn animating rfl))
      (tracks.full fun connecting => done ?_ connecting) traced
    by_contra still
    obtain rfl : animating = false := by simpa using still
    exact tracks.moves rfl connecting
  | applies animating state next frame done =>
    have last : lastReceived seen = some next := tracks.received (by simp)
    exact ⟨tracks_opening last (fun _ => tracks.full fun _ => done)
      (Quiet.prompt (.inr (tracks.drawn animating rfl)) next), traced.snoc last⟩
  | again state frame pending =>
    have elsewhere : state ≠ .connecting := tracks.moves rfl
    have unparked : pending = none := by
      by_contra waits
      exact elsewhere (tracks.parked waits)
    have last := tracks.received (by simp)
    rw [unparked] at last
    exact ⟨tracks_opening last (fun _ => tracks.full fun connecting => absurd connecting elsewhere)
      (Quiet.prompt (.inr (tracks.drawn false rfl)) state), traced.snoc last⟩

end Zugli
