import Zugli.Firmware.Derive
import Zugli.Firmware.Shared
import Zugli.Lib.Sorting

/-!
# The runtime poll

The stationboard as the firmware decodes it, the departures it keeps of it, and the poll loop from
one await point to the next. What the network answers to a fetch is given from outside.
-/

namespace Zugli

open Serde

/-- `POLL_INTERVAL_SECS`. -/
def pollIntervalSecs : Nat := 30

/-- `POLL_RETRY_SECS`. -/
def pollRetrySecs : Nat := 5

/-- `OFFLINE_AFTER_SECS`. -/
def offlineAfterSecs : Nat := 60

/-- Size of the scratch buffer for decoding escapes of a board. -/
def boardUnescapeSize : Nat := 96

/-! ## The stationboard -/

/-- When a departure leaves. -/
structure EntryStop where
  /-- Unix time of the departure. -/
  departureTimestamp : Option Int64
deriving DecidableEq

/-- One entry of the stationboard. -/
structure Entry where
  /-- Category of the service. -/
  category : Option (HString 24)
  /-- Number of the line. -/
  number : Option (HString 24)
  /-- Name of the service. -/
  name : Option (HString 24)
  /-- `to`, the final destination. -/
  toward : Option (HString 64)
  /-- The stop. -/
  stop : EntryStop
deriving DecidableEq

/-- A stationboard. -/
structure Board where
  /-- Its entries. -/
  stationboard : HVec Entry 20
deriving DecidableEq

/-- Read the stop of an entry. -/
def EntryStop.ofMembers (members : List (String × Json)) : Option EntryStop := do
  let departureTimestamp ← withDefault none "departureTimestamp" members
  some { departureTimestamp }

instance : Deserialize EntryStop := ⟨ofObject EntryStop.ofMembers⟩

/-- Read an entry; a missing option reads as none. -/
def Entry.ofMembers (members : List (String × Json)) : Option Entry := do
  let category ← withDefault none "category" members
  let number ← withDefault none "number" members
  let name ← withDefault none "name" members
  let toward ← withDefault none "to" members
  let stop ← required "stop" members
  some { category, number, name, toward, stop }

instance : Deserialize Entry := ⟨ofObject Entry.ofMembers⟩

/-- Read a stationboard. -/
def Board.ofMembers (members : List (String × Json)) : Option Board := do
  let stationboard ← required "stationboard" members
  some { stationboard }

instance : Deserialize Board := ⟨ofObject Board.ofMembers⟩

/-! ## Departures -/

/-- The line of an entry: its number, unless that is missing or empty, else its name. -/
def Entry.line (entry : Entry) : String :=
  (((entry.number.map HString.val).filter (· ≠ "")).or (entry.name.map HString.val)).getD ""

/-- The destination of an entry. -/
def Entry.destination (entry : Entry) : String := (entry.toward.map HString.val).getD ""

/-- `tracked`: whether a line to a destination is one the panel should show. -/
def tracked (sel : Selection) (line destination : String) : Bool :=
  sel.allConnections || sel.connections.val.any fun conn =>
    conn.line.val == line && conn.destination.val == destination

/-- `minutes_until`, on machine integers. -/
def minutesUntil (departure now : Int64) : UInt16 :=
  let diff := departure - now
  if diff ≤ 0 then 0
  else
    let minutes := (diff + 30) / 60
    if minutes < 0 then 0 else if 65535 < minutes then 65535 else minutes.toUInt64.toUInt16

/-- The characters `str_to` pushes before the first that does not fit. -/
def fitting : Nat → List Char → List Char
  | _, [] => []
  | room, c :: text =>
    if c.utf8Size ≤ room then c :: fitting (room - c.utf8Size) text else []

/-- What is pushed fits. -/
theorem utf8Len_fitting (room : Nat) (text : List Char) :
    Json.utf8Len (fitting room text) ≤ room := by
  induction text generalizing room with
  | nil => exact Nat.zero_le _
  | cons c text previous =>
    rw [fitting]
    split
    · have rest := previous (room - c.utf8Size)
      simp only [Json.utf8Len, List.map_cons, List.sum_cons] at rest ⊢
      omega
    · exact Nat.zero_le _

/-- `str_to`: a text cut to a capacity. -/
def strTo (capacity : Nat) (text : String) : HString capacity :=
  ⟨String.ofList (fitting capacity text.toList), by
    rw [Json.utf8ByteSize_eq, String.toList_ofList]
    exact utf8Len_fitting capacity text.toList⟩

/-- The departure shown for an entry, with its timestamp, if the entry is tracked and has one. -/
def Entry.departure (sel : Selection) (now : Option Int64) (entry : Entry) :
    Option (Int64 × Departure) :=
  if tracked sel entry.line entry.destination then
    entry.stop.departureTimestamp.map fun ts =>
      (ts,
        { line := strTo 16 entry.line
          category := strTo 12 ((entry.category.map HString.val).getD "")
          destination := strTo 48 entry.destination
          minutes := now.map (minutesUntil ts) })
  else none

/-- `parse_departures`: the three soonest departures of a body. -/
def parseDepartures (serde : SerdeJsonCore) (sorting : UnstableSort) (now : Option Int64)
    (body : List UInt8) (sel : Selection) : Option (HVec Departure 3) := do
  let board ← serde.fromSlice Board boardUnescapeSize body
  let found := (board.stationboard.val.filterMap (Entry.departure sel now)).take 20
  let ordered := sorting.sort (fun entry => entry.1.toInt) found
  some ⟨(ordered.take 3).map Prod.snd, by
    rw [List.length_map]
    exact List.length_take_le 3 ordered⟩

/-! ## The loop -/

/-- What a fetch comes to, within its timeout. -/
inductive Attempt where
  /-- The body of a response. -/
  | body (bytes : List UInt8)
  /-- Connecting, sending or receiving failed. -/
  | failed
  /-- Nothing came in time. -/
  | timedOut
deriving DecidableEq

/-- `fetch`, from what the network answers: the departures, or an error. -/
def fetch (serde : SerdeJsonCore) (sorting : UnstableSort) (now : Option Int64) (sel : Selection) :
    Attempt → Option (HVec Departure 3)
  | .body bytes => parseDepartures serde sorting now bytes sel
  | .failed | .timedOut => none

/-- Where the poll loop waits. -/
inductive PollPc where
  /-- For the network to come up. -/
  | starting
  /-- For the lock of the selection. -/
  | reading
  /-- For the stationboard of the selection it read. -/
  | fetching (sel : Selection)
  /-- For its timer or a changed selection, after a poll of what it read. -/
  | waiting (polled : Option Selection) (wakeAt : Nat)
deriving DecidableEq

/-- The variables of `poll_task`. -/
structure PollTask where
  /-- Where it waits. -/
  pc : PollPc
  /-- `failing_since`. -/
  failingSince : Option Nat
deriving DecidableEq

namespace PollTask

/-- `poll_task` as it starts. -/
def start : PollTask := ⟨.starting, none⟩

/-- `offline_if_persistent`: the start of the streak, and what is signalled. -/
def offlineIfPersistent (failingSince : Option Nat) (now : Nat) :
    Option Nat × List DisplayState :=
  let start := failingSince.getD now
  (some start, if offlineAfterSecs * ticksPerSecond ≤ now - start then [.offline] else [])

/-- From the lock of the selection to the next await point, with what it holds and the address. -/
def read (task : PollTask) (now : Nat) (selection : Option Selection)
    (deviceIp : Option (UInt8 × UInt8 × UInt8 × UInt8)) : PollTask × List DisplayState :=
  match selection with
  | none =>
    (⟨.waiting none (now + pollIntervalSecs * ticksPerSecond), none⟩,
      (deviceIp.map DisplayState.idleAddress).toList)
  | some sel => ({ task with pc := .fetching sel }, [])

/-- From the end of a fetch to the next await point. -/
def fetched (serde : SerdeJsonCore) (sorting : UnstableSort) (task : PollTask) (now : Nat)
    (nowUnix : Option Int64) (sel : Selection) (attempt : Attempt) :
    PollTask × List DisplayState :=
  match fetch serde sorting nowUnix sel attempt with
  | some deps =>
    (⟨.waiting (some sel) (now + pollIntervalSecs * ticksPerSecond), none⟩,
      [.departures sel.stopName deps])
  | none =>
    let (failingSince, signalled) := offlineIfPersistent task.failingSince now
    (⟨.waiting (some sel) (now + pollRetrySecs * ticksPerSecond), failingSince⟩, signalled)

end PollTask

end Zugli
