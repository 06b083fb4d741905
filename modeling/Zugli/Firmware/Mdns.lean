import Zugli.Firmware.Portal
import Zugli.Lib.Dns

/-!
# The mDNS responder

Which of the packets that arrive ask for the name of the device, the response that tells its
address, and the task between its await points. The stack answers from outside: the address it has
and whether the group is joined and the port bound.
-/

namespace Zugli

open Dns (u16At)

/-- `LABELS`, the labels of `zugli.local`. -/
def hostLabels : List (List UInt8) := [Json.utf8 "zugli".toList, Json.utf8 "local".toList]

/-- `to_ascii_lowercase`. -/
def toAsciiLowercase (byte : UInt8) : UInt8 :=
  if 65 ≤ byte ∧ byte ≤ 90 then byte + 32 else byte

/-- `eq_ignore_ascii_case`. -/
def eqIgnoreAsciiCase (left right : List UInt8) : Bool :=
  left.map toAsciiLowercase == right.map toAsciiLowercase

/-- `get` of a range. -/
def slice? (pkt : List UInt8) (start stop : Nat) : Option (List UInt8) :=
  if start ≤ stop ∧ stop ≤ pkt.length then some ((pkt.drop start).take (stop - start)) else none

/-- Whether a label is the one expected at an index. -/
def isExpected (idx : Nat) (label : List UInt8) : Bool :=
  match hostLabels[idx]? with
  | none => false
  | some expected => label.length == expected.length && eqIgnoreAsciiCase label expected

/-- The loop of `walk_name`, at an offset, with the index of the label to come and whether all
labels so far are those of the device. -/
def walkLabels (pkt : List UInt8) (i idx : Nat) (same : Bool) : Option (Bool × Nat) :=
  match _ : pkt[i]? with
  | none => none
  | some len =>
    if len = 0 then some (same && idx == hostLabels.length, i + 1)
    else if len &&& 0xC0 ≠ 0 then none
    else
      match slice? pkt (i + 1) (i + 1 + len.toNat) with
      | none => none
      | some label =>
        walkLabels pkt (i + 1 + len.toNat) (idx + 1) (same && isExpected idx label)
termination_by pkt.length - i
decreasing_by
  have inside := (List.getElem?_eq_some_iff.mp ‹pkt[i]? = some len›).1
  omega

/-- `walk_name`: whether the name is that of the device, and the offset behind it. -/
def walkName (pkt : List UInt8) (start : Nat) : Option (Bool × Nat) := walkLabels pkt start 0 true

/-- The loop of `question_matches`, for so many questions from an offset. -/
def anyMatches (pkt : List UInt8) : Nat → Nat → Bool
  | 0, _ => false
  | count + 1, i =>
    match walkName pkt i with
    | none => false
    | some (nameOk, afterName) =>
      match u16At pkt afterName with
      | none => false
      | some qtype =>
        if nameOk && (qtype == 1 || qtype == 255) then true
        else anyMatches pkt count (afterName + 4)

/-- `question_matches`. -/
def questionMatches (pkt : List UInt8) : Bool :=
  match u16At pkt 4 with
  | none => false
  | some qdcount => anyMatches pkt qdcount.toNat 12

/-! ## The response -/

/-- The octets of an address. -/
abbrev Ipv4 := Vector UInt8 4

/-- `MDNS_TTL_SECS`. -/
def mdnsTtlSecs : UInt32 := 120

/-- The loop of `build_response` over the labels, with the offset behind the last. -/
def putLabels (out : Buffer 64) (p : Nat) : List (List UInt8) → Option (Buffer 64 × Nat)
  | [] => some (out, p)
  | label :: labels => do
    let out ← out.set p (.ofNat label.length)
    let p := p + 1
    let out ← out.copy p (p + label.length) label
    putLabels out (p + label.length) labels

/-- `build_response`, with the length of the packet. -/
def buildResponse (out : Buffer 64) (ip : Ipv4) : Option (Buffer 64 × Nat) := do
  let out ← out.copy 0 4 [0, 0, 0x84, 0]
  let out ← out.copy 4 6 [0, 0]
  let out ← out.copy 6 8 [0, 1]
  let out ← out.copy 8 12 [0, 0, 0, 0]
  let (out, p) ← putLabels out 12 hostLabels
  let out ← out.set p 0
  let p := p + 1
  let out ← out.copy p (p + 2) [0, 1]
  let out ← out.copy (p + 2) (p + 4) [0x80, 1]
  let out ← out.copy (p + 4) (p + 8) (u32ToBigEndian mdnsTtlSecs)
  let out ← out.copy (p + 8) (p + 10) [0, 4]
  let out ← out.copy (p + 10) (p + 14) ip.toList
  some (out, p + 14)

/-! ## The task -/

/-- Where `mdns_task` waits. -/
inductive MdnsPoint where
  /-- For an address. -/
  | configuring
  /-- Before it joins the group again. -/
  | joining (wakeAt : Nat)
  /-- For an announcement of a length to be sent, behind so many others. -/
  | announcing (len earlier : Nat)
  /-- Behind so many announcements of a length. -/
  | pausing (len sent : Nat) (wakeAt : Nat)
  /-- For a datagram. -/
  | receiving
  /-- For an answer to be sent. -/
  | answering
  /-- The port could not be bound, and the task has returned. -/
  | returned
  /-- It was stopped at an index outside of a buffer. -/
  | stopped
deriving DecidableEq

/-- The delay before it joins the group again, in ticks. -/
def joinDelay : Nat := 500 * ticksPerSecond / 1000

/-- The delay behind an announcement, in ticks. -/
def announceDelay : Nat := ticksPerSecond

/-- Unsolicited announcements. -/
def announcements : Nat := 2

/-- `mdns_task` and what it reads of the stack. -/
structure MdnsTask where
  /-- The clock. -/
  now : Nat
  /-- `device_ip`. -/
  ip : Option Ipv4
  /-- Where it waits. -/
  point : MdnsPoint
  /-- `resp`. -/
  resp : Buffer 64
  /-- `query`. -/
  query : Buffer 512

namespace MdnsTask

/-- What happens next. -/
inductive Event where
  /-- Time passes. -/
  | passes (ticks : Nat)
  /-- The address of the device changes. -/
  | addressed (ip : Option Ipv4)
  /-- The task goes on behind a wait, with what joining the group and binding the port give. -/
  | wakes (joined bound : Bool)
  /-- `send_to` returns. -/
  | sent
  /-- `recv_from` returns for a datagram; for one that does not fit the buffer, with an error. -/
  | receives (datagram : List UInt8)

/-- The task as it is spawned. -/
def start : MdnsTask := ⟨0, none, .configuring, .zeros, .zeros⟩

variable (task : MdnsTask)

/-- Hand an announcement to the socket. -/
def announce (len earlier : Nat) : Option (MdnsTask × List (List UInt8)) := do
  let packet ← task.resp.slice 0 len
  some ({ task with point := .announcing len earlier }, [packet])

/-- Join the group and bind the port, then announce the address, if there is one. -/
def join (joined bound : Bool) : Option (MdnsTask × List (List UInt8)) :=
  if !joined then some ({ task with point := .joining (task.now + joinDelay) }, [])
  else if !bound then some ({ task with point := .returned }, [])
  else
    match task.ip with
    | none => some ({ task with point := .receiving }, [])
    | some ip => do
      let (resp, len) ← buildResponse task.resp ip
      { task with resp }.announce len 0

/-- Go on behind a wait, unless it is not over. -/
def wake (joined bound : Bool) : Option (MdnsTask × List (List UInt8)) :=
  match task.point with
  | .configuring => if task.ip.isSome then task.join joined bound else some (task, [])
  | .joining wakeAt => if wakeAt ≤ task.now then task.join joined bound else some (task, [])
  | .pausing len sent wakeAt =>
    if wakeAt ≤ task.now then
      if sent < announcements then task.announce len sent
      else some ({ task with point := .receiving }, [])
    else some (task, [])
  | _ => some (task, [])

/-- The point behind `send_to`; whether it failed is not looked at. -/
def behindSend : MdnsPoint :=
  match task.point with
  | .announcing len earlier => .pausing len (earlier + 1) (task.now + announceDelay)
  | .answering => .receiving
  | other => other

/-- From a datagram of `n` bytes to the next await point, with what is sent. -/
def answer (n : Nat) : Option (MdnsTask × List (List UInt8)) :=
  if n < 12 then some (task, [])
  else do
    let flags ← task.query.get 2
    if flags &&& 0x80 ≠ 0 then some (task, [])
    else do
      let pkt ← task.query.slice 0 n
      if !questionMatches pkt then some (task, [])
      else
        match task.ip with
        | none => some (task, [])
        | some ip => do
          let (resp, len) ← buildResponse task.resp ip
          let packet ← resp.slice 0 len
          some ({ task with resp, point := .answering }, [packet])

/-- A turn of the loop, when it waits for a datagram. -/
def receive (datagram : List UInt8) : Option (MdnsTask × List (List UInt8)) :=
  if task.point = .receiving then
    match task.query.receive datagram with
    | none => some (task, [])
    | some query => { task with query }.answer datagram.length
  else some (task, [])

/-- One step, unless it stops the task. -/
def goOn : Event → Option (MdnsTask × List (List UInt8))
  | .passes ticks => some ({ task with now := task.now + ticks }, [])
  | .addressed ip => some ({ task with ip }, [])
  | .wakes joined bound => task.wake joined bound
  | .sent => some ({ task with point := task.behindSend }, [])
  | .receives datagram => task.receive datagram

/-- One step, with the packets that it hands to the socket. -/
def step (event : Event) : MdnsTask × List (List UInt8) :=
  (task.goOn event).getD ({ task with point := .stopped }, [])

end MdnsTask

end Zugli
