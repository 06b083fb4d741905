import Mathlib.Data.List.Basic

/-!
# Byte buffers of a fixed size

Reads and writes are checked: one outside of the buffer has no result. A buffer that is written
from its start on holds what was written, in order.
-/

/-- A buffer of so many bytes. -/
structure Buffer (size : Nat) where
  /-- Its bytes. -/
  bytes : List UInt8
  /-- There are as many as its size. -/
  full : bytes.length = size

namespace Buffer

variable {size : Nat}

/-- All zeros. -/
def zeros : Buffer size := ⟨List.replicate size 0, List.length_replicate⟩

/-- The byte at an index. -/
def get (buffer : Buffer size) (index : Nat) : Option UInt8 := buffer.bytes[index]?

/-- The bytes of a range. -/
def slice (buffer : Buffer size) (start stop : Nat) : Option (List UInt8) :=
  if start ≤ stop ∧ stop ≤ size then some ((buffer.bytes.drop start).take (stop - start)) else none

/-- Write bytes to a range, which has to be as long. -/
def copy (buffer : Buffer size) (start stop : Nat) (bytes : List UInt8) : Option (Buffer size) :=
  if within : start + bytes.length = stop ∧ stop ≤ size then
    some ⟨buffer.bytes.take start ++ bytes ++ buffer.bytes.drop stop, by
      have full := buffer.full
      simp only [List.length_append, List.length_take, List.length_drop]
      omega⟩
  else none

/-- Write a byte. -/
def set (buffer : Buffer size) (index : Nat) (byte : UInt8) : Option (Buffer size) :=
  buffer.copy index (index + 1) [byte]

/-- Receive a datagram at the start, unless it is longer than the buffer. -/
def receive (buffer : Buffer size) (datagram : List UInt8) : Option (Buffer size) :=
  buffer.copy 0 datagram.length datagram

/-- Bytes behind those that were written since the start are added to them. -/
theorem copy_behind {buffer : Buffer size} {written bytes : List UInt8} {start stop : Nat}
    (held : written <+: buffer.bytes) (behind : written.length = start)
    (fits : start + bytes.length = stop) (room : stop ≤ size) :
    ∃ next, buffer.copy start stop bytes = some next ∧ written ++ bytes <+: next.bytes := by
  obtain ⟨rest, split⟩ := held
  refine ⟨_, dif_pos ⟨fits, room⟩, ?_⟩
  simp only
  rw [← split, ← behind, List.take_left]
  exact List.prefix_append _ _

/-- A write behind what was written since the start succeeds, and what comes next goes on from
there. -/
theorem copy_goes_on {Value : Type} {buffer : Buffer size} {written bytes total : List UInt8}
    {start stop : Nat} {value : Value} {rest : Buffer size → Option (Buffer size × Value)}
    (held : written <+: buffer.bytes) (behind : written.length = start)
    (fits : start + bytes.length = stop) (room : stop ≤ size)
    (goesOn : ∀ next : Buffer size, written ++ bytes <+: next.bytes →
      ∃ last, rest next = some (last, value) ∧ total <+: last.bytes) :
    ∃ last, (buffer.copy start stop bytes).bind rest = some (last, value) ∧
      total <+: last.bytes := by
  obtain ⟨next, copied, filled⟩ := copy_behind held behind fits room
  rw [copied, Option.bind_some]
  exact goesOn next filled

/-- What was written is sliced off. -/
theorem slice_written {buffer : Buffer size} {written : List UInt8} {stop : Nat}
    (held : written <+: buffer.bytes) (ends : written.length = stop) :
    buffer.slice 0 stop = some written := by
  subst ends
  have room := held.length_le
  rw [buffer.full] at room
  rw [slice, if_pos ⟨Nat.zero_le _, room⟩, Nat.sub_zero, List.drop_zero,
    ← List.prefix_iff_eq_take.mp held]

/-- A datagram that is not too long stands at the start. -/
theorem receive_eq_some {buffer next : Buffer size} {datagram : List UInt8}
    (received : buffer.receive datagram = some next) :
    datagram <+: next.bytes ∧ datagram.length ≤ size := by
  rw [receive, copy] at received
  split at received
  next within =>
    cases received
    exact ⟨List.prefix_append _ _, within.2⟩
  next => cases received

/-- A datagram that is not too long is received. -/
theorem exists_receive (buffer : Buffer size) {datagram : List UInt8}
    (short : datagram.length ≤ size) : ∃ next, buffer.receive datagram = some next :=
  ⟨_, dif_pos ⟨Nat.zero_add _, short⟩⟩

/-- A byte of the datagram is read. -/
theorem get_of_prefix {buffer : Buffer size} {datagram : List UInt8} {index : Nat}
    (held : datagram <+: buffer.bytes) (inside : index < datagram.length) :
    buffer.get index = datagram[index]? := by
  rw [get, List.getElem?_eq_getElem inside, List.prefix_iff_getElem?.mp held index inside]

/-- A range of the datagram is read. -/
theorem slice_of_prefix {buffer : Buffer size} {datagram : List UInt8} {start stop : Nat}
    (held : datagram <+: buffer.bytes) (order : start ≤ stop) (inside : stop ≤ datagram.length) :
    buffer.slice start stop = some ((datagram.drop start).take (stop - start)) := by
  have room := held.length_le
  rw [buffer.full] at room
  obtain ⟨rest, split⟩ := held
  rw [slice, if_pos ⟨order, Nat.le_trans inside room⟩, ← split,
    List.drop_append_of_le_length (by omega), List.take_append_of_le_length]
  rw [List.length_drop]
  omega

end Buffer
