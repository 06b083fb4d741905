import Mathlib.Data.List.Basic

/-!
# The wire format of DNS messages

Labels, names, questions and answers as they stand in a message. A name is written as its labels,
each behind its length, and a zero byte; an answer may point to a name that stands earlier. No name
is the beginning of another, so what stands at an offset is one name at most.
-/

namespace Dns

/-! ## Beginnings of a packet -/

/-- Two parts stand one behind the other. -/
theorem append_prefix_iff {first second packet : List UInt8} :
    first ++ second <+: packet ↔ first <+: packet ∧ second <+: packet.drop first.length := by
  constructor
  · rintro ⟨rest, rfl⟩
    refine ⟨⟨second ++ rest, by rw [List.append_assoc]⟩, rest, ?_⟩
    rw [List.append_assoc, List.drop_left]
  · rintro ⟨⟨rest, rfl⟩, tail⟩
    rw [List.drop_left] at tail
    exact (List.prefix_append_right_inj first).mpr tail

/-- A byte stands first. -/
theorem cons_prefix_drop {byte : UInt8} {bytes packet : List UInt8} {offset : Nat} :
    byte :: bytes <+: packet.drop offset ↔
      packet[offset]? = some byte ∧ bytes <+: packet.drop (offset + 1) := by
  cases found : packet[offset]? with
  | none =>
    rw [List.drop_of_length_le (List.getElem?_eq_none_iff.mp found)]
    simp
  | some other =>
    obtain ⟨inside, same⟩ := List.getElem?_eq_some_iff.mp found
    rw [List.drop_eq_getElem_cons inside, same, List.cons_prefix_cons, Option.some.injEq]
    exact and_congr_left fun _ => eq_comm

/-! ## Integers -/

/-- `u16::from_be_bytes`. -/
def u16OfBytes (high low : UInt8) : UInt16 := .ofNat (high.toNat * 256 + low.toNat)

/-- Two bytes, the high one first. -/
def encodeU16 (value : UInt16) : List UInt8 :=
  [.ofNat (value.toNat / 256), .ofNat (value.toNat % 256)]

/-- The integer of two bytes at an offset. -/
def u16At (packet : List UInt8) (offset : Nat) : Option UInt16 :=
  match packet[offset]?, packet[offset + 1]? with
  | some high, some low => some (u16OfBytes high low)
  | _, _ => none

@[simp] theorem length_encodeU16 (value : UInt16) : (encodeU16 value).length = 2 := rfl

/-- Two bytes are the integer that they encode. -/
theorem u16OfBytes_eq {high low : UInt8} {value : UInt16} :
    u16OfBytes high low = value ↔
      high = .ofNat (value.toNat / 256) ∧ low = .ofNat (value.toNat % 256) := by
  have highSmall := high.toNat_lt
  have lowSmall := low.toNat_lt
  have small := value.toNat_lt
  rw [← UInt16.toNat_inj, ← UInt8.toNat_inj, ← UInt8.toNat_inj, u16OfBytes, UInt16.toNat_ofNat',
    UInt8.toNat_ofNat', UInt8.toNat_ofNat']
  omega

/-- Two bytes are those of their integer. -/
theorem encodeU16_u16OfBytes (high low : UInt8) : encodeU16 (u16OfBytes high low) = [high, low] := by
  obtain ⟨isHigh, isLow⟩ := u16OfBytes_eq.mp (rfl : u16OfBytes high low = u16OfBytes high low)
  rw [encodeU16, ← isHigh, ← isLow]

/-- An integer stands at an offset when its bytes do. -/
theorem u16At_eq_some {packet : List UInt8} {offset : Nat} {value : UInt16} :
    u16At packet offset = some value ↔ encodeU16 value <+: packet.drop offset := by
  rw [encodeU16, cons_prefix_drop, cons_prefix_drop, and_iff_left List.nil_prefix, u16At]
  cases packet[offset]? with
  | none => simp
  | some high =>
    cases packet[offset + 1]? with
    | none => simp
    | some low => simpa using u16OfBytes_eq

/-! ## Names -/

/-- A label of a name. -/
structure Label where
  /-- Its bytes. -/
  bytes : List UInt8
  /-- It has one to 63 of them. -/
  short : 1 ≤ bytes.length ∧ bytes.length ≤ 63
deriving DecidableEq

/-- The labels of a name, without the root. -/
abbrev Name := List Label

/-- A label behind its length. -/
def Label.encode (label : Label) : List UInt8 := .ofNat label.bytes.length :: label.bytes

/-- The labels of a name and the root. -/
def encodeName (name : Name) : List UInt8 := name.flatMap Label.encode ++ [0]

@[simp] theorem Label.length_encode (label : Label) :
    label.encode.length = label.bytes.length + 1 := rfl

@[simp] theorem encodeName_nil : encodeName [] = [0] := rfl

@[simp] theorem encodeName_cons (label : Label) (name : Name) :
    encodeName (label :: name) = label.encode ++ encodeName name := by
  simp [encodeName]

/-- The length of a label is read back from its byte. -/
theorem Label.toNat_length (label : Label) :
    (UInt8.ofNat label.bytes.length).toNat = label.bytes.length := by
  have short := label.short
  rw [UInt8.toNat_ofNat']
  omega

/-- A label's length is not the root. -/
theorem Label.length_ne_zero (label : Label) : UInt8.ofNat label.bytes.length ≠ 0 := by
  have short := label.short
  have read := label.toNat_length
  intro zero
  rw [zero] at read
  have none : (0 : UInt8).toNat = 0 := rfl
  omega

/-- At most one label stands at an offset. -/
theorem Label.eq_of_prefix {left right : Label} {packet : List UInt8}
    (isLeft : left.encode <+: packet) (isRight : right.encode <+: packet) : left = right := by
  obtain ⟨leftBytes, leftShort⟩ := left
  obtain ⟨rightBytes, rightShort⟩ := right
  cases packet with
  | nil => simp [Label.encode] at isLeft
  | cons byte packet =>
    obtain ⟨leftLength, isLeft⟩ := List.cons_prefix_cons.mp isLeft
    obtain ⟨rightLength, isRight⟩ := List.cons_prefix_cons.mp isRight
    have same : leftBytes.length = rightBytes.length := by
      have lengths := congrArg UInt8.toNat (leftLength.trans rightLength.symm)
      rwa [(⟨leftBytes, leftShort⟩ : Label).toNat_length,
        (⟨rightBytes, rightShort⟩ : Label).toNat_length] at lengths
    have bytes : leftBytes = rightBytes :=
      (List.prefix_of_prefix_length_le isLeft isRight (Nat.le_of_eq same)).eq_of_length same
    subst bytes
    rfl

/-- At most one name stands at an offset. -/
theorem name_eq_of_prefix {left right : Name} {packet : List UInt8}
    (isLeft : encodeName left <+: packet) (isRight : encodeName right <+: packet) :
    left = right := by
  induction left generalizing right packet with
  | nil =>
    cases right with
    | nil => rfl
    | cons label right =>
      rw [encodeName_cons, append_prefix_iff] at isRight
      obtain ⟨rest, rfl⟩ := isLeft
      exact absurd (List.cons_prefix_cons.mp isRight.1).1 label.length_ne_zero
  | cons label left previous =>
    rw [encodeName_cons, append_prefix_iff] at isLeft
    cases right with
    | nil =>
      obtain ⟨rest, rfl⟩ := isRight
      exact absurd (List.cons_prefix_cons.mp isLeft.1).1 label.length_ne_zero
    | cons other right =>
      rw [encodeName_cons, append_prefix_iff] at isRight
      obtain rfl : label = other := Label.eq_of_prefix isLeft.1 isRight.1
      rw [previous isLeft.2 isRight.2]

/-- A name without zero bytes in its labels has no zero byte before its root. -/
theorem zero_notMem_labels {name : Name} :
    0 ∉ name.flatMap Label.encode ↔ ∀ label ∈ name, 0 ∉ label.bytes := by
  simp only [List.mem_flatMap, not_exists, not_and, Label.encode, List.mem_cons, not_or]
  constructor
  · exact fun free label member => (free label member).2
  · exact fun free label member => ⟨label.length_ne_zero.symm, free label member⟩

/-! ## Questions -/

/-- A question. -/
structure Question where
  /-- The name it is about. -/
  name : Name
  /-- QTYPE. -/
  qtype : UInt16
  /-- QCLASS. -/
  qclass : UInt16
deriving DecidableEq

/-- The name, QTYPE and QCLASS. -/
def Question.encode (question : Question) : List UInt8 :=
  encodeName question.name ++ encodeU16 question.qtype ++ encodeU16 question.qclass

@[simp] theorem Question.length_encode (question : Question) :
    question.encode.length = (encodeName question.name).length + 4 := by
  simp [Question.encode]

/-- Questions back to back. -/
def encodeQuestions (questions : List Question) : List UInt8 := questions.flatMap Question.encode

@[simp] theorem encodeQuestions_nil : encodeQuestions [] = [] := rfl

@[simp] theorem encodeQuestions_cons (question : Question) (questions : List Question) :
    encodeQuestions (question :: questions) = question.encode ++ encodeQuestions questions :=
  List.flatMap_cons

@[simp] theorem encodeQuestions_append (earlier later : List Question) :
    encodeQuestions (earlier ++ later) = encodeQuestions earlier ++ encodeQuestions later :=
  List.flatMap_append

/-- A question stands at an offset when its parts do. -/
theorem Question.encode_prefix {question : Question} {packet : List UInt8} :
    question.encode <+: packet ↔ encodeName question.name <+: packet ∧
      encodeU16 question.qtype <+: packet.drop (encodeName question.name).length ∧
      encodeU16 question.qclass <+: packet.drop ((encodeName question.name).length + 2) := by
  rw [Question.encode, append_prefix_iff, append_prefix_iff, List.length_append,
    length_encodeU16, and_assoc]

/-- At most one integer stands at an offset. -/
theorem u16_eq_of_prefix {left right : UInt16} {packet : List UInt8}
    (isLeft : encodeU16 left <+: packet) (isRight : encodeU16 right <+: packet) : left = right := by
  have first : u16At packet 0 = some left := u16At_eq_some.mpr isLeft
  have second : u16At packet 0 = some right := u16At_eq_some.mpr isRight
  exact Option.some.inj (first.symm.trans second)

/-- At most one question stands at an offset. -/
theorem Question.eq_of_prefix {left right : Question} {packet : List UInt8}
    (isLeft : left.encode <+: packet) (isRight : right.encode <+: packet) : left = right := by
  obtain ⟨name, qtype, qclass⟩ := left
  obtain ⟨otherName, otherQtype, otherQclass⟩ := right
  rw [Question.encode_prefix] at isLeft isRight
  obtain rfl : name = otherName := name_eq_of_prefix isLeft.1 isRight.1
  obtain rfl : qtype = otherQtype := u16_eq_of_prefix isLeft.2.1 isRight.2.1
  obtain rfl : qclass = otherQclass := u16_eq_of_prefix isLeft.2.2 isRight.2.2
  rfl

/-- What stands behind some questions of a list, is a question of the list. -/
theorem question_of_prefix {questions earlier : List Question} {name : Name} {qtype : UInt16}
    {trailing : List UInt8} (fewer : earlier.length < questions.length)
    (stands : encodeQuestions earlier ++ (encodeName name ++ encodeU16 qtype) <+:
      encodeQuestions questions ++ trailing) :
    ∃ question ∈ questions, question.name = name ∧ question.qtype = qtype := by
  induction questions generalizing earlier with
  | nil => exact absurd fewer (Nat.not_lt_zero _)
  | cons question questions previous =>
    have isQuestion : question.encode <+: encodeQuestions (question :: questions) ++ trailing :=
      ⟨encodeQuestions questions ++ trailing, by simp⟩
    cases earlier with
    | nil =>
      rw [encodeQuestions_nil, List.nil_append, append_prefix_iff] at stands
      have parts := Question.encode_prefix.mp isQuestion
      obtain rfl : question.name = name := name_eq_of_prefix parts.1 stands.1
      exact ⟨question, List.mem_cons_self, rfl, u16_eq_of_prefix parts.2.1 stands.2⟩
    | cons first earlier =>
      rw [encodeQuestions_cons, List.append_assoc, append_prefix_iff] at stands
      obtain rfl : question = first := Question.eq_of_prefix isQuestion stands.1
      have rest := stands.2
      rw [encodeQuestions_cons, List.append_assoc, List.drop_left] at rest
      obtain ⟨found, member, same⟩ := previous (Nat.lt_of_succ_lt_succ fewer) rest
      exact ⟨found, List.mem_cons_of_mem _ member, same⟩

/-- A query for questions, whatever stands behind them. -/
structure IsQuery (packet : List UInt8) (questions : List Question) : Prop where
  /-- The QR bit is clear. -/
  query : ∃ flags, packet[2]? = some flags ∧ flags &&& 0x80 = 0
  /-- Their number is an integer of 16 bits. -/
  few : questions.length < 65536
  /-- QDCOUNT. -/
  qdcount : u16At packet 4 = some (.ofNat questions.length)
  /-- They stand behind the header. -/
  sections : encodeQuestions questions <+: packet.drop 12

/-! ## Answers -/

/-- Four bytes, the highest one first. -/
def encodeU32 (value : UInt32) : List UInt8 :=
  [.ofNat (value.toNat / 16777216), .ofNat (value.toNat / 65536 % 256),
    .ofNat (value.toNat / 256 % 256), .ofNat (value.toNat % 256)]

/-- An answer whose name is a pointer. -/
structure Answer where
  /-- The offset it points to. -/
  target : Nat
  /-- A pointer has fourteen bits. -/
  near : target < 16384
  /-- TYPE. -/
  rtype : UInt16
  /-- CLASS. -/
  rclass : UInt16
  /-- TTL, in seconds. -/
  ttl : UInt32
  /-- RDATA. -/
  data : List UInt8
  /-- Its length is an integer of 16 bits. -/
  short : data.length < 65536

/-- The pointer, TYPE, CLASS, TTL, and the data behind its length. -/
def Answer.encode (answer : Answer) : List UInt8 :=
  [.ofNat (192 + answer.target / 256), .ofNat (answer.target % 256)] ++
    encodeU16 answer.rtype ++ encodeU16 answer.rclass ++ encodeU32 answer.ttl ++
    encodeU16 (.ofNat answer.data.length) ++ answer.data

@[simp] theorem Answer.length_encode (answer : Answer) :
    answer.encode.length = 12 + answer.data.length := by
  simp [Answer.encode, encodeU32]
  omega

/-- The first byte of a pointer has both high bits. -/
theorem Answer.pointer (answer : Answer) :
    ∃ byte, answer.encode[0]? = some byte ∧ 192 ≤ byte.toNat := by
  refine ⟨.ofNat (192 + answer.target / 256), rfl, ?_⟩
  have near := answer.near
  rw [UInt8.toNat_ofNat']
  omega

/-- A message of one question and one answer, which points to the name of the question. -/
structure IsReply (packet : List UInt8) (question : Question) (answer : Answer) : Prop where
  /-- QDCOUNT. -/
  qdcount : u16At packet 4 = some 1
  /-- ANCOUNT. -/
  ancount : u16At packet 6 = some 1
  /-- NSCOUNT. -/
  nscount : u16At packet 8 = some 0
  /-- ARCOUNT. -/
  arcount : u16At packet 10 = some 0
  /-- Behind the header, the question and the answer and nothing else. -/
  sections : packet.drop 12 = question.encode ++ answer.encode
  /-- The name of the question stands where the answer points to. -/
  named : encodeName question.name <+: packet.drop answer.target

/-! ## Records -/

/-- A record behind its full name. -/
structure Record where
  /-- The name it is about. -/
  name : Name
  /-- TYPE. -/
  rtype : UInt16
  /-- CLASS. -/
  rclass : UInt16
  /-- TTL, in seconds. -/
  ttl : UInt32
  /-- RDATA. -/
  data : List UInt8
  /-- Its length is an integer of 16 bits. -/
  short : data.length < 65536

/-- The name, TYPE, CLASS, TTL, and the data behind its length. -/
def Record.encode (record : Record) : List UInt8 :=
  encodeName record.name ++ encodeU16 record.rtype ++ encodeU16 record.rclass ++
    encodeU32 record.ttl ++ encodeU16 (.ofNat record.data.length) ++ record.data

/-- A message without questions whose only record is an answer. -/
structure IsAnnouncement (packet : List UInt8) (flags : UInt16) (record : Record) : Prop where
  /-- ID. -/
  id : u16At packet 0 = some 0
  /-- The flags. -/
  flags : u16At packet 2 = some flags
  /-- QDCOUNT. -/
  qdcount : u16At packet 4 = some 0
  /-- ANCOUNT. -/
  ancount : u16At packet 6 = some 1
  /-- NSCOUNT. -/
  nscount : u16At packet 8 = some 0
  /-- ARCOUNT. -/
  arcount : u16At packet 10 = some 0
  /-- Behind the header, the record and nothing else. -/
  sections : packet.drop 12 = record.encode

end Dns
