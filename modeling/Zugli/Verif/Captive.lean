import Mathlib.Data.List.TakeWhile
import Zugli.Firmware.Portal
import Zugli.Lib.Dns

/-!
# Replies of the captive portal

No datagram makes the DNS task leave its buffers. What it sends copies the header's question count
and the bytes up to the first zero byte, so a reply is well formed just when the query counts one
question and that zero byte is the root of its name.
-/

namespace Zugli.DnsTask

open Dns

/-! ## The end of the question -/

/-- The bytes behind the header, up to the first zero byte. -/
def untilZero (datagram : List UInt8) : List UInt8 :=
  (datagram.drop 12).takeWhile fun byte => byte ≠ 0

/-- The end of the question, where its name ends with the first zero byte. -/
def questionEnd (datagram : List UInt8) : Nat := 12 + (untilZero datagram).length + 5

/-- The scan stops at the first zero byte. -/
theorem findZero_eq {query : Buffer 512} {datagram : List UInt8}
    (held : datagram <+: query.bytes) {i : Nat} (inside : i ≤ datagram.length) :
    findZero query datagram.length i =
      some (i + ((datagram.drop i).takeWhile fun byte => byte ≠ 0).length) := by
  induction remaining : datagram.length - i generalizing i with
  | zero =>
    rw [findZero, if_neg (by omega), List.drop_of_length_le (by omega)]
    rfl
  | succ remaining previous =>
    have before : i < datagram.length := by omega
    have first : datagram.drop i = datagram[i] :: datagram.drop (i + 1) :=
      List.drop_eq_getElem_cons before
    rw [findZero, if_pos before, Buffer.get_of_prefix held before,
      List.getElem?_eq_getElem before, Option.bind_eq_bind, Option.bind_some, first]
    by_cases zero : datagram[i] = 0
    · simp [zero]
    · rw [if_pos zero, previous (show i + 1 ≤ datagram.length by omega) (by omega),
        List.takeWhile_cons_of_pos (by simpa using zero), List.length_cons]
      congr 1
      omega

/-! ## The reply -/

/-- The answer that every query gets. -/
def portalAnswer : Answer where
  target := 12
  near := by decide
  rtype := 1
  rclass := 1
  ttl := dnsAnswerTtlSecs
  data := apIp
  short := by decide

/-- Its bytes. -/
theorem portalAnswer_encode : portalAnswer.encode =
    [0xC0, 0x0C] ++ [0, 1] ++ [0, 1] ++ u32ToBigEndian dnsAnswerTtlSecs ++ [0, 4] ++ apIp := by
  decide

/-- The first two bytes. -/
theorem take_two {bytes : List UInt8} (inside : 1 < bytes.length) :
    bytes.take 2 = [bytes[0], bytes[1]] := by
  obtain _ | ⟨first, _ | ⟨second, rest⟩⟩ := bytes
  · cases inside
  · cases Nat.lt_irrefl 1 inside
  · rfl

/-- The reply to a datagram. -/
def reply (datagram : List UInt8) : List UInt8 :=
  datagram.take 2 ++ [0x81, 0x80] ++ (datagram.drop 4).take 2 ++ [0, 1] ++ [0, 0, 0, 0] ++
    (datagram.drop 12).take (questionEnd datagram - 12) ++ portalAnswer.encode

/-- A datagram is answered when its question ends within it, and the reply fits the buffer. -/
def Answered (datagram : List UInt8) : Prop :=
  12 ≤ datagram.length ∧ questionEnd datagram ≤ datagram.length ∧ questionEnd datagram + 16 ≤ 512

instance (datagram : List UInt8) : Decidable (Answered datagram) :=
  inferInstanceAs (Decidable (_ ∧ _))

/-- The next write succeeds, behind what was written since the start. -/
theorem copy_then {resp : Buffer 512} {written : List UInt8} {start stop : Nat}
    {bytes : List UInt8} {rest : Buffer 512 → Option (DnsTask × List (List UInt8))}
    {result : Buffer 512 → Option (DnsTask × List (List UInt8))}
    (held : written <+: resp.bytes) (behind : written.length = start)
    (fits : start + bytes.length = stop) (room : stop ≤ 512)
    (goesOn : ∀ next : Buffer 512, written ++ bytes <+: next.bytes → ∃ last, rest next = result last) :
    ∃ last, (resp.copy start stop bytes).bind rest = result last := by
  obtain ⟨next, copied, filled⟩ := Buffer.copy_behind held behind fits room
  rw [copied, Option.bind_some]
  exact goesOn next filled

/-- The writes fill the buffer with the reply. -/
theorem answer_of_answered (task : DnsTask) {datagram : List UInt8}
    (held : datagram <+: task.query.bytes) (answered : Answered datagram) :
    ∃ resp, task.answer datagram.length = some ({ task with resp }, [reply datagram]) := by
  obtain ⟨header, within, room⟩ := answered
  have scanned := findZero_eq held header
  have atEnd : 12 + ((datagram.drop 12).takeWhile fun byte => byte ≠ 0).length + 1 + 4 =
      questionEnd datagram := rfl
  have first : task.query.get 0 = some datagram[0] := by
    rw [Buffer.get_of_prefix held (by omega), List.getElem?_eq_getElem]
  have second : task.query.get 1 = some datagram[1] := by
    rw [Buffer.get_of_prefix held (by omega), List.getElem?_eq_getElem]
  have counts : task.query.slice 4 6 = some ((datagram.drop 4).take 2) :=
    Buffer.slice_of_prefix held (by omega) (by omega)
  have question : task.query.slice 12 (questionEnd datagram) =
      some ((datagram.drop 12).take (questionEnd datagram - 12)) :=
    Buffer.slice_of_prefix held (by unfold questionEnd; omega) within
  have sizes : ((datagram.drop 4).take 2).length = 2 := by
    rw [List.length_take, List.length_drop]
    omega
  have copied : 12 + ((datagram.drop 12).take (questionEnd datagram - 12)).length =
      questionEnd datagram := by
    rw [List.length_take, List.length_drop]
    unfold questionEnd at within ⊢
    omega
  rw [answer, if_neg (by omega)]
  simp only [scanned, Option.bind_eq_bind, Option.bind_some, atEnd]
  rw [if_neg (by omega)]
  simp only [first, second, counts, question, Option.bind_some, Buffer.set]
  have written : reply datagram = [] ++ [datagram[0]] ++ [datagram[1]] ++ [0x81] ++ [0x80] ++
      (datagram.drop 4).take 2 ++ [0, 1] ++ [0, 0, 0, 0] ++
      (datagram.drop 12).take (questionEnd datagram - 12) ++ [0xC0, 0x0C] ++ [0, 1] ++ [0, 1] ++
      u32ToBigEndian dnsAnswerTtlSecs ++ [0, 4] ++ apIp := by
    rw [reply, take_two (by omega), portalAnswer_encode]
    simp only [List.append_assoc, List.nil_append, List.cons_append]
  rw [written]
  clear first second counts question scanned atEnd written
  generalize (datagram.drop 4).take 2 = counts at sizes ⊢
  generalize (datagram.drop 12).take (questionEnd datagram - 12) = asked at copied ⊢
  refine copy_then List.nil_prefix rfl rfl (by omega) fun resp held => ?_
  refine copy_then held rfl rfl (by omega) fun resp held => ?_
  refine copy_then held rfl rfl (by omega) fun resp held => ?_
  refine copy_then held rfl rfl (by omega) fun resp held => ?_
  refine copy_then held rfl (by rw [sizes]) (by omega) fun resp held => ?_
  refine copy_then held (by simp [sizes]) rfl (by omega) fun resp held => ?_
  refine copy_then held (by simp [sizes]) rfl (by omega) fun resp held => ?_
  refine copy_then held (by simp [sizes]) copied (by omega) fun resp held => ?_
  refine copy_then held (by simp [sizes]; omega) rfl (by omega) fun resp held => ?_
  refine copy_then held (by simp [sizes]; omega) rfl (by omega) fun resp held => ?_
  refine copy_then held (by simp [sizes]; omega) rfl (by omega) fun resp held => ?_
  refine copy_then held (by simp [sizes]; omega) rfl (by omega) fun resp held => ?_
  refine copy_then held (by simp [sizes, u32ToBigEndian]; omega) rfl (by omega) fun resp held => ?_
  refine copy_then held (by simp [sizes, u32ToBigEndian]; omega) rfl (by omega) fun resp held => ?_
  rw [Buffer.slice_written held (by simp [sizes, u32ToBigEndian, apIp]; omega), Option.bind_some]
  exact ⟨resp, rfl⟩

/-- A datagram that is not answered leaves the buffers alone. -/
theorem answer_of_not_answered (task : DnsTask) {datagram : List UInt8}
    (held : datagram <+: task.query.bytes) (unanswered : ¬Answered datagram) :
    task.answer datagram.length = some (task, []) := by
  unfold Answered at unanswered
  rw [answer]
  by_cases header : datagram.length < 12
  · rw [if_pos header]
  · have scanned := findZero_eq held (Nat.not_lt.mp header)
    have atEnd : 12 + ((datagram.drop 12).takeWhile fun byte => byte ≠ 0).length + 1 + 4 =
        questionEnd datagram := rfl
    rw [if_neg header]
    simp only [scanned, Option.bind_eq_bind, Option.bind_some, atEnd]
    rw [if_pos (by omega)]

/-- Every datagram has its turn, and is replied to when it is answered. -/
theorem turn_spec (task : DnsTask) (datagram : List UInt8) :
    ∃ next, task.turn datagram = some (next,
      if datagram.length ≤ 512 ∧ Answered datagram then [reply datagram] else []) := by
  rw [turn]
  cases received : task.query.receive datagram with
  | none =>
    have long : ¬datagram.length ≤ 512 := by
      intro short
      obtain ⟨query, found⟩ := task.query.exists_receive short
      rw [received] at found
      cases found
    exact ⟨task, by rw [if_neg fun both => long both.1]⟩
  | some query =>
    obtain ⟨held, short⟩ := Buffer.receive_eq_some received
    by_cases answered : Answered datagram
    · obtain ⟨resp, result⟩ := answer_of_answered { task with query } held answered
      exact ⟨_, by rw [if_pos ⟨short, answered⟩]; exact result⟩
    · have result := answer_of_not_answered { task with query } held answered
      exact ⟨_, by rw [if_neg fun both => answered both.2]; exact result⟩

/-- What is replied to a datagram. -/
theorem turn_sends {task next : DnsTask} {datagram sent : List UInt8}
    {replies : List (List UInt8)} (turned : task.turn datagram = some (next, replies))
    (sends : sent ∈ replies) : Answered datagram ∧ sent = reply datagram := by
  obtain ⟨after, spec⟩ := task.turn_spec datagram
  rw [turned] at spec
  cases spec
  split at sends
  next answered => exact ⟨answered.2, List.mem_singleton.mp sends⟩
  next => cases sends

/-! ## Parts of the reply -/

/-- The header of the reply has the id and the question count of the query. -/
theorem reply_eq {datagram : List UInt8} (answered : Answered datagram) :
    ∃ first second high low : UInt8, datagram.take 2 = [first, second] ∧
      u16At datagram 4 = some (u16OfBytes high low) ∧
      reply datagram = [first, second, 0x81, 0x80, high, low, 0, 1, 0, 0, 0, 0] ++
        ((datagram.drop 12).take (questionEnd datagram - 12) ++ portalAnswer.encode) := by
  have header := answered.1
  have counts : (datagram.drop 4).take 2 = [datagram[4], datagram[5]] := by
    have inside : 1 < (datagram.drop 4).length := by
      rw [List.length_drop]
      omega
    rw [take_two inside, List.getElem_drop, List.getElem_drop]
  refine ⟨datagram[0], datagram[1], datagram[4], datagram[5], take_two (by omega), ?_, ?_⟩
  · rw [u16At, List.getElem?_eq_getElem (by omega), List.getElem?_eq_getElem (by omega)]
  · rw [reply, take_two (by omega), counts]
    simp only [List.cons_append, List.nil_append]

/-- A name without zero bytes in its labels is all that stands before the first zero byte. -/
theorem untilZero_of_name {datagram : List UInt8} {name : Name}
    (stands : encodeName name <+: datagram.drop 12) (free : ∀ label ∈ name, 0 ∉ label.bytes) :
    untilZero datagram = name.flatMap Label.encode := by
  obtain ⟨rest, split⟩ := stands
  have nonzero : ∀ byte ∈ name.flatMap Label.encode, decide (byte ≠ 0) = true := by
    intro byte member
    refine decide_eq_true fun zero => ?_
    rw [zero] at member
    exact zero_notMem_labels.mpr free member
  rw [untilZero, ← split, encodeName, List.append_assoc, List.takeWhile_append_of_pos nonzero]
  simp

/-- Such a name ends with that byte, and QTYPE and QCLASS are left of the question. -/
theorem questionEnd_of_name {datagram : List UInt8} {name : Name}
    (stands : encodeName name <+: datagram.drop 12) (free : ∀ label ∈ name, 0 ∉ label.bytes) :
    questionEnd datagram = 12 + (encodeName name).length + 4 := by
  rw [questionEnd, untilZero_of_name stands free, encodeName, List.length_append]
  rfl

/-! ## Ordinary queries -/

/-- No datagram makes the task leave its buffers. Every query of at most 512 bytes with an
uncompressed question whose labels have no zero byte and which ends at 496 or before, and with
anything behind it, gets one reply: as long as the question end and sixteen bytes, with the id of
the query, the response bit, the question of the query, and one answer, which points to the name
and has the address of the portal. -/
theorem replies_to_ordinary_queries (task : DnsTask) :
    (∀ datagram, (task.turn datagram).isSome = true) ∧
      ∀ (header : List UInt8) (question : Question) (trailing : List UInt8),
        header.length = 12 → (∀ label ∈ question.name, 0 ∉ label.bytes) →
        12 + question.encode.length ≤ 496 →
        (header ++ question.encode ++ trailing).length ≤ 512 →
        ∃ next sent, task.turn (header ++ question.encode ++ trailing) = some (next, [sent]) ∧
          sent.length = 12 + question.encode.length + 16 ∧ sent.take 2 = header.take 2 ∧
          (∃ flags, sent[2]? = some flags ∧ flags &&& 0x80 = 0x80) ∧
          u16At sent 6 = some 1 ∧ sent.drop 12 = question.encode ++ portalAnswer.encode ∧
          encodeName question.name <+: sent.drop portalAnswer.target := by
  constructor
  · intro datagram
    obtain ⟨next, turned⟩ := task.turn_spec datagram
    rw [turned]
    rfl
  · intro header question trailing size free ends short
    generalize isQuery : header ++ question.encode ++ trailing = query
    have behind : query.drop 12 = question.encode ++ trailing := by
      rw [← isQuery, List.append_assoc, ← size, List.drop_left]
    have stands : encodeName question.name <+: query.drop 12 := by
      rw [behind, Question.encode, List.append_assoc, List.append_assoc]
      exact List.prefix_append _ _
    have atEnd : questionEnd query = 12 + question.encode.length := by
      rw [questionEnd_of_name stands free, Question.length_encode, Nat.add_assoc]
    have long : query.length = 12 + question.encode.length + trailing.length := by
      rw [← isQuery, List.length_append, List.length_append, size]
    have answered : Answered query := by
      unfold Answered
      omega
    rw [isQuery] at short
    obtain ⟨next, turned⟩ := task.turn_spec query
    rw [if_pos ⟨short, answered⟩] at turned
    obtain ⟨first, second, high, low, id, _, sent⟩ := reply_eq answered
    have asked : (query.drop 12).take (questionEnd query - 12) = question.encode := by
      rw [atEnd, Nat.add_sub_cancel_left, behind, List.take_left]
    rw [asked] at sent
    have sections : (reply query).drop 12 = question.encode ++ portalAnswer.encode := by
      rw [sent]
      rfl
    refine ⟨next, reply query, turned, ?_, ?_, ⟨0x81, ?_, by decide⟩, ?_, sections, ?_⟩
    · rw [sent]
      simp [portalAnswer, apIp]
      omega
    · have start : query.take 2 = header.take 2 := by
        rw [← isQuery, List.append_assoc, List.take_append_of_le_length (by omega)]
      rw [← start, id, sent]
      rfl
    · rw [sent]
      rfl
    · rw [sent]
      rfl
    · show encodeName question.name <+: (reply query).drop 12
      rw [sections, Question.encode, List.append_assoc, List.append_assoc]
      exact List.prefix_append _ _

/-! ## Well-formed replies -/

/-- A query counts one question, which has an uncompressed name without zero bytes in its labels. -/
def Ordinary (datagram : List UInt8) : Prop :=
  u16At datagram 4 = some 1 ∧
    ∃ name, encodeName name <+: datagram.drop 12 ∧ ∀ label ∈ name, 0 ∉ label.bytes

/-- The bytes up to the first zero byte, that byte, and four more. -/
theorem exists_question {datagram : List UInt8} (answered : Answered datagram) :
    ∃ a b c d : UInt8, untilZero datagram ++ [0] <+: datagram.drop 12 ∧
      (datagram.drop 12).take (questionEnd datagram - 12) =
        untilZero datagram ++ [0] ++ [a, b, c, d] := by
  obtain ⟨header, within, _⟩ := answered
  have split := List.takeWhile_append_dropWhile (p := fun byte : UInt8 => byte ≠ 0)
    (l := datagram.drop 12)
  have stops := List.head?_dropWhile_not (fun byte : UInt8 => byte ≠ 0) (datagram.drop 12)
  have lengths := congrArg List.length split
  rw [List.length_append, List.length_drop] at lengths
  have size : questionEnd datagram = 12 + (untilZero datagram).length + 5 := rfl
  change untilZero datagram ++ _ = _ at split
  change (untilZero datagram).length + _ = _ at lengths
  generalize (datagram.drop 12).dropWhile (fun byte => byte ≠ 0) = rest at split stops lengths
  obtain _ | ⟨byte, _ | ⟨a, _ | ⟨b, _ | ⟨c, _ | ⟨d, rest⟩⟩⟩⟩⟩ := rest
  · simp only [List.length_nil] at lengths
    omega
  · simp only [List.length_cons, List.length_nil] at lengths
    omega
  · simp only [List.length_cons, List.length_nil] at lengths
    omega
  · simp only [List.length_cons, List.length_nil] at lengths
    omega
  · simp only [List.length_cons, List.length_nil] at lengths
    omega
  · obtain rfl : byte = 0 := by simpa using stops
    have count : questionEnd datagram - 12 = (untilZero datagram ++ [0] ++ [a, b, c, d]).length := by
      simp only [size, List.length_append, List.length_cons, List.length_nil]
      omega
    have whole : datagram.drop 12 = untilZero datagram ++ [0] ++ [a, b, c, d] ++ rest := by
      rw [← split]
      simp
    refine ⟨a, b, c, d, ?_, ?_⟩
    · rw [whole, List.append_assoc]
      exact List.prefix_append _ _
    · rw [count, whole, List.take_left]

/-- The first zero byte of a well-formed reply is the root of its name. -/
theorem name_of_sections {scanned four : List UInt8} {question : Question} {answer : Answer}
    (free : 0 ∉ scanned) (isFour : four.length = 4)
    (sections : scanned ++ [0] ++ four ++ portalAnswer.encode =
      question.encode ++ answer.encode) :
    encodeName question.name = scanned ++ [0] := by
  obtain ⟨pointer, isPointer, high⟩ := answer.pointer
  generalize isLabels : question.name.flatMap Label.encode = labels
  have isName : encodeName question.name = labels ++ [0] := by rw [encodeName, isLabels]
  have isQuestion : question.encode = labels ++ [0] ++
      (encodeU16 question.qtype ++ encodeU16 question.qclass) := by
    rw [Question.encode, isName, List.append_assoc]
  rw [isQuestion] at sections
  have byte := fun index : Nat => congrArg (·[index]?) sections
  have lengths := congrArg List.length sections
  have size : portalAnswer.encode.length = 16 := by decide
  simp only [List.length_append, List.length_cons, List.length_nil, isFour, size,
    length_encodeU16, Answer.length_encode] at lengths
  -- the root cannot stand before the first zero byte
  have late : scanned.length ≤ labels.length := by
    by_contra early
    have inside : labels.length < scanned.length := Nat.not_le.mp early
    have root := byte labels.length
    simp only [List.append_assoc, List.getElem?_append_left inside,
      List.getElem?_append_right (Nat.le_refl _), Nat.sub_self] at root
    exact free (List.mem_of_getElem? root)
  -- behind it, no byte of the answer begins a pointer but the first
  have tail : portalAnswer.encode.drop (labels.length - scanned.length) = answer.encode := by
    have rest := congrArg (List.drop (labels.length + 5)) sections
    rw [List.drop_append, List.drop_of_length_le (by simp [isFour]; omega), List.nil_append,
      List.drop_left' (by simp)] at rest
    rw [← rest]
    congr 1
    simp [isFour]
  have exact : labels.length = scanned.length := by
    rw [← tail, List.getElem?_drop, Nat.add_zero] at isPointer
    have near : labels.length - scanned.length ≤ 4 := by omega
    have only : ∀ distance ≤ 4, distance = 0 ∨
        (portalAnswer.encode.getD distance 0).toNat < 192 := by decide
    rcases only _ near with here | low
    · omega
    · rw [List.getD_eq_getElem?_getD, isPointer, Option.getD_some] at low
      omega
  have start := congrArg (List.take (labels.length + 1)) sections
  rw [isName]
  rw [List.append_assoc, List.append_assoc (labels ++ [0]), List.take_left' (by simp [exact]),
    List.take_left' (by simp)] at start
  exact start.symm

/-- Whatever is replied to: the reply is a message of one question with an uncompressed name, and of
one answer that points to that name, and counts just these, if and only if the query counts one
question and its name is uncompressed, without zero bytes in its labels. -/
theorem reply_wellFormed_iff (task next : DnsTask) (datagram sent : List UInt8)
    (replies : List (List UInt8)) (turned : task.turn datagram = some (next, replies))
    (sends : sent ∈ replies) :
    (∃ question answer, IsReply sent question answer) ↔ Ordinary datagram := by
  obtain ⟨answered, rfl⟩ := turn_sends turned sends
  obtain ⟨a, b, c, d, ends, asked⟩ := exists_question answered
  obtain ⟨first, second, high, low, _, counts, isReply⟩ := reply_eq answered
  have scanned : 0 ∉ untilZero datagram := by
    intro member
    have nonzero := List.mem_takeWhile_imp member
    simp at nonzero
  have qdcount : u16At (reply datagram) 4 = u16At datagram 4 := by
    rw [isReply, counts]
    rfl
  have sections : (reply datagram).drop 12 =
      untilZero datagram ++ [0] ++ [a, b, c, d] ++ portalAnswer.encode := by
    rw [isReply, asked]
    rfl
  constructor
  · rintro ⟨question, answer, wellFormed⟩
    have isName := name_of_sections scanned rfl (sections.symm.trans wellFormed.sections)
    refine ⟨qdcount ▸ wellFormed.qdcount, question.name, by rwa [isName], ?_⟩
    rw [encodeName, List.append_cancel_right_eq] at isName
    rw [← zero_notMem_labels, isName]
    exact scanned
  · rintro ⟨one, name, stands, free⟩
    have isName : untilZero datagram ++ [0] = encodeName name := by
      rw [untilZero_of_name stands free, encodeName]
    have isQuestion : untilZero datagram ++ [0] ++ [a, b, c, d] =
        Question.encode ⟨name, u16OfBytes a b, u16OfBytes c d⟩ := by
      simp only [Question.encode, encodeU16_u16OfBytes, isName, List.append_assoc]
      rfl
    rw [isQuestion] at sections
    refine ⟨_, portalAnswer, ?_, ?_, ?_, ?_, sections, ?_⟩
    · rw [qdcount, one]
    · rw [isReply]
      rfl
    · rw [isReply]
      rfl
    · rw [isReply]
      rfl
    · show encodeName name <+: (reply datagram).drop 12
      rw [sections, Question.encode, List.append_assoc, List.append_assoc]
      exact List.prefix_append _ _

/-! ## Two queries -/

/-- A query for the address of `a.ch`. -/
def addressQuery : List UInt8 :=
  [0, 7, 1, 0, 0, 1, 0, 0, 0, 0, 0, 0, 1, 97, 2, 99, 104, 0, 0, 1, 0, 1]

/-- The reply to it is well formed. -/
theorem addressQuery_wellFormed : ∃ question answer, IsReply (reply addressQuery) question answer := by
  obtain ⟨next, turned⟩ := start.turn_spec addressQuery
  rw [if_pos (by decide)] at turned
  refine (reply_wellFormed_iff start next addressQuery (reply addressQuery) [reply addressQuery]
    turned (List.mem_singleton_self _)).mpr ⟨by decide, ?_⟩
  exact ⟨[⟨[97], by decide⟩, ⟨[99, 104], by decide⟩], by decide, by decide⟩

/-- A query for both addresses of `a.ch`, in two questions. -/
def bothQuery : List UInt8 :=
  [0, 9, 1, 0, 0, 2, 0, 0, 0, 0, 0, 0, 1, 97, 2, 99, 104, 0, 0, 1, 0, 1,
    1, 97, 2, 99, 104, 0, 0, 28, 0, 1]

/-- The reply to it counts two questions and has one. -/
theorem bothQuery_malformed :
    (∃ next, start.turn bothQuery = some (next, [reply bothQuery])) ∧
      ¬∃ question answer, IsReply (reply bothQuery) question answer := by
  constructor
  · obtain ⟨next, turned⟩ := start.turn_spec bothQuery
    rw [if_pos (by decide)] at turned
    exact ⟨next, turned⟩
  · rintro ⟨question, answer, wellFormed⟩
    have one := wellFormed.qdcount
    revert one
    decide

end Zugli.DnsTask
