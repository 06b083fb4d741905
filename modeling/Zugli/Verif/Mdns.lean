import Zugli.Firmware.Mdns

/-!
# Questions for the device

The walk over a name finds just the uncompressed names, whatever the packet holds, and knows the
name of the device. A packet is answered when one of the questions that its header counts asks for
the address of that name, and the questions before it can be walked.
-/

namespace Zugli

open Dns

/-! ## Labels -/

/-- Whether labels are those expected, without regard to case. -/
def sameLabels : List (List UInt8) → Name → Bool
  | [], [] => true
  | expected :: others, label :: name =>
    (label.bytes.length == expected.length && eqIgnoreAsciiCase label.bytes expected) &&
      sameLabels others name
  | _, _ => false

/-- Only bytes below 64 have neither of the two high bits. -/
theorem and_high_bits (byte : UInt8) : byte &&& 0xC0 = 0 ↔ byte.toNat < 64 := by
  have all : ∀ value < 256, (UInt8.ofNat value &&& 0xC0 = 0 ↔ value < 64) := by decide +kernel
  have here := all byte.toNat byte.toNat_lt
  rwa [UInt8.ofNat_toNat] at here

/-- A range that stands there. -/
theorem slice?_eq_some {pkt : List UInt8} {start count : Nat} {bytes : List UInt8} :
    slice? pkt start (start + count) = some bytes ↔
      bytes.length = count ∧ start + count ≤ pkt.length ∧ bytes <+: pkt.drop start := by
  rw [slice?, Nat.add_sub_cancel_left]
  constructor
  · intro found
    obtain ⟨⟨_, inside⟩, same⟩ := Option.ite_none_right_eq_some.mp found
    cases same
    refine ⟨?_, inside, List.take_prefix _ _⟩
    rw [List.length_take, List.length_drop]
    omega
  · rintro ⟨rfl, inside, stands⟩
    rw [if_pos ⟨Nat.le_add_right _ _, inside⟩, ← List.prefix_iff_eq_take.mp stands]

/-- The expected labels from an index on. -/
theorem sameLabels_cons {idx : Nat} {label : Label} {name : Name} :
    sameLabels (hostLabels.drop idx) (label :: name) =
      (isExpected idx label.bytes && sameLabels (hostLabels.drop (idx + 1)) name) := by
  unfold isExpected
  cases found : hostLabels[idx]? with
  | none =>
    rw [List.drop_of_length_le (List.getElem?_eq_none_iff.mp found)]
    rfl
  | some expected =>
    obtain ⟨inside, same⟩ := List.getElem?_eq_some_iff.mp found
    rw [List.drop_eq_getElem_cons inside, same]
    rfl

/-- Past the expected labels none is left. -/
theorem sameLabels_nil {idx : Nat} (within : idx ≤ hostLabels.length) :
    sameLabels (hostLabels.drop idx) [] = (idx == hostLabels.length) := by
  cases left : hostLabels.drop idx with
  | nil =>
    have past := List.drop_eq_nil_iff.mp left
    simp [sameLabels, Nat.le_antisymm within past]
  | cons expected others =>
    have inside : idx < hostLabels.length := by
      by_contra past
      rw [List.drop_of_length_le (by omega)] at left
      cases left
    simp only [sameLabels]
    exact (beq_false_of_ne (Nat.ne_of_lt inside)).symm

/-! ## The walk -/

/-- One turn of the walk. -/
theorem walkLabels_eq (pkt : List UInt8) (i idx : Nat) (same : Bool) :
    walkLabels pkt i idx same = pkt[i]?.bind fun len =>
      if len = 0 then some (same && idx == hostLabels.length, i + 1)
      else if len &&& 0xC0 ≠ 0 then none
      else (slice? pkt (i + 1) (i + 1 + len.toNat)).bind fun label =>
        walkLabels pkt (i + 1 + len.toNat) (idx + 1) (same && isExpected idx label) := by
  rw [walkLabels]
  split
  next missing => rw [missing, Option.bind_none]
  next len found =>
    rw [found, Option.bind_some]
    split
    · rfl
    · split
      · rfl
      · split
        next missing => rw [missing, Option.bind_none]
        next label sliced => rw [sliced, Option.bind_some]

/-- A label that stands at an offset is walked over. -/
theorem walkLabels_label {pkt : List UInt8} {i idx : Nat} {same : Bool} {label : Label}
    (stands : label.encode <+: pkt.drop i) :
    walkLabels pkt i idx same =
      walkLabels pkt (i + label.encode.length) (idx + 1) (same && isExpected idx label.bytes) := by
  obtain ⟨found, bytes⟩ := cons_prefix_drop.mp stands
  have short := label.short
  have length := label.toNat_length
  have low : UInt8.ofNat label.bytes.length &&& 0xC0 = 0 :=
    (and_high_bits _).mpr (by omega)
  have inside : i + 1 + label.bytes.length ≤ pkt.length := by
    have fits := bytes.length_le
    rw [List.length_drop] at fits
    omega
  have sliced : slice? pkt (i + 1) (i + 1 + label.bytes.length) = some label.bytes :=
    slice?_eq_some.mpr ⟨rfl, inside, bytes⟩
  rw [walkLabels_eq, found, Option.bind_some, if_neg label.length_ne_zero, if_neg (by simp [low]),
    length, sliced, Option.bind_some, Label.length_encode]
  congr 1
  omega

/-- The walk reads a name that stands at its offset. -/
theorem walkLabels_of_prefix {pkt : List UInt8} {i idx : Nat} {same : Bool} {name : Name}
    (stands : encodeName name <+: pkt.drop i)
    (within : idx ≤ hostLabels.length ∨ same = false) :
    walkLabels pkt i idx same =
      some (same && sameLabels (hostLabels.drop idx) name, i + (encodeName name).length) := by
  induction name generalizing i idx same with
  | nil =>
    have root := (cons_prefix_drop.mp stands).1
    rw [walkLabels_eq, root, Option.bind_some, if_pos rfl]
    cases same with
    | false => rfl
    | true =>
      rw [sameLabels_nil (within.resolve_right Bool.noConfusion)]
      rfl
  | cons label name previous =>
    rw [encodeName_cons, append_prefix_iff, List.drop_drop] at stands
    have further : idx + 1 ≤ hostLabels.length ∨ (same && isExpected idx label.bytes) = false := by
      by_cases inside : idx < hostLabels.length
      · exact .inl inside
      · have past : hostLabels[idx]? = none := List.getElem?_eq_none_iff.mpr (by omega)
        simp [isExpected, past]
    rw [walkLabels_label stands.1, previous stands.2 further, sameLabels_cons, encodeName_cons,
      List.length_append, Bool.and_assoc, Nat.add_assoc]

/-- Only a name is read. -/
theorem exists_name_of_walkLabels {pkt : List UInt8} {i idx : Nat} {same : Bool}
    {walked : Bool × Nat} (found : walkLabels pkt i idx same = some walked) :
    ∃ name, encodeName name <+: pkt.drop i := by
  fun_induction walkLabels pkt i idx same with
  | case1 => cases found
  | case2 i idx same root =>
    exact ⟨[], cons_prefix_drop.mpr ⟨root, List.nil_prefix⟩⟩
  | case3 => cases found
  | case4 => cases found
  | case5 i idx same len isLength positive low label sliced previous =>
    obtain ⟨name, rest⟩ := previous found
    obtain ⟨length, inside, bytes⟩ := slice?_eq_some.mp sliced
    have small : len.toNat < 64 := (and_high_bits len).mp (not_not.mp low)
    have nonzero : len.toNat ≠ 0 := fun zero => positive (UInt8.toNat_inj.mp zero)
    refine ⟨⟨label, by omega, by omega⟩ :: name, ?_⟩
    rw [encodeName_cons, append_prefix_iff, List.drop_drop, Label.length_encode]
    refine ⟨cons_prefix_drop.mpr ⟨?_, bytes⟩, ?_⟩
    · show pkt[i]? = some (.ofNat label.length)
      rw [length, UInt8.ofNat_toNat]
      exact isLength
    · show encodeName name <+: pkt.drop (i + (label.length + 1))
      rw [length]
      rwa [show i + (len.toNat + 1) = i + 1 + len.toNat by omega]

/-- `walk_name` finds the name that stands at an offset, if one does. -/
theorem walkName_eq_some {pkt : List UInt8} {i after : Nat} {nameOk : Bool} :
    walkName pkt i = some (nameOk, after) ↔
      ∃ name, encodeName name <+: pkt.drop i ∧ nameOk = sameLabels hostLabels name ∧
        after = i + (encodeName name).length := by
  constructor
  · intro found
    obtain ⟨name, stands⟩ := exists_name_of_walkLabels found
    rw [walkName, walkLabels_of_prefix stands (.inl (Nat.zero_le _))] at found
    cases found
    exact ⟨name, stands, by simp, rfl⟩
  · rintro ⟨name, stands, rfl, rfl⟩
    rw [walkName, walkLabels_of_prefix stands (.inl (Nat.zero_le _))]
    simp

/-! ## The questions -/

/-- A question asks for the address of the device: for its name, by A or ANY. -/
def Asks (name : Name) (qtype : UInt16) : Prop :=
  sameLabels hostLabels name = true ∧ (qtype = 1 ∨ qtype = 255)

instance (name : Name) (qtype : UInt16) : Decidable (Asks name qtype) :=
  inferInstanceAs (Decidable (_ ∧ _))

/-- From an offset, fewer than so many questions stand back to back before one, complete up to its
QTYPE, that asks for the device. -/
def AskedWithin (pkt : List UInt8) (count i : Nat) : Prop :=
  ∃ (earlier : List Question) (name : Name) (qtype : UInt16), earlier.length < count ∧
    encodeQuestions earlier ++ (encodeName name ++ encodeU16 qtype) <+: pkt.drop i ∧
    Asks name qtype

/-- Something stands behind a name and a QTYPE, so the QCLASS stands in between. -/
theorem exists_qclass {packet bytes : List UInt8} {offset : Nat} (nonempty : bytes ≠ [])
    (stands : bytes <+: packet.drop (offset + 2)) :
    ∃ qclass, encodeU16 qclass <+: packet.drop offset := by
  have behind : 0 < (packet.drop (offset + 2)).length :=
    Nat.lt_of_lt_of_le (List.length_pos_iff.mpr nonempty) stands.length_le
  rw [List.length_drop] at behind
  have first : offset < packet.length := by omega
  have second : offset + 1 < packet.length := by omega
  refine ⟨u16OfBytes packet[offset] packet[offset + 1], u16At_eq_some.mp ?_⟩
  rw [u16At, List.getElem?_eq_getElem first, List.getElem?_eq_getElem second]

/-- The questions stand one behind the other. -/
theorem askedWithin_succ {pkt : List UInt8} {count i : Nat} {name : Name} {qtype : UInt16}
    (isName : encodeName name <+: pkt.drop i)
    (isType : encodeU16 qtype <+: pkt.drop (i + (encodeName name).length)) :
    AskedWithin pkt (count + 1) i ↔ Asks name qtype ∨
      AskedWithin pkt count (i + (encodeName name).length + 4) := by
  constructor
  · rintro ⟨earlier, other, otherType, fewer, stands, asks⟩
    cases earlier with
    | nil =>
      rw [encodeQuestions_nil, List.nil_append, append_prefix_iff, List.drop_drop] at stands
      obtain rfl : name = other := name_eq_of_prefix isName stands.1
      obtain rfl : qtype = otherType := u16_eq_of_prefix isType stands.2
      exact .inl asks
    | cons question earlier =>
      rw [encodeQuestions_cons, List.append_assoc, append_prefix_iff, List.drop_drop,
        Question.length_encode, Question.encode_prefix] at stands
      obtain rfl : name = question.name := name_eq_of_prefix isName stands.1.1
      refine .inr ⟨earlier, other, otherType, Nat.lt_of_succ_lt_succ fewer, ?_, asks⟩
      rw [Nat.add_assoc]
      exact stands.2
  · rintro (asks | ⟨earlier, other, otherType, fewer, stands, asks⟩)
    · refine ⟨[], name, qtype, Nat.succ_pos _, ?_, asks⟩
      rw [encodeQuestions_nil, List.nil_append, append_prefix_iff, List.drop_drop]
      exact ⟨isName, isType⟩
    · have nonempty : encodeQuestions earlier ++ (encodeName other ++ encodeU16 otherType) ≠ [] := by
        simp [encodeName]
      obtain ⟨qclass, isClass⟩ : ∃ qclass,
          encodeU16 qclass <+: pkt.drop (i + (encodeName name).length + 2) :=
        exists_qclass nonempty stands
      refine ⟨⟨name, qtype, qclass⟩ :: earlier, other, otherType, Nat.succ_lt_succ fewer, ?_, asks⟩
      rw [encodeQuestions_cons, List.append_assoc, append_prefix_iff, List.drop_drop,
        Question.length_encode, Question.encode_prefix, List.drop_drop, List.drop_drop]
      exact ⟨⟨isName, isType, isClass⟩, stands⟩

/-- A name and its QTYPE stand first. -/
theorem first_of_askedWithin {pkt : List UInt8} {count i : Nat} (asked : AskedWithin pkt count i) :
    ∃ name qtype, encodeName name <+: pkt.drop i ∧
      encodeU16 qtype <+: pkt.drop (i + (encodeName name).length) := by
  obtain ⟨earlier, name, qtype, _, stands, _⟩ := asked
  cases earlier with
  | nil =>
    rw [encodeQuestions_nil, List.nil_append, append_prefix_iff, List.drop_drop] at stands
    exact ⟨name, qtype, stands⟩
  | cons question earlier =>
    rw [encodeQuestions_cons, List.append_assoc, append_prefix_iff, Question.encode_prefix,
      List.drop_drop] at stands
    exact ⟨question.name, question.qtype, stands.1.1, stands.1.2.1⟩

/-- The loop finds the question. -/
theorem anyMatches_iff (pkt : List UInt8) (count i : Nat) :
    anyMatches pkt count i = true ↔ AskedWithin pkt count i := by
  induction count generalizing i with
  | zero =>
    constructor
    · exact Bool.noConfusion
    · rintro ⟨earlier, _, _, fewer, _⟩
      exact absurd fewer (Nat.not_lt_zero _)
  | succ count previous =>
    rw [anyMatches]
    cases walked : walkName pkt i with
    | none =>
      refine ⟨Bool.noConfusion, fun asked => ?_⟩
      obtain ⟨name, _, isName, _⟩ := first_of_askedWithin asked
      rw [walkName_eq_some.mpr ⟨name, isName, rfl, rfl⟩] at walked
      cases walked
    | some found =>
      obtain ⟨nameOk, afterName⟩ := found
      obtain ⟨name, isName, rfl, rfl⟩ := walkName_eq_some.mp walked
      simp only
      cases read : u16At pkt (i + (encodeName name).length) with
      | none =>
        refine ⟨Bool.noConfusion, fun asked => ?_⟩
        obtain ⟨other, qtype, isOther, isType⟩ := first_of_askedWithin asked
        obtain rfl : name = other := name_eq_of_prefix isName isOther
        rw [u16At_eq_some.mpr isType] at read
        cases read
      | some qtype =>
        rw [askedWithin_succ isName (u16At_eq_some.mp read), ← previous]
        simp only [Asks]
        split
        next asks => simp_all
        next other => simp_all

/-- The loop over the questions finds what is asked. -/
theorem questionMatches_eq (pkt : List UInt8) : questionMatches pkt = true ↔
    ∃ qdcount, u16At pkt 4 = some qdcount ∧ AskedWithin pkt qdcount.toNat 12 := by
  rw [questionMatches]
  cases u16At pkt 4 with
  | none => simp
  | some qdcount => simp [anyMatches_iff]

/-- `question_matches` finds a question for the device, behind fewer questions than the header
counts, all of which stand back to back from the end of the header and are complete up to its
QTYPE. Of a message with any list of questions it finds whether one of them asks for the device,
wherever in the list. -/
theorem questionMatches_iff :
    (∀ pkt : List UInt8, questionMatches pkt = true ↔
      ∃ qdcount, u16At pkt 4 = some qdcount ∧ AskedWithin pkt qdcount.toNat 12) ∧
    ∀ (header : List UInt8) (questions : List Question) (trailing : List UInt8)
      (qdcount : UInt16), header.length = 12 → u16At header 4 = some qdcount →
      qdcount.toNat = questions.length →
      (questionMatches (header ++ encodeQuestions questions ++ trailing) = true ↔
        ∃ question ∈ questions, Asks question.name question.qtype) := by
  refine ⟨questionMatches_eq, ?_⟩
  intro header questions trailing qdcount size counted counts
  have read : u16At (header ++ encodeQuestions questions ++ trailing) 4 = some qdcount := by
    rw [u16At_eq_some, List.append_assoc, List.drop_append_of_le_length (by omega)]
    exact List.prefix_append_of_prefix (u16At_eq_some.mp counted)
  have behind : (header ++ encodeQuestions questions ++ trailing).drop 12 =
      encodeQuestions questions ++ trailing := by
    rw [List.append_assoc, ← size, List.drop_left]
  rw [questionMatches_eq, read]
  simp only [Option.some.injEq, exists_eq_left', AskedWithin, behind, counts]
  constructor
  · rintro ⟨earlier, name, qtype, fewer, stands, asks⟩
    obtain ⟨question, member, rfl, rfl⟩ := question_of_prefix fewer stands
    exact ⟨question, member, asks⟩
  · rintro ⟨question, member, asks⟩
    obtain ⟨before, after, rfl⟩ := List.append_of_mem member
    refine ⟨before, question.name, question.qtype, by simp, ?_, asks⟩
    refine ⟨encodeU16 question.qclass ++ encodeQuestions after ++ trailing, ?_⟩
    simp [Question.encode]

end Zugli
