import Zugli.Lib.Runs
import Zugli.Verif.Mdns

/-!
# The responder on the network

Whatever arrives and however the network changes, the mDNS task stays within its buffers, and each
packet it sends is one answer: the address of the device, under its full name. Only the second of
the two announcements may tell an address that has changed since the first.
-/

namespace Zugli

open Dns

/-! ## The response -/

/-- The name of the device. -/
def hostName : Name :=
  [⟨Json.utf8 "zugli".toList, by decide⟩, ⟨Json.utf8 "local".toList, by decide⟩]

/-- The record of the device: its address, which replaces what caches hold. -/
def hostRecord (ip : Ipv4) : Record where
  name := hostName
  rtype := 1
  rclass := 0x8001
  ttl := mdnsTtlSecs
  data := ip.toList
  short := by simp

/-- The header of a response. -/
def responseHeader : List UInt8 := [0, 0, 0x84, 0] ++ [0, 0] ++ [0, 1] ++ [0, 0, 0, 0]

/-- The response that tells an address. -/
def response (ip : Ipv4) : List UInt8 := responseHeader ++ (hostRecord ip).encode

/-- The record behind the name. -/
theorem hostRecord_encode (ip : Ipv4) : (hostRecord ip).encode =
    hostName.flatMap Label.encode ++ [0] ++ [0, 1] ++ [0x80, 1] ++ u32ToBigEndian mdnsTtlSecs ++
      [0, 4] ++ ip.toList := by
  have count : encodeU16 (.ofNat ip.toList.length) = [0, 4] := by
    rw [Vector.length_toList]
    decide
  have ttl : encodeU32 mdnsTtlSecs = u32ToBigEndian mdnsTtlSecs := by decide
  show encodeName hostName ++ encodeU16 1 ++ encodeU16 0x8001 ++ encodeU32 mdnsTtlSecs ++
    encodeU16 (.ofNat ip.toList.length) ++ ip.toList = _
  rw [count, ttl]
  rfl

/-- The labels of the name, each behind its length. -/
theorem length_hostLabels : (hostName.flatMap Label.encode).length = 12 := by decide

@[simp] theorem length_response (ip : Ipv4) : (response ip).length = 39 := by
  simp only [response, hostRecord_encode, List.length_append, length_hostLabels,
    Vector.length_toList]
  rfl

/-- Labels are written behind what was written since the start. -/
theorem putLabels_spec {out : Buffer 64} {written : List UInt8} {p : Nat} {name : Name}
    (held : written <+: out.bytes) (behind : written.length = p)
    (room : p + (name.flatMap Label.encode).length ≤ 64) :
    ∃ filled : Buffer 64, putLabels out p (name.map Label.bytes) =
        some (filled, p + (name.flatMap Label.encode).length) ∧
      written ++ name.flatMap Label.encode <+: filled.bytes := by
  induction name generalizing out written p with
  | nil =>
    refine ⟨out, rfl, ?_⟩
    rw [List.flatMap_nil, List.append_nil]
    exact held
  | cons label name previous =>
    simp only [List.flatMap_cons, List.length_append, Label.length_encode] at room ⊢
    have behindCount : (written ++ [UInt8.ofNat label.bytes.length]).length = p + 1 := by
      rw [List.length_append, behind]
      rfl
    have behindLabel : (written ++ [UInt8.ofNat label.bytes.length] ++ label.bytes).length =
        p + 1 + label.bytes.length := by
      rw [List.length_append, behindCount]
    refine Buffer.copy_goes_on held behind rfl (by omega) fun counted count => ?_
    refine Buffer.copy_goes_on count behindCount rfl (by omega) fun copied bytes => ?_
    obtain ⟨filled, isFilled, rest⟩ := previous bytes behindLabel (by omega)
    refine ⟨filled, ?_, ?_⟩
    · rw [isFilled]
      congr 2
      omega
    · rw [List.append_assoc, List.append_assoc] at rest
      exact rest

/-- The response is written from the start of the buffer, whatever it held. -/
theorem buildResponse_spec (out : Buffer 64) (ip : Ipv4) :
    ∃ filled, buildResponse out ip = some (filled, 39) ∧ response ip <+: filled.bytes := by
  have written : response ip = [] ++ [0, 0, 0x84, 0] ++ [0, 0] ++ [0, 1] ++ [0, 0, 0, 0] ++
      hostName.flatMap Label.encode ++ [0] ++ [0, 1] ++ [0x80, 1] ++ u32ToBigEndian mdnsTtlSecs ++
      [0, 4] ++ ip.toList := by
    simp only [response, responseHeader, hostRecord_encode, List.append_assoc, List.nil_append]
  have labels : hostLabels = hostName.map Label.bytes := rfl
  have size : ip.toList.length = 4 := ip.length_toList
  rw [written, buildResponse, labels]
  have count := length_hostLabels
  simp only [Option.bind_eq_bind, Buffer.set]
  refine Buffer.copy_goes_on List.nil_prefix rfl rfl (by omega) fun out held => ?_
  refine Buffer.copy_goes_on held rfl rfl (by omega) fun out held => ?_
  refine Buffer.copy_goes_on held rfl rfl (by omega) fun out held => ?_
  refine Buffer.copy_goes_on held rfl rfl (by omega) fun out held => ?_
  obtain ⟨out, put, held⟩ := putLabels_spec (p := 12) held rfl (by rw [count]; decide)
  rw [put, Option.bind_some]
  simp only
  generalize hostName.flatMap Label.encode = encoded at count held ⊢
  refine Buffer.copy_goes_on held (by simp; omega) rfl (by omega) fun out held => ?_
  refine Buffer.copy_goes_on held (by simp; omega) rfl (by omega) fun out held => ?_
  refine Buffer.copy_goes_on held (by simp; omega) rfl (by omega) fun out held => ?_
  refine Buffer.copy_goes_on held (by simp; omega) rfl (by omega) fun out held => ?_
  refine Buffer.copy_goes_on held (by simp [u32ToBigEndian]; omega) rfl (by omega)
    fun out held => ?_
  refine Buffer.copy_goes_on held (by simp [u32ToBigEndian]; omega) (by omega) (by omega)
    fun out held => ?_
  refine ⟨out, ?_, held⟩
  rw [count]

/-- The response announces the record of the device and nothing else. -/
theorem response_announces (ip : Ipv4) : IsAnnouncement (response ip) 0x8400 (hostRecord ip) where
  id := rfl
  flags := rfl
  qdcount := rfl
  ancount := rfl
  nscount := rfl
  arcount := rfl
  sections := rfl

/-! ## Queries -/

/-- A datagram that gets an answer: a query, by its QR bit, that fits the buffer and asks for the
device. -/
def Queries (datagram : List UInt8) : Prop :=
  12 ≤ datagram.length ∧ datagram.length ≤ 512 ∧
    (∃ flags, datagram[2]? = some flags ∧ flags &&& 0x80 = 0) ∧
    ∃ qdcount, u16At datagram 4 = some qdcount ∧ AskedWithin datagram qdcount.toNat 12

/-- No message with the QR bit of a response is a query. -/
theorem not_queries_of_announcement {packet : List UInt8} {record : Record}
    (announces : IsAnnouncement packet 0x8400 record) : ¬Queries packet := by
  rintro ⟨_, _, ⟨flags, isFlags, clear⟩, _⟩
  have stands := u16At_eq_some.mp announces.flags
  have first : packet[2]? = some 0x84 := (cons_prefix_drop.mp stands).1
  rw [first] at isFlags
  cases isFlags
  exact absurd clear (by decide)

/-- Of the queries that fit the buffer, those with a question for the device get an answer. -/
theorem queries_iff {packet : List UInt8} {questions : List Question}
    (isQuery : IsQuery packet questions) (short : packet.length ≤ 512) :
    Queries packet ↔ ∃ question ∈ questions, Asks question.name question.qtype := by
  obtain ⟨clear, few, counted, trailing, sections⟩ := isQuery
  have counts : (UInt16.ofNat questions.length).toNat = questions.length := by
    rw [UInt16.toNat_ofNat']
    omega
  constructor
  · rintro ⟨_, _, _, qdcount, isCount, earlier, name, qtype, fewer, stands, asks⟩
    rw [counted] at isCount
    cases isCount
    rw [counts] at fewer
    rw [← sections] at stands
    obtain ⟨question, member, rfl, rfl⟩ := question_of_prefix fewer stands
    exact ⟨question, member, asks⟩
  · rintro ⟨question, member, asks⟩
    obtain ⟨before, after, rfl⟩ := List.append_of_mem member
    have behind : 12 ≤ packet.length := by
      have sizes := congrArg List.length sections
      simp only [encodeQuestions_append, encodeQuestions_cons, List.length_append,
        Question.length_encode, List.length_drop] at sizes
      omega
    refine ⟨behind, short, clear, _, counted, before, question.name, question.qtype, ?_, ?_, asks⟩
    · rw [counts, List.length_append, List.length_cons]
      omega
    · rw [← sections]
      exact ⟨encodeU16 question.qclass ++ encodeQuestions after ++ trailing,
        by simp [Question.encode]⟩

namespace MdnsTask

/-! ## A turn of the loop -/

/-- From a datagram to the next await point: a query is answered with the address, if there is
one, and nothing else is. -/
theorem answer_spec (task : MdnsTask) {datagram : List UInt8}
    (held : datagram <+: task.query.bytes) :
    ∃ next sent, task.answer datagram.length = some (next, sent) ∧
      (next.point = task.point ∨ next.point = .answering) ∧
      (Queries datagram → sent = (task.ip.map response).toList) ∧
      (¬Queries datagram → sent = []) := by
  have room : datagram.length ≤ 512 := by
    have fits := held.length_le
    rwa [task.query.full] at fits
  by_cases short : datagram.length < 12
  · refine ⟨task, [], by rw [answer, if_pos short], .inl rfl, fun queries => ?_, fun _ => rfl⟩
    exact absurd queries.1 (by omega)
  · have isFlags : task.query.get 2 = some datagram[2] := by
      rw [Buffer.get_of_prefix held (by omega), List.getElem?_eq_getElem]
    have whole : task.query.slice 0 datagram.length = some datagram :=
      Buffer.slice_written held rfl
    rw [answer, if_neg short]
    simp only [isFlags, whole, Option.bind_eq_bind, Option.bind_some]
    by_cases clear : datagram[2] &&& 0x80 = 0
    · rw [if_neg (not_not.mpr clear)]
      cases found : questionMatches datagram with
      | false =>
        refine ⟨task, [], rfl, .inl rfl, fun queries => ?_, fun _ => rfl⟩
        rw [(questionMatches_eq datagram).mpr queries.2.2.2] at found
        cases found
      | true =>
        have queries : Queries datagram := ⟨by omega, room,
          ⟨_, List.getElem?_eq_getElem (by omega), clear⟩, (questionMatches_eq datagram).mp found⟩
        cases known : task.ip with
        | none => exact ⟨task, [], rfl, .inl rfl, fun _ => rfl, fun _ => rfl⟩
        | some ip =>
          obtain ⟨resp, built, filled⟩ := buildResponse_spec task.resp ip
          have packet : resp.slice 0 39 = some (response ip) :=
            Buffer.slice_written filled (length_response ip)
          refine ⟨{ task with resp, point := .answering }, [response ip], ?_, .inr rfl,
            fun _ => rfl, fun other => absurd queries other⟩
          simp [built, packet, known]
    · rw [if_pos clear]
      refine ⟨task, [], rfl, .inl rfl, ?_, fun _ => rfl⟩
      rintro ⟨_, _, ⟨flags, isByte, isClear⟩, _⟩
      rw [List.getElem?_eq_getElem (by omega)] at isByte
      cases isByte
      exact absurd isClear clear

/-- A turn of the loop. -/
theorem receive_spec {task : MdnsTask} (receiving : task.point = .receiving)
    (datagram : List UInt8) :
    ∃ next sent, task.receive datagram = some (next, sent) ∧
      (next.point = .receiving ∨ next.point = .answering) ∧
      (Queries datagram → sent = (task.ip.map response).toList) ∧
      (¬Queries datagram → sent = []) := by
  rw [receive, if_pos receiving]
  cases received : task.query.receive datagram with
  | none =>
    refine ⟨task, [], rfl, .inl receiving, fun queries => ?_, fun _ => rfl⟩
    obtain ⟨query, found⟩ := task.query.exists_receive queries.2.1
    rw [received] at found
    cases found
  | some query =>
    obtain ⟨held, _⟩ := Buffer.receive_eq_some received
    obtain ⟨next, sent, result, point, answers⟩ := answer_spec { task with query } held
    exact ⟨next, sent, result, point.imp_left fun same => same.trans receiving, answers⟩

/-! ## What holds between the steps -/

/-- So many announcements of one address are all that was sent, and the buffer still holds one. -/
def Announced (resp : Buffer 64) (packets : List (List UInt8)) (len count : Nat) : Prop :=
  len = 39 ∧ 1 ≤ count ∧ ∃ ip, response ip <+: resp.bytes ∧
    packets = List.replicate count (response ip)

/-- What holds between the steps, with the packets sent so far. -/
def Kept (task : MdnsTask) (packets : List (List UInt8)) : Prop :=
  match task.point with
  | .configuring | .joining _ | .returned => packets = []
  | .announcing len earlier => Announced task.resp packets len (earlier + 1)
  | .pausing len sent _ => Announced task.resp packets len sent
  | .receiving | .answering => True
  | .stopped => False

/-- A packet tells the address that the device has, or repeats the only packet sent before it. -/
def Tells (task : MdnsTask) (packets : List (List UInt8)) (packet : List UInt8) : Prop :=
  ∃ ip, IsAnnouncement packet 0x8400 (hostRecord ip) ∧ (task.ip = some ip ∨ packets = [packet])

/-- A step goes on, keeps what holds, and sends only what tells the address. -/
def Goes (task : MdnsTask) (packets : List (List UInt8))
    (result : Option (MdnsTask × List (List UInt8))) : Prop :=
  ∃ next sent, result = some (next, sent) ∧ next.Kept (packets ++ sent) ∧
    ∀ packet ∈ sent, task.Tells packets packet

/-- A step that sends nothing and keeps what holds. -/
theorem goes_silently {task next : MdnsTask} {packets : List (List UInt8)}
    (kept : next.Kept packets) : task.Goes packets (some (next, [])) := by
  refine ⟨next, [], rfl, ?_, fun packet member => absurd member List.not_mem_nil⟩
  rw [List.append_nil]
  exact kept

/-- Joining the group leads to an announcement, or to nothing sent. -/
theorem join_goes {task : MdnsTask} (joined bound : Bool) : task.Goes [] (task.join joined bound) := by
  rw [join]
  cases joined with
  | false => exact goes_silently rfl
  | true =>
    cases bound with
    | false => exact goes_silently rfl
    | true =>
      cases known : task.ip with
      | none => exact goes_silently trivial
      | some ip =>
        obtain ⟨resp, built, filled⟩ := buildResponse_spec task.resp ip
        have packet : resp.slice 0 39 = some (response ip) :=
          Buffer.slice_written filled (length_response ip)
        refine ⟨{ task with resp, point := .announcing 39 0 }, [response ip], ?_, ?_, ?_⟩
        · simp [built, announce, packet, known]
        · exact ⟨rfl, Nat.le_refl 1, ip, filled, rfl⟩
        · intro sent member
          rw [List.mem_singleton.mp member]
          exact ⟨ip, response_announces ip, .inl known⟩

/-- The task goes on behind each of its waits. -/
theorem wake_goes {task : MdnsTask} {packets : List (List UInt8)} (kept : task.Kept packets)
    (joined bound : Bool) : task.Goes packets (task.wake joined bound) := by
  have stays : task.Goes packets (some (task, [])) := goes_silently kept
  unfold Kept at kept
  rw [wake]
  cases point : task.point with
  | configuring =>
    rw [point] at kept
    obtain rfl : packets = [] := kept
    simp only
    split
    · exact join_goes joined bound
    · exact stays
  | joining wakeAt =>
    rw [point] at kept
    obtain rfl : packets = [] := kept
    simp only
    split
    · exact join_goes joined bound
    · exact stays
  | pausing len sent wakeAt =>
    rw [point] at kept
    obtain ⟨rfl, some, ip, filled, rfl⟩ := kept
    simp only
    split
    · by_cases few : sent < announcements
      · obtain rfl : sent = 1 := by
          unfold announcements at few
          omega
        have packet : task.resp.slice 0 39 = .some (response ip) :=
          Buffer.slice_written filled (length_response ip)
        refine ⟨{ task with point := .announcing 39 1 }, [response ip], ?_, ?_, ?_⟩
        · simp [few, announce, packet]
        · exact ⟨rfl, Nat.le_succ 1, ip, filled, rfl⟩
        · intro sent member
          rw [List.mem_singleton.mp member]
          exact ⟨ip, response_announces ip, .inr rfl⟩
      · rw [if_neg few]
        exact goes_silently trivial
    · exact stays
  | announcing | receiving | answering | returned | stopped => exact stays

/-- Each step goes on. -/
theorem goOn_goes {task : MdnsTask} {packets : List (List UInt8)} (kept : task.Kept packets)
    (event : Event) : task.Goes packets (task.goOn event) := by
  cases event with
  | passes ticks => exact goes_silently kept
  | addressed ip => exact goes_silently kept
  | wakes joined bound => exact wake_goes kept joined bound
  | sent =>
    refine goes_silently ?_
    unfold Kept at kept
    cases point : task.point with
    | receiving | answering => simp only [Kept, behindSend, point]
    | announcing | configuring | joining | pausing | returned | stopped =>
      rw [point] at kept
      simp only [Kept, behindSend, point]
      exact kept
  | receives datagram =>
    by_cases receiving : task.point = .receiving
    · obtain ⟨next, sent, result, point, query, other⟩ := receive_spec receiving datagram
      refine ⟨next, sent, result, ?_, ?_⟩
      · rcases point with point | point <;> simp only [Kept, point]
      · intro packet member
        by_cases queries : Queries datagram
        · rw [query queries, Option.mem_toList, Option.map_eq_some_iff] at member
          obtain ⟨ip, known, rfl⟩ := member
          exact ⟨ip, response_announces ip, .inl known⟩
        · rw [other queries] at member
          exact absurd member List.not_mem_nil
    · rw [goOn, receive, if_neg receiving]
      exact goes_silently kept

/-- One step. -/
theorem step_kept {task : MdnsTask} {packets : List (List UInt8)} (kept : task.Kept packets)
    (event : Event) : (task.step event).1.Kept (packets ++ (task.step event).2) ∧
      ∀ packet ∈ (task.step event).2, task.Tells packets packet := by
  obtain ⟨next, sent, result, goesOn, tells⟩ := goOn_goes kept event
  rw [step, result]
  exact ⟨goesOn, tells⟩

/-- The packets of a step. -/
def sends (task : MdnsTask) (event : Event) : List (List UInt8) := (task.step event).2

/-- The packets of a step that answers no datagram. -/
def announces (task : MdnsTask) : Event → List (List UInt8)
  | .receives _ => []
  | event => (task.step event).2

/-- Announcements that are still to come. -/
def left (task : MdnsTask) : Nat :=
  match task.point with
  | .configuring | .joining _ => announcements
  | .announcing _ earlier => announcements - (earlier + 1)
  | .pausing _ sent _ => announcements - sent
  | .receiving | .answering | .returned | .stopped => 0

/-- A step, unless it stops the task, sends no more than a number of announcements, less those left
behind it. -/
def Spends (budget : Nat) (result : Option (MdnsTask × List (List UInt8))) : Prop :=
  ∀ next sent, result = some (next, sent) → sent.length + next.left ≤ budget

/-- An announcement is one of those left. -/
theorem announce_spends (task : MdnsTask) (len earlier : Nat) :
    Spends (1 + (announcements - (earlier + 1))) (task.announce len earlier) := by
  intro next sent result
  obtain ⟨packet, _, same⟩ := Option.bind_eq_some_iff.mp result
  cases same
  exact Nat.le_refl _

/-- Joining the group leads to the first announcement at most. -/
theorem join_spends (task : MdnsTask) (joined bound : Bool) :
    Spends announcements (task.join joined bound) := by
  rw [join]
  cases joined with
  | false =>
    intro next sent result
    cases result
    exact Nat.le_refl _
  | true =>
    cases bound with
    | false =>
      intro next sent result
      cases result
      exact Nat.zero_le _
    | true =>
      intro next sent result
      cases known : task.ip with
      | none =>
        simp only [known] at result
        cases result
        exact Nat.zero_le _
      | some ip =>
        simp only [known] at result
        obtain ⟨built, _, announced⟩ := Option.bind_eq_some_iff.mp result
        exact announce_spends _ _ 0 next sent announced

/-- No wait ends with more announcements than are left. -/
theorem wake_spends (task : MdnsTask) (joined bound : Bool) :
    Spends task.left (task.wake joined bound) := by
  have stays : Spends task.left (some (task, [])) := by
    intro next sent result
    cases result
    simp
  rw [wake]
  cases point : task.point with
  | configuring =>
    have all : task.left = announcements := by simp only [left, point]
    rw [all] at stays ⊢
    simp only
    split
    · exact join_spends task joined bound
    · exact stays
  | joining wakeAt =>
    have all : task.left = announcements := by simp only [left, point]
    rw [all] at stays ⊢
    simp only
    split
    · exact join_spends task joined bound
    · exact stays
  | pausing len sent wakeAt =>
    have all : task.left = announcements - sent := by simp only [left, point]
    rw [all] at stays ⊢
    simp only
    split
    · split
      next few =>
        have one : 1 + (announcements - (sent + 1)) = announcements - sent := by omega
        rw [← one]
        exact announce_spends task len sent
      next =>
        intro next sent result
        cases result
        exact Nat.zero_le _
    · exact stays
  | announcing | receiving | answering | returned | stopped => exact stays

/-- A turn of the loop is only taken once none is left. -/
theorem receive_left (task : MdnsTask) (datagram : List UInt8) :
    (task.step (.receives datagram)).1.left ≤ task.left := by
  rw [step, goOn]
  by_cases receiving : task.point = .receiving
  · obtain ⟨next, sent, result, point, _⟩ := receive_spec receiving datagram
    rw [result]
    rcases point with point | point <;> simp [left, point]
  · rw [receive, if_neg receiving]
    exact Nat.le_refl _

/-- No step announces more than is left. -/
theorem announces_le (task : MdnsTask) (event : Event) :
    (task.announces event).length + (task.step event).1.left ≤ task.left := by
  cases event with
  | passes ticks => simp [announces, step, goOn, left]
  | addressed ip => simp [announces, step, goOn, left]
  | sent =>
    simp only [announces, step, goOn, behindSend, left]
    cases task.point <;> simp
  | receives datagram =>
    rw [announces, List.length_nil, Nat.zero_add]
    exact receive_left task datagram
  | wakes joined bound =>
    simp only [announces, step, goOn]
    cases result : task.wake joined bound with
    | none => exact Nat.zero_le _
    | some last => exact wake_spends task joined bound last.1 last.2 result

/-- The mDNS task over any run: addresses come and go, the group is refused, packets of any content
arrive, in any order. It never leaves its buffers. Each packet it sends names the device in full and
tells its address, the one it has at that time unless the packet repeats the only packet sent
before it; at most two are sent unasked. While it waits for datagrams, one is answered just when it
is a query for the device, once, unless the device has no address. Of the well-formed queries that
fit the buffer those are for the device that have a question for it anywhere in their list. No
packet of the device is one, so that devices do not answer each other. -/
theorem serves_its_name (events : List Event) (event : Event) :
    let task := (Machine.run step start events).1
    let packets := Machine.observed step sends start events
    let sent := (task.step event).2
    task.point ≠ .stopped ∧
      (∀ packet ∈ sent, task.Tells packets packet ∧ ¬Queries packet) ∧
      (Machine.observed step announces start events).length ≤ announcements ∧
      (∀ datagram, task.point = .receiving → event = .receives datagram →
        (Queries datagram → sent = (task.ip.map response).toList) ∧
          (¬Queries datagram → sent = [])) ∧
      ∀ datagram questions, IsQuery datagram questions → datagram.length ≤ 512 →
        (Queries datagram ↔ ∃ question ∈ questions, Asks question.name question.qtype) := by
  intro task packets sent
  have kept : task.Kept ([] ++ packets) := by
    refine Machine.observed_invariant ?_ (show start.Kept [] from rfl) events
    exact fun task event packets kept => (step_kept kept event).1
  refine ⟨?_, ?_, ?_, ?_, fun datagram questions => queries_iff⟩
  · intro stopped
    rw [Kept, stopped] at kept
    exact kept
  · intro packet member
    have tells := (step_kept kept event).2 packet member
    obtain ⟨ip, announces, _⟩ := id tells
    exact ⟨tells, not_queries_of_announcement announces⟩
  · exact Machine.observed_length_le (fun task event _ => announces_le task event)
      (Machine.along_trivial start events)
  · rintro datagram receiving rfl
    obtain ⟨next, replies, result, _, answers⟩ := receive_spec receiving datagram
    have same : sent = replies := by
      show (task.step (.receives datagram)).2 = replies
      rw [step, goOn, result]
      rfl
    rw [same]
    exact answers

end MdnsTask

end Zugli
