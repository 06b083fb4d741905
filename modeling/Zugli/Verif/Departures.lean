import Zugli.Verif.Stationboard

/-!
# The departures of a board

What the poll makes of a decoded stationboard: the soonest entries that have a time and are
tracked, in order of their times, with their texts cut to what the screens hold.
-/

namespace Zugli

open Serde
open Json (utf8Len)

/-! ## Cut texts -/

/-- A text is the longest beginning of another that has at most so many bytes. -/
def CutTo (capacity : Nat) (text cut : String) : Prop :=
  cut.toList <+: text.toList ∧ cut.utf8ByteSize ≤ capacity ∧
    ∀ other : String, other.toList <+: text.toList → other.utf8ByteSize ≤ capacity →
      other.toList <+: cut.toList

/-- What is pushed is a beginning of the text. -/
theorem fitting_prefix (room : Nat) (text : List Char) : fitting room text <+: text := by
  induction text generalizing room with
  | nil => exact List.prefix_refl _
  | cons c text previous =>
    rw [fitting]
    split
    · exact List.cons_prefix_cons.mpr ⟨rfl, previous _⟩
    · exact List.nil_prefix

/-- No longer beginning fits. -/
theorem prefix_fitting {room : Nat} {text other : List Char} (begins : other <+: text)
    (fits : utf8Len other ≤ room) : other <+: fitting room text := by
  induction text generalizing room other with
  | nil => exact begins
  | cons c text previous =>
    cases other with
    | nil => exact List.nil_prefix
    | cons first other =>
      obtain ⟨rfl, rest⟩ := List.cons_prefix_cons.mp begins
      rw [Json.utf8Len_cons] at fits
      rw [fitting, if_pos (by omega)]
      exact List.cons_prefix_cons.mpr ⟨rfl, previous rest (by omega)⟩

/-- `str_to` cuts a text to its capacity. -/
theorem strTo_cut (capacity : Nat) (text : String) :
    CutTo capacity text (strTo capacity text).val := by
  refine ⟨?_, (strTo capacity text).fits, ?_⟩
  · rw [strTo, String.toList_ofList]
    exact fitting_prefix capacity text.toList
  · intro other begins fits
    rw [strTo, String.toList_ofList]
    rw [Json.utf8ByteSize_eq] at fits
    exact prefix_fitting begins fits

/-! ## The entries that qualify -/

/-- An entry is tracked when all connections are, or its very line and destination are picked. -/
def Entry.Tracked (sel : Selection) (entry : Entry) : Prop :=
  sel.allConnections = true ∨
    ∃ conn ∈ sel.connections.val,
      conn.line.val = entry.line ∧ conn.destination.val = entry.destination

instance Entry.decidableTracked (sel : Selection) (entry : Entry) :
    Decidable (entry.Tracked sel) :=
  inferInstanceAs (Decidable (_ ∨ ∃ conn ∈ sel.connections.val, _))

/-- The tracked entries that have a time, each with it. -/
def Board.qualifying (sel : Selection) (board : Board) : List (Int64 × Entry) :=
  board.stationboard.val.filterMap fun entry =>
    if entry.Tracked sel then entry.stop.departureTimestamp.map (·, entry) else none

/-- What is shown of an entry that leaves at a time. -/
structure Shows (now : Option Int64) (timed : Int64 × Entry) (departure : Departure) : Prop where
  /-- Its line. -/
  line : CutTo 16 timed.2.line departure.line.val
  /-- Its category, if it has one. -/
  category : CutTo 12 ((timed.2.category.map HString.val).getD "") departure.category.val
  /-- Its destination. -/
  destination : CutTo 48 timed.2.destination departure.destination.val
  /-- The minutes until then, if the time is known. -/
  minutes : departure.minutes = now.map (minutesUntil timed.1)

/-- The departure of an entry that leaves at a time. -/
def shown (now : Option Int64) (timed : Int64 × Entry) : Int64 × Departure :=
  (timed.1,
    { line := strTo 16 timed.2.line
      category := strTo 12 ((timed.2.category.map HString.val).getD "")
      destination := strTo 48 timed.2.destination
      minutes := now.map (minutesUntil timed.1) })

/-- It shows the entry. -/
theorem shown_shows (now : Option Int64) (timed : Int64 × Entry) :
    Shows now timed (shown now timed).2 where
  line := strTo_cut 16 _
  category := strTo_cut 12 _
  destination := strTo_cut 48 _
  minutes := rfl

/-- `tracked` finds the tracked entries. -/
theorem tracked_iff (sel : Selection) (entry : Entry) :
    tracked sel entry.line entry.destination = true ↔ entry.Tracked sel := by
  simp [tracked, Entry.Tracked]

/-- The departures that are found are those of the entries that qualify. -/
theorem filterMap_departure (sel : Selection) (now : Option Int64) (board : Board) :
    board.stationboard.val.filterMap (Entry.departure sel now) =
      (board.qualifying sel).map (shown now) := by
  rw [Board.qualifying, List.map_filterMap]
  congr 1
  funext entry
  simp only [Entry.departure, tracked_iff]
  split
  · cases entry.stop.departureTimestamp <;> rfl
  · rfl

/-- No more entries qualify than a board holds. -/
theorem length_qualifying (sel : Selection) (board : Board) :
    (board.qualifying sel).length ≤ 20 :=
  Nat.le_trans (List.length_filterMap_le _ _) board.stationboard.fits

/-! ## The soonest of them -/

/-- The departures of a decoded board. -/
def Board.departures (sorting : UnstableSort) (now : Option Int64) (sel : Selection)
    (board : Board) : HVec Departure 3 :=
  let ordered := sorting.sort (fun entry => entry.1.toInt) ((board.qualifying sel).map (shown now))
  ⟨(ordered.take 3).map Prod.snd, by
    rw [List.length_map]
    exact List.length_take_le 3 ordered⟩

/-- A body comes to the departures of the board it decodes to. -/
theorem parseDepartures_eq (serde : SerdeJsonCore) (sorting : UnstableSort) (now : Option Int64)
    (body : List UInt8) (sel : Selection) :
    parseDepartures serde sorting now body sel =
      (serde.fromSlice Board boardUnescapeSize body).map (Board.departures sorting now sel) := by
  unfold parseDepartures
  cases serde.fromSlice Board boardUnescapeSize body with
  | none => rfl
  | some board =>
    have short : ((board.qualifying sel).map (shown now)).length ≤ 20 := by
      rw [List.length_map]
      exact length_qualifying sel board
    simp only [Option.bind_eq_bind, Option.bind_some, Option.map_some, Board.departures,
      filterMap_departure, List.take_of_length_le short]

/-- The departures show the soonest of the entries that qualify, in order of their times. -/
theorem Board.departures_spec (sorting : UnstableSort) (now : Option Int64) (sel : Selection)
    (board : Board) :
    ∃ chosen left : List (Int64 × Entry), (chosen ++ left).Perm (board.qualifying sel) ∧
      chosen.length = min 3 (board.qualifying sel).length ∧
      chosen.Pairwise (fun first second => first.1.toInt ≤ second.1.toInt) ∧
      (∀ listed ∈ chosen, ∀ other ∈ left, listed.1.toInt ≤ other.1.toInt) ∧
      (board.departures sorting now sel).val = chosen.map fun timed => (shown now timed).2 := by
  obtain ⟨arranged, perm, images⟩ := sorting.exists_arranged
    (fun entry : Int64 × Departure => entry.1.toInt) (shown now) (board.qualifying sel)
  have sorted := sorting.sorted (fun entry : Int64 × Departure => entry.1.toInt)
    ((board.qualifying sel).map (shown now))
  rw [images, List.pairwise_map] at sorted
  obtain ⟨inOrder, sooner⟩ := UnstableSort.soonest
    (fun timed : Int64 × Entry => timed.1.toInt) sorted 3
  refine ⟨arranged.take 3, arranged.drop 3, ?_, ?_, inOrder, sooner, ?_⟩
  · rw [List.take_append_drop]
    exact perm
  · rw [List.length_take, perm.length_eq]
  · simp only [Board.departures, images, ← List.map_take, List.map_map]
    rfl

/-- For every board a body decodes to, every selection and every clock: the departures are as many
as qualify, but three at most; they show, in order of their times, entries that qualify, each with
its texts cut to what fits; and no entry that qualifies and is left out leaves before one that is
shown. -/
theorem parseDepartures_selects (serde : SerdeJsonCore) (sorting : UnstableSort)
    (now : Option Int64) (body : List UInt8) (sel : Selection) (board : Board)
    (decoded : serde.fromSlice Board boardUnescapeSize body = some board) :
    ∃ departures, parseDepartures serde sorting now body sel = some departures ∧
      departures.val.length = min 3 (board.qualifying sel).length ∧
      ∃ chosen left : List (Int64 × Entry), (chosen ++ left).Perm (board.qualifying sel) ∧
        chosen.Pairwise (fun first second => first.1.toInt ≤ second.1.toInt) ∧
        (∀ listed ∈ chosen, ∀ other ∈ left, listed.1.toInt ≤ other.1.toInt) ∧
        List.Forall₂ (Shows now) chosen departures.val := by
  obtain ⟨chosen, left, perm, count, inOrder, sooner, shows⟩ :=
    board.departures_spec sorting now sel
  refine ⟨board.departures sorting now sel, ?_, ?_, chosen, left, perm, inOrder, sooner, ?_⟩
  · rw [parseDepartures_eq, decoded, Option.map_some]
  · rw [shows, List.length_map, count]
  · rw [shows, List.forall₂_map_right_iff, List.forall₂_same]
    exact fun timed _ => shown_shows now timed

/-! ## A tram -/

/-- A tram of the API. -/
def tram : ApiEntry := ⟨some "T", some "7", some "007123", some "Albisgütli", some 1700000600⟩

/-- The line of the tram fits its field. -/
theorem seven_fits : "7".utf8ByteSize ≤ 16 := by decide

/-- The category of a tram fits its field. -/
theorem tram_fits : "T".utf8ByteSize ≤ 12 := by decide

/-- The connection of the tram. -/
def tramConn : Conn := ⟨⟨"7", seven_fits⟩, ⟨"T", tram_fits⟩, ⟨"Albisgütli", by decide⟩⟩

/-- What is kept of it. -/
def keptTram : Entry :=
  ⟨HString.ofString? "T", HString.ofString? "7", HString.ofString? "007123",
    HString.ofString? "Albisgütli", ⟨some 1700000600⟩⟩

/-- A board with nothing else. -/
def tramBoard : Board := ⟨⟨[keptTram], by decide⟩⟩

/-- The text of the board is decoded. -/
theorem tramBoard_decoded : SerdeJsonCore.reference.fromSlice Board boardUnescapeSize
    (stationboardText [tram]) = some tramBoard := by
  have kept : tram.DecodesTo keptTram := ⟨rfl, rfl, rfl, rfl, rfl⟩
  exact reference_stationboardText (.cons kept .nil)

/-- All connections of a stop. -/
def wholeStop : Selection := ⟨⟨"8591105", by decide⟩, ⟨"Bürkliplatz", by decide⟩, true, .empty⟩

/-! ## A crowded board -/

/-- A service of a line to a destination, with its category and the time it leaves at. -/
def service (category line destination : String) (time : Option Int) : ApiEntry :=
  ⟨some category, some line, some "0", some destination, time⟩

/-- What is kept of it. -/
def keptService (category line destination : String) (time : Option Int64) : Entry :=
  ⟨HString.ofString? category, HString.ofString? line, HString.ofString? "0",
    HString.ofString? destination, ⟨time⟩⟩

/-- A funicular and a tram are picked. -/
def twoLines : Selection :=
  { wholeStop with
    allConnections := false
    connections := ⟨[⟨⟨"23", by decide⟩, ⟨"FUN", by decide⟩, ⟨"Gurten", by decide⟩⟩, tramConn],
      by decide⟩ }

/-- A tram that is not picked, the funicular, a tram without a time, and trams of which two leave at
the same time. -/
def crowd : List ApiEntry :=
  [service "T" "9" "Triemli" (some 1700000100),
    service "Standseilbahn" "23" "Gurten" (some 1700000300), service "T" "7" "Albisgütli" none,
    service "T" "7" "Albisgütli" (some 1700000600), service "T" "7" "Albisgütli" (some 1700000900),
    service "NFT" "7" "Albisgütli" (some 1700000900)]

/-- What is kept of those. -/
def crowdedBoard : Board :=
  ⟨⟨[keptService "T" "9" "Triemli" (some 1700000100),
    keptService "Standseilbahn" "23" "Gurten" (some 1700000300),
    keptService "T" "7" "Albisgütli" none,
    keptService "T" "7" "Albisgütli" (some 1700000600),
    keptService "T" "7" "Albisgütli" (some 1700000900),
    keptService "NFT" "7" "Albisgütli" (some 1700000900)], by decide⟩⟩

/-- The text of the board is decoded. -/
theorem crowdedBoard_decoded : SerdeJsonCore.reference.fromSlice Board boardUnescapeSize
    (stationboardText crowd) = some crowdedBoard := by
  have kept : List.Forall₂ ApiEntry.DecodesTo crowd crowdedBoard.stationboard.val := by
    repeat constructor
  exact reference_stationboardText kept

/-- The soonest three of the four that qualify are shown, the category of the funicular cut. -/
theorem parseDepartures_selects_crowd :
    ∃ departures, parseDepartures .reference .reference (some 1700000000) (stationboardText crowd)
        twoLines = some departures ∧
      departures.val.length = 3 ∧ (crowdedBoard.qualifying twoLines).length = 4 ∧
      departures.val.map (fun departure => departure.category.val) = ["Standseilbah", "T", "T"] ∧
      departures.val.map Departure.minutes = [some 5, some 10, some 15] := by
  obtain ⟨departures, parsed, count, _⟩ := parseDepartures_selects .reference .reference
    (some 1700000000) (stationboardText crowd) twoLines crowdedBoard crowdedBoard_decoded
  refine ⟨departures, parsed, count, by decide, ?_⟩
  rw [parseDepartures_eq, crowdedBoard_decoded, Option.map_some, Option.some.injEq] at parsed
  have sorted : UnstableSort.reference.sort (fun entry : Int64 × Departure => entry.1.toInt)
      ((crowdedBoard.qualifying twoLines).map (shown (some 1700000000))) =
        (crowdedBoard.qualifying twoLines).map (shown (some 1700000000)) :=
    List.mergeSort_of_pairwise (by decide)
  rw [← parsed]
  simp only [Board.departures, sorted]
  decide

end Zugli
