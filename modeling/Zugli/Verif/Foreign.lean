import Zugli.Verif.Departures

/-!
# Entries of other connections

An entry that is not tracked does not change the departures of a board, when the firmware decodes
it. When a text of it is too long for its field, the whole board is lost.
-/

namespace Zugli

open Serde

/-- The crate decodes a body as the document it is a text of: to the board of the document, or to
an error when a text or the board overflows what is kept of it. A body is outside that the crate
refuses for another reason: an escape of a surrogate pair, or a string with an escape that its
buffer does not hold. -/
def DecodedAs (serde : SerdeJsonCore) (body : List UInt8) (document : Json) : Prop :=
  serde.fromSlice Board boardUnescapeSize body = ofJson document

/-- An entry that is not tracked does not qualify, wherever it stands. -/
theorem qualifying_insert {sel : Selection} {board extended : Board} {before after : List Entry}
    {entry : Entry} (shorter : board.stationboard.val = before ++ after)
    (longer : extended.stationboard.val = before ++ entry :: after)
    (foreign : ¬entry.Tracked sel) : extended.qualifying sel = board.qualifying sel := by
  rw [Board.qualifying, Board.qualifying, longer, shorter, List.filterMap_append,
    List.filterMap_append, List.filterMap_cons_none (by rw [if_neg foreign])]

/-- The departures of a board are those of the entries that qualify. -/
theorem departures_congr (sorting : UnstableSort) (now : Option Int64) {sel : Selection}
    {left right : Board} (same : left.qualifying sel = right.qualifying sel) :
    left.departures sorting now sel = right.departures sorting now sel := by
  simp only [Board.departures, same]

/-- For every body that is parsed, and every entry of the API that is not tracked and is inserted
anywhere while the board holds at most twenty: the departures stay the same if and only if the
texts of the entry fit the fields and its time fits 64 bits. -/
theorem parseDepartures_insert_iff (serde : SerdeJsonCore) (sorting : UnstableSort)
    (now : Option Int64) (sel : Selection) (left right : List (String × Json))
    (before after : List Json) (entry : ApiEntry) (members : List (String × Json))
    (body extended : List UInt8) (written : entry.WrittenAs members)
    (decoded : DecodedAs serde body (stationboard left right (before ++ after)))
    (decodedExtended :
      DecodedAs serde extended (stationboard left right (before ++ .obj members :: after)))
    (parses : (parseDepartures serde sorting now body sel).isSome = true)
    (room : (before ++ .obj members :: after).length ≤ 20)
    (untracked : tracked sel entry.line entry.destination = false) :
    parseDepartures serde sorting now extended sel = parseDepartures serde sorting now body sel ↔
      entry.Fits := by
  unfold DecodedAs at decoded decodedExtended
  rw [parseDepartures_eq, decoded, Option.isSome_map] at parses
  obtain ⟨board, isBoard⟩ := Option.isSome_iff_exists.mp parses
  obtain ⟨alone, entries⟩ := ofJson_stationboard.mp isBoard
  rw [parseDepartures_eq, parseDepartures_eq, decoded, decodedExtended, isBoard,
    ← entry.decodes_iff]
  constructor
  · intro same
    cases isExtended : ofJson (α := Board) (stationboard left right
        (before ++ .obj members :: after)) with
    | none =>
      rw [isExtended] at same
      cases same
    | some extendedBoard =>
      have pairs := List.forall₂_drop before.length (ofJson_stationboard.mp isExtended).2
      rw [List.drop_left] at pairs
      obtain ⟨kept, others, found, _, _⟩ := List.forall₂_cons_left_iff.mp pairs
      exact ⟨kept, (ApiEntry.ofMembers_eq_some written).mp found⟩
  · rintro ⟨kept, decodes⟩
    have found : ofJson (.obj members) = some kept :=
      (ApiEntry.ofMembers_eq_some written).mpr decodes
    have keptBefore := List.forall₂_take before.length entries
    have keptAfter := List.forall₂_drop before.length entries
    rw [List.take_left] at keptBefore
    rw [List.drop_left] at keptAfter
    have longer := List.rel_append keptBefore (List.Forall₂.cons found keptAfter)
    have fits := longer.length_eq ▸ room
    have isExtended : ofJson (stationboard left right (before ++ .obj members :: after)) =
        some (Board.mk ⟨_, fits⟩) := ofJson_stationboard.mpr ⟨alone, longer⟩
    have foreign : ¬kept.Tracked sel := by
      rw [← tracked_iff, decodes.line, decodes.destination, untracked]
      exact Bool.noConfusion
    rw [isExtended, Option.map_some, Option.map_some]
    exact congrArg some (departures_congr sorting now
      (qualifying_insert (List.take_append_drop _ _).symm rfl foreign))

/-! ## A special service -/

/-- A selection of the tram only. -/
def tramOnly : Selection :=
  { wholeStop with
    allConnections := false
    connections := ⟨[tramConn], by decide⟩ }

/-- A service with a name that is too long for its field. -/
def special : ApiEntry :=
  ⟨some "EXT", none, some "Sonderfahrt Museumstramlinie", some "Burgwies", some 1700000900⟩

/-- The board of the tram has a departure. -/
theorem tram_parsed : (parseDepartures .reference .reference (some 1700000000)
    (stationboardText [tram]) tramOnly).map (fun departures => departures.val.length) = some 1 := by
  obtain ⟨chosen, _, _, count, _, _, shows⟩ :=
    tramBoard.departures_spec .reference (some 1700000000) tramOnly
  rw [parseDepartures_eq, tramBoard_decoded, Option.map_some, Option.map_some, shows,
    List.length_map, count]
  decide

/-- The special service takes the tram off the board, though it is not tracked. -/
theorem special_blanks_board :
    tracked tramOnly special.line special.destination = false ∧
      (parseDepartures .reference .reference (some 1700000000) (stationboardText [tram])
        tramOnly).map (fun departures => departures.val.length) = some 1 ∧
      parseDepartures .reference .reference (some 1700000000) (stationboardText [tram, special])
        tramOnly = none := by
  refine ⟨by decide, tram_parsed, ?_⟩
  rw [parseDepartures_eq, stationboardText, SerdeJsonCore.fromSlice_spelled _ (by decide +kernel)]
  decide

/-- The condition at the tram and the special service. -/
theorem parseDepartures_insert_special :
    parseDepartures .reference .reference (some 1700000000) (stationboardText [tram, special])
        tramOnly =
      parseDepartures .reference .reference (some 1700000000) (stationboardText [tram]) tramOnly ↔
      special.Fits := by
  refine parseDepartures_insert_iff .reference .reference (some 1700000000) tramOnly [] []
    [.obj tram.members] [] special special.members _ _ special.writtenAs_members
    (SerdeJsonCore.fromSlice_spelled _ (by decide +kernel))
    (SerdeJsonCore.fromSlice_spelled _ (by decide +kernel)) ?_ (by decide) (by decide)
  have parsed := congrArg Option.isSome tram_parsed
  rwa [Option.isSome_map] at parsed

end Zugli
