import Zugli.Firmware.Httpd
import Zugli.Firmware.Poll
import Zugli.Verif.Picker
import Zugli.Verif.Record

/-!
# Saved selections

From the stationboard over the picker and the body of a save to the filter of the poll. The board
reads a posted body field by field, or refuses it when one of its texts is too long. A text with an
escape is decoded through the buffer of the extractor, which has to hold it. The line and the
destination that the page builds of an entry are those the poll compares, so an entry whose
connection was saved is tracked.
-/

namespace Zugli.Web

open Js (Str)
open Serde

/-- The text of a string without lone surrogates. -/
def stringOf (text : Str) : String := String.ofList (Utf16.decode text)

/-- Bytes of a string in a body. -/
def bytesOf (text : Str) : Nat := (Js.bodyBytes text).length

/-- A string takes the bytes of its text. -/
theorem utf8ByteSize_stringOf (text : Str) : (stringOf text).utf8ByteSize = bytesOf text := by
  rw [Json.utf8ByteSize_eq, stringOf, String.toList_ofList, bytesOf, Js.bodyBytes, Json.length_utf8]

/-- A string without lone surrogates is its text. -/
theorem units_stringOf {text : Str} (whole : Utf16.WellFormed text) :
    Js.units (stringOf text) = text := by
  rw [Js.units, stringOf, String.toList_ofList]
  exact whole

/-- A text is its own text. -/
theorem stringOf_units (text : String) : stringOf (Js.units text) = text := by
  rw [stringOf, Js.units, Utf16.decode_encode, String.ofList_toList]

/-! ## Reading a body -/

/-- The document of a connection. -/
def Connection.json (c : Connection) : Json :=
  .obj [("line", .str (stringOf c.line)), ("category", .str (stringOf c.category)),
    ("destination", .str (stringOf c.destination))]

/-- The document of a body. -/
def SaveBody.json (body : SaveBody) : Json :=
  .obj [("stopId", .str (stringOf body.stopId)), ("stopName", .str (stringOf body.stopName)),
    ("allConnections", .bool body.allConnections),
    ("connections", .arr (body.connections.map Connection.json))]

/-- A connection as the board saves it: field by field the same texts. -/
structure SavedAs (c : Connection) (conn : Conn) : Prop where
  /-- The line. -/
  line : conn.line.val = stringOf c.line
  /-- The category. -/
  category : conn.category.val = stringOf c.category
  /-- The destination. -/
  destination : conn.destination.val = stringOf c.destination

/-- A body as the board saves it. -/
structure SelectedAs (body : SaveBody) (sel : Selection) : Prop where
  /-- The id of the stop. -/
  stopId : sel.stopId.val = stringOf body.stopId
  /-- The name of the stop. -/
  stopName : sel.stopName.val = stringOf body.stopName
  /-- The tracking mode. -/
  allConnections : sel.allConnections = body.allConnections
  /-- The connections. -/
  connections : List.Forall₂ SavedAs body.connections sel.connections.val

/-- The board reads a connection field by field. -/
theorem ofJson_connection {c : Connection} {conn : Conn} :
    ofJson c.json = some conn ↔ SavedAs c conn := by
  have line : ∀ a b d : Json, member "line" [("line", a), ("category", b), ("destination", d)] =
      some (some a) := fun _ _ _ => rfl
  have category : ∀ a b d : Json,
      member "category" [("line", a), ("category", b), ("destination", d)] = some (some b) :=
    fun _ _ _ => rfl
  have destination : ∀ a b d : Json,
      member "destination" [("line", a), ("category", b), ("destination", d)] = some (some d) :=
    fun _ _ _ => rfl
  simp only [Connection.json, ofJson, ofObject, Conn.ofMembers, required, line, category,
    destination, readHString, Option.bind_eq_bind, Option.bind_some, Option.bind_eq_some_iff,
    HString.ofString?_eq_some, Option.some.injEq]
  constructor
  · rintro ⟨read, first, read', second, read'', third, rfl⟩
    exact ⟨first, second, third⟩
  · rintro ⟨first, second, third⟩
    exact ⟨conn.line, first, conn.category, second, conn.destination, third, rfl⟩

/-- The board reads a body field by field. -/
theorem ofJson_body {body : SaveBody} {sel : Selection} :
    ofJson body.json = some sel ↔ SelectedAs body sel := by
  have stopId : ∀ a b c d : Json, member "stopId" [("stopId", a), ("stopName", b),
      ("allConnections", c), ("connections", d)] = some (some a) := fun _ _ _ _ => rfl
  have stopName : ∀ a b c d : Json, member "stopName" [("stopId", a), ("stopName", b),
      ("allConnections", c), ("connections", d)] = some (some b) := fun _ _ _ _ => rfl
  have all : ∀ a b c d : Json, member "allConnections" [("stopId", a), ("stopName", b),
      ("allConnections", c), ("connections", d)] = some (some c) := fun _ _ _ _ => rfl
  have connections : ∀ a b c d : Json, member "connections" [("stopId", a), ("stopName", b),
      ("allConnections", c), ("connections", d)] = some (some d) := fun _ _ _ _ => rfl
  have list : ∀ conns : HVec Conn Zugli.maxConns,
      ofJson (.arr (body.connections.map Connection.json)) = some conns ↔
        List.Forall₂ SavedAs body.connections conns.val := by
    intro conns
    show readHVec _ = _ ↔ _
    rw [readHVec_arr_iff, List.forall₂_map_left_iff]
    simp only [ofJson_connection]
  have text : ∀ {capacity : Nat} (value : String) (read : HString capacity),
      ofJson (.str value) = some read ↔ read.val = value :=
    fun _ _ => HString.ofString?_eq_some
  have flag : ∀ value read : Bool, ofJson (.bool value) = some read ↔ value = read := by
    intro value read
    show some value = some read ↔ value = read
    rw [Option.some.injEq]
  have whole : ofJson body.json = Selection.ofMembers _ := rfl
  rw [whole]
  simp only [Selection.ofMembers, required, withDefault, stopId, stopName, all, connections,
    Option.bind_eq_bind, Option.bind_some, Option.bind_eq_some_iff, text, flag, list,
    Option.some.injEq]
  constructor
  · rintro ⟨read, first, read', second, read'', third, read3, fourth, rfl⟩
    exact ⟨first, second, third.symm, fourth⟩
  · rintro ⟨first, second, third, fourth⟩
    exact ⟨sel.stopId, first, sel.stopName, second, sel.allConnections, third.symm,
      sel.connections, fourth, rfl⟩

/-! ## The posted text -/

/-- The strings of a connection. -/
def Connection.strings (c : Connection) : List Str := [c.line, c.category, c.destination]

/-- The strings of a body. -/
def SaveBody.strings (body : SaveBody) : List Str :=
  body.stopId :: body.stopName :: body.connections.flatMap Connection.strings

/-- A string that is posted without an escape, or that a scratch buffer holds. -/
def Unescaped (scratch : Nat) (text : Str) : Prop :=
  Json.Style.lower.Bare (stringOf text) ∨ bytesOf text ≤ scratch

instance (scratch : Nat) (text : Str) : Decidable (Unescaped scratch text) :=
  inferInstanceAs (Decidable (_ ∨ _))

/-- A body whose strings are whole and can be unescaped. -/
structure SaveBody.Readable (scratch : Nat) (body : SaveBody) : Prop where
  /-- No string has a lone surrogate. -/
  whole : ∀ text ∈ body.strings, Utf16.WellFormed text
  /-- The scratch buffer holds the strings with an escape. -/
  unescaped : ∀ text ∈ body.strings, Unescaped scratch text

/-- The id of the stop is a string of a body. -/
theorem SaveBody.stopId_mem (body : SaveBody) : body.stopId ∈ body.strings := by
  simp [strings]

/-- The name of the stop is a string of a body. -/
theorem SaveBody.stopName_mem (body : SaveBody) : body.stopName ∈ body.strings := by
  simp [strings]

/-- The strings of a connection are strings of its body. -/
theorem SaveBody.strings_mem {body : SaveBody} {c : Connection} (inside : c ∈ body.connections)
    {text : Str} (member : text ∈ c.strings) : text ∈ body.strings := by
  have listed : text ∈ body.connections.flatMap Connection.strings :=
    List.mem_flatMap.mpr ⟨c, inside, member⟩
  exact List.mem_cons_of_mem _ (List.mem_cons_of_mem _ listed)

section Text

variable {scratch : Nat} {body : SaveBody}

/-- A connection is posted as its document. -/
theorem data_connection {c : Connection} (whole : ∀ text ∈ c.strings, Utf16.WellFormed text) :
    c.data = .ofJson c.json := by
  have same : ∀ text ∈ c.strings, Js.units (stringOf text) = text := fun text member =>
    units_stringOf (whole text member)
  simp only [Connection.json, Js.Data.ofJson, Js.ofMembers_eq_map, List.map_cons, List.map_nil,
    same c.line (by simp [Connection.strings]), same c.category (by simp [Connection.strings]),
    same c.destination (by simp [Connection.strings])]
  rfl

/-- A body is posted as the text of its document. -/
theorem text_eq (whole : ∀ text ∈ body.strings, Utf16.WellFormed text) :
    body.text = Js.stringify (.ofJson body.json) := by
  have connections : body.connections.map Connection.data =
      (body.connections.map Connection.json).map Js.Data.ofJson := by
    rw [List.map_map]
    exact List.map_congr_left fun c inside => data_connection fun text member =>
      whole text (SaveBody.strings_mem inside member)
  have same : body.data = .ofJson body.json := by
    simp only [SaveBody.json, Js.Data.ofJson, Js.ofMembers_eq_map, Js.ofItems_eq_map,
      List.map_cons, List.map_nil, units_stringOf (whole _ body.stopId_mem),
      units_stringOf (whole _ body.stopName_mem), ← connections]
    rfl
  rw [SaveBody.text, same]

/-- The scratch buffer holds the strings of the document that have an escape. -/
theorem json_unescapes (unescaped : ∀ text ∈ body.strings, Unescaped scratch text) :
    body.json.StringsAll (Json.Style.lower.Unescapes fun size => size ≤ scratch) := by
  have held : ∀ text ∈ body.strings,
      Json.Style.lower.Unescapes (fun size => size ≤ scratch) (stringOf text) := by
    intro text member
    apply (unescaped text member).imp_right
    intro short
    exact decide_eq_true ((utf8ByteSize_stringOf text).trans_le short)
  have names : ∀ name ∈ ["stopId", "stopName", "allConnections", "connections", "line", "category",
      "destination"], Json.Style.lower.Unescapes (fun size => size ≤ scratch) name := by
    have bare : ∀ name ∈ ["stopId", "stopName", "allConnections", "connections", "line", "category",
        "destination"], Json.Style.lower.Bare name := by decide +kernel
    exact fun name listed => .inl (bare name listed)
  have items : ∀ item ∈ body.connections.map Connection.json,
      item.StringsAll (Json.Style.lower.Unescapes fun size => size ≤ scratch) := by
    intro item member
    obtain ⟨c, inside, rfl⟩ := List.mem_map.mp member
    have text : ∀ text ∈ c.strings,
        Json.Style.lower.Unescapes (fun size => size ≤ scratch) (stringOf text) :=
      fun text member => held text (SaveBody.strings_mem inside member)
    exact ⟨⟨names _ (by simp), text c.line (by simp [Connection.strings])⟩,
      ⟨names _ (by simp), text c.category (by simp [Connection.strings])⟩,
      ⟨names _ (by simp), text c.destination (by simp [Connection.strings])⟩, trivial⟩
  exact ⟨⟨names _ (by simp), held _ body.stopId_mem⟩,
    ⟨names _ (by simp), held _ body.stopName_mem⟩, ⟨names _ (by simp), trivial⟩,
    ⟨names _ (by simp), (Json.itemsAll_iff _ _).mpr items⟩, trivial⟩

/-- The board reads a posted body field by field. -/
theorem fromSlice_body (serde : SerdeJsonCore) (readable : body.Readable scratch)
    (sel : Selection) :
    serde.fromSlice Selection scratch (Js.bodyBytes body.text) = some sel ↔ SelectedAs body sel := by
  rw [text_eq readable.whole, Js.bodyBytes_stringify,
    serde.fromSlice_spelled (json_unescapes readable.unescaped), ofJson_body]

end Text

/-! ## What fits -/

/-- A connection that the board can hold. -/
def Connection.Fits (c : Connection) : Prop :=
  bytesOf c.line ≤ 16 ∧ bytesOf c.category ≤ 12 ∧ bytesOf c.destination ≤ 48

/-- A body that the board can hold. -/
def SaveBody.Fits (body : SaveBody) : Prop :=
  bytesOf body.stopId ≤ 24 ∧ bytesOf body.stopName ≤ 64 ∧ ∀ c ∈ body.connections, c.Fits

instance Connection.decidableFits (c : Connection) : Decidable c.Fits :=
  inferInstanceAs (Decidable (_ ∧ _))

instance SaveBody.decidableFits (body : SaveBody) : Decidable body.Fits :=
  inferInstanceAs (Decidable (_ ∧ _))

/-- Each item of the first of two related lists has a related one in the second. -/
theorem exists_of_forall₂ {α β : Type} {Related : α → β → Prop} {left : List α} {right : List β}
    (related : List.Forall₂ Related left right) {item : α} (member : item ∈ left) :
    ∃ other ∈ right, Related item other := by
  induction related with
  | nil => cases member
  | cons first _ previous =>
    obtain rfl | later := List.mem_cons.mp member
    · exact ⟨_, List.mem_cons_self, first⟩
    · obtain ⟨other, inside, found⟩ := previous later
      exact ⟨other, List.mem_cons_of_mem _ inside, found⟩

/-- A string that fits a capacity is held. -/
theorem exists_hstring {capacity : Nat} {text : Str} (fits : bytesOf text ≤ capacity) :
    ∃ value : HString capacity, value.val = stringOf text :=
  ⟨⟨stringOf text, (utf8ByteSize_stringOf text).trans_le fits⟩, rfl⟩

/-- A held string fits its capacity. -/
theorem bytesOf_le {capacity : Nat} {text : Str} {value : HString capacity}
    (held : value.val = stringOf text) : bytesOf text ≤ capacity := by
  rw [← utf8ByteSize_stringOf, ← held]
  exact value.fits

/-- The board saves exactly the connections that fit. -/
theorem exists_savedAs_iff {c : Connection} : (∃ conn, SavedAs c conn) ↔ c.Fits := by
  constructor
  · rintro ⟨conn, saved⟩
    exact ⟨bytesOf_le saved.line, bytesOf_le saved.category, bytesOf_le saved.destination⟩
  · rintro ⟨first, second, third⟩
    obtain ⟨line, sameLine⟩ := exists_hstring first
    obtain ⟨category, sameCategory⟩ := exists_hstring second
    obtain ⟨destination, sameDestination⟩ := exists_hstring third
    exact ⟨⟨line, category, destination⟩, ⟨sameLine, sameCategory, sameDestination⟩⟩

/-- The board saves exactly the bodies that fit, if they have few connections. -/
theorem exists_selectedAs_iff {body : SaveBody}
    (few : body.connections.length ≤ Zugli.maxConns) :
    (∃ sel, SelectedAs body sel) ↔ body.Fits := by
  constructor
  · rintro ⟨sel, selected⟩
    refine ⟨bytesOf_le selected.stopId, bytesOf_le selected.stopName, ?_⟩
    intro c member
    obtain ⟨conn, _, saved⟩ := exists_of_forall₂ selected.connections member
    exact exists_savedAs_iff.mp ⟨conn, saved⟩
  · rintro ⟨first, second, fits⟩
    obtain ⟨stopId, sameId⟩ := exists_hstring first
    obtain ⟨stopName, sameName⟩ := exists_hstring second
    have saves : ∀ conns : List Connection, (∀ c ∈ conns, c.Fits) →
        ∃ saved, List.Forall₂ SavedAs conns saved := by
      intro conns fits
      induction conns with
      | nil => exact ⟨[], .nil⟩
      | cons c conns previous =>
        rw [List.forall_mem_cons] at fits
        obtain ⟨conn, saved⟩ := exists_savedAs_iff.mpr fits.1
        obtain ⟨rest, others⟩ := previous fits.2
        exact ⟨conn :: rest, .cons saved others⟩
    obtain ⟨saved, related⟩ := saves body.connections fits
    have room : saved.length ≤ Zugli.maxConns := related.length_eq ▸ few
    exact ⟨⟨stopId, stopName, body.allConnections, ⟨saved, room⟩⟩,
      ⟨sameId, sameName, rfl, related⟩⟩

/-- The board accepts exactly the bodies that fit, if they are readable and have few connections. -/
theorem exists_fromSlice_iff (serde : SerdeJsonCore) {scratch : Nat} {body : SaveBody}
    (readable : body.Readable scratch)
    (few : body.connections.length ≤ Zugli.maxConns) :
    (∃ sel, serde.fromSlice Selection scratch (Js.bodyBytes body.text) = some sel) ↔
      body.Fits := by
  rw [← exists_selectedAs_iff few]
  exact exists_congr (fromSlice_body serde readable)

/-! ## Entries -/

/-- The page reads an optional string as the board does. -/
theorem stringProperty_of_read {capacity : Nat} {members : List (String × Json)} {name : String}
    {value : Option (HString capacity)} (read : withDefault none name members = some value) :
    stringProperty members name = value.map fun text => Js.units text.val := by
  have first : (members.filter fun member => member.1 == name).head? =
      members.find? fun member => member.1 == name := List.head?_filter
  rw [stringProperty, ← first]
  rw [withDefault, member] at read
  generalize (members.filter fun member => member.1 == name) = found at read ⊢
  cases found with
  | nil =>
    obtain rfl : none = value := Option.some.inj read
    rfl
  | cons only others =>
    cases others with
    | cons => cases read
    | nil =>
      obtain ⟨key, leaf⟩ := only
      cases leaf with
      | null =>
        obtain rfl : none = value := Option.some.inj read
        rfl
      | str text =>
        have held : (HString.ofString? text).map some = some value := read
        obtain ⟨held, built, rfl⟩ := Option.map_eq_some_iff.mp held
        rw [← HString.ofString?_eq_some.mp built]
        rfl
      | bool | num | arr | obj => cases read

/-- The page reads an entry as the board does. -/
theorem ofMembers_of_read {members : List (String × Json)} {entry : Entry}
    (read : ofJson (.obj members) = some entry) : BoardEntry.ofMembers members =
      ⟨entry.number.map fun text => Js.units text.val, entry.name.map fun text => Js.units text.val,
        entry.toward.map fun text => Js.units text.val,
        entry.category.map fun text => Js.units text.val⟩ := by
  have fields : Entry.ofMembers members = some entry := read
  simp only [Entry.ofMembers, Option.bind_eq_bind, Option.bind_eq_some_iff, Option.some.injEq]
    at fields
  obtain ⟨category, first, number, second, name, third, toward, fourth, stop, -, rfl⟩ := fields
  simp only [BoardEntry.ofMembers, stringProperty_of_read first, stringProperty_of_read second,
    stringProperty_of_read third, stringProperty_of_read fourth]

/-- The connection of an entry has the line and the destination that the poll compares. -/
theorem connection_of_read {members : List (String × Json)} {entry : Entry} {c : Connection}
    (read : ofJson (.obj members) = some entry)
    (built : (BoardEntry.ofMembers members).connection = some c) :
    c.line = Js.units entry.line ∧ c.destination = Js.units entry.destination ∧
      c.category = Js.units ((entry.category.map HString.val).getD "") := by
  rw [ofMembers_of_read read, BoardEntry.connection] at built
  simp only at built
  split at built
  · cases built
  · rename_i filled
    obtain ⟨line, _⟩ := not_or.mp filled
    obtain rfl := Option.some.inj built
    refine ⟨?_, ?_, ?_⟩
    · rw [Entry.line]
      cases number : entry.number with
      | none => cases entry.name <;> rfl
      | some text =>
        have nonempty : text.val ≠ "" := by
          intro empty
          exact line (by simp [number, empty, Js.units])
        have kept : (some text.val).filter (· ≠ "") = some text.val := by
          rw [Option.filter_some, if_pos (by simpa using nonempty)]
        show _ = Js.units ((((some text.val).filter (· ≠ "")).or _).getD "")
        rw [kept]
        rfl
    · rw [Entry.destination]
      cases entry.toward <;> rfl
    · cases entry.category <;> rfl

/-- The strings of the connection of an entry are whole. -/
theorem whole_of_read {members : List (String × Json)} {entry : Entry} {c : Connection}
    (read : ofJson (.obj members) = some entry)
    (built : (BoardEntry.ofMembers members).connection = some c) :
    ∀ text ∈ c.strings, Utf16.WellFormed text := by
  obtain ⟨line, destination, category⟩ := connection_of_read read built
  intro text member
  simp only [Connection.strings, List.mem_cons, List.not_mem_nil, or_false] at member
  obtain rfl | rfl | rfl := member
  · rw [line]
    exact Utf16.wellFormed_encode _
  · rw [category]
    exact Utf16.wellFormed_encode _
  · rw [destination]
    exact Utf16.wellFormed_encode _

/-- A listed connection was built of an entry. -/
theorem mem_collect {c : Connection} {seen : List Str} {board : List BoardEntry}
    (inside : c ∈ collect seen board) : ∃ e ∈ board, e.connection = some c := by
  induction board generalizing seen with
  | nil => cases inside
  | cons e board previous =>
    have later : ∀ {seen : List Str}, c ∈ collect seen board →
        ∃ other ∈ e :: board, other.connection = some c := by
      intro seen member
      obtain ⟨other, held, built⟩ := previous member
      exact ⟨other, List.mem_cons_of_mem _ held, built⟩
    rw [collect] at inside
    cases built : e.connection with
    | none =>
      simp only [built] at inside
      exact later inside
    | some first =>
      simp only [built] at inside
      split at inside
      · exact later inside
      · obtain rfl | rest := List.mem_cons.mp inside
        · exact ⟨e, List.mem_cons_self, built⟩
        · exact later rest

/-- An entry whose connection was saved is tracked. -/
theorem tracked_of_selectedAs {body : SaveBody} {sel : Selection} (selected : SelectedAs body sel)
    {members : List (String × Json)} {entry : Entry} {c : Connection}
    (read : ofJson (.obj members) = some entry)
    (built : (BoardEntry.ofMembers members).connection = some c)
    (picked : ∃ picked ∈ body.connections,
      picked.line = c.line ∧ picked.destination = c.destination) :
    tracked sel entry.line entry.destination = true := by
  obtain ⟨picked, member, sameLine, sameDestination⟩ := picked
  obtain ⟨line, destination, _⟩ := connection_of_read read built
  obtain ⟨conn, held, saved⟩ := exists_of_forall₂ selected.connections member
  have first : conn.line.val = entry.line := by
    rw [saved.line, sameLine, line, stringOf_units]
  have second : conn.destination.val = entry.destination := by
    rw [saved.destination, sameDestination, destination, stringOf_units]
  rw [tracked, Bool.or_eq_true, List.any_eq_true]
  exact .inr ⟨conn, held, by simp [first, second]⟩

/-! ## What the page saves -/

namespace Picker

/-- Few connections are picked, each of them listed on a stationboard that has arrived, as the
rows are. -/
structure Listed (page : Picker) : Prop where
  /-- The picked connections are few. -/
  few : page.selectedConns.length ≤ maxConns
  /-- They were listed. -/
  picks : ∀ c ∈ page.selectedConns, ∃ arrived ∈ page.received, c ∈ listed arrived.2
  /-- So were the rows. -/
  rows : ∀ c ∈ page.rows, ∃ arrived ∈ page.received, c ∈ listed arrived.2

variable {page : Picker}

/-- Showing the save button keeps the page listed. -/
theorem listed_updateSpecificSave (listed : page.Listed) : page.updateSpecificSave.Listed := by
  unfold updateSpecificSave
  split
  · exact listed
  · exact ⟨listed.few, listed.picks, listed.rows⟩

/-- A page that picks nothing has picked few listed connections. -/
theorem listed_of_nil (none : page.selectedConns = [])
    (rows : ∀ c ∈ page.rows, ∃ arrived ∈ page.received, c ∈ listed arrived.2) : page.Listed where
  few := by simp [none]
  picks := by simp [none]
  rows := rows

/-- A page that fetches a stationboard has no rows. -/
theorem listed_loadConnections (listed : page.Listed) (stopId : Str) (preselect : List Str) :
    (page.loadConnections stopId preselect).Listed :=
  ⟨listed.few, listed.picks, by simp [loadConnections]⟩

/-- A stationboard that arrives keeps the page listed. -/
theorem listed_boardArrived (held : page.Listed) (index : Nat)
    (board : Option (List BoardEntry)) : (page.boardArrived index board).Listed := by
  unfold boardArrived
  cases page.boards[index]? with
  | none => exact held
  | some request =>
    cases board with
    | none => exact ⟨held.few, held.picks, fun c member => nomatch member⟩
    | some entries =>
      have grown : ∀ {c : Connection}, (∃ arrived ∈ page.received, c ∈ listed arrived.2) →
          ∃ arrived ∈ page.received ++ [(request.stopId, entries)], c ∈ listed arrived.2 := by
        rintro c ⟨arrived, known, inside⟩
        exact ⟨arrived, List.mem_append_left _ known, inside⟩
      have fresh : ∀ c ∈ listed entries,
          ∃ arrived ∈ page.received ++ [(request.stopId, entries)], c ∈ listed arrived.2 :=
        fun c member => ⟨(request.stopId, entries), by simp, member⟩
      simp only [renderConnections]
      split
      · exact ⟨held.few, fun c member => grown (held.picks c member),
          fun c member => grown (held.rows c member)⟩
      · apply listed_updateSpecificSave
        constructor
        · exact List.length_take_le maxConns _
        · intro c member
          exact fresh c (List.mem_filter.mp (List.mem_of_mem_take member)).1
        · exact fresh

/-- Tapping a row keeps the page listed. -/
theorem listed_toggleConnection (held : page.Listed) {c : Connection} (row : c ∈ page.rows) :
    (page.toggleConnection c).Listed := by
  unfold toggleConnection
  split
  · apply listed_updateSpecificSave
    constructor
    · exact Nat.le_trans (List.length_eraseIdx_le _ _) held.few
    · exact fun other member => held.picks other (List.mem_of_mem_eraseIdx member)
    · exact held.rows
  · split
    · exact held
    · rename_i room
      apply listed_updateSpecificSave
      constructor
      · show (page.selectedConns ++ [c]).length ≤ maxConns
        rw [List.length_append, List.length_singleton]
        omega
      · intro other member
        obtain known | rfl : other ∈ page.selectedConns ∨ other = c := by simpa using member
        · exact held.picks other known
        · exact held.rows other row
      · exact held.rows

/-- A page stays listed while its picks and its rows are left alone. -/
theorem Listed.of_same (held : page.Listed) {next : Picker}
    (picks : next.selectedConns = page.selectedConns) (received : next.received = page.received)
    (rows : next.rows = page.rows) : next.Listed where
  few := picks ▸ held.few
  picks := by
    rw [picks, received]
    exact held.picks
  rows := by
    rw [rows, received]
    exact held.rows

/-- Choosing a stop keeps the page listed. -/
theorem listed_chooseStop (held : page.Listed) (s : Stop) : (page.chooseStop s).Listed := by
  simp only [chooseStop]
  split
  · exact held.of_same rfl rfl rfl
  · apply listed_loadConnections
    exact held.of_same rfl rfl rfl

/-- Restoring the saved selection keeps the page listed. -/
theorem listed_restored (held : page.Listed) (s : SaveBody) : (page.restored s).Listed := by
  unfold restored
  split
  · exact held
  · split
    · exact held.of_same rfl rfl rfl
    · split
      · exact held.of_same rfl rfl rfl
      · apply listed_loadConnections
        exact held.of_same rfl rfl rfl

/-- Switching the tracking mode keeps the page listed. -/
theorem listed_setMode (held : page.Listed) (all : Bool) : (page.setMode all).Listed := by
  simp only [setMode]
  split
  · exact held
  · cases all with
    | true => exact listed_of_nil rfl held.rows
    | false =>
      simp only [Bool.false_eq_true, ↓reduceIte]
      split
      · apply listed_loadConnections
        exact held.of_same rfl rfl rfl
      · exact held.of_same rfl rfl rfl

/-- Every event keeps the page listed. -/
theorem step_listed (page : Picker) (event : Event) (held : page.Listed) :
    (step page event).1.Listed := by
  cases event with
  | typed long => exact listed_of_nil rfl held.rows
  | searched =>
    simp only [step, searched]
    split
    · exact held.of_same rfl rfl rfl
    · exact held
  | found stations =>
    simp only [step, found]
    split
    · exact held
    · exact held.of_same rfl rfl rfl
  | chosen index =>
    cases row : page.results[index]? with
    | none => simpa [step, row] using held
    | some s =>
      have kept := listed_chooseStop held s
      simpa [step, row] using kept
  | modeClicked all => exact listed_setMode held all
  | boardArrived index board => exact listed_boardArrived held index board
  | selectionArrived saved =>
    simp only [step, selectionArrived]
    split
    · have still : { page with restoring := false }.Listed := held.of_same rfl rfl rfl
      cases saved with
      | none => exact still
      | some s => exact listed_restored still s
    · exact held
  | toggled index =>
    simp only [step]
    split
    · cases row : page.rows[index]? with
      | none => exact held
      | some c => exact listed_toggleConnection held (List.mem_of_getElem? row)
    · exact held
  | saveClicked => exact held

/-- The page is listed after any events. -/
theorem run_listed (events : List Event) : (Machine.run step start events).1.Listed :=
  Machine.run_invariant (fun event _ page held => step_listed page event held)
    (listed_of_nil rfl fun _ member => nomatch member)

/-- What is saved is what is picked, or nothing. -/
theorem connections_of_save {body : SaveBody} (saved : body ∈ (step page .saveClicked).2) :
    body.connections = page.selectedConns ∨ body.connections = [] := by
  simp only [step] at saved
  split at saved
  · unfold save at saved
    split at saved
    · cases saved
    · split at saved
      · cases saved
      · obtain rfl := Option.some.inj saved
        cases page.allConnections with
        | true => exact .inr rfl
        | false => exact .inl rfl
  · cases saved

/-- The entries of the stationboards that have arrived are those that the board's own decoder
accepts. -/
def Decoded (page : Picker) : Prop :=
  ∀ arrived ∈ page.received, ∀ e ∈ arrived.2, ∃ (members : List (String × Json)) (entry : Entry),
    ofJson (.obj members) = some entry ∧ e = BoardEntry.ofMembers members

/-- What a page saves of decoded entries is whole, if the stop is. -/
theorem whole_of_save {body : SaveBody} (held : page.Listed) (decoded : page.Decoded)
    (saved : body ∈ (step page .saveClicked).2)
    (stop : Utf16.WellFormed body.stopId ∧ Utf16.WellFormed body.stopName) :
    ∀ text ∈ body.strings, Utf16.WellFormed text := by
  intro text member
  simp only [SaveBody.strings, List.mem_cons, List.mem_flatMap] at member
  obtain rfl | rfl | ⟨c, saving, inside⟩ := member
  · exact stop.1
  · exact stop.2
  · have picked : c ∈ page.selectedConns := by
      obtain same | none := connections_of_save saved
      · exact same ▸ saving
      · rw [none] at saving
        cases saving
    obtain ⟨arrived, known, listing⟩ := held.picks c picked
    obtain ⟨e, entry, built⟩ := mem_collect listing
    obtain ⟨members, value, read, rfl⟩ := decoded arrived known e entry
    exact whole_of_read read built text inside

/-- A page saves few connections. -/
theorem length_of_save {body : SaveBody} (held : page.Listed)
    (saved : body ∈ (step page .saveClicked).2) :
    body.connections.length ≤ Zugli.maxConns := by
  obtain same | none := connections_of_save saved
  · rw [same]
    exact held.few
  · simp [none]

/-- An entry of a tram. -/
def tramMembers : List (String × Json) :=
  [("category", .str "T"), ("number", .str "9"), ("name", .null), ("to", .str "Wabern"),
    ("stop", .obj [])]

/-- An entry of a funicular, as it is called in German. -/
def funicularMembers : List (String × Json) :=
  [("category", .str "Standseilbahn"), ("name", .str "1"), ("to", .str "Gurten"),
    ("stop", .obj [("departureTimestamp", .num 1700000000)])]

/-- The events that pick the only connection of a stationboard. -/
def picking (members : List (String × Json)) : List Event :=
  [.typed true, .searched, .found (some [bern]), .chosen 0,
    .boardArrived 0 (some [BoardEntry.ofMembers members]), .toggled 0]

/-- A page on which one decoded entry has arrived. -/
theorem decoded_of_received {stopId : Str} {members : List (String × Json)} {entry : Entry}
    (known : page.received = [(stopId, [BoardEntry.ofMembers members])])
    (read : ofJson (.obj members) = some entry) : page.Decoded := by
  intro arrived member e inside
  rw [known, List.mem_singleton] at member
  rw [member, List.mem_singleton] at inside
  exact ⟨members, entry, read, inside⟩

end Picker

end Zugli.Web
