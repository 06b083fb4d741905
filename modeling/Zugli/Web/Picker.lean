import Zugli.Lib.Stringify

/-!
# The picker of the page

Choosing a stop and, unless the whole stop is tracked, up to six of the connections that its
stationboard lists. Stationboards, searches and the saved selection are fetched; their answers come
in any order, while the user goes on typing, choosing and saving.
-/

namespace Zugli.Web

open Js (Str Data)

/-! ## Connections -/

/-- An entry of a stationboard as the page reads it; a property that is null is none, too. -/
structure BoardEntry where
  /-- `number`. -/
  number : Option Str
  /-- `name`. -/
  name : Option Str
  /-- `to`. -/
  toward : Option Str
  /-- `category`. -/
  category : Option Str
deriving DecidableEq

/-- A property of an entry that is a string; one that is null or absent is none. -/
def stringProperty (members : List (String × Json)) (name : String) : Option Str :=
  match members.find? fun member => member.1 == name with
  | some (_, .str value) => some (Js.units value)
  | _ => none

/-- An entry as the page reads it from its members. -/
def BoardEntry.ofMembers (members : List (String × Json)) : BoardEntry where
  number := stringProperty members "number"
  name := stringProperty members "name"
  toward := stringProperty members "to"
  category := stringProperty members "category"

/-- A connection. -/
structure Connection where
  /-- `line`. -/
  line : Str
  /-- `category`. -/
  category : Str
  /-- `destination`. -/
  destination : Str
deriving DecidableEq

/-- `connKey`. -/
def connKey (c : Connection) : Str := c.line ++ Js.units "→" ++ c.destination

/-- The connection of an entry, if it has a line and a destination. -/
def BoardEntry.connection (e : BoardEntry) : Option Connection :=
  let line := (e.number.or e.name).getD []
  let dest := e.toward.getD []
  if line = [] ∨ dest = [] then none else some ⟨line, e.category.getD [], dest⟩

/-- The loop of `loadConnections`: the connections of a board whose keys have not been seen. -/
def collect (seen : List Str) : List BoardEntry → List Connection
  | [] => []
  | e :: board =>
    match e.connection with
    | none => collect seen board
    | some c =>
      if connKey c ∈ seen then collect seen board else c :: collect (connKey c :: seen) board

/-- The connections the page lists for a board. -/
def listed (board : List BoardEntry) : List Connection := collect [] board

/-- `MAX_CONNS`. -/
def maxConns : Nat := 6

/-! ## The body of a save -/

/-- The body of `POST /save`. -/
structure SaveBody where
  /-- `stopId`. -/
  stopId : Str
  /-- `stopName`. -/
  stopName : Str
  /-- `allConnections`. -/
  allConnections : Bool
  /-- `connections`. -/
  connections : List Connection
deriving DecidableEq

/-- A connection as data, in insertion order. -/
def Connection.data (c : Connection) : Data :=
  .object [("line", .string c.line), ("category", .string c.category),
    ("destination", .string c.destination)]

/-- The body as data, in insertion order. -/
def SaveBody.data (body : SaveBody) : Data :=
  .object [("stopId", .string body.stopId), ("stopName", .string body.stopName),
    ("allConnections", .bool body.allConnections),
    ("connections", .array (body.connections.map Connection.data))]

/-- `JSON.stringify(body)`. -/
def SaveBody.text (body : SaveBody) : Str := Js.stringify body.data

/-! ## The page -/

/-- A stop. -/
structure Stop where
  /-- `id`. -/
  id : Str
  /-- `name`. -/
  name : Str
deriving DecidableEq

/-- A request for a stationboard without an answer. -/
structure BoardRequest where
  /-- The stop it was fetched for. -/
  stopId : Str
  /-- `preselect`. -/
  preselect : List Str
deriving DecidableEq

/-- The page as far as the picker goes. -/
structure Picker where
  /-- `selectedStop`. -/
  selectedStop : Option Stop
  /-- `selectedConns`. -/
  selectedConns : List Connection
  /-- `allConnections`. -/
  allConnections : Bool
  /-- Whether the section of the connections is shown. -/
  connsShown : Bool
  /-- Whether the section of the save button is shown. -/
  saveShown : Bool
  /-- The rows of the connection list. -/
  rows : List Connection
  /-- The rows of the search results, none while they are hidden. -/
  results : List Stop
  /-- Whether the timeout of the search waits. -/
  debounce : Bool
  /-- Searches without an answer. -/
  searches : Nat
  /-- Stationboards without an answer. -/
  boards : List BoardRequest
  /-- Whether the request for the saved selection is without an answer. -/
  restoring : Bool
  /-- The stationboards that have arrived, each with the stop it was fetched for. -/
  received : List (Str × List BoardEntry)
deriving DecidableEq

namespace Picker

/-- What happens to the picker. -/
inductive Event where
  /-- The text of the stop changes; whether it is long enough to search. -/
  | typed (long : Bool)
  /-- The timeout of the search fires. -/
  | searched
  /-- A search is answered, or fails. -/
  | found (stations : Option (List Stop))
  /-- A row of the results is tapped. -/
  | chosen (index : Nat)
  /-- A tracking mode is tapped. -/
  | modeClicked (all : Bool)
  /-- A stationboard arrives, or fails. -/
  | boardArrived (index : Nat) (board : Option (List BoardEntry))
  /-- The saved selection arrives, or fails. -/
  | selectionArrived (saved : Option SaveBody)
  /-- A row of the connection list is tapped. -/
  | toggled (index : Nat)
  /-- The save button is tapped. -/
  | saveClicked

/-- The page as it is loaded. -/
def start : Picker where
  selectedStop := none
  selectedConns := []
  allConnections := false
  connsShown := false
  saveShown := false
  rows := []
  results := []
  debounce := false
  searches := 0
  boards := []
  restoring := true
  received := []

variable (page : Picker)

/-- `showSave`. -/
def showSave : Picker := { page with saveShown := true }

/-- `updateSpecificSave`. -/
def updateSpecificSave : Picker :=
  if page.allConnections then page else { page with saveShown := page.selectedConns != [] }

/-- `resetConnections`. -/
def resetConnections : Picker :=
  { page with connsShown := false, saveShown := false, selectedConns := [] }

/-- `loadConnections`, up to its request. -/
def loadConnections (stopId : Str) (preselect : List Str) : Picker :=
  { page with connsShown := true, rows := [], boards := page.boards ++ [⟨stopId, preselect⟩] }

/-- `renderConnections`. -/
def renderConnections (conns : List Connection) (preselect : List Str) : Picker :=
  if page.allConnections then page
  else
    let picked := (conns.filter fun c => connKey c ∈ preselect).take maxConns
    { page with rows := conns, selectedConns := picked }.updateSpecificSave

/-- The rest of `loadConnections`, once the stationboard has arrived or failed. -/
def boardArrived (index : Nat) (board : Option (List BoardEntry)) : Picker :=
  match page.boards[index]? with
  | none => page
  | some request =>
    let page := { page with boards := page.boards.eraseIdx index }
    match board with
    | none => { page with rows := [] }
    | some entries =>
      { page with received := page.received ++ [(request.stopId, entries)] }.renderConnections
        (listed entries) request.preselect

/-- `setMode`. -/
def setMode (all : Bool) : Picker :=
  if all = page.allConnections then page
  else
    let page := { page with allConnections := all }
    if all then
      { page with
        connsShown := false, selectedConns := [], saveShown := page.selectedStop.isSome }
    else
      let page := { page with saveShown := false }
      match page.selectedStop with
      | some stop => page.loadConnections stop.id []
      | none => page

/-- The handler of the text of the stop. -/
def typed (long : Bool) : Picker :=
  let page := { page with selectedStop := none }.resetConnections
  { page with debounce := long, results := if long then page.results else [] }

/-- The timeout of the search. -/
def searched : Picker :=
  if page.debounce then { page with debounce := false, searches := page.searches + 1 } else page

/-- The rest of `searchStops`, and `renderResults`. -/
def found (stations : Option (List Stop)) : Picker :=
  if page.searches = 0 then page
  else
    let shown := (stations.getD []).filter fun s => s.id ≠ [] ∧ s.name ≠ []
    { page with searches := page.searches - 1, results := shown.take 8 }

/-- `chooseStop`. -/
def chooseStop (s : Stop) : Picker :=
  let page := { page with selectedStop := some s, results := [] }
  if page.allConnections then page.showSave else page.loadConnections s.id []

/-- The rest of `restoreSelection`. -/
def restored (s : SaveBody) : Picker :=
  if s.stopName = [] then page
  else
    let page :=
      { page with selectedStop := some ⟨s.stopId, s.stopName⟩, allConnections := s.allConnections }
    if s.allConnections then page.showSave
    else if s.stopId = [] then page
    else page.loadConnections s.stopId (s.connections.map connKey)

/-- The saved selection arrives, or fails. -/
def selectionArrived (saved : Option SaveBody) : Picker :=
  if page.restoring then
    let page := { page with restoring := false }
    match saved with
    | some s => page.restored s
    | none => page
  else page

/-- `toggleConnection`. -/
def toggleConnection (c : Connection) : Picker :=
  match page.selectedConns.findIdx? fun x => connKey x = connKey c with
  | some i => { page with selectedConns := page.selectedConns.eraseIdx i }.updateSpecificSave
  | none =>
    if maxConns ≤ page.selectedConns.length then page
    else { page with selectedConns := page.selectedConns ++ [c] }.updateSpecificSave

/-- The handler of the save button, up to its request. -/
def save : Option SaveBody :=
  match page.selectedStop with
  | none => none
  | some stop =>
    if !page.allConnections ∧ page.selectedConns = [] then none
    else
      some
        { stopId := stop.id
          stopName := stop.name
          allConnections := page.allConnections
          connections := if page.allConnections then [] else page.selectedConns }

/-- One event; an event that cannot happen changes nothing. -/
def step : Event → Picker × Option SaveBody
  | .typed long => (page.typed long, none)
  | .searched => (page.searched, none)
  | .found stations => (page.found stations, none)
  | .chosen index => ((page.results[index]?).elim page page.chooseStop, none)
  | .modeClicked all => (page.setMode all, none)
  | .boardArrived index board => (page.boardArrived index board, none)
  | .selectionArrived saved => (page.selectionArrived saved, none)
  | .toggled index =>
    (if page.connsShown then (page.rows[index]?).elim page page.toggleConnection else page, none)
  | .saveClicked => (page, if page.saveShown then page.save else none)

end Picker

end Zugli.Web
