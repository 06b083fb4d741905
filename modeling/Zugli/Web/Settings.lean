import Zugli.Firmware.Httpd
import Zugli.Lib.Stringify

/-!
# The settings of the page

The page mirrors the board's settings in one object. It is loaded from the board, first of all when
the page is; each change of a control posts the whole of it, and takes the change back when the
request fails. Requests and their answers stay under way for as long as they like; the board handles
what reaches it in the order in which it was sent.
-/

namespace Zugli.Web

open Js (Str Data)
open Json (utf8Decode?)
open Serde

/-- The `cfg` object; a number in the width of the board's field. -/
structure Cfg where
  /-- `stripCity`. -/
  stripCity : Bool
  /-- `showLineBadges`. -/
  showLineBadges : Bool
  /-- `uiMode`. -/
  uiMode : UInt8
  /-- `brightness`. -/
  brightness : UInt8
  /-- `autoBrightness`. -/
  autoBrightness : Bool
  /-- `offWhenDimmed`. -/
  offWhenDimmed : Bool
  /-- `reducedStart`. -/
  reducedStart : UInt16
  /-- `reducedEnd`. -/
  reducedEnd : UInt16
deriving DecidableEq

/-- The names of the settings. -/
inductive Setting where
  /-- `stripCity`. -/
  | stripCity
  /-- `showLineBadges`. -/
  | showLineBadges
  /-- `uiMode`. -/
  | uiMode
  /-- `brightness`. -/
  | brightness
  /-- `autoBrightness`. -/
  | autoBrightness
  /-- `offWhenDimmed`. -/
  | offWhenDimmed
  /-- `reducedStart`. -/
  | reducedStart
  /-- `reducedEnd`. -/
  | reducedEnd
deriving DecidableEq

namespace Cfg

/-- The object before anything is loaded. -/
def initial : Cfg where
  stripCity := false
  showLineBadges := true
  uiMode := 0
  brightness := 6
  autoBrightness := true
  offWhenDimmed := false
  reducedStart := 1200
  reducedEnd := 480

variable (cfg : Cfg)

/-- The value of a setting. -/
def value : Setting → Bool ⊕ Nat
  | .stripCity => .inl cfg.stripCity
  | .showLineBadges => .inl cfg.showLineBadges
  | .uiMode => .inr cfg.uiMode.toNat
  | .brightness => .inr cfg.brightness.toNat
  | .autoBrightness => .inl cfg.autoBrightness
  | .offWhenDimmed => .inl cfg.offWhenDimmed
  | .reducedStart => .inr cfg.reducedStart.toNat
  | .reducedEnd => .inr cfg.reducedEnd.toNat

/-- The object as data, in insertion order. -/
def data : Data :=
  .object
    [("stripCity", .bool cfg.stripCity), ("showLineBadges", .bool cfg.showLineBadges),
      ("uiMode", .number cfg.uiMode.toNat), ("brightness", .number cfg.brightness.toNat),
      ("autoBrightness", .bool cfg.autoBrightness), ("offWhenDimmed", .bool cfg.offWhenDimmed),
      ("reducedStart", .number cfg.reducedStart.toNat),
      ("reducedEnd", .number cfg.reducedEnd.toNat)]

/-- `{ ...cfg, ...c }`, of the members of `c`. -/
def merge (members : List (String × Json)) : Option Cfg := do
  let stripCity ← withDefault cfg.stripCity "stripCity" members
  let showLineBadges ← withDefault cfg.showLineBadges "showLineBadges" members
  let uiMode ← withDefault cfg.uiMode "uiMode" members
  let brightness ← withDefault cfg.brightness "brightness" members
  let autoBrightness ← withDefault cfg.autoBrightness "autoBrightness" members
  let offWhenDimmed ← withDefault cfg.offWhenDimmed "offWhenDimmed" members
  let reducedStart ← withDefault cfg.reducedStart "reducedStart" members
  let reducedEnd ← withDefault cfg.reducedEnd "reducedEnd" members
  some
    { stripCity, showLineBadges, uiMode, brightness, autoBrightness, offWhenDimmed, reducedStart,
      reducedEnd }

/-- `r.json()` of an answer to `GET /config`, merged. -/
def load (body : List UInt8) : Option Cfg := do
  match ← Json.read (← utf8Decode? body) with
  | .obj members => cfg.merge members
  | _ => none

end Cfg

/-- `toMin`, of the hour and the minute of a time input. -/
def toMin (hour : Fin 24) (minute : Fin 60) : UInt16 := .ofNat (hour * 60 + minute)

/-- What a control passes to `applyChange`. -/
inductive Change where
  /-- The toggle that hides city names. -/
  | stripCity (checked : Bool)
  /-- The toggle of the line badges. -/
  | showLineBadges (checked : Bool)
  /-- The toggle of the automatic dimming. -/
  | autoBrightness (checked : Bool)
  /-- The toggle that turns the panel off completely. -/
  | offWhenDimmed (checked : Bool)
  /-- The brightness slider, from one to ten. -/
  | brightness (level : UInt8) (bounds : 1 ≤ level ∧ level ≤ 10)
  /-- The start of the reduced window. -/
  | reducedStart (hour : Fin 24) (minute : Fin 60)
  /-- The end of the reduced window. -/
  | reducedEnd (hour : Fin 24) (minute : Fin 60)
  /-- The selector of the view. -/
  | uiMode (mode : Fin 3)

namespace Change

/-- The setting a control stands for. -/
def setting : Change → Setting
  | stripCity _ => .stripCity
  | showLineBadges _ => .showLineBadges
  | autoBrightness _ => .autoBrightness
  | offWhenDimmed _ => .offWhenDimmed
  | brightness _ _ => .brightness
  | reducedStart _ _ => .reducedStart
  | reducedEnd _ _ => .reducedEnd
  | uiMode _ => .uiMode

/-- `mutate`. -/
def mutate (cfg : Cfg) : Change → Cfg
  | stripCity checked => { cfg with stripCity := checked }
  | showLineBadges checked => { cfg with showLineBadges := checked }
  | autoBrightness checked => { cfg with autoBrightness := checked }
  | offWhenDimmed checked => { cfg with offWhenDimmed := checked }
  | brightness level _ => { cfg with brightness := level }
  | reducedStart hour minute => { cfg with reducedStart := toMin hour minute }
  | reducedEnd hour minute => { cfg with reducedEnd := toMin hour minute }
  | uiMode mode => { cfg with uiMode := .ofNat mode }

end Change

/-- How far a request to change the settings has come. -/
inductive Outcome where
  /-- It has not reached the board. -/
  | underWay
  /-- The board has accepted it. -/
  | accepted
  /-- It has failed. -/
  | failed
deriving DecidableEq

/-- A `POST /config` without an answer. -/
structure ConfigPost where
  /-- The change that triggered it. -/
  change : Change
  /-- `prev`. -/
  previous : Cfg
  /-- How far it has come. -/
  outcome : Outcome

namespace ConfigPost

/-- The object that is posted. -/
def sent (post : ConfigPost) : Cfg := post.change.mutate post.previous

/-- The body that is posted. -/
def body (post : ConfigPost) : Str := Js.stringify post.sent.data

end ConfigPost

/-- The oldest request that has not reached the board. -/
def oldest (posts : List ConfigPost) : Option ConfigPost :=
  posts.find? fun post => post.outcome = .underWay

/-- The outcome of the oldest request that has not reached the board. -/
def decideOldest (outcome : Outcome) : List ConfigPost → List ConfigPost
  | [] => []
  | post :: posts =>
    if post.outcome = .underWay then { post with outcome } :: posts
    else post :: decideOldest outcome posts

/-- The page as far as the settings go, and the board. -/
structure SettingsPage where
  /-- `cfg`. -/
  cfg : Cfg
  /-- `configLoaded`. -/
  configLoaded : Bool
  /-- Requests to read the settings, each with the answer on its way to the page, if there is one. -/
  gets : List (Option (List UInt8))
  /-- Requests to change the settings, in the order in which they were sent. -/
  posts : List ConfigPost
  /-- The board. -/
  device : Device

namespace SettingsPage

/-- What happens to the settings. -/
inductive Event where
  /-- A control is changed. -/
  | changed (change : Change)
  /-- A segment of the view selector is tapped, with or without a saved layout. -/
  | modeClicked (mode : Fin 3) (layoutSaved : Bool)
  /-- `openSettings`. -/
  | openSettings
  /-- The board answers a request to read the settings. -/
  | answered (index : Nat)
  /-- The answer reaches the page. -/
  | loaded (index : Nat)
  /-- A request to read the settings fails. -/
  | loadFailed (index : Nat)
  /-- The board handles the oldest request to change the settings; which flash calls fail. -/
  | handled (faults : Faults)
  /-- A request to change the settings does not reach the board, or is rejected. -/
  | refused (index : Nat)
  /-- The outcome of a request to change the settings reaches the page. -/
  | settled (index : Nat)
  /-- The connection of an accepted request breaks before the answer reaches the page. -/
  | lost (index : Nat)

/-- A change that the board accepted, with the settings it took over. -/
structure Accepted where
  /-- The change that triggered the request. -/
  change : Change
  /-- The parsed body. -/
  config : Config

/-- The page as it is loaded, which asks for the settings at once. -/
def start (device : Device) : SettingsPage := ⟨.initial, false, [none], [], device⟩

variable (serde : SerdeJsonCore) (scratch : Nat) (page : SettingsPage)

/-- `applyChange`, up to its request. -/
def applyChange (change : Change) : SettingsPage :=
  { page with
    cfg := change.mutate page.cfg
    posts := page.posts ++ [⟨change, page.cfg, .underWay⟩] }

/-- The handler of a segment of the view selector. -/
def modeClicked (mode : Fin 3) (layoutSaved : Bool) : SettingsPage :=
  if mode = 2 ∧ !layoutSaved then page
  else if page.cfg.uiMode = .ofNat mode then page
  else page.applyChange (.uiMode mode)

/-- `openSettings`. -/
def openSettings : SettingsPage :=
  if page.configLoaded then page else { page with gets := page.gets ++ [none] }

/-- `GET /config` at the board. -/
def answered (index : Nat) : SettingsPage :=
  if page.gets[index]? = some none then
    { page with gets := page.gets.set index (some page.device.getConfig.2.body) }
  else page

/-- The answer to `GET /config` at the page. -/
def loaded (index : Nat) : SettingsPage :=
  match page.gets[index]? with
  | some (some body) =>
    let page := { page with gets := page.gets.eraseIdx index }
    match page.cfg.load body with
    | some cfg => { page with cfg, configLoaded := true }
    | none => page
  | _ => page

/-- `POST /config` at the board: parse the body, and handle it. -/
def handled (faults : Faults) : SettingsPage × Option Accepted :=
  match oldest page.posts with
  | none => (page, none)
  | some post =>
    match serde.fromSlice Config scratch (Js.bodyBytes post.body) with
    | none => ({ page with posts := decideOldest .failed page.posts }, none)
    | some config =>
      ({ page with
          posts := decideOldest .accepted page.posts
          device := (page.device.setConfig serde faults config).1 },
        some ⟨post.change, config⟩)

/-- A request that never reaches the board, or that it rejects. -/
def refused (index : Nat) : SettingsPage :=
  match page.posts[index]? with
  | some post =>
    if post.outcome = .underWay then
      { page with posts := page.posts.set index { post with outcome := .failed } }
    else page
  | none => page

/-- The `catch` of `applyChange`. -/
def restore (index : Nat) (post : ConfigPost) : SettingsPage :=
  { page with cfg := post.previous, posts := page.posts.eraseIdx index }

/-- The rest of `applyChange`, once the outcome is known. -/
def settled (index : Nat) : SettingsPage :=
  match page.posts[index]? with
  | some post =>
    match post.outcome with
    | .underWay => page
    | .accepted => { page with posts := page.posts.eraseIdx index }
    | .failed => page.restore index post
  | none => page

/-- The rest of `applyChange`, when the answer of an accepted request is lost. -/
def lost (index : Nat) : SettingsPage :=
  match page.posts[index]? with
  | some post => if post.outcome = .accepted then page.restore index post else page
  | none => page

/-- One event; an event that cannot happen changes nothing. -/
def step : Event → SettingsPage × Option Accepted
  | .changed change => (page.applyChange change, none)
  | .modeClicked mode layoutSaved => (page.modeClicked mode layoutSaved, none)
  | .openSettings => (page.openSettings, none)
  | .answered index => (page.answered index, none)
  | .loaded index => (page.loaded index, none)
  | .loadFailed index => ({ page with gets := page.gets.eraseIdx index }, none)
  | .handled faults => page.handled serde scratch faults
  | .refused index => (page.refused index, none)
  | .settled index => (page.settled index, none)
  | .lost index => (page.lost index, none)

end SettingsPage

end Zugli.Web
