import Zugli.Firmware.Model
import Zugli.Lib.SerdeJsonCore

/-!
# Derived serialization of the data types

For each struct its table of fields, its reader, and the value it reads back to when some of
its defaulted members are missing. The names, defaults and skip predicates are those of the
serde attributes. `Persisted` is the whole flash record.
-/

namespace Zugli

open Json (Path Step prune under)
open Serde

/-- `is_zero_u8`. -/
def isZeroU8 (v : UInt8) : Bool := v == 0

/-- `is_one_u8`. -/
def isOneU8 (v : UInt8) : Bool := v == 1

/-- `is_false`. -/
def isFalse (v : Bool) : Bool := !v

/-- A struct read from the members of an object. -/
def ofObject {α : Type} (read : List (String × Json) → Option α) : Json → Option α
  | .obj members => read members
  | _ => none

/-- A place without a default is never deleted. -/
theorem kept {drop defaulted : Path → Bool}
    (declared : ∀ path, drop path = true → defaulted path = true) {path : Path}
    (fixed : defaulted path = false) : drop path = false := by
  cases chosen : drop path with
  | false => rfl
  | true => simpa [fixed] using declared path chosen

/-- A member that has a default and no members of its own. -/
def leafPath (names : List String) : Path → Bool
  | [.key name] => names.contains name
  | _ => false

/-- Nothing below a leaf member can be deleted. -/
theorem leafPath_below {names : List String} {step : Step} {path : Path}
    (declared : leafPath names (step :: path) = true) : path = [] := by
  cases path with
  | nil => rfl
  | cons => simp [leafPath] at declared

/-! ## Connections, selections and credentials -/

namespace Conn

/-- The fields of a connection. -/
def table (conn : Conn) : Table :=
  [emit "line" conn.line, emit "category" conn.category, emit "destination" conn.destination]

/-- Read a connection. -/
def ofMembers (members : List (String × Json)) : Option Conn := do
  let line ← required "line" members
  let category ← required "category" members
  let destination ← required "destination" members
  some { line, category, destination }

end Conn

instance : Serialize Conn := ⟨fun conn => .obj conn.table.members⟩

instance : Deserialize Conn := ⟨ofObject Conn.ofMembers⟩

instance : Tolerant Conn where
  defaulted _ := false
  reset _ conn := conn
  ofJson_prune drop conn declared := by
    have distinct : (conn.table.map Prod.fst).Nodup := by simp [Conn.table, emit]
    have below := fun name path => declared (.key name :: path)
    simp only [toJson, prune, ofJson, ofObject, Conn.ofMembers,
      required_prune distinct "line" conn.line rfl (kept declared rfl) (below _),
      required_prune distinct "category" conn.category rfl (kept declared rfl) (below _),
      required_prune distinct "destination" conn.destination rfl (kept declared rfl) (below _),
      Option.bind_eq_bind, Option.bind_some, reset_string]

namespace WifiCreds

/-- The fields of the credentials. -/
def table (creds : WifiCreds) : Table :=
  [emit "ssid" creds.ssid, emit "password" creds.password]

/-- Read credentials. -/
def ofMembers (members : List (String × Json)) : Option WifiCreds := do
  let ssid ← required "ssid" members
  let password ← required "password" members
  some { ssid, password }

end WifiCreds

instance : Serialize WifiCreds := ⟨fun creds => .obj creds.table.members⟩

instance : Deserialize WifiCreds := ⟨ofObject WifiCreds.ofMembers⟩

instance : NotNull WifiCreds := ⟨fun _ => by simp [toJson]⟩

instance : Tolerant WifiCreds where
  defaulted _ := false
  reset _ creds := creds
  ofJson_prune drop creds declared := by
    have distinct : (creds.table.map Prod.fst).Nodup := by simp [WifiCreds.table, emit]
    have below := fun name path => declared (.key name :: path)
    simp only [toJson, prune, ofJson, ofObject, WifiCreds.ofMembers,
      required_prune distinct "ssid" creds.ssid rfl (kept declared rfl) (below _),
      required_prune distinct "password" creds.password rfl (kept declared rfl) (below _),
      Option.bind_eq_bind, Option.bind_some, reset_string]

namespace Selection

/-- The fields of a selection. -/
def table (sel : Selection) : Table :=
  [emit "stopId" sel.stopId, emit "stopName" sel.stopName,
    emit "allConnections" sel.allConnections, emit "connections" sel.connections]

/-- Read a selection. -/
def ofMembers (members : List (String × Json)) : Option Selection := do
  let stopId ← required "stopId" members
  let stopName ← required "stopName" members
  let allConnections ← withDefault false "allConnections" members
  let connections ← withDefault .empty "connections" members
  some { stopId, stopName, allConnections, connections }

/-- The selection with its deleted members at their defaults. -/
def reset (drop : Path → Bool) (sel : Selection) : Selection :=
  { sel with
    allConnections := if drop [.key "allConnections"] then false else sel.allConnections
    connections := if drop [.key "connections"] then .empty else sel.connections }

/-- The members of a selection with a default. -/
def defaulted : Path → Bool := leafPath ["allConnections", "connections"]

end Selection

instance : Serialize Selection := ⟨fun sel => .obj sel.table.members⟩

instance : Deserialize Selection := ⟨ofObject Selection.ofMembers⟩

instance : NotNull Selection := ⟨fun _ => by simp [toJson]⟩

instance : Tolerant Selection where
  defaulted := Selection.defaulted
  reset := Selection.reset
  ofJson_prune drop sel declared := by
    have distinct : (sel.table.map Prod.fst).Nodup := by simp [Selection.table, emit]
    have leaf : ∀ name path, drop (.key name :: path) = true → path = [] :=
      fun _ _ chosen => leafPath_below (declared _ chosen)
    have whole : ∀ name, Selection.defaulted [.key name] = false → ∀ path,
        drop (.key name :: path) = true → false = true := by
      intro name fixed path chosen
      obtain rfl := leaf name path chosen
      exact fixed ▸ declared _ chosen
    simp only [toJson, prune, ofJson, ofObject, Selection.ofMembers,
      required_prune distinct "stopId" sel.stopId rfl (kept declared rfl) (whole _ rfl),
      required_prune distinct "stopName" sel.stopName rfl (kept declared rfl) (whole _ rfl),
      withDefault_prune distinct "allConnections" false sel.allConnections rfl
        (fun path chosen => .inr (leaf _ path chosen)),
      withDefault_prune distinct "connections" .empty sel.connections rfl
        (fun path chosen => .inr (leaf _ path chosen)),
      Option.bind_eq_bind, Option.bind_some, reset_string, reset_bool, reset_vec]
    have untouched : (sel.connections.mapIdx fun index => Tolerant.reset
        (under (.item index) (under (.key "connections") drop))) = sel.connections :=
      HVec.mapIdx_id sel.connections
    rw [untouched]
    rfl

/-! ## Settings -/

namespace Config

/-- The fields of the settings; the legacy flag is never written. -/
def table (config : Config) : Table :=
  [emit "stripCity" config.stripCity, emit "showLineBadges" config.showLineBadges,
    emit "brightness" config.brightness, emit "autoBrightness" config.autoBrightness,
    emit "offWhenDimmed" config.offWhenDimmed, emit "reducedStart" config.reducedStart,
    emit "reducedEnd" config.reducedEnd, emit "uiMode" config.uiMode, ("focusView", none)]

/-- Read settings. The container-level default supplies every missing field but the last two,
whose own attributes name the default of their type. -/
def ofMembers (members : List (String × Json)) : Option Config := do
  let stripCity ← withDefault Config.default.stripCity "stripCity" members
  let showLineBadges ← withDefault Config.default.showLineBadges "showLineBadges" members
  let brightness ← withDefault Config.default.brightness "brightness" members
  let autoBrightness ← withDefault Config.default.autoBrightness "autoBrightness" members
  let offWhenDimmed ← withDefault Config.default.offWhenDimmed "offWhenDimmed" members
  let reducedStart ← withDefault Config.default.reducedStart "reducedStart" members
  let reducedEnd ← withDefault Config.default.reducedEnd "reducedEnd" members
  let uiMode ← withDefault (0 : UInt8) "uiMode" members
  let focusViewLegacy ← withDefault false "focusView" members
  some
    { stripCity, showLineBadges, brightness, autoBrightness, offWhenDimmed, reducedStart,
      reducedEnd, uiMode, focusViewLegacy }

/-- The settings with their deleted members at their defaults, and the legacy flag forgotten. -/
def reset (drop : Path → Bool) (config : Config) : Config where
  stripCity := if drop [.key "stripCity"] then Config.default.stripCity else config.stripCity
  showLineBadges :=
    if drop [.key "showLineBadges"] then Config.default.showLineBadges else config.showLineBadges
  brightness := if drop [.key "brightness"] then Config.default.brightness else config.brightness
  autoBrightness :=
    if drop [.key "autoBrightness"] then Config.default.autoBrightness else config.autoBrightness
  offWhenDimmed :=
    if drop [.key "offWhenDimmed"] then Config.default.offWhenDimmed else config.offWhenDimmed
  reducedStart :=
    if drop [.key "reducedStart"] then Config.default.reducedStart else config.reducedStart
  reducedEnd := if drop [.key "reducedEnd"] then Config.default.reducedEnd else config.reducedEnd
  uiMode := if drop [.key "uiMode"] then Config.default.uiMode else config.uiMode
  focusViewLegacy := Config.default.focusViewLegacy

/-- The members of the settings: each has a default. -/
def defaulted : Path → Bool :=
  leafPath ["stripCity", "showLineBadges", "brightness", "autoBrightness", "offWhenDimmed",
    "reducedStart", "reducedEnd", "uiMode"]

end Config

instance : Serialize Config := ⟨fun config => .obj config.table.members⟩

instance : Deserialize Config := ⟨ofObject Config.ofMembers⟩

instance : Tolerant Config where
  defaulted := Config.defaulted
  reset := Config.reset
  ofJson_prune drop config declared := by
    have distinct : (config.table.map Prod.fst).Nodup := by simp [Config.table, emit]
    have leaf : ∀ name path, drop (.key name :: path) = true → false = true ∨ path = [] :=
      fun _ _ chosen => .inr (leafPath_below (declared _ chosen))
    have legacy : withDefault false "focusView" (Json.pruneMembers drop config.table.members) =
        some false := by
      have absent : (config.table.lookup "focusView").join = none := rfl
      simp [withDefault, member_prune distinct, absent]
    simp only [toJson, prune, ofJson, ofObject, Config.ofMembers,
      withDefault_prune distinct "stripCity" _ config.stripCity rfl (leaf _),
      withDefault_prune distinct "showLineBadges" _ config.showLineBadges rfl (leaf _),
      withDefault_prune distinct "brightness" _ config.brightness rfl (leaf _),
      withDefault_prune distinct "autoBrightness" _ config.autoBrightness rfl (leaf _),
      withDefault_prune distinct "offWhenDimmed" _ config.offWhenDimmed rfl (leaf _),
      withDefault_prune distinct "reducedStart" _ config.reducedStart rfl (leaf _),
      withDefault_prune distinct "reducedEnd" _ config.reducedEnd rfl (leaf _),
      withDefault_prune distinct "uiMode" _ config.uiMode rfl (leaf _), legacy,
      Option.bind_eq_bind, Option.bind_some, reset_bool, reset_u8, reset_u16]
    rfl

/-! ## Layouts -/

namespace Element

/-- The fields of an element; each but the tag is skipped at its default. -/
def table (el : Element) : Table :=
  [emit "t" el.t, emitUnless isZeroU8 "x" el.x, emitUnless isZeroU8 "y" el.y,
    emitUnless isZeroU8 "w" el.w, emitUnless isZeroU8 "s" el.s, emitUnless isOneU8 "k" el.k,
    emitUnless isZeroU8 "c" el.c, emitUnless Option.isNone "col" el.col,
    emitUnless isZeroU8 "a" el.a, emitUnless HString.isEmpty "v" el.v,
    emitUnless isZeroU8 "di" el.di, emitUnless isZeroU8 "fk" el.fk, emitUnless isFalse "sp" el.sp,
    emitUnless isOneU8 "th" el.th, emitUnless isZeroU8 "f" el.f, emitUnless isZeroU8 "g" el.g]

/-- Read an element. -/
def ofMembers (members : List (String × Json)) : Option Element := do
  let t ← required "t" members
  let x ← withDefault (0 : UInt8) "x" members
  let y ← withDefault (0 : UInt8) "y" members
  let w ← withDefault (0 : UInt8) "w" members
  let s ← withDefault (0 : UInt8) "s" members
  let k ← withDefault (1 : UInt8) "k" members
  let c ← withDefault (0 : UInt8) "c" members
  let col ← withDefault none "col" members
  let a ← withDefault (0 : UInt8) "a" members
  let v ← withDefault HString.empty "v" members
  let di ← withDefault (0 : UInt8) "di" members
  let fk ← withDefault (0 : UInt8) "fk" members
  let sp ← withDefault false "sp" members
  let th ← withDefault (1 : UInt8) "th" members
  let f ← withDefault (0 : UInt8) "f" members
  let g ← withDefault (0 : UInt8) "g" members
  some { t, x, y, w, s, k, c, col, a, v, di, fk, sp, th, f, g }

/-- The element with its deleted members at their defaults. -/
def reset (drop : Path → Bool) (el : Element) : Element where
  t := el.t
  x := if drop [.key "x"] then 0 else el.x
  y := if drop [.key "y"] then 0 else el.y
  w := if drop [.key "w"] then 0 else el.w
  s := if drop [.key "s"] then 0 else el.s
  k := if drop [.key "k"] then 1 else el.k
  c := if drop [.key "c"] then 0 else el.c
  col := if drop [.key "col"] then none else el.col
  a := if drop [.key "a"] then 0 else el.a
  v := if drop [.key "v"] then .empty else el.v
  di := if drop [.key "di"] then 0 else el.di
  fk := if drop [.key "fk"] then 0 else el.fk
  sp := if drop [.key "sp"] then false else el.sp
  th := if drop [.key "th"] then 1 else el.th
  f := if drop [.key "f"] then 0 else el.f
  g := if drop [.key "g"] then 0 else el.g

/-- The members of an element with a default: all but the tag. -/
def defaulted : Path → Bool :=
  leafPath ["x", "y", "w", "s", "k", "c", "col", "a", "v", "di", "fk", "sp", "th", "f", "g"]

end Element

instance : Serialize Element := ⟨fun el => .obj el.table.members⟩

instance : Deserialize Element := ⟨ofObject Element.ofMembers⟩

instance : Tolerant Element where
  defaulted := Element.defaulted
  reset := Element.reset
  ofJson_prune drop el declared := by
    have distinct : (el.table.map Prod.fst).Nodup := by simp [Element.table, emit, emitUnless]
    have leaf : ∀ name path, drop (.key name :: path) = true → false = true ∨ path = [] :=
      fun _ _ chosen => .inr (leafPath_below (declared _ chosen))
    have tag : ∀ path, drop (.key "t" :: path) = true → false = true := by
      intro path chosen
      obtain rfl := leafPath_below (declared _ chosen)
      exact declared _ chosen
    have zero : ∀ v : UInt8, isZeroU8 v = true → v = 0 := fun _ => eq_of_beq
    have one : ∀ v : UInt8, isOneU8 v = true → v = 1 := fun _ => eq_of_beq
    have unset : ∀ col : Option UInt32, col.isNone = true → col.map id = none := by simp
    have split : ∀ v : Bool, isFalse v = true → v = false := by simp [isFalse]
    simp only [toJson, prune, ofJson, ofObject, Element.ofMembers,
      required_prune distinct "t" el.t rfl (kept declared rfl) tag,
      withDefault_skipped distinct "x" _ el.x isZeroU8 rfl (zero _) (leaf _),
      withDefault_skipped distinct "y" _ el.y isZeroU8 rfl (zero _) (leaf _),
      withDefault_skipped distinct "w" _ el.w isZeroU8 rfl (zero _) (leaf _),
      withDefault_skipped distinct "s" _ el.s isZeroU8 rfl (zero _) (leaf _),
      withDefault_skipped distinct "k" _ el.k isOneU8 rfl (one _) (leaf _),
      withDefault_skipped distinct "c" _ el.c isZeroU8 rfl (zero _) (leaf _),
      withDefault_skipped distinct "col" _ el.col Option.isNone rfl (unset _) (leaf _),
      withDefault_skipped distinct "a" _ el.a isZeroU8 rfl (zero _) (leaf _),
      withDefault_skipped distinct "v" _ el.v HString.isEmpty rfl HString.eq_empty (leaf _),
      withDefault_skipped distinct "di" _ el.di isZeroU8 rfl (zero _) (leaf _),
      withDefault_skipped distinct "fk" _ el.fk isZeroU8 rfl (zero _) (leaf _),
      withDefault_skipped distinct "sp" _ el.sp isFalse rfl (split _) (leaf _),
      withDefault_skipped distinct "th" _ el.th isOneU8 rfl (one _) (leaf _),
      withDefault_skipped distinct "f" _ el.f isZeroU8 rfl (zero _) (leaf _),
      withDefault_skipped distinct "g" _ el.g isZeroU8 rfl (zero _) (leaf _),
      Option.bind_eq_bind, Option.bind_some, reset_bool, reset_u8, reset_string]
    have colour : Tolerant.reset (under (.key "col") drop) el.col = el.col := by
      cases el.col <;> rfl
    rw [colour]
    rfl

namespace Layout

/-- The fields of a layout. -/
def table (layout : Layout) : Table := [emit "v" layout.v, emit "e" layout.e]

/-- Read a layout. -/
def ofMembers (members : List (String × Json)) : Option Layout := do
  let v ← withDefault (1 : UInt8) "v" members
  let e ← withDefault .empty "e" members
  some { v, e }

/-- The layout with its deleted members, and those of its elements, at their defaults. -/
def reset (drop : Path → Bool) (layout : Layout) : Layout where
  v := if drop [.key "v"] then 1 else layout.v
  e :=
    if drop [.key "e"] then .empty
    else layout.e.mapIdx fun index =>
      Element.reset (under (.item index) (under (.key "e") drop))

/-- The members of a layout with a default: its own, and those of each element. -/
def defaulted : Path → Bool
  | [.key "v"] => true
  | [.key "e"] => true
  | .key "e" :: .item _ :: path => Element.defaulted path
  | _ => false

end Layout

instance : Serialize Layout := ⟨fun layout => .obj layout.table.members⟩

instance : Deserialize Layout := ⟨ofObject Layout.ofMembers⟩

instance : NotNull Layout := ⟨fun _ => by simp [toJson]⟩

instance : Tolerant Layout where
  defaulted := Layout.defaulted
  reset := Layout.reset
  ofJson_prune drop layout declared := by
    have distinct : (layout.table.map Prod.fst).Nodup := by simp [Layout.table, emit]
    have version : ∀ path, drop (.key "v" :: path) = true → false = true ∨ path = [] := by
      intro path chosen
      have := declared _ chosen
      cases path with
      | nil => exact .inr rfl
      | cons => simp [Layout.defaulted] at this
    have elements : ∀ path, drop (.key "e" :: path) = true →
        Tolerant.defaulted (HVec Element maxElements) path = true ∨ path = [] := by
      intro path chosen
      have := declared _ chosen
      match path with
      | [] => exact .inr rfl
      | .item _ :: _ => exact .inl this
      | .key _ :: _ => simp [Layout.defaulted] at this
    simp only [toJson, prune, ofJson, ofObject, Layout.ofMembers,
      withDefault_prune distinct "v" _ layout.v rfl version,
      withDefault_prune distinct "e" _ layout.e rfl elements,
      Option.bind_eq_bind, Option.bind_some, reset_u8, reset_vec]
    rfl

/-! ## The flash record -/

/-- Everything persisted, as one record. -/
structure Persisted where
  /-- WiFi credentials. -/
  wifi : Option WifiCreds
  /-- The panel selection. -/
  selection : Option Selection
  /-- The board settings. -/
  config : Config
  /-- The custom layout. -/
  layout : Option Layout
deriving DecidableEq

namespace Persisted

/-- The record of a board that never saved anything. -/
protected def default : Persisted := ⟨none, none, Config.default, none⟩

/-- The fields of the record. -/
def table (all : Persisted) : Table :=
  [emit "wifi" all.wifi, emit "selection" all.selection, emit "config" all.config,
    emit "layout" all.layout]

/-- Read a record. The first two fields declare no default, but a missing option reads as
none. -/
def ofMembers (members : List (String × Json)) : Option Persisted := do
  let wifi ← withDefault none "wifi" members
  let selection ← withDefault none "selection" members
  let config ← withDefault Config.default "config" members
  let layout ← withDefault none "layout" members
  some { wifi, selection, config, layout }

/-- The record with its deleted members, and those of its parts, at their defaults. -/
def reset (drop : Path → Bool) (all : Persisted) : Persisted where
  wifi := all.wifi
  selection := all.selection.map (Selection.reset (under (.key "selection") drop))
  config :=
    if drop [.key "config"] then Config.default
    else Config.reset (under (.key "config") drop) all.config
  layout :=
    if drop [.key "layout"] then none
    else all.layout.map (Layout.reset (under (.key "layout") drop))

/-- The members of a record with a declared default, at every depth. -/
def defaulted : Path → Bool
  | [.key "config"] => true
  | [.key "layout"] => true
  | .key "selection" :: path => Selection.defaulted path
  | .key "config" :: path => Config.defaulted path
  | .key "layout" :: path => Layout.defaulted path
  | _ => false

end Persisted

instance : Serialize Persisted := ⟨fun all => .obj all.table.members⟩

instance : Deserialize Persisted := ⟨ofObject Persisted.ofMembers⟩

instance : Tolerant Persisted where
  defaulted := Persisted.defaulted
  reset := Persisted.reset
  ofJson_prune drop all declared := by
    have distinct : (all.table.map Prod.fst).Nodup := by simp [Persisted.table, emit]
    have wifi : ∀ path, drop (.key "wifi" :: path) = true →
        Tolerant.defaulted (Option WifiCreds) path = true ∨ path = [] := by
      intro path chosen
      have := declared _ chosen
      simp [Persisted.defaulted] at this
    have selection : ∀ path, drop (.key "selection" :: path) = true →
        Tolerant.defaulted (Option Selection) path = true ∨ path = [] := by
      intro path chosen
      have := declared _ chosen
      cases path <;> exact .inl this
    have config : ∀ path, drop (.key "config" :: path) = true →
        Tolerant.defaulted Config path = true ∨ path = [] := by
      intro path chosen
      have := declared _ chosen
      cases path with
      | nil => exact .inr rfl
      | cons => exact .inl this
    have layout : ∀ path, drop (.key "layout" :: path) = true →
        Tolerant.defaulted (Option Layout) path = true ∨ path = [] := by
      intro path chosen
      have := declared _ chosen
      cases path with
      | nil => exact .inr rfl
      | cons => exact .inl this
    simp only [toJson, prune, ofJson, ofObject, Persisted.ofMembers,
      withDefault_prune distinct "wifi" _ all.wifi rfl wifi,
      withDefault_prune distinct "selection" _ all.selection rfl selection,
      withDefault_prune distinct "config" _ all.config rfl config,
      withDefault_prune distinct "layout" _ all.layout rfl layout,
      kept declared (show Persisted.defaulted [.key "wifi"] = false from rfl),
      kept declared (show Persisted.defaulted [.key "selection"] = false from rfl),
      Option.bind_eq_bind, Option.bind_some, reset_option]
    have untouched : all.wifi.map (Tolerant.reset (under (.key "wifi") drop)) = all.wifi := by
      cases all.wifi <;> rfl
    rw [untouched]
    rfl

end Zugli
