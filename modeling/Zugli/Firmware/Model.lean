import Zugli.Lib.Heapless

/-!
# Shared data types

The saved connection selection, WiFi credentials, board settings and custom layout, with the
operations the sources define on them: the settings migration and the layout clamp. Integer
fields keep their machine widths, strings and vectors their capacities.
-/

namespace Zugli

/-- One tracked connection: a line and where it is headed. -/
structure Conn where
  /-- Line number or name. -/
  line : HString 16
  /-- Raw API category. -/
  category : HString 12
  /-- Final destination. -/
  destination : HString 48
deriving DecidableEq

/-- Largest number of specific connections tracked at one stop. -/
def maxConns : Nat := 6

/-- The user's panel selection. -/
structure Selection where
  /-- API location id of the chosen stop. -/
  stopId : HString 24
  /-- Human-readable stop name. -/
  stopName : HString 64
  /-- Show every departure at the stop, ignoring `connections`. -/
  allConnections : Bool
  /-- The specific connections to track. -/
  connections : HVec Conn maxConns
deriving DecidableEq

/-- Home WiFi credentials. -/
structure WifiCreds where
  /-- Network name. -/
  ssid : HString 32
  /-- Passphrase. -/
  password : HString 64
deriving DecidableEq

/-- User-tweakable board settings. -/
structure Config where
  /-- Drop the leading city from names on the panel. -/
  stripCity : Bool
  /-- Show each line as a filled badge. -/
  showLineBadges : Bool
  /-- Manual brightness level, one to ten. -/
  brightness : UInt8
  /-- Dim during the reduced window. -/
  autoBrightness : Bool
  /-- Turn fully off instead of dimming. -/
  offWhenDimmed : Bool
  /-- Start of the reduced window, minutes since local midnight. -/
  reducedStart : UInt16
  /-- End of the reduced window. -/
  reducedEnd : UInt16
  /-- The departures view as its persisted number. -/
  uiMode : UInt8
  /-- The focus view flag of records that predate `uiMode`; read, never written. -/
  focusViewLegacy : Bool
deriving DecidableEq

/-- The departures view selected by `Config.uiMode`. -/
inductive UiMode where
  /-- The built-in three-departure board. -/
  | default
  /-- The single-departure focus view. -/
  | focus
  /-- The user's custom layout. -/
  | custom
deriving DecidableEq

/-- The view of a persisted number; any unknown value is the default view. -/
def UiMode.fromU8 (v : UInt8) : UiMode :=
  if v = 1 then .focus else if v = 2 then .custom else .default

namespace Config

/-- The settings of a board that never saved any. -/
protected def default : Config where
  stripCity := false
  showLineBadges := true
  brightness := 6
  autoBrightness := true
  offWhenDimmed := false
  reducedStart := 20 * 60
  reducedEnd := 8 * 60
  uiMode := 0
  focusViewLegacy := false

/-- Fold a legacy focus view flag forward into `uiMode`. -/
def migrate (config : Config) : Config :=
  { config with
    uiMode := if config.uiMode = 0 ∧ config.focusViewLegacy then 1 else config.uiMode
    focusViewLegacy := false }

/-- The settings without the flag that is never written. -/
def written (config : Config) : Config := { config with focusViewLegacy := false }

/-- Whether a migration would still change the view. -/
def LegacyPending (config : Config) : Prop := config.uiMode = 0 ∧ config.focusViewLegacy = true

instance (config : Config) : Decidable config.LegacyPending :=
  inferInstanceAs (Decidable (_ ∧ _))

/-- Without a pending flag, migrating only forgets the flag. -/
theorem migrate_of_not_pending {config : Config} (settled : ¬config.LegacyPending) :
    config.migrate = config.written := by
  have view : ¬(config.uiMode = 0 ∧ config.focusViewLegacy = true) := settled
  simp [migrate, written, view]

/-- With a pending flag, migrating selects the focus view. -/
theorem migrate_uiMode_of_pending {config : Config} (pending : config.LegacyPending) :
    config.migrate.uiMode = 1 := if_pos pending

@[simp] theorem written_uiMode (config : Config) : config.written.uiMode = config.uiMode := rfl

@[simp] theorem migrate_written (config : Config) : config.written.migrate = config.written := by
  simp [migrate, written]

end Config

/-- Largest number of elements in a custom layout. -/
def maxElements : Nat := 16

/-- Flash bound for a serialized custom layout, in bytes. -/
def layoutMaxBytes : Nat := 1536

/-- Maximum length of a text element's literal. -/
def maxTextLen : Nat := 24

/-- One layout element: a flat record with a numeric type tag. -/
structure Element where
  /-- Type tag: text, departure field, station, clock, date, divider or icon. -/
  t : UInt8
  /-- Left edge. -/
  x : UInt8
  /-- Top edge. -/
  y : UInt8
  /-- Clip width or divider length; zero for the natural width. -/
  w : UInt8
  /-- Font: zero for the small one, one for the medium one. -/
  s : UInt8
  /-- Integer upscale factor. -/
  k : UInt8
  /-- Preset colour index. -/
  c : UInt8
  /-- Custom colour, overriding the preset. -/
  col : Option UInt32
  /-- Alignment: left, centre or right. -/
  a : UInt8
  /-- Text literal. -/
  v : HString maxTextLen
  /-- Departure slot. -/
  di : UInt8
  /-- Departure field: badge, direction or time. -/
  fk : UInt8
  /-- Split flag of the editor. -/
  sp : Bool
  /-- Divider thickness. -/
  th : UInt8
  /-- Format selector, or badge style. -/
  f : UInt8
  /-- Icon glyph. -/
  g : UInt8
deriving DecidableEq

/-- The custom board layout: a schema version and the elements in draw order. -/
structure Layout where
  /-- Schema version, currently one. -/
  v : UInt8
  /-- The elements. -/
  e : HVec Element maxElements
deriving DecidableEq

/-- `v.min(bound)` of a machine byte. -/
def atMost (v bound : UInt8) : UInt8 := if v ≤ bound then v else bound

/-- `v.clamp(low, high)` of a machine byte. -/
def clampU8 (v low high : UInt8) : UInt8 := if v < low then low else if high < v then high else v

namespace Element

/-- Clamp the numeric fields of one element; the tag, the text, the split flag and the glyph
stay as they are. -/
def sanitize (el : Element) : Element :=
  { el with
    x := atMost el.x 64
    y := atMost el.y 64
    w := atMost el.w 64
    s := atMost el.s 1
    k := clampU8 el.k 1 3
    c := atMost el.c 2
    a := atMost el.a 2
    di := atMost el.di 2
    fk := atMost el.fk 2
    th := clampU8 el.th 1 2
    f := atMost el.f 1
    col := el.col.map (· &&& 0x00FFFFFF) }

end Element

namespace Layout

/-- The layout of a board that never saved one. -/
protected def default : Layout := ⟨1, .empty⟩

/-- Clamp every element. -/
def sanitize (layout : Layout) : Layout := { layout with e := layout.e.map Element.sanitize }

end Layout

/-- One upcoming departure, ready to render. -/
structure Departure where
  /-- Line number or name. -/
  line : HString 16
  /-- Raw API category. -/
  category : HString 12
  /-- Final destination. -/
  destination : HString 48
  /-- Minutes to departure, if known. -/
  minutes : Option UInt16
deriving DecidableEq

/-- What the panel should be showing. -/
inductive DisplayState where
  /-- No WiFi saved, captive portal is up. -/
  | provisioning
  /-- The startup animation. -/
  | connecting
  /-- Joined WiFi, no connection selected: the device address. -/
  | idleAddress (octets : UInt8 × UInt8 × UInt8 × UInt8)
  /-- The saved stop's name and its next departures. -/
  | departures (station : HString 64) (deps : HVec Departure 3)
  /-- Polling failed for a while. -/
  | offline
deriving DecidableEq

end Zugli
