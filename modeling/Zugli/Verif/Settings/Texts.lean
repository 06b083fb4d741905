import Zugli.Spec.Bytes
import Zugli.Verif.Httpd
import Zugli.Web.Settings

/-!
# The settings as texts

What the board answers about its settings is their text, which the page reads as they are; what the
page posts is the text of its object, which the board reads as it is. An object whose numbers stay
within the bounds of the controls is what the page reads of a board that took it over.
-/

namespace Zugli

open Json (utf8 write)
open Serde

/-- The object the page holds of the settings. -/
def Settings.cfg (settings : Settings) : Web.Cfg where
  stripCity := settings.stripCity
  showLineBadges := settings.lineBadges
  uiMode := .ofNat (Device.modeNumber settings.mode)
  brightness := settings.brightness
  autoBrightness := settings.autoBrightness
  offWhenDimmed := settings.offWhenDimmed
  reducedStart := settings.reducedStart
  reducedEnd := settings.reducedEnd

/-- A field that is always written is read back. -/
theorem withDefault_members {α : Type} [Serialize α] [Deserialize α] [Tolerant α] {table : Table}
    (distinct : (table.map Prod.fst).Nodup) (name : String) (default value : α)
    (listed : (table.lookup name).join = some (toJson value)) :
    withDefault default name table.members = some (Tolerant.reset (fun _ => false) value) := by
  simp [withDefault, member_members distinct, listed, ofJson_toJson]

namespace Web.Cfg

/-- The settings the board takes over from the object. -/
def config (cfg : Cfg) : Config where
  stripCity := cfg.stripCity
  showLineBadges := cfg.showLineBadges
  brightness := cfg.brightness
  autoBrightness := cfg.autoBrightness
  offWhenDimmed := cfg.offWhenDimmed
  reducedStart := cfg.reducedStart
  reducedEnd := cfg.reducedEnd
  uiMode := cfg.uiMode
  focusViewLegacy := false

/-! ## What the page posts -/

/-- The fields of the object in the order in which the page posts them. -/
def table (cfg : Cfg) : Table :=
  [emit "stripCity" cfg.stripCity, emit "showLineBadges" cfg.showLineBadges,
    emit "uiMode" cfg.uiMode, emit "brightness" cfg.brightness,
    emit "autoBrightness" cfg.autoBrightness, emit "offWhenDimmed" cfg.offWhenDimmed,
    emit "reducedStart" cfg.reducedStart, emit "reducedEnd" cfg.reducedEnd]

/-- The object is posted as the document of its fields. -/
theorem data_eq (cfg : Cfg) : cfg.data = .ofJson (.obj cfg.table.members) := rfl

/-- The board reads the members of a document as settings. -/
theorem ofJson_obj (members : List (String × Json)) :
    ofJson (.obj members) = Config.ofMembers members := rfl

/-- The board reads the settings from the posted members. -/
theorem ofMembers_table (cfg : Cfg) : Config.ofMembers cfg.table.members = some cfg.config := by
  have distinct : (cfg.table.map Prod.fst).Nodup := by simp [table, emit]
  have legacy : withDefault false "focusView" cfg.table.members = some false := by
    have absent : (cfg.table.lookup "focusView").join = none := rfl
    simp [withDefault, member_members distinct, absent]
  simp only [Config.ofMembers, withDefault_members distinct "stripCity" _ cfg.stripCity rfl,
    withDefault_members distinct "showLineBadges" _ cfg.showLineBadges rfl,
    withDefault_members distinct "uiMode" _ cfg.uiMode rfl,
    withDefault_members distinct "brightness" _ cfg.brightness rfl,
    withDefault_members distinct "autoBrightness" _ cfg.autoBrightness rfl,
    withDefault_members distinct "offWhenDimmed" _ cfg.offWhenDimmed rfl,
    withDefault_members distinct "reducedStart" _ cfg.reducedStart rfl,
    withDefault_members distinct "reducedEnd" _ cfg.reducedEnd rfl, legacy,
    reset_bool, reset_u8, reset_u16, Option.bind_eq_bind, Option.bind_some]
  rfl

/-- The names of the document are short. -/
theorem table_within (cfg : Cfg) : (Json.obj cfg.table.members).StringsWithin 14 :=
  stringsWithin_table (by simp (disch := decide) [table, stringless_emit])

/-- The board reads a posted body as the settings of the object. -/
theorem fromSlice_body (serde : SerdeJsonCore) {scratch : Nat} (roomy : 14 ≤ scratch)
    (post : ConfigPost) :
    serde.fromSlice Config scratch (Js.bodyBytes post.body) = some post.sent.config := by
  have posted : post.body = Js.stringify (.ofJson (.obj post.sent.table.members)) :=
    congrArg Js.stringify (data_eq post.sent)
  have within := (table_within post.sent).mono roomy
  rw [posted, Js.bodyBytes_stringify, serde.fromSlice_write .lower within, ofJson_obj,
    ofMembers_table]

/-! ## What the board answers -/

/-- The answer to a request for the settings is their text, if it fits the response. -/
theorem getConfig_text (device : Device) : ∃ text : String,
    device.getConfig.2.body =
        (if text.utf8ByteSize ≤ configJsonCap then utf8 text.toList else emptyJson) ∧
      text.toList = write .lower (toJson device.shared.settings.cfg.config) := by
  simp only [Device.getConfig]
  refine ⟨_, rfl, ?_⟩
  have flag : ∀ value : Bool, (Device.showBool value).toList = write .lower (toJson value) := by
    decide
  have number : ∀ value : Nat, (Nat.repr value).toList = write .lower (.num value) := by
    intro value
    simp [Nat.repr, write]
  have view : (UInt8.ofNat (Device.modeNumber device.shared.mode)).toNat =
      Device.modeNumber device.shared.mode := by
    cases device.shared.mode <;> rfl
  have strip : "\x7b\"stripCity\":".toList = '{' :: (Json.quote .lower "stripCity" ++ [':']) := rfl
  have badges : ",\"showLineBadges\":".toList =
      ',' :: (Json.quote .lower "showLineBadges" ++ [':']) := rfl
  have bright : ",\"brightness\":".toList = ',' :: (Json.quote .lower "brightness" ++ [':']) := rfl
  have auto : ",\"autoBrightness\":".toList =
      ',' :: (Json.quote .lower "autoBrightness" ++ [':']) := rfl
  have off : ",\"offWhenDimmed\":".toList =
      ',' :: (Json.quote .lower "offWhenDimmed" ++ [':']) := rfl
  have first : ",\"reducedStart\":".toList =
      ',' :: (Json.quote .lower "reducedStart" ++ [':']) := rfl
  have last : ",\"reducedEnd\":".toList = ',' :: (Json.quote .lower "reducedEnd" ++ [':']) := rfl
  have mode : ",\"uiMode\":".toList = ',' :: (Json.quote .lower "uiMode" ++ [':']) := rfl
  have closing : "\x7d".toList = ['}'] := rfl
  simp only [String.toList_append, flag, number, strip, badges, bright, auto, off, first, last,
    mode, closing, List.append_assoc, List.cons_append, List.nil_append]
  rw [← view]
  rfl

/-- The text of any settings fits the response. -/
theorem size_config (cfg : Cfg) : (toJson cfg.config).size .lower ≤ configJsonCap := by
  have number : ∀ {count value : Nat}, 0 < count → value < 10 ^ count → digits value ≤ count :=
    fun positive small => (Nat.length_toDigits_le_iff (by decide) positive).mpr small
  have byte : ∀ value : UInt8, digits value.toNat ≤ 3 := fun value =>
    number (by decide) (Nat.lt_trans value.toNat_lt (by decide))
  have word : ∀ value : UInt16, digits value.toNat ≤ 5 := fun value =>
    number (by decide) (Nat.lt_trans value.toNat_lt (by decide))
  have flag : ∀ value : Bool, bytes .lower value ≤ 5 := by decide
  have strip := flag cfg.config.stripCity
  have badges := flag cfg.config.showLineBadges
  have bright := byte cfg.config.brightness
  have auto := flag cfg.config.autoBrightness
  have off := flag cfg.config.offWhenDimmed
  have first := word cfg.config.reducedStart
  have last := word cfg.config.reducedEnd
  have mode := byte cfg.config.uiMode
  have names : [("stripCity", 11), ("showLineBadges", 16), ("brightness", 12),
      ("autoBrightness", 16), ("offWhenDimmed", 15), ("reducedStart", 14), ("reducedEnd", 12),
      ("uiMode", 8)].all (fun entry => Json.quoteSize .lower entry.1 == entry.2) = true := by
    decide +kernel
  simp only [List.all_cons, List.all_nil, Bool.and_eq_true, beq_iff_eq] at names
  rw [size_toJson]
  simp only [bytes, objectBytes, counted, listBytes, List.filterMap_cons, Option.map_some,
    Option.map_none, List.filterMap_nil, List.map_cons, List.map_nil, List.sum_cons, List.sum_nil,
    reduceCtorEq, ↓reduceIte, configJsonCap, names] at strip badges auto off ⊢
  omega

/-- The answer to a request for the settings is their text. -/
theorem getConfig_body (device : Device) : device.getConfig.2.body =
    utf8 (write .lower (toJson device.shared.settings.cfg.config)) := by
  obtain ⟨text, answer, same⟩ := getConfig_text device
  have room : text.utf8ByteSize ≤ configJsonCap := by
    rw [Json.utf8ByteSize_eq, same]
    exact size_config _
  rw [answer, if_pos room, same]

/-- The page takes over every member of the settings. -/
theorem merge_members (cfg other : Cfg) : other.merge cfg.config.table.members = some cfg := by
  have distinct : (cfg.config.table.map Prod.fst).Nodup := by simp [Config.table, emit]
  simp only [merge, withDefault_members distinct "stripCity" _ cfg.stripCity rfl,
    withDefault_members distinct "showLineBadges" _ cfg.showLineBadges rfl,
    withDefault_members distinct "uiMode" _ cfg.uiMode rfl,
    withDefault_members distinct "brightness" _ cfg.brightness rfl,
    withDefault_members distinct "autoBrightness" _ cfg.autoBrightness rfl,
    withDefault_members distinct "offWhenDimmed" _ cfg.offWhenDimmed rfl,
    withDefault_members distinct "reducedStart" _ cfg.reducedStart rfl,
    withDefault_members distinct "reducedEnd" _ cfg.reducedEnd rfl,
    reset_bool, reset_u8, reset_u16, Option.bind_eq_bind, Option.bind_some]

/-- The page merges the members of a document. -/
theorem load_write (cfg : Cfg) (members : List (String × Json)) :
    cfg.load (utf8 (write .lower (.obj members))) = cfg.merge members := by
  simp only [load, Json.utf8Decode?_utf8, Option.bind_eq_bind, Option.bind_some, Json.read_write]

/-- The page reads the settings of the board from the answer. -/
theorem load_getConfig (cfg : Cfg) (device : Device) :
    cfg.load device.getConfig.2.body = some device.shared.settings.cfg := by
  have text : toJson device.shared.settings.cfg.config =
      .obj device.shared.settings.cfg.config.table.members := rfl
  rw [getConfig_body, text, load_write, merge_members]

/-! ## What the controls can hold -/

/-- The numbers are within the bounds of the controls. -/
def Valid (cfg : Cfg) : Prop := cfg.uiMode < 3 ∧ 1 ≤ cfg.brightness ∧ cfg.brightness ≤ 10

instance (cfg : Cfg) : Decidable cfg.Valid := inferInstanceAs (Decidable (_ ∧ _))

/-- Two halves of a word are read back. -/
theorem window_halves (high low : UInt16) :
    (((high.toUInt32 <<< 16) ||| low.toUInt32) >>> 16).toUInt16 = high ∧
      (((high.toUInt32 <<< 16) ||| low.toUInt32) &&& 0xFFFF).toUInt16 = low := by
  have upper := high.toNat_lt
  have lower := low.toNat_lt
  have packed : ((high.toUInt32 <<< 16) ||| low.toUInt32).toNat =
      2 ^ 16 * high.toNat + low.toNat := by
    rw [UInt32.toNat_or, UInt32.toNat_shiftLeft, UInt16.toNat_toUInt32, UInt16.toNat_toUInt32]
    show ((high.toNat <<< 16) % 2 ^ 32) ||| low.toNat = _
    rw [Nat.shiftLeft_eq, Nat.mod_eq_of_lt (by omega), Nat.mul_comm]
    exact (Nat.two_pow_add_eq_or_of_lt lower _).symm
  constructor
  · apply UInt16.toNat_inj.mp
    rw [UInt32.toNat_toUInt16, UInt32.toNat_shiftRight, packed]
    show (2 ^ 16 * high.toNat + low.toNat) >>> 16 % 2 ^ 16 = _
    rw [Nat.shiftRight_eq_div_pow]
    omega
  · apply UInt16.toNat_inj.mp
    rw [UInt32.toNat_toUInt16, UInt32.toNat_and, packed]
    show ((2 ^ 16 * high.toNat + low.toNat) &&& (2 ^ 16 - 1)) % 2 ^ 16 = _
    rw [Nat.and_two_pow_sub_one_eq_mod]
    omega

/-- A board that took over a valid object shows it. -/
theorem settings_config {cfg : Cfg} (valid : cfg.Valid) : cfg.config.settings.cfg = cfg := by
  obtain ⟨view, low, high⟩ := valid
  have mode : UInt8.ofNat (Device.modeNumber (UiMode.fromU8 cfg.uiMode)) = cfg.uiMode := by
    have views : ∀ mode : UInt8, mode < 3 →
        UInt8.ofNat (Device.modeNumber (UiMode.fromU8 mode)) = mode := by decide +kernel
    exact views cfg.uiMode view
  have bright : (clampU8 cfg.brightness 1 10).toUInt32.toUInt8 = cfg.brightness := by
    have levels : ∀ level : UInt8, 1 ≤ level → level ≤ 10 →
        (clampU8 level 1 10).toUInt32.toUInt8 = level := by decide +kernel
    exact levels cfg.brightness low high
  obtain ⟨first, last⟩ := window_halves cfg.reducedStart cfg.reducedEnd
  simp only [Settings.cfg, Config.settings, Shared.settings, Shared.applyConfig, config,
    Shared.stripCityEnabled, Shared.lineBadgesEnabled, Shared.brightness,
    Shared.autoBrightnessEnabled, Shared.offWhenDimmedEnabled, Shared.mode,
    Shared.reducedStartMin, Shared.reducedEndMin, mode, bright, first, last]

/-- What the page reads of a board is valid. -/
theorem valid_settings (config : Config) : config.settings.cfg.Valid := by
  have views : ∀ mode : UInt8, UInt8.ofNat (Device.modeNumber (UiMode.fromU8 mode)) < 3 := by
    decide +kernel
  have levels : ∀ level : UInt8, 1 ≤ (clampU8 level 1 10).toUInt32.toUInt8 ∧
      (clampU8 level 1 10).toUInt32.toUInt8 ≤ 10 := by decide +kernel
  exact ⟨views config.uiMode, levels config.brightness⟩

end Web.Cfg

end Zugli
