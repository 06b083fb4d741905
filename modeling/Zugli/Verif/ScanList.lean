import Zugli.Firmware.Portal
import Zugli.Lib.Json.Grammar
import Zugli.Lib.Json.Reader
import Zugli.Lib.SerdeJsonCore

/-!
# The list of networks of the setup page

An entry never overflows its temporary, so the body is an array of the longest prefix of the cache
that fits. Quotation marks and reverse solidi are escaped but control characters are not, and one of
them in the prefix leaves a body that is no JSON text.
-/

namespace Zugli

open Json (utf8Len Derives IsText Plain Style)

/-! ## What is written -/

/-- How a character of an SSID is written. -/
def ssidEscape (c : Char) : List Char := if c = '"' ∨ c = '\\' then ['\\', c] else [c]

namespace NetInfo

/-- How a network is written behind its SSID. -/
def rest (net : NetInfo) : List Char :=
  ['"', ',', '"', 'r', 's', 's', 'i', '"', ':'] ++ ((showI8 net.rssi).toList ++
    ([',', '"', 's', 'e', 'c', 'u', 'r', 'e', '"', ':'] ++
      ((Device.showBool net.secure).toList ++ ['}'])))

/-- How a network is written. -/
def text (net : NetInfo) : List Char :=
  ['{', '"', 's', 's', 'i', 'd', '"', ':', '"'] ++
    (net.ssid.chars.flatMap ssidEscape ++ net.rest)

/-- How networks are written from the `i`-th on. -/
def texts (i : Nat) : List NetInfo → List Char
  | [] => []
  | net :: nets => (if i > 0 then [','] else []) ++ (net.text ++ texts (i + 1) nets)

/-- How a list of networks is written. -/
def listing (nets : List NetInfo) : List Char := '[' :: (texts 0 nets ++ [']'])

/-- What a network is written for. -/
def toJson (net : NetInfo) : Json :=
  .obj [("ssid", .str net.ssid.val), ("rssi", .num net.rssi.toInt), ("secure", .bool net.secure)]

/-- No control character in the SSID. -/
def Printable (net : NetInfo) : Prop := ∀ c ∈ net.ssid.chars, 0x20 ≤ c.toNat

instance (net : NetInfo) : Decidable net.Printable := inferInstanceAs (Decidable (∀ c ∈ _, _))

/-- The longest prefix of the cache whose listing fits. -/
structure IsLongest (cache kept : List NetInfo) : Prop where
  /-- It is a prefix. -/
  isPrefix : kept <+: cache
  /-- Its listing fits. -/
  fits : utf8Len (listing kept) ≤ scanJsonCap
  /-- No longer prefix fits. -/
  longest : ∀ other, other <+: cache → utf8Len (listing other) ≤ scanJsonCap →
    other.length ≤ kept.length

/-- Two longest prefixes are the same. -/
theorem IsLongest.unique {cache kept other : List NetInfo} (left : IsLongest cache kept)
    (right : IsLongest cache other) : kept = other :=
  (List.prefix_of_prefix_length_le left.isPrefix right.isPrefix
    (right.longest kept left.isPrefix left.fits)).eq_of_length
    (Nat.le_antisymm (right.longest kept left.isPrefix left.fits)
      (left.longest other right.isPrefix right.fits))

/-! ## An entry -/

/-- An escape doubles a character of one byte only. -/
theorem utf8Len_ssidEscape (c : Char) : utf8Len (ssidEscape c) ≤ 2 * c.utf8Size := by
  have pos := c.utf8Size_pos
  have solidus : Char.utf8Size '\\' = 1 := rfl
  unfold ssidEscape
  split
  · simp only [Json.utf8Len_cons, Json.utf8Len_nil, solidus]
    omega
  · simp only [Json.utf8Len_cons, Json.utf8Len_nil]
    omega

/-- Escapes at most double an SSID. -/
theorem utf8Len_flatMap_ssidEscape (chars : List Char) :
    utf8Len (chars.flatMap ssidEscape) ≤ 2 * utf8Len chars := by
  induction chars with
  | nil => exact Nat.le_refl 0
  | cons c chars previous =>
    have here := utf8Len_ssidEscape c
    rw [List.flatMap_cons, Json.utf8Len_append, Json.utf8Len_cons]
    omega

/-- An RSSI takes at most four bytes. -/
theorem utf8Len_showI8 (rssi : Int8) : utf8Len (showI8 rssi).toList ≤ 4 := by
  have low := rssi.le_toInt
  have high := rssi.toInt_lt
  have digits : ∀ value : Nat, value < 1000 → utf8Len (Nat.toDigits 10 value) ≤ 3 := by
    intro value small
    rw [Json.utf8Len_toDigits]
    exact (Nat.length_toDigits_le_iff (by decide) (by decide)).mpr small
  have sign : Char.utf8Size '-' = 1 := rfl
  rw [showI8, String.toList_ofList]
  generalize rssi.toInt = value at low high
  cases value with
  | ofNat value =>
    rw [Int.ofNat_eq_natCast] at high
    have bound := digits value (by omega)
    exact Nat.le_trans bound (by decide)
  | negSucc value =>
    have bound := digits (value + 1) (by omega)
    simp only [Json.decimal, Json.utf8Len_cons, sign]
    omega

/-- A network takes at most 102 bytes. -/
theorem utf8Len_text (net : NetInfo) : utf8Len net.text ≤ 102 := by
  have ssid : utf8Len (net.ssid.chars.flatMap ssidEscape) ≤ 64 := by
    have short := net.ssid.fits
    have doubled := utf8Len_flatMap_ssidEscape net.ssid.chars
    rw [← HString.len_eq, HString.len] at doubled
    omega
  have rssi := utf8Len_showI8 net.rssi
  have secure : utf8Len (Device.showBool net.secure).toList ≤ 5 := by
    cases net.secure <;> decide
  have opening : utf8Len ['{', '"', 's', 's', 'i', 'd', '"', ':', '"'] = 9 := rfl
  have next : utf8Len ['"', ',', '"', 'r', 's', 's', 'i', '"', ':'] = 9 := rfl
  have last : utf8Len [',', '"', 's', 'e', 'c', 'u', 'r', 'e', '"', ':'] = 10 := rfl
  have closing : utf8Len ['}'] = 1 := rfl
  simp only [text, rest, Json.utf8Len_append, opening, next, last, closing]
  omega

/-- A turn of the loop over the characters of an SSID writes one of them. -/
theorem pushEscaped_append {entry : HString scanEntryCap} {c : Char} {whole rest : List Char}
    (fits : utf8Len whole ≤ scanEntryCap)
    (ahead : entry.chars ++ (ssidEscape c ++ rest) = whole) :
    (pushEscaped entry c).chars ++ rest = whole := by
  unfold pushEscaped
  unfold ssidEscape at ahead
  split at ahead
  next special =>
    rw [if_pos special]
    exact HString.push_append fits (HString.push_append fits ahead)
  next plain =>
    rw [if_neg plain]
    exact HString.push_append fits ahead

/-- The loop over the characters of an SSID writes all of them. -/
theorem foldl_pushEscaped_append {entry : HString scanEntryCap} {chars whole rest : List Char}
    (fits : utf8Len whole ≤ scanEntryCap)
    (ahead : entry.chars ++ (chars.flatMap ssidEscape ++ rest) = whole) :
    (chars.foldl pushEscaped entry).chars ++ rest = whole := by
  induction chars generalizing entry with
  | nil => exact ahead
  | cons c chars previous =>
    rw [List.flatMap_cons, List.append_assoc] at ahead
    exact previous (pushEscaped_append fits ahead)

/-- An entry is not cut. -/
theorem chars_scanEntry (i : Nat) (net : NetInfo) :
    (scanEntry i net).chars = (if i > 0 then [','] else []) ++ net.text := by
  have fits : utf8Len ((if i > 0 then [','] else []) ++ net.text) ≤ scanEntryCap := by
    have comma : utf8Len (if i > 0 then [','] else []) ≤ 1 := by
      split <;> decide
    have bound := net.utf8Len_text
    rw [Json.utf8Len_append]
    exact Nat.le_trans (Nat.add_le_add comma bound) (by decide)
  generalize entire : (if i > 0 then [','] else []) ++ net.text = whole at fits
  have comma : (if i > 0 then HString.empty.push ',' else HString.empty :
      HString scanEntryCap).chars ++ ("\x7b\"ssid\":\"".toList ++
        (net.ssid.chars.flatMap ssidEscape ++ net.rest)) = whole := by
    rw [← entire]
    congr 1
    split <;> rfl
  have opening := HString.pushStr_append fits comma
  have ssid := foldl_pushEscaped_append fits opening
  have written : (scanEntry i net).chars ++ [] = whole := by
    refine HString.writePieces_append fits ?_
    rw [← ssid]
    simp [rest, List.flatMap_cons]
  rwa [List.append_nil] at written

/-! ## The array -/

/-- Networks are written one behind the other. -/
theorem texts_cons (i : Nat) (net : NetInfo) (nets : List NetInfo) :
    texts i (net :: nets) = (scanEntry i net).chars ++ texts (i + 1) nets := by
  rw [chars_scanEntry, texts, List.append_assoc]

/-- The loop writes the longest prefix that leaves room for the closing bracket. -/
theorem exists_scanEntries (nets : List NetInfo) (i : Nat) (out : HString scanJsonCap)
    (room : utf8Len out.chars + 1 ≤ scanJsonCap) :
    ∃ kept, kept <+: nets ∧ (scanEntries i out nets).chars = out.chars ++ texts i kept ∧
      utf8Len (out.chars ++ texts i kept) + 1 ≤ scanJsonCap ∧
      ∀ other, other <+: nets → utf8Len (out.chars ++ texts i other) + 1 ≤ scanJsonCap →
        other.length ≤ kept.length := by
  induction nets generalizing i out with
  | nil =>
    refine ⟨[], List.prefix_rfl, by simp [scanEntries, texts], by simpa [texts] using room, ?_⟩
    intro other isPrefix _
    rw [List.prefix_nil.mp isPrefix]
  | cons net nets previous =>
    rw [scanEntries, HString.len_eq, HString.len_eq]
    split
    next full =>
      refine ⟨[], List.nil_prefix, by simp [texts], by simpa [texts] using room, ?_⟩
      intro other isPrefix fits
      cases other with
      | nil => exact Nat.le_refl 0
      | cons head tail =>
        obtain ⟨rfl, _⟩ := List.cons_prefix_cons.mp isPrefix
        rw [texts_cons, Json.utf8Len_append, Json.utf8Len_append] at fits
        omega
    next free =>
      have fits : utf8Len (out.chars ++ (scanEntry i net).chars) ≤ scanJsonCap := by
        rw [Json.utf8Len_append]
        omega
      have pushed : (out.pushStr (scanEntry i net).val).chars =
          out.chars ++ (scanEntry i net).chars := by
        have written : (out.pushStr (scanEntry i net).val).chars ++ [] =
            out.chars ++ (scanEntry i net).chars :=
          HString.pushStr_append fits (by rw [List.append_nil]; rfl)
        rwa [List.append_nil] at written
      obtain ⟨kept, isPrefix, chars, bound, longest⟩ :=
        previous (i + 1) (out.pushStr (scanEntry i net).val) (by
          rw [pushed, Json.utf8Len_append]
          omega)
      rw [pushed, List.append_assoc, ← texts_cons] at chars bound
      refine ⟨net :: kept, List.cons_prefix_cons.mpr ⟨rfl, isPrefix⟩, chars, bound, ?_⟩
      intro other otherPrefix otherFits
      cases other with
      | nil => exact Nat.zero_le _
      | cons head tail =>
        obtain ⟨rfl, tailPrefix⟩ := List.cons_prefix_cons.mp otherPrefix
        rw [texts_cons, ← List.append_assoc, ← pushed] at otherFits
        exact Nat.succ_le_succ (longest tail tailPrefix otherFits)

/-- The body is the listing of the longest prefix that fits. -/
theorem exists_scanHandler (portal : Portal) :
    ∃ kept, IsLongest portal.scanCache.val kept ∧
      portal.scanHandler.2.chars = listing kept := by
  have opening : (HString.empty.push '[' : HString scanJsonCap).chars = ['['] := rfl
  have bracket : ∀ nets, utf8Len (listing nets) =
      utf8Len ((HString.empty.push '[' : HString scanJsonCap).chars ++ texts 0 nets) + 1 := by
    intro nets
    rw [opening, listing, ← List.cons_append, Json.utf8Len_append]
    rfl
  obtain ⟨kept, isPrefix, chars, bound, longest⟩ := exists_scanEntries portal.scanCache.val 0
    (HString.empty.push '[') (by rw [opening]; decide)
  refine ⟨kept, ⟨isPrefix, bracket kept ▸ bound, fun other otherPrefix fits =>
    longest other otherPrefix (bracket other ▸ fits)⟩, ?_⟩
  have closed : portal.scanHandler.2.chars ++ [] = listing kept := by
    refine HString.push_append (bracket kept ▸ bound) ?_
    rw [chars, opening]
    rfl
  rwa [List.append_nil] at closed

/-! ## As a JSON text -/

/-- Behind the control characters the escapes are those of a JSON text. -/
theorem escape_eq {c : Char} (high : 0x20 ≤ c.toNat) : Style.upper.escape c = ssidEscape c := by
  have others : ∀ other : Char, other.toNat < 0x20 → c ≠ other := by
    rintro other low rfl
    omega
  show Style.minimalEscape _ c = _
  unfold Style.minimalEscape ssidEscape
  by_cases quotation : c = '"'
  · rw [if_pos quotation, if_pos (.inl quotation), quotation]
  by_cases solidus : c = '\\'
  · rw [if_neg quotation, if_pos solidus, if_pos (.inr solidus), solidus]
  rw [if_neg quotation, if_neg solidus, if_neg (others _ (by decide)),
    if_neg (others _ (by decide)), if_neg (others _ (by decide)), if_neg (others _ (by decide)),
    if_neg (others _ (by decide)), if_neg (by omega), if_neg (not_or.mpr ⟨quotation, solidus⟩)]

/-- A network without control characters is written as an object. -/
theorem text_eq {net : NetInfo} (printable : net.Printable) :
    net.text = net.toJson.write .upper := by
  have ssid : net.ssid.chars.flatMap ssidEscape =
      net.ssid.val.toList.flatMap Style.upper.escape := by
    rw [List.flatMap_def, List.flatMap_def]
    congr 1
    exact List.map_congr_left fun c member => (escape_eq (printable c member)).symm
  have secure : (Device.showBool net.secure).toList = (Json.bool net.secure).write .upper := by
    cases net.secure <;> rfl
  have names : Json.quote .upper "ssid" = ['"', 's', 's', 'i', 'd', '"'] ∧
      Json.quote .upper "rssi" = ['"', 'r', 's', 's', 'i', '"'] ∧
      Json.quote .upper "secure" = ['"', 's', 'e', 'c', 'u', 'r', 'e', '"'] := ⟨rfl, rfl, rfl⟩
  rw [toJson, Json.write, Json.writeMembers, Json.writeMembers, Json.writeMembers, names.1,
    names.2.1, names.2.2, ← secure, Json.write, Json.write, Json.quote, ← ssid, text, rest, showI8,
    String.toList_ofList]
  simp

/-- Networks without control characters are written as the items of an array. -/
theorem texts_succ {nets : List NetInfo} (printable : ∀ net ∈ nets, net.Printable) (i : Nat) :
    texts (i + 1) nets ++ [']'] = Json.writeItems .upper (nets.map toJson) := by
  induction nets generalizing i with
  | nil => rfl
  | cons net nets previous =>
    rw [List.forall_mem_cons] at printable
    rw [texts, List.map_cons, Json.writeItems, if_pos (Nat.succ_pos i), text_eq printable.1,
      ← previous printable.2 (i + 1)]
    simp

/-- Networks without control characters are written as an array. -/
theorem listing_eq {nets : List NetInfo} (printable : ∀ net ∈ nets, net.Printable) :
    listing nets = (Json.arr (nets.map toJson)).write .upper := by
  cases nets with
  | nil => rfl
  | cons net nets =>
    rw [List.forall_mem_cons] at printable
    rw [listing, texts, List.map_cons, Json.write, if_neg (Nat.lt_irrefl 0),
      text_eq printable.1, ← texts_succ printable.2 0]
    simp

/-- A scan of an SSID ends at a control character. -/
theorem scan_ssid {chars : List Char} (control : ¬∀ c ∈ chars, 0x20 ≤ c.toNat) :
    Json.scan .inside (chars.flatMap ssidEscape) = none := by
  induction chars with
  | nil => exact absurd (fun _ member => absurd member List.not_mem_nil) control
  | cons c chars previous =>
    rw [List.flatMap_cons, Json.scan_append]
    by_cases high : 0x20 ≤ c.toNat
    · have here : Json.scan .inside (ssidEscape c) = some .inside := by
        unfold ssidEscape
        split
        next special =>
          have next : Json.Mode.escaped.next c = some .inside := if_neg (Nat.not_lt.mpr high)
          rw [Json.scan_cons]
          show Json.scan .escaped [c] = _
          rw [Json.scan_cons, next, Option.bind_some, Json.scan_nil]
        next other =>
          rw [not_or] at other
          rw [Json.scan_cons, Json.next_inside ⟨other.1, other.2, high⟩, Option.bind_some,
            Json.scan_nil]
      rw [here, Option.bind_some]
      refine previous fun rest => control ?_
      rw [List.forall_mem_cons]
      exact ⟨high, rest⟩
    · have plain : ¬(c = '"' ∨ c = '\\') := by
        rintro (rfl | rfl) <;> exact high (by decide)
      have refused : Json.Mode.inside.next c = none := if_pos (Nat.lt_of_not_le high)
      rw [ssidEscape, if_neg plain, Json.scan_cons, refused, Option.bind_none, Option.bind_none]

/-- A scan of networks ends at a control character. -/
theorem scan_texts {nets : List NetInfo} (control : ¬∀ net ∈ nets, net.Printable) (i : Nat) :
    Json.scan .outside (texts i nets) = none := by
  induction nets generalizing i with
  | nil => exact absurd (fun _ member => absurd member List.not_mem_nil) control
  | cons net nets previous =>
    have comma : Json.scan .outside (if i > 0 then [','] else []) = some .outside := by
      split <;> rfl
    rw [texts, Json.scan_append, comma, Option.bind_some, Json.scan_append]
    by_cases printable : net.Printable
    · have derived := Json.derives_write .upper net.toJson
      rw [text_eq printable, derived.scan, Option.bind_some]
      refine previous (fun rest => control ?_) (i + 1)
      rw [List.forall_mem_cons]
      exact ⟨printable, rest⟩
    · have opening : Json.scan .outside ['{', '"', 's', 's', 'i', 'd', '"', ':', '"'] =
          some .inside := rfl
      rw [text, Json.scan_append, opening, Option.bind_some, Json.scan_append,
        scan_ssid printable, Option.bind_none, Option.bind_none]

/-- The listing is a JSON text just when no SSID has a control character. -/
theorem isText_listing {nets : List NetInfo} :
    IsText (listing nets) ↔ ∀ net ∈ nets, net.Printable := by
  constructor
  · intro isText
    by_contra control
    have outside := isText.scan
    rw [listing, Json.scan_cons] at outside
    have bracket : Json.Mode.outside.next '[' = some .outside := rfl
    rw [bracket, Option.bind_some, Json.scan_append, scan_texts control 0] at outside
    cases outside
  · intro printable
    rw [listing_eq printable]
    exact Json.isText_write .upper _

end NetInfo

/-! ## Results -/

open NetInfo in
/-- The setup page reads the longest prefix of the cache that fits, just when no SSID in it has a
control character. -/
theorem Portal.scanHandler_reads_iff (portal : Portal) :
    (IsText portal.scanHandler.2.chars ∧ ∃ kept, IsLongest portal.scanCache.val kept ∧
      Json.read portal.scanHandler.2.chars = some (.arr (kept.map toJson))) ↔
    ∀ kept, IsLongest portal.scanCache.val kept → ∀ net ∈ kept, net.Printable := by
  obtain ⟨kept, longest, chars⟩ := exists_scanHandler portal
  rw [chars]
  constructor
  · rintro ⟨isText, _⟩ other otherLongest
    rw [otherLongest.unique longest]
    exact isText_listing.mp isText
  · intro printable
    have here := printable kept longest
    refine ⟨isText_listing.mpr here, kept, longest, ?_⟩
    rw [listing_eq here]
    exact Json.read_write .upper _

/-- A network whose name has a line break. -/
def brokenNet : NetInfo := ⟨⟨"a\nb", by decide⟩, -50, true⟩

/-- One network with a line break in its name leaves the setup page without a list. -/
theorem brokenNet_unreadable :
    ¬IsText (Portal.scanHandler ⟨⟨[brokenNet], by decide⟩, false⟩).2.chars := by
  obtain ⟨kept, longest, chars⟩ := NetInfo.exists_scanHandler ⟨⟨[brokenNet], by decide⟩, false⟩
  rw [chars, NetInfo.isText_listing]
  intro printable
  have whole : [brokenNet].length ≤ kept.length :=
    longest.longest [brokenNet] List.prefix_rfl (by decide)
  have same : kept = [brokenNet] :=
    longest.isPrefix.eq_of_length (Nat.le_antisymm longest.isPrefix.length_le whole)
  rw [same, List.forall_mem_singleton] at printable
  have listed : '\n' ∈ "a\nb".toList := by simp
  have low := printable '\n' listed
  revert low
  decide

end Zugli
