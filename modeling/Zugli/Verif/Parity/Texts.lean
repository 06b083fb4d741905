import Zugli.Verif.Parity.Pixels

/-!
# The texts of both renderers

Each text that the firmware writes for an element, the page writes as the same characters in its
own encoding: a name without its city, the minutes of a departure, a clock and a date.
-/

namespace Zugli

namespace Parity

/-- A split text is its two parts around a comma and a space. -/
theorem splitOnce_eq {text before after : List Char}
    (splits : splitOnce text = some (before, after)) : text = before ++ ',' :: ' ' :: after := by
  fun_induction splitOnce text generalizing before after with
  | case1 rest => simp_all
  | case2 char rest other previous =>
    obtain ⟨⟨before', after'⟩, splits', same⟩ := Option.map_eq_some_iff.mp splits
    obtain ⟨rfl, rfl⟩ := Prod.mk.inj same
    rw [previous splits', List.cons_append]
  | case3 => simp at splits

/-- An encoded text starts with a comma and a space when the text does. -/
theorem commaSpace_prefix {text : List Char} (starts : Web.commaSpace <+: Utf16.encode text) :
    ∃ rest, text = ',' :: ' ' :: rest := by
  obtain ⟨units, coded⟩ := starts
  obtain ⟨comma, rest, rfl, commaValue, follows⟩ :=
    Utf16.encode_eq_cons (by decide) coded.symm
  obtain ⟨space, rest', rfl, spaceValue, -⟩ := Utf16.encode_eq_cons (by decide) follows
  have isComma : comma = ',' := Char.toNat_inj.mp commaValue
  have isSpace : space = ' ' := Char.toNat_inj.mp spaceValue
  exact ⟨rest', by rw [isComma, isSpace]⟩

/-- Searching an encoded text for a comma and a space is splitting its characters there. -/
theorem indexOf_commaSpace (text : List Char) :
    Utf16.indexOf Web.commaSpace (Utf16.encode text) =
      (splitOnce text).map fun (before, _) => (Utf16.encode before).length := by
  fun_induction splitOnce text with
  | case1 rest => rfl
  | case2 char rest other previous =>
    have elsewhere : ¬Web.commaSpace <+: Utf16.encode (char :: rest) := by
      intro starts
      obtain ⟨rest', split⟩ := commaSpace_prefix starts
      obtain ⟨isComma, follows⟩ := List.cons.inj split
      exact other rest' isComma follows
    rw [Web.commaSpace, Utf16.indexOf_skip (by decide) elsewhere, ← Web.commaSpace, previous]
    cases splitOnce rest with
    | none => rfl
    | some parts => simp [Nat.add_comm]
  | case3 => rfl

/-- Both sides strip a city alike. -/
theorem city_encode (canvas : Canvas) (name : List Char) :
    Web.city (Utf16.encode name) canvas.stripCity = Utf16.encode (canvas.city name) := by
  unfold Web.city Canvas.city
  rw [indexOf_commaSpace]
  split
  · cases splits : splitOnce name with
    | none => rfl
    | some parts =>
      obtain ⟨before, after⟩ := parts
      have whole : Utf16.encode name = Utf16.encode before ++ 0x2C :: 0x20 :: Utf16.encode after := by
        rw [splitOnce_eq splits, Utf16.encode_append]
        rfl
      have past : (Utf16.encode name).drop ((Utf16.encode before).length + 2) =
          Utf16.encode after := by
        rw [whole, List.drop_append]
        simp
      have room : (Utf16.encode before).length + 2 < (Utf16.encode name).length ↔
          after.isEmpty = false := by
        rw [whole, List.isEmpty_eq_false_iff, ← Utf16.encode_length_pos]
        simp only [List.length_append, List.length_cons]
        omega
      simp only [Option.map_some, past, room]
      cases after.isEmpty <;> rfl
  · rfl

/-- A name without its city is the end of the name. -/
theorem city_suffix (canvas : Canvas) (name : List Char) : canvas.city name <:+ name := by
  unfold Canvas.city
  split
  · split
    next parts before after splits =>
      split
      · exact List.suffix_rfl
      · exact ⟨before ++ [',', ' '], by rw [splitOnce_eq splits]; simp⟩
    next => exact List.suffix_rfl
  · exact List.suffix_rfl

/-- Pieces that fit are written one after another. -/
theorem writeInto_fits {capacity : Nat} {pieces : List (List Char)} {written : List Char}
    (fits : written.length + pieces.flatten.length ≤ capacity) :
    writeInto capacity pieces written = written ++ pieces.flatten := by
  induction pieces generalizing written with
  | nil => simp [writeInto]
  | cons piece rest previous =>
    rw [List.flatten_cons, List.length_append] at fits
    rw [writeInto, if_pos (by omega), previous (by rw [List.length_append]; omega),
      List.flatten_cons, List.append_assoc]

/-- A number below a power of ten has at most so many digits. -/
theorem toDigits_length {value count : Nat} (positive : 0 < count) (small : value < 10 ^ count) :
    (Nat.toDigits 10 value).length ≤ count :=
  (Nat.length_toDigits_le_iff (by decide) positive).mpr small

/-- Both sides pad a number to two digits alike. -/
theorem pad2_encode (n : Nat) : Web.pad2 n = Utf16.encode (twoDigits n) := by
  have zeros (count : Nat) : Utf16.encode (List.replicate count '0') = List.replicate count 0x30 := by
    induction count with
    | zero => rfl
    | succ count previous => rw [List.replicate_succ, Utf16.encode_cons, previous]; rfl
  have length : (Js.numberToString n).length = (Nat.toDigits 10 n).length := by
    rw [Js.numberToString_natCast, Js.encode_toDigits, List.length_map]
  rw [Web.pad2, Js.padStart, length, twoDigits, Utf16.encode_append, zeros,
    Js.numberToString_natCast]

/-- Both sides write a signed number alike. -/
theorem signedDigits_encode (n : Int) :
    Js.numberToString n = Utf16.encode (signedDigits n).flatten := by
  unfold Js.numberToString signedDigits
  split <;> simp

/-- Two digits of a number below a hundred. -/
theorem twoDigits_length {n : Nat} (small : n < 100) : (twoDigits n).length = 2 := by
  have short : (Nat.toDigits 10 n).length ≤ 2 := toDigits_length (by decide) (by omega)
  rw [twoDigits, List.length_append, List.length_replicate]
  omega

/-- The digits of a number are printable. -/
theorem printable_toDigits {n : Nat} : ∀ char ∈ Nat.toDigits 10 n, Printable char := by
  intro char member
  have digit : char.isDigit = true := Nat.isDigit_of_mem_toDigits (by decide) (by decide) member
  simp only [Char.isDigit, Bool.and_eq_true, decide_eq_true_eq] at digit
  have lower : '0'.toNat ≤ char.toNat := digit.1
  have upper : char.toNat ≤ '9'.toNat := digit.2
  have zero : '0'.toNat = 48 := rfl
  have nine : '9'.toNat = 57 := rfl
  unfold Printable
  omega

/-- Padded digits are printable. -/
theorem printable_twoDigits {n : Nat} : ∀ char ∈ twoDigits n, Printable char := by
  intro char member
  rcases List.mem_append.mp member with zero | digit
  · rw [List.eq_of_mem_replicate zero]
    decide
  · exact printable_toDigits char digit

/-- A text of at most so many printable characters and the page's string for it. -/
structure Written (limit : Nat) (text : List Char) (units : Js.Str) : Prop where
  /-- It is printable. -/
  printable : ∀ char ∈ text, Printable char
  /-- It is short. -/
  short : text.length ≤ limit
  /-- The page has the same text. -/
  coded : units = Utf16.encode text

/-- A literal and the page's string for it. -/
theorem Written.literal {limit : Nat} {text : List Char} {units : Js.Str}
    (checked : (text.all fun char => decide (Printable char)) = true)
    (short : text.length ≤ limit) (coded : units = Utf16.encode text) : Written limit text units :=
  ⟨printable_of_all checked, short, coded⟩

/-- Texts written one after the other. -/
theorem Written.append {limit limit' : Nat} {text text' : List Char} {units units' : Js.Str}
    (first : Written limit text units) (second : Written limit' text' units') :
    Written (limit + limit') (text ++ text') (units ++ units') where
  printable char member :=
    (List.mem_append.mp member).elim (first.printable char) (second.printable char)
  short := by
    rw [List.length_append]
    exact Nat.add_le_add first.short second.short
  coded := by rw [first.coded, second.coded, Utf16.encode_append]

/-- A text is also within a larger limit. -/
theorem Written.weaken {limit limit' : Nat} {text : List Char} {units : Js.Str}
    (text' : Written limit text units) (wider : limit ≤ limit') : Written limit' text units :=
  { text' with short := Nat.le_trans text'.short wider }

/-- A number without padding. -/
theorem written_decimal {n : Nat} (small : n < 100) :
    Written 2 (Nat.toDigits 10 n) (Js.numberToString n) where
  printable := printable_toDigits
  short := toDigits_length (by decide) (by omega)
  coded := Js.numberToString_natCast n

/-- A number padded to two digits. -/
theorem written_twoDigits {n : Nat} (small : n < 100) :
    Written 2 (twoDigits n) (Web.pad2 n) where
  printable := printable_twoDigits
  short := Nat.le_of_eq (twoDigits_length small)
  coded := pad2_encode n

/-- The colon of a clock. -/
theorem written_colon : Written 1 [':'] [0x3A] :=
  .literal (by decide) (by decide) (by decide)

/-- The point of a date. -/
theorem written_point : Written 1 ['.'] [0x2E] :=
  .literal (by decide) (by decide) (by decide)

/-- A year. -/
theorem written_year {year : Int} (bounds : -271821 ≤ year ∧ year ≤ 275760) :
    Written 7 (signedDigits year).flatten (Js.numberToString year) := by
  have short : (Nat.toDigits 10 year.natAbs).length ≤ 6 := toDigits_length (by decide) (by omega)
  have coded := signedDigits_encode year
  unfold signedDigits at coded ⊢
  split at coded
  next negative =>
    rw [if_pos negative]
    refine ⟨?_, ?_, coded⟩
    · intro char member
      simp only [List.singleton_append, List.flatten_cons, List.flatten_nil, List.append_nil,
        List.mem_cons] at member
      rcases member with rfl | digit
      · decide
      · exact printable_toDigits char digit
    · simp
      omega
  next natural =>
    rw [if_neg natural]
    refine ⟨?_, ?_, coded⟩
    · simpa using printable_toDigits
    · simp
      omega

/-- A string of a departure or of a layout. -/
theorem written_string {capacity : Nat} {value : HString capacity} {units : Js.Str}
    (small : capacity ≤ 64) (printable : ∀ char ∈ value.chars, Printable char)
    (coded : units = Utf16.encode value.chars) : Written 64 value.chars units :=
  ⟨printable, Nat.le_trans value.length_chars_le small, coded⟩

/-- A name without its city. -/
theorem written_city (canvas : Canvas) {limit : Nat} {name : List Char} {units : Js.Str}
    (text : Written limit name units) :
    Written limit (canvas.city name) (Web.city units canvas.stripCity) where
  printable char member := text.printable char ((city_suffix canvas name).subset member)
  short := Nat.le_trans (city_suffix canvas name).length_le text.short
  coded := by rw [text.coded, city_encode]

/-- The minutes of a departure on the page denote those of the firmware. -/
def DenotesMinutes (value : Js.Value) : Option UInt16 → Prop
  | none => value = .undefined ∨ value = .null
  | some minutes => value = .number minutes.toNat

/-- A number of minutes is zero on the page exactly when it is. -/
theorem minutes_eq_zero (minutes : UInt16) : (minutes.toNat : Int) = 0 ↔ minutes = 0 := by
  rw [← UInt16.toNat_inj, UInt16.toNat_zero]
  omega

/-- A departure leaves now on the page exactly when it does. -/
theorem DenotesMinutes.now_iff {value : Js.Value} {minutes : Option UInt16}
    (denotes : DenotesMinutes value minutes) : value = .number 0 ↔ minutes = some 0 := by
  cases minutes with
  | none => rcases denotes with rfl | rfl <;> simp
  | some count =>
    have held : value = .number count.toNat := denotes
    rw [held, Js.Value.number.injEq, minutes_eq_zero, Option.some.injEq]

/-- The minutes of a departure. -/
theorem written_minutes {value : Js.Value} {minutes : Option UInt16}
    (denotes : DenotesMinutes value minutes) :
    Written 6 (fmtMinutes minutes) (Web.fmtMinutes value) := by
  cases minutes with
  | none =>
    have dashes : Written 6 "--".toList (Utf16.encode "--".toList) :=
      .literal (by decide) (by decide) rfl
    rcases denotes with rfl | rfl <;> exact dashes
  | some minutes =>
    have held : value = .number minutes.toNat := denotes
    have bound := minutes.toNat_lt
    have short : (Nat.toDigits 10 minutes.toNat).length ≤ 5 := toDigits_length (by decide) (by omega)
    simp only [held, Web.fmtMinutes, fmtMinutes, minutes_eq_zero]
    split
    · exact .literal (by decide) (by decide) rfl
    · have number : Written 5 (Nat.toDigits 10 minutes.toNat) (Js.numberToString minutes.toNat) :=
        ⟨printable_toDigits, short, Js.numberToString_natCast _⟩
      have quote : Written 1 "'".toList [0x27] := .literal (by decide) (by decide) rfl
      rw [writeInto_fits (by simp; omega)]
      simpa using number.append quote

/-- The local parts of a date of the page. -/
def dateParts (date : Web.Date) : Int × Nat × Nat × Nat × Nat :=
  (date.fullYear, date.month + 1, date.date, date.hours, date.minutes)

/-- Both sides write the text of a clock alike. -/
theorem written_clock (date : Web.Date) (f : UInt8) :
    Written 16 (clockFormat f (dateParts date)).flatten
      (if f = 1 then Js.numberToString date.hours ++ [0x3A] ++ Web.pad2 date.minutes
        else Web.pad2 date.hours ++ [0x3A] ++ Web.pad2 date.minutes) := by
  have hours := date.hoursBound
  have minutes := written_twoDigits (by have := date.minutesBound; omega : date.minutes < 100)
  by_cases compact : f = 1
  · have text := ((written_decimal (by omega : date.hours < 100)).append written_colon).append minutes
    exact Written.weaken (by simpa [clockFormat, dateParts, compact] using text) (by decide)
  · have text :=
      ((written_twoDigits (by omega : date.hours < 100)).append written_colon).append minutes
    exact Written.weaken (by simpa [clockFormat, dateParts, compact] using text) (by decide)

/-- Both sides write the text of a date alike. -/
theorem written_date (date : Web.Date) (f : UInt8) :
    Written 16 (dateFormat f (dateParts date)).flatten
      (if f = 1 then
        Web.pad2 date.date ++ [0x2E] ++ Web.pad2 (date.month + 1) ++ [0x2E] ++
          Js.numberToString date.fullYear
      else Web.pad2 date.date ++ [0x2E] ++ Web.pad2 (date.month + 1) ++ [0x2E]) := by
  have days := date.dateBound
  have months := date.monthBound
  have short := (((written_twoDigits (by omega : date.date < 100)).append written_point).append
    (written_twoDigits (by omega : date.month + 1 < 100))).append written_point
  by_cases long : f = 1
  · have text := short.append (written_year date.yearBounds)
    exact Written.weaken (by simpa [dateFormat, dateParts, long] using text) (by decide)
  · exact Written.weaken (by simpa [dateFormat, dateParts, long] using short) (by decide)

/-- The local time of the firmware is that of a date of the page. -/
def SameTime (canvas : Canvas) (date : Web.Date) : Prop :=
  ∃ unix, canvas.nowUnix = some unix ∧ localParts unix = dateParts date

end Parity

end Zugli
