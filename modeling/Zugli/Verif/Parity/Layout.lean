import Zugli.Verif.Elements
import Zugli.Verif.Parity.Texts

/-!
# The simulator shows what the panel shows

Both renderers draw an element that is the same on both sides alike, on top of what is already
there, and so a whole layout.
-/

namespace Zugli

namespace Parity

/-! ## Elements -/

/-- Bytes are equal exactly when their numbers are. -/
theorem byte_eq_iff (field value : UInt8) :
    (field.toNat : Int) = (value.toNat : Int) ↔ field = value := by
  rw [← UInt8.toNat_inj]
  omega

/-- A byte's number is zero exactly when it is. -/
theorem byte_eq_zero (field : UInt8) : (field.toNat : Int) = 0 ↔ field = 0 := byte_eq_iff field 0

/-- A byte's number is one exactly when it is. -/
theorem byte_eq_one (field : UInt8) : (field.toNat : Int) = 1 ↔ field = 1 := byte_eq_iff field 1

/-- A byte's number is two exactly when it is. -/
theorem byte_eq_two (field : UInt8) : (field.toNat : Int) = 2 ↔ field = 2 := byte_eq_iff field 2

namespace Represents

variable {page : Web.Element} {el : Element} (represents : Represents page el)

include represents

/-- The scales are clamped alike. -/
theorem scale : page.scale = el.scale := by
  have held : page.k.orElse 1 = (el.k.toNat : Int) := represents.k.orElse
  unfold Web.Element.scale Element.scale Web.clampInt
  rw [held]
  split
  · rw [Js.toInt32_of_bounds (by omega) (by omega)]
    omega
  · split <;> rw [Js.toInt32_of_bounds (by omega) (by omega)] <;> omega

/-- The colours resolve alike. -/
theorem color : Web.elemColor page = (elemColor el).pack := by
  have custom := represents.col
  have preset := represents.c.toInt32
  have accent : Color.accent.pack = Web.accent := by decide
  have dim : Color.dim.pack = Web.dim := by decide
  have amber : Color.amber.pack = Web.amber := by decide
  unfold Web.elemColor elemColor
  cases col : el.col with
  | some rgb =>
    rw [col] at custom
    have word : Js.toUint32 rgb.toNat = rgb := by
      have bound := rgb.toNat_lt
      apply UInt32.toNat_inj.mp
      rw [Js.toUint32, UInt32.toNat_ofNat']
      omega
    simp only [show page.col = .number rgb.toNat from custom, Color.pack_bytes, word]
  | none =>
    rw [col] at custom
    rcases custom with held | held
    all_goals
      simp only [held, preset, byte_eq_one, byte_eq_two, apply_ite Color.pack, accent, dim, amber]

/-- The fonts are chosen alike. -/
theorem font (fonts : Web.FontTable) :
    Web.fontFor fonts page.s.toInt32 = pageFont fonts (fontFor el.s) := by
  simp only [Web.fontFor, fontFor, represents.s.toInt32, byte_eq_one]
  split <;> rfl

end Represents

/-- Both sides scroll a marquee alike. -/
theorem marquee_offset {period : Int} (positive : 0 ≤ period) (frame : UInt32) :
    max 0 ((frame.toNat : Int) % (Web.holdFrames + period) - Web.holdFrames) =
      marqueeOffset period frame := by
  obtain ⟨count, rfl⟩ := Int.eq_ofNat_of_zero_le positive
  simp only [marqueeOffset, Web.holdFrames, holdFrames, Int.toNat_natCast]
  have phase : (frame.toNat : Int) % (100 + (count : Int)) = (frame.toNat % (100 + count) : Nat) := by
    push_cast
    rfl
  rw [phase]
  omega

/-- A marquee scrolls through one period. -/
theorem marqueeOffset_bounds {period : Int} (positive : 0 ≤ period) (frame : UInt32) :
    0 ≤ marqueeOffset period frame ∧ marqueeOffset period frame ≤ period := by
  have phase : frame.toNat % (holdFrames + period.toNat) < holdFrames + period.toNat :=
    Nat.mod_lt _ (by simp [holdFrames])
  simp only [marqueeOffset, holdFrames] at phase ⊢
  omega

/-- A text of limited length is of limited width. -/
theorem textWidth_bounds {count : Nat} {font : MonoFont} {k : Nat} (short : count ≤ 64)
    (small : k ≤ 3) : 0 ≤ (count : Int) * font.width * k ∧ (count : Int) * font.width * k ≤ 1152 := by
  have scaled : count * k ≤ 64 * 3 := Nat.mul_le_mul short small
  have exchanged : (count : Int) * font.width * k = ((count * k : Nat) : Int) * font.width := by
    push_cast
    ring
  rw [exchanged]
  cases font <;> simp only [MonoFont.width] <;> omega

/-- A framebuffer with its animating flag and a grid with its own agree. -/
def ShowsBoth (drawn : FrameBuffer × Bool) (rendered : Web.Grid × Bool) : Prop :=
  Shows drawn.1 rendered.1 ∧ drawn.2 = rendered.2

section Elements

variable {canvas : Canvas} (full : canvas.brightness = 100) {fonts : Web.FontTable}
  (fontsMatch : FontsMatch canvas.textLit fonts) {fb : FrameBuffer} {grid : Web.Grid}
  (shown : Shows fb grid) {page : Web.Element} {el : Element} (represents : Represents page el)

include full shown

/-- Both sides blit a bitmap alike. -/
theorem shows_bitmap (glyph : Bitmap) {x y : Int} {k : Nat} (scale : k ≤ 3)
    (nearX : -5000 ≤ x ∧ x ≤ 5000) (nearY : -5000 ≤ y ∧ y ≤ 5000)
    (size : glyph.length ≤ 20 ∧ ∀ row ∈ glyph, row.length ≤ 20) (color : Color) :
    Shows (canvas.blitBitmap fb glyph x y k color) (Web.blitBitmap grid glyph x y k color.pack) := by
  unfold Canvas.blitBitmap Web.blitBitmap
  refine forRange_related _ shown fun gy below fb grid shown => ?_
  have wide : (glyph.getD gy []).length ≤ 20 := by
    rw [List.getD_eq_getElem?_getD, List.getElem?_eq_getElem below]
    exact size.2 _ (List.getElem_mem below)
  refine forRange_related _ shown fun gx beside fb grid shown => ?_
  have acrossBound : gx * k ≤ 20 * 3 := Nat.mul_le_mul (by omega) scale
  have downBound : gy * k ≤ 20 * 3 := Nat.mul_le_mul (by omega) scale
  split
  · have drawn := shows_cell full shown sameClip_unbounded scale (x := x + (gx * k : Nat))
      (y := y + (gy * k : Nat)) (by omega) (by omega) color
    simpa [pageCell, Web.Clip.startsAt, Web.Clip.stopsAfter] using drawn
  · exact shown

include represents

/-- Both sides draw a divider alike. -/
theorem shows_divider :
    Shows (canvas.drawDivider fb el) (Web.drawDivider grid page) := by
  have boundX := el.x.toNat_lt
  have boundY := el.y.toNat_lt
  have boundW := el.w.toNat_lt
  have boxed : (0 : Int) < el.w.toNat ↔ 0 < el.w := by
    rw [UInt8.lt_iff_toNat_lt, UInt8.toNat_zero]
    omega
  have held : page.th.orElse 1 = (el.th.toNat : Int) := represents.th.orElse
  have thickness : Web.clampInt (page.th.orElse 1) 1 2 = (max 1 (min el.th.toNat 2) : Nat) := by
    unfold Web.clampInt
    rw [held]
    split
    · rw [Js.toInt32_of_bounds (by omega) (by omega)]
      omega
    · split <;> rw [Js.toInt32_of_bounds (by omega) (by omega)] <;> omega
  unfold Canvas.drawDivider Web.drawDivider
  simp only [represents.x.toInt32, represents.y.toInt32, represents.w.toInt32, boxed, thickness,
    represents.color]
  have edge : Web.panelCols = (cols : Int) := rfl
  rw [edge]
  obtain ⟨len, named, bounds⟩ : ∃ len : Int,
      (if 0 < el.w then (el.w.toNat : Int) else (cols : Int) - el.x.toNat) = len ∧
        -300 ≤ len ∧ len ≤ 300 :=
    ⟨_, rfl, by unfold cols; split <;> omega, by unfold cols; split <;> omega⟩
  rw [named]
  exact shows_fillRect full shown (by unfold Small; omega) (by unfold Small; omega)
    (by unfold Small; omega) (by unfold Small; omega) _

/-- Both sides draw an icon alike. -/
theorem shows_icon : Shows (canvas.drawIcon fb el) (Web.drawIcon grid page) := by
  have boundX := el.x.toNat_lt
  have boundY := el.y.toNat_lt
  have small := el.scale_bounds.2
  unfold Canvas.drawIcon Web.drawIcon
  simp only [represents.x.toInt32, represents.y.toInt32, represents.g.toInt32, byte_eq_one,
    byte_eq_two, represents.scale, represents.color]
  split
  · exact shows_bitmap full shown zGlyph small (by omega) (by omega) (by decide) _
  · split
    · exact shows_bitmap full shown arrowGlyph small (by omega) (by omega) (by decide) _
    · exact shows_bitmap full shown trainGlyph small (by omega) (by omega) (by decide) _

omit represents

include fontsMatch

/-- Both sides draw a text of limited length alike. -/
theorem shows_blit {band : Band} {clip : Web.Clip} (same : SameClip band clip) {x y : Int}
    {style : GlyphStyle} (scale : style.k ≤ 3) (nearX : -5000 ≤ x ∧ x ≤ 5000)
    (nearY : -5000 ≤ y ∧ y ≤ 5000) {text : List Char} (short : text.length ≤ 64)
    (printable : ∀ char ∈ text, Printable char) :
    Shows (canvas.blitScaledText y style band text x fb)
      (Web.blitScaledText grid (Utf16.encode text) x y (pageFont fonts style.font) style.k
        style.color.pack clip) := by
  rw [Web.blitScaledText, Utf16.codePoints_encode]
  exact shows_text full fontsMatch same scale (by omega) printable (by omega) (by omega) shown

include represents

/-- Both sides place a text alike. -/
theorem shows_place {text : List Char} {units : Js.Str} (written : Written 64 text units)
    (allowMarquee : Bool) (frame : UInt32) :
    ShowsBoth (canvas.placeText fb text el allowMarquee frame)
      (Web.placeText fonts grid units page allowMarquee frame.toNat) := by
  obtain ⟨printable, short, rfl⟩ := written
  have boundX := el.x.toNat_lt
  have boundY := el.y.toNat_lt
  have boundW := el.w.toNat_lt
  have small := el.scale_bounds.2
  have advance : ((pageFont fonts (fontFor el.s)).adv : Int) = (fontFor el.s).width := by
    cases fontFor el.s <;> rfl
  unfold Web.placeText Canvas.placeText
  simp only [represents.font, represents.scale, represents.color, represents.x.toInt32,
    represents.y.toInt32, represents.w.toInt32, represents.a.toInt32, Web.cpLen,
    Utf16.codePoints_encode_length, advance, charCount]
  have boxed : (0 : Int) < el.w.toNat ↔ 0 < el.w := by
    rw [UInt8.lt_iff_toNat_lt, UInt8.toNat_zero]
    omega
  simp only [boxed, byte_eq_one, byte_eq_two]
  obtain ⟨textW, named, wide, narrow⟩ : ∃ textW : Int,
      text.length * (fontFor el.s).width * el.scale = textW ∧ 0 ≤ textW ∧ textW ≤ 1152 :=
    ⟨_, rfl, textWidth_bounds short small⟩
  obtain ⟨avail, room, availBounds⟩ : ∃ avail : Int,
      (if 0 < el.w then (el.w.toNat : Int) else textW) = avail ∧ 0 ≤ avail ∧ avail ≤ 1152 :=
    ⟨_, rfl, by split <;> omega, by split <;> omega⟩
  simp only [named, room]
  by_cases still : (decide (textW ≤ avail) || !allowMarquee) = true
  · rw [if_pos still, if_pos still]
    have halved (fits : textW ≤ avail) :
        Js.toInt32 (avail - textW) >>> (1 : Nat) = (avail - textW) / 2 ∧
          (avail - textW).tdiv 2 = (avail - textW) / 2 := by
      rw [Js.toInt32_of_bounds (by omega) (by omega), Int.shiftRight_eq_div_pow]
      exact ⟨rfl, Int.tdiv_eq_ediv_of_nonneg (by omega)⟩
    obtain ⟨off, page', panel', offBounds⟩ : ∃ off : Int,
        (if decide (textW ≤ avail) = true then
          if el.a = 1 then Js.toInt32 (avail - textW) >>> (1 : Nat)
          else if el.a = 2 then avail - textW else 0
        else 0) = off ∧
        (if decide (textW ≤ avail) = true then
          if el.a = 1 then (avail - textW).tdiv 2 else if el.a = 2 then avail - textW else 0
        else 0) = off ∧ 0 ≤ off ∧ off ≤ 1152 := by
      by_cases fits : textW ≤ avail
      · simp only [fits, decide_true, if_true]
        rw [(halved fits).1, (halved fits).2]
        refine ⟨_, rfl, rfl, ?_, ?_⟩ <;> split_ifs <;> omega
      · exact ⟨0, by simp [fits], by simp [fits], by omega, by omega⟩
    rw [page', panel']
    refine ⟨?_, rfl⟩
    split
    · exact shows_blit full fontsMatch shown (sameClip_box _ _) small (by omega) (by omega) short
        printable
    · exact shows_blit full fontsMatch shown sameClip_unbounded small (by omega) (by omega) short
        printable
  · rw [if_neg still, if_neg still]
    have gap : Web.marqueeGap = 14 := rfl
    have gap' : marqueeGap = 14 := rfl
    have scrolled := marqueeOffset_bounds (by omega : 0 ≤ textW + 14) frame
    rw [gap, gap', marquee_offset (by omega) frame]
    refine ⟨?_, rfl⟩
    refine shows_blit full fontsMatch ?_ (sameClip_box _ _) small (by omega) (by omega) short
      printable
    exact shows_blit full fontsMatch shown (sameClip_box _ _) small (by omega) (by omega) short
      printable

/-- Both sides draw a line badge alike. -/
theorem shows_badge {line : List Char} {units : Js.Str} (written : Written 64 line units)
    (color : Color) :
    Shows (canvas.drawBadgeScaled fb line el color)
      (Web.drawBadge fonts grid units page.x.toInt32 page.y.toInt32 color.pack page.scale) := by
  obtain ⟨printable, short, rfl⟩ := written
  have boundX := el.x.toNat_lt
  have boundY := el.y.toNat_lt
  have small := el.scale_bounds.2
  have width : 0 ≤ ((line.length : Int) * 6 + 5) * el.scale ∧
      ((line.length : Int) * 6 + 5) * el.scale ≤ 1200 := by
    have bound : (line.length * 6 + 5) * el.scale ≤ 389 * 3 := Nat.mul_le_mul (by omega) small
    have cast : ((line.length : Int) * 6 + 5) * el.scale =
        ((line.length * 6 + 5) * el.scale : Nat) := by
      push_cast
      rfl
    omega
  have unlit : Color.off.pack = Web.off := by decide
  unfold Canvas.drawBadgeScaled Web.drawBadge
  simp only [represents.scale, represents.x.toInt32, represents.y.toInt32, Web.cpLen,
    Utf16.codePoints_encode_length, charCount, ← unlit]
  have filled := shows_fillRect full shown (x := el.x.toNat) (y := el.y.toNat)
    (w := ((line.length : Int) * 6 + 5) * el.scale) (h := 11 * el.scale) (by unfold Small; omega)
    (by unfold Small; omega) (by unfold Small; omega) (by unfold Small; omega) color
  exact shows_blit full fontsMatch filled sameClip_unbounded small (by omega) (by omega) short
    printable

/-- Both sides draw the local time alike. -/
theorem shows_localTime {format : Int × Nat × Nat × Nat × Nat → List (List Char)} {date : Web.Date}
    {units : Js.Str} (text : Written 16 (format (dateParts date)).flatten units)
    (same : SameTime canvas date) :
    ShowsBoth (canvas.drawLocalTimeText fb el format)
      (Web.placeText fonts grid units page false 0) := by
  obtain ⟨unix, synced, parts⟩ := same
  have fits := @writeInto_fits 16 (format (dateParts date)) [] (by simpa using text.short)
  simp only [Canvas.drawLocalTimeText, synced, parts]
  rw [fits, List.nil_append]
  exact shows_place full fontsMatch shown represents (text.weaken (by decide)) false 0

end Elements

/-! ## Whole layouts -/

/-- A departure of the page and one of the firmware are the same. -/
structure RepresentsDeparture (page : Web.Departure) (dep : Departure) : Prop where
  /-- The lines agree. -/
  line : page.line = Utf16.encode dep.line.chars
  /-- The destinations agree. -/
  destination : page.destination = Utf16.encode dep.destination.chars
  /-- The minutes agree. -/
  minutes : DenotesMinutes page.minutes dep.minutes

/-- The page draws with what the firmware draws with, at full brightness. -/
structure SameContext (canvas : Canvas) (ctx : Web.Context) (station : HString 64)
    (deps : List Departure) (frame : UInt32) : Prop where
  /-- The firmware draws at full brightness. -/
  full : canvas.brightness = 100
  /-- The departures agree. -/
  deps : List.Forall₂ RepresentsDeparture ctx.deps deps
  /-- The station names agree. -/
  station : ctx.station = Utf16.encode station.chars
  /-- The settings of the city agree. -/
  stripCity : ctx.stripCity = canvas.stripCity
  /-- The settings of the badges agree. -/
  lineBadges : ctx.showLineBadges = canvas.lineBadges
  /-- The frames agree. -/
  frame : ctx.frame = frame.toNat
  /-- The clock has synced to the page's local time. -/
  time : SameTime canvas ctx.now

/-- Every text a layout is drawn from is printable. -/
structure PrintableTexts (layout : Layout) (station : HString 64) (deps : List Departure) : Prop where
  /-- The texts of its elements. -/
  literals : ∀ el ∈ layout.e.val, ∀ char ∈ el.v.chars, Printable char
  /-- The station. -/
  station : ∀ char ∈ station.chars, Printable char
  /-- The lines. -/
  lines : ∀ dep ∈ deps, ∀ char ∈ dep.line.chars, Printable char
  /-- The destinations. -/
  destinations : ∀ dep ∈ deps, ∀ char ∈ dep.destination.chars, Printable char

/-- A slot holds the same departure on both sides, or none on either. -/
theorem slot_cases {pages : List Web.Departure} {deps : List Departure}
    (same : List.Forall₂ RepresentsDeparture pages deps) (slot : Nat) :
    (pages[slot]? = none ∧ deps[slot]? = none) ∨
      ∃ page dep, pages[slot]? = some page ∧ deps[slot]? = some dep ∧ dep ∈ deps ∧
        RepresentsDeparture page dep := by
  induction same generalizing slot with
  | nil => exact .inl ⟨rfl, rfl⟩
  | cons first rest previous =>
    cases slot with
    | zero => exact .inr ⟨_, _, rfl, rfl, List.mem_cons_self, first⟩
    | succ slot =>
      rcases previous slot with missing | ⟨page, dep, found, found', member, represents⟩
      · exact .inl missing
      · exact .inr ⟨page, dep, found, found', List.mem_cons_of_mem _ member, represents⟩

section Layouts

variable {canvas : Canvas} {fonts : Web.FontTable} (fontsMatch : FontsMatch canvas.textLit fonts)
  {ctx : Web.Context} {layout : Layout} {station : HString 64} {deps : List Departure}
  {frame : UInt32} (same : SameContext canvas ctx station deps frame)
  (printable : PrintableTexts layout station deps)

include fontsMatch same printable

/-- Both sides draw a departure field alike. -/
theorem shows_depField {fb : FrameBuffer} {grid : Web.Grid} (shown : Shows fb grid)
    {page : Web.Element} {el : Element} (represents : Represents page el) :
    ShowsBoth (canvas.drawDepField fb el deps frame) (Web.drawDepField fonts grid page ctx) := by
  have boundX := el.x.toNat_lt
  have boundY := el.y.toNat_lt
  have small := el.scale_bounds.2
  have slot : (Web.clampInt page.di.toInt32 0 2).toNat = min el.di.toNat 2 := by
    unfold Web.clampInt
    rw [represents.di.toInt32, if_neg (by omega)]
    split <;> rw [Js.toInt32_of_bounds (by omega) (by omega)] <;> omega
  unfold Canvas.drawDepField Web.drawDepField
  rw [slot, same.frame, same.stripCity, same.lineBadges]
  rcases slot_cases same.deps (min el.di.toNat 2) with ⟨absent, absent'⟩ | ⟨pageDep, dep, found,
    found', member, representsDep⟩
  · rw [absent, absent']
    exact ⟨shown, rfl⟩
  rw [found, found']
  have line := written_string (by decide) (printable.lines dep member) representsDep.line
  have destination := written_city canvas
    (written_string (by decide) (printable.destinations dep member) representsDep.destination)
  have minutes := written_minutes representsDep.minutes
  simp only [represents.fk.toInt32, represents.f.toInt32, ne_eq, byte_eq_zero, byte_eq_one,
    representsDep.minutes.now_iff, represents.color]
  split
  · split
    · exact ⟨shows_badge same.full fontsMatch shown represents line _, rfl⟩
    · exact shows_place same.full fontsMatch shown represents line true frame
  · split
    · exact shows_place same.full fontsMatch shown represents destination true frame
    · split
      · refine ⟨?_, rfl⟩
        rw [represents.x.toInt32, represents.y.toInt32, represents.scale]
        exact shows_bitmap same.full shown trainGlyph small (by omega) (by omega) (by decide) _
      · exact shows_place same.full fontsMatch shown represents (minutes.weaken (by decide)) true
          frame

/-- Both sides draw an element alike. -/
theorem shows_element {fb : FrameBuffer} {grid : Web.Grid} (shown : Shows fb grid)
    {page : Web.Element} {el : Element} (represents : Represents page el)
    (member : el ∈ layout.e.val) :
    ShowsBoth (canvas.drawElement fb station.chars deps frame el)
      (Web.drawElement fonts ctx grid page) := by
  have tag := represents.t.toInt32
  have literal := written_string (by decide) (printable.literals el member) represents.v
  have name := written_city canvas (written_string (by decide) printable.station same.station)
  have clock : ShowsBoth (canvas.drawClock fb el) (Web.drawClock fonts grid page ctx) := by
    simp only [Web.drawClock, represents.f.toInt32, byte_eq_one]
    exact shows_localTime same.full fontsMatch shown represents (written_clock ctx.now el.f)
      same.time
  have date : ShowsBoth (canvas.drawDate fb el) (Web.drawDate fonts grid page ctx) := by
    simp only [Web.drawDate, represents.f.toInt32, byte_eq_one]
    exact shows_localTime same.full fontsMatch shown represents (written_date ctx.now el.f)
      same.time
  unfold Canvas.drawElement Web.drawElement
  rw [tag, same.frame, same.stripCity]
  split
  next kind =>
    rw [kind]
    exact shows_place same.full fontsMatch shown represents literal true frame
  next kind =>
    rw [kind]
    exact shows_depField fontsMatch same printable shown represents
  next kind =>
    rw [kind]
    exact shows_place same.full fontsMatch shown represents name true frame
  next kind =>
    rw [kind]
    exact clock
  next kind =>
    rw [kind]
    exact date
  next kind =>
    rw [kind]
    exact ⟨shows_divider same.full shown represents, rfl⟩
  next kind =>
    rw [kind]
    exact ⟨shows_icon same.full shown represents, rfl⟩
  next =>
    split
    case h_8 => exact ⟨shown, rfl⟩
    all_goals
      simp only [← UInt8.toNat_inj, UInt8.reduceToNat, imp_false] at *
      omega

/-- Both sides draw a layout alike, pixel for pixel and with the same animating flag. -/
theorem shows_layout {pages : List Web.Element}
    (represents : List.Forall₂ Represents pages layout.e.val) :
    ShowsBoth (canvas.drawCustomLayout erased layout station.chars deps frame)
      (Web.renderLayout fonts pages ctx) := by
  have scan {pages : List Web.Element} {elements : List Element}
      (represents : List.Forall₂ Represents pages elements) (inside : elements ⊆ layout.e.val) :
      ∀ {drawn : FrameBuffer × Bool} {rendered : Web.Grid × Bool}, ShowsBoth drawn rendered →
        ShowsBoth
          (elements.foldl (fun (drawn : FrameBuffer × Bool) el =>
            ((canvas.drawElement drawn.1 station.chars deps frame el).1,
              drawn.2 || (canvas.drawElement drawn.1 station.chars deps frame el).2)) drawn)
          (pages.foldl (fun (rendered : Web.Grid × Bool) page =>
            ((Web.drawElement fonts ctx rendered.1 page).1,
              (Web.drawElement fonts ctx rendered.1 page).2 || rendered.2)) rendered) := by
    induction represents with
    | nil => exact fun both => both
    | cons first _ previous =>
      intro drawn rendered both
      have element := shows_element fontsMatch same printable both.1 first
        (inside List.mem_cons_self)
      refine previous (List.subset_of_cons_subset inside) ⟨element.1, ?_⟩
      dsimp only
      rw [element.2, both.2, Bool.or_comm]
  exact scan represents (List.Subset.refl _) ⟨shows_fresh, rfl⟩

/-- The page's simulator shows what the panel shows: every pixel of the grid holds the colour the
firmware draws at full brightness, and both sides agree on whether anything is animating. -/
theorem simulator_matches_panel {pages : List Web.Element}
    (represents : List.Forall₂ Represents pages layout.e.val) :
    (∀ row column, gridPixel (Web.renderLayout fonts pages ctx).1 row column =
      ((canvas.drawCustomLayout erased layout station.chars deps frame).1 row column).pack) ∧
    (Web.renderLayout fonts pages ctx).2 =
      (canvas.drawCustomLayout erased layout station.chars deps frame).2 :=
  have both := shows_layout fontsMatch same printable represents
  ⟨both.1, both.2.symm⟩

end Layouts

/-! ## A board of two elements -/

/-- A font table with the glyphs of a few characters. -/
def fewGlyphs : Web.FontTable where
  small := fun cp =>
    if cp = 90 then some [15, 8, 4, 2, 1, 15, 0]
    else if cp = 117 then some [0, 0, 9, 9, 9, 14, 0]
    else if cp = 103 then some [0, 0, 14, 9, 6, 1, 14]
    else none
  smallDefault := [4, 10, 8, 4, 0, 4, 0]
  medium := fun cp =>
    if cp = 49 then some [0, 4, 6, 5, 4, 4, 4, 31, 0, 0]
    else if cp = 52 then some [0, 8, 12, 10, 9, 31, 8, 8, 0, 0]
    else none
  mediumDefault := [0, 14, 17, 8, 4, 4, 0, 4, 0, 0]

/-- Text drawn one character at a time from the same glyphs. -/
def fewGlyphsLit : TextRaster
  | font, [char], gx, gy => ((pageGlyph fewGlyphs font char).getD gy.toNat 0).testBit gx.toNat
  | _, _, _, _ => false

/-- A canvas at full brightness on an afternoon in September. -/
def afternoonCanvas : Canvas := ⟨fewGlyphsLit, true, true, 100, some 1790000000⟩

/-- The station of the board. -/
def afternoonStation : HString 64 := ⟨"Zug", by decide⟩

/-- The departure on the board. -/
def afternoonDeparture : Departure := ⟨⟨"7", by decide⟩, ⟨"B", by decide⟩, ⟨"Zug", by decide⟩, some 3⟩

/-- What the page draws the board with. -/
def afternoonContext : Web.Context where
  deps := [⟨[55], [90, 117, 103], .number 3⟩]
  station := [90, 117, 103]
  stripCity := true
  showLineBadges := true
  frame := 130
  now := ⟨2026, 8, 21, 16, 13, by decide, by decide, by decide, by decide, by decide⟩

/-- A scrolling station name, twice as large, and a line badge. -/
def afternoonLayout : Layout := ⟨1, ⟨[
  ⟨2, 0, 0, 20, 0, 2, 1, none, 0, .empty, 0, 0, false, 1, 0, 0⟩,
  ⟨1, 1, 20, 0, 1, 1, 0, some 0xFF8800, 0, .empty, 0, 0, false, 1, 0, 0⟩], by decide⟩⟩

/-- The same elements on the page, which leaves defaults out. -/
def afternoonElements : List Web.Element := [
  { t := .number 2, x := .number 0, y := .undefined, w := .number 20, s := .undefined,
    k := .number 2, c := .number 1, col := .undefined, a := .undefined, v := none,
    di := .undefined, fk := .undefined, sp := none, th := .undefined,
    f := .undefined, g := .undefined },
  { t := .number 1, x := .number 1, y := .number 20, w := .undefined, s := .number 1,
    k := .undefined, c := .undefined, col := .number 0xFF8800, a := .undefined, v := none,
    di := .number 0, fk := .undefined, sp := none, th := .undefined,
    f := .undefined, g := .undefined }]

/-- The page shows the board as the panel does, and both scroll. -/
theorem simulator_matches_afternoon :
    (∀ row column, gridPixel (Web.renderLayout fewGlyphs afternoonElements afternoonContext).1 row
      column = ((afternoonCanvas.drawCustomLayout erased afternoonLayout afternoonStation.chars
        [afternoonDeparture] 130).1 row column).pack) ∧
    (Web.renderLayout fewGlyphs afternoonElements afternoonContext).2 = true := by
  have glyphs : FontsMatch afternoonCanvas.textLit fewGlyphs := fun _ _ _ _ _ _ _ => rfl
  have departure : RepresentsDeparture ⟨[55], [90, 117, 103], .number 3⟩ afternoonDeparture :=
    ⟨by decide, by decide, rfl⟩
  have same : SameContext afternoonCanvas afternoonContext afternoonStation [afternoonDeparture]
      130 :=
    ⟨rfl, .cons departure .nil, by decide, rfl, rfl, rfl, _, rfl, by decide +kernel⟩
  have printable : PrintableTexts afternoonLayout afternoonStation [afternoonDeparture] :=
    ⟨by simp [afternoonLayout, HString.empty, HString.chars], printable_of_all (by decide),
      List.forall_mem_singleton.mpr (printable_of_all (by decide)),
      List.forall_mem_singleton.mpr (printable_of_all (by decide))⟩
  have station : Represents afternoonElements[0] afternoonLayout.e.val[0] := by
    constructor <;> first | decide | exact .inl rfl
  have badge : Represents afternoonElements[1] afternoonLayout.e.val[1] := by
    constructor <;> first | decide | rfl
  have shown := simulator_matches_panel glyphs same printable (.cons station (.cons badge .nil))
  exact ⟨shown.1, shown.2.trans (by decide +kernel)⟩

end Parity

end Zugli
