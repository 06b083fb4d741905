import Zugli.Firmware.Display.Render

/-!
# Drawing on two canvases

A drawer chooses no region by the brightness: it paints regions in scaled colours. So what two
canvases of different brightness are given in the same state stays in every relation that painting
one colour, scaled by each, keeps. One lemma for each drawer, from the pixels up to the screens.
-/

namespace Zugli

/-- Two canvases that differ in brightness, and a relation between what is drawn on them that
painting the same region in the same colour keeps. -/
structure Canvas.Alike (first second : Canvas) (related : FrameBuffer → FrameBuffer → Prop) :
    Prop where
  /-- They have the same text. -/
  textLit : first.textLit = second.textLit
  /-- They drop cities alike. -/
  stripCity : first.stripCity = second.stripCity
  /-- They draw lines alike. -/
  lineBadges : first.lineBadges = second.lineBadges
  /-- They have the same clock. -/
  nowUnix : first.nowUnix = second.nowUnix
  /-- Painting keeps the relation. -/
  paint : ∀ {fb fb' : FrameBuffer} (region : Int → Int → Bool) (color : Color), related fb fb' →
    related (fb.paint region (first.scaled color)) (fb'.paint region (second.scaled color))

namespace Canvas.Alike

variable {first second : Canvas} {related : FrameBuffer → FrameBuffer → Prop}

/-- Related images, and the same animation. -/
def Both (related : FrameBuffer → FrameBuffer → Prop) (drawn drawn' : FrameBuffer × Bool) : Prop :=
  related drawn.1 drawn'.1 ∧ drawn.2 = drawn'.2

section Primitives

variable (alike : Alike first second related) {fb fb' : FrameBuffer} (before : related fb fb')
include alike before

/-- A text. -/
theorem left (text : List Char) (x y : Int) (font : MonoFont) (color : Color) :
    related (first.left fb text x y font color) (second.left fb' text x y font color) := by
  unfold Canvas.left
  rw [alike.textLit]
  exact alike.paint _ color before

/-- A centred text. -/
theorem centered (text : List Char) (y : Int) (font : MonoFont) (color : Color) :
    related (first.centered fb text y font color) (second.centered fb' text y font color) :=
  alike.left before text _ y font color

/-- A pixel. -/
theorem pset (x y : Int) (color : Color) :
    related (first.pset fb x y color) (second.pset fb' x y color) := by
  unfold Canvas.pset
  split_ifs
  · exact alike.paint _ color before
  · exact before

/-- A filled rectangle. -/
theorem fillRect (x y w h : Int) (color : Color) :
    related (first.fillRect fb x y w h color) (second.fillRect fb' x y w h color) :=
  alike.paint _ color before

/-- A full-width rule. -/
theorem rule (y : Int) (color : Color) :
    related (first.rule fb y color) (second.rule fb' y color) :=
  alike.paint _ color before

/-- A marquee. -/
theorem drawMarquee (text : List Char) (x0 y avail : Int) (font : MonoFont) (color : Color)
    (frame : UInt32) : Both related (first.drawMarquee fb text x0 y avail font color frame)
      (second.drawMarquee fb' text x0 y avail font color frame) := by
  unfold Canvas.drawMarquee
  dsimp only
  split_ifs
  · exact ⟨alike.left before text x0 y font color, rfl⟩
  · have once := alike.left before text
      (x0 - marqueeOffset (charCount text * font.width + marqueeGap) frame) y font color
    exact ⟨alike.left once text _ y font color, rfl⟩

/-- A clipped text. -/
theorem leftClipped (clip : Int → Int → Bool) (text : List Char) (x y : Int) (font : MonoFont)
    (color : Color) : related (first.leftClipped fb clip text x y font color)
      (second.leftClipped fb' clip text x y font color) := by
  unfold Canvas.leftClipped
  rw [alike.textLit]
  exact alike.paint _ color before

/-- A clipped marquee. -/
theorem drawMarqueeClipped (text : List Char) (x0 bandY avail bandH y : Int) (font : MonoFont)
    (color : Color) (frame : UInt32) :
    Both related (first.drawMarqueeClipped fb text x0 bandY avail bandH y font color frame)
      (second.drawMarqueeClipped fb' text x0 bandY avail bandH y font color frame) := by
  unfold Canvas.drawMarqueeClipped
  dsimp only
  split_ifs
  · exact ⟨alike.leftClipped before _ text x0 y font color, rfl⟩
  · have once := alike.leftClipped before (Raster.rectangle x0 bandY avail bandH) text
      (x0 - marqueeOffset (charCount text * font.width + marqueeGap) frame) y font color
    exact ⟨alike.leftClipped once _ text _ y font color, rfl⟩

/-- A block of a glyph. -/
theorem blitCell (x y : Int) (k : Nat) (color : Color) (clip : Band) :
    related (first.blitCell fb x y k color clip) (second.blitCell fb' x y k color clip) := by
  refine forRange_related related before fun sy _ _ _ outer => ?_
  refine forRange_related related outer fun sx _ _ _ inner => ?_
  split_ifs
  · exact alike.pset inner (x + sx) (y + sy) color
  · exact inner

/-- A bitmap. -/
theorem blitBitmap (glyph : Bitmap) (x y : Int) (k : Nat) (color : Color) :
    related (first.blitBitmap fb glyph x y k color) (second.blitBitmap fb' glyph x y k color) := by
  refine forRange_related related before fun gy _ _ _ outer => ?_
  refine forRange_related related outer fun gx _ _ _ inner => ?_
  split_ifs
  · exact alike.blitCell inner (x + gx * k) (y + gy * k) k color .unbounded
  · exact inner

/-- The tram pictogram. -/
theorem drawTrainFrontScaled (x y : Int) (scale : Nat) (color : Color) :
    related (first.drawTrainFrontScaled fb x y scale color)
      (second.drawTrainFrontScaled fb' x y scale color) :=
  alike.blitBitmap before trainGlyph x y scale color

/-- A pixel of the rolling tram. -/
theorem tp (ox lx ly : Int) (color : Color) :
    related (first.tp ox lx ly color fb) (second.tp ox lx ly color fb') :=
  alike.pset before _ ly color

end Primitives

/-! ## Text rows and badges -/

section Rows

variable (alike : Alike first second related)
include alike

/-- Segments side by side. -/
theorem drawSegments (y space : Int) (segs : List Segment) (x : Int) {fb fb' : FrameBuffer}
    (before : related fb fb') :
    related (first.drawSegments y space segs x fb) (second.drawSegments y space segs x fb') := by
  induction segs generalizing x fb fb' with
  | nil => exact before
  | cons seg rest previous =>
    exact previous (x + (seg.width + space)) (alike.left before seg.text x y seg.font seg.color)

variable {fb fb' : FrameBuffer} (before : related fb fb')
include before

/-- A row of segments. -/
theorem drawSegmentsRow (segs : List Segment) (x0 y avail space : Int) (frame : UInt32) :
    Both related (first.drawSegmentsRow fb segs x0 y avail space frame)
      (second.drawSegmentsRow fb' segs x0 y avail space frame) := by
  unfold Canvas.drawSegmentsRow
  dsimp only
  split_ifs
  · exact ⟨alike.drawSegments y space segs x0 before, rfl⟩
  · exact ⟨alike.drawSegments y space segs _ (alike.drawSegments y space segs _ before), rfl⟩

/-- A badge. -/
theorem drawBadge (line : List Char) (x y : Int) (fill text : Color) :
    related (first.drawBadge fb line x y fill text).1
      (second.drawBadge fb' line x y fill text).1 :=
  alike.left (alike.paint _ fill before) line (x + 3) (y + 1) .font6x10 text

/-- A line label, and the column past it. -/
theorem drawLineLabel (line : List Char) (x y : Int) :
    related (first.drawLineLabel fb line x y).1 (second.drawLineLabel fb' line x y).1 ∧
      (first.drawLineLabel fb line x y).2 = (second.drawLineLabel fb' line x y).2 := by
  unfold Canvas.drawLineLabel
  rw [alike.lineBadges]
  split_ifs
  · exact ⟨alike.drawBadge before line x y .amber .off, rfl⟩
  · exact ⟨alike.left before line x (y + 1) .font6x10 .amber, rfl⟩

end Rows

/-- The city is dropped or kept on both. -/
theorem city (alike : Alike first second related) (name : List Char) :
    first.city name = second.city name := by
  unfold Canvas.city
  rw [alike.stripCity]

/-! ## The built-in screens -/

section Screens

variable (alike : Alike first second related)
include alike

/-- The route blind. -/
theorem blind (ox top : Int) (cells : List (List Nat × Nat)) {fb fb' : FrameBuffer}
    (before : related fb fb') :
    related (first.blind ox top cells fb) (second.blind ox top cells fb') := by
  induction cells generalizing fb fb' with
  | nil => exact before
  | cons cell rest previous =>
    refine previous (List.foldl_rel before fun lamp _ _ _ drawn => ?_)
    exact alike.tp drawn ox _ _ _

variable {fb fb' : FrameBuffer} (before : related fb fb')
include before

/-- A bogie. -/
theorem bogie (ox lx ly : Int) :
    related (first.bogie ox lx ly fb) (second.bogie ox lx ly fb') := by
  have frame : related (forSpan 0 5 (fun i => first.tp ox (lx + i) ly tDk) fb)
      (forSpan 0 5 (fun i => second.tp ox (lx + i) ly tDk) fb') :=
    forSpan_related related before fun i _ _ drawn => alike.tp drawn ox (lx + i) ly tDk
  unfold Canvas.bogie
  refine List.foldl_rel frame fun wx _ _ _ drawn => ?_
  exact alike.tp (alike.tp drawn ox wx (ly + 1) tWheel) ox wx (ly + 2) tWheel

/-- The sleepers. -/
theorem sleepers : related (first.sleepers fb) (second.sleepers fb') :=
  forRange_related related before fun i _ _ _ drawn =>
    alike.pset drawn (2 + 5 * i) (railY + 1) sleeper

/-- The rolling tram. -/
theorem drawTramScene (frame : UInt32) :
    related (first.drawTramScene fb frame) (second.drawTramScene fb' frame) := by
  have line := alike.rule before wireY wire
  have ground := alike.sleepers (alike.rule line railY rail)
  refine alike.bogie (alike.bogie ?_ _ 3 _) _ 18 _
  refine forSpan_related related ?_ fun lx _ _ drawn => alike.tp drawn _ lx _ tDk
  refine alike.tp (alike.tp (alike.tp (alike.tp (alike.tp (alike.tp ?_ _ _ _ _) _ _ _ _)
    _ _ _ _) _ _ _ _) _ _ _ _) _ _ _ _
  refine alike.blind _ _ zGlyph.zipIdx ?_
  refine forSpan_related related ?_ fun ly _ _ drawn =>
    alike.tp (alike.tp drawn _ 10 ly tLitwin) _ 11 ly tLitwin
  refine forSpan_related related ?_ fun lx _ _ drawn => ?_
  · refine forSpan_related related ?_ fun lx _ _ drawn => alike.tp drawn _ lx _ tDk
    refine forSpan_related related ?_ fun lx _ _ drawn => alike.tp drawn _ lx _ tHi
    refine forSpan_related related ground fun lx _ _ drawn => ?_
    exact forSpan_related related drawn fun ly _ _ body => alike.tp body _ lx ly tBody
  · split_ifs
    · exact forSpan_related related drawn fun ly _ _ pane => alike.tp pane _ lx ly tGlass
    · exact drawn

/-- The provisioning screen. -/
theorem drawProvisioning (frame : UInt32) :
    Both related (first.drawProvisioning fb frame) (second.drawProvisioning fb' frame) :=
  alike.drawMarquee (alike.left (alike.left (alike.left (alike.left before _ _ _ _ _)
    _ _ _ _ _) _ _ _ _ _) _ _ _ _ _) _ _ _ _ _ _ frame

/-- The connecting screen. -/
theorem drawConnecting (frame : UInt32) :
    Both related (first.drawConnecting fb frame) (second.drawConnecting fb' frame) :=
  ⟨alike.drawTramScene (alike.centered before _ 6 .font5x7 .amber) frame, rfl⟩

/-- The offline screen. -/
theorem drawOffline (frame : UInt32) :
    Both related (first.drawOffline fb frame) (second.drawOffline fb' frame) :=
  ⟨alike.drawTramScene (alike.centered (alike.centered before _ 4 .font5x7 .amber) _ 13 .font5x7
    .amber) frame, rfl⟩

/-- The idle screen. -/
theorem drawIdle (octets : UInt8 × UInt8 × UInt8 × UInt8) (frame : UInt32) :
    Both related (first.drawIdle fb octets frame) (second.drawIdle fb' octets frame) := by
  have words := alike.left (alike.left before "Choose a".toList 2 2 .font5x7 .amber)
    "connection".toList 2 12 .font5x7 .amber
  have arrow := alike.blitBitmap words arrowGlyph 54 13 1 .accent
  exact alike.drawMarquee (alike.left arrow "Open:".toList 2 32 .font5x7 .dim) _ 2 42 _ _ _ frame

/-- The time of a row. -/
theorem departsAt (minutes : Option UInt16) (x tramY textY : Int) :
    related
      (if minutes = some 0 then first.drawTrainFront fb x tramY .accent
        else first.left fb (fmtMinutes minutes) x textY .font5x7 .accent)
      (if minutes = some 0 then second.drawTrainFront fb' x tramY .accent
        else second.left fb' (fmtMinutes minutes) x textY .font5x7 .accent) := by
  split_ifs
  · exact alike.drawTrainFrontScaled before x tramY 1 .accent
  · exact alike.left before _ x textY .font5x7 .accent

/-- A destination, where there is room for one. -/
theorem destination (name : List Char) (x bandY avail bandH y : Int) (frame : UInt32) :
    Both related
      (if 0 < avail then
        first.drawMarqueeClipped fb name x bandY avail bandH y .font5x7 .amber frame
      else (fb, false))
      (if 0 < avail then
        second.drawMarqueeClipped fb' name x bandY avail bandH y .font5x7 .amber frame
      else (fb', false)) := by
  split_ifs
  · exact alike.drawMarqueeClipped before name x bandY avail bandH y .font5x7 .amber frame
  · exact ⟨before, rfl⟩

/-- A row of the board. -/
theorem drawRow (dep : Departure) (i : Nat) (frame : UInt32) :
    Both related (first.drawRow fb dep i frame) (second.drawRow fb' dep i frame) := by
  unfold Canvas.drawRow
  dsimp only
  have time := alike.departsAt before dep.minutes (timeX dep.minutes) (boardTop + i * rowH + 4)
    (boardTop + i * rowH + 6)
  obtain ⟨label, past⟩ := alike.drawLineLabel time dep.line.chars 1 (boardTop + i * rowH + 3)
  rw [past, alike.city]
  exact alike.destination label _ _ _ _ rowH _ frame

end Screens

/-- The rows of the board. -/
theorem drawRows (alike : Alike first second related) (frame : UInt32) (deps : List Departure)
    (i : Nat) {drawn drawn' : FrameBuffer × Bool} (before : Both related drawn drawn') :
    Both related (first.drawRows frame deps i drawn) (second.drawRows frame deps i drawn') := by
  induction deps generalizing i drawn drawn' with
  | nil => exact before
  | cons dep rest previous =>
    obtain ⟨row, scrolls⟩ := alike.drawRow before.1 dep i frame
    exact previous (i + 1) ⟨row, congrArg₂ (· || ·) before.2 scrolls⟩

section Views

variable (alike : Alike first second related) {fb fb' : FrameBuffer} (before : related fb fb')
include alike before

/-- The departures board. -/
theorem drawDepartures (station : List Char) (deps : List Departure) (frame : UInt32) :
    Both related (first.drawDepartures fb station deps frame)
      (second.drawDepartures fb' station deps frame) := by
  unfold Canvas.drawDepartures
  dsimp only
  rw [alike.city]
  obtain ⟨title, scrolls⟩ := alike.drawMarquee before (second.city station) 1 0 (cols - 2)
    .font6x10 .amber frame
  have ruled := alike.rule title 11 .accent
  split_ifs
  · exact ⟨alike.centered ruled _ 32 .font5x7 .dim, scrolls⟩
  · exact alike.drawRows frame (deps.take 3) 0 ⟨ruled, scrolls⟩

/-- A digit of the countdown. -/
theorem drawSegDigit (x y : Int) (d : Nat) (color : Color) :
    related (first.drawSegDigit fb x y d color) (second.drawSegDigit fb' x y d color) := by
  have segment (seg : Nat) (x y w h : Int) {drawn drawn' : FrameBuffer}
      (same : related drawn drawn') :
      related (if (segMask.getD (d % 10) 0).testBit seg then first.fillRect drawn x y w h color
        else drawn) (if (segMask.getD (d % 10) 0).testBit seg then
          second.fillRect drawn' x y w h color else drawn') := by
    split_ifs
    · exact alike.fillRect same x y w h color
    · exact same
  exact segment 2 _ _ _ _ (segment 4 _ _ _ _ (segment 1 _ _ _ _ (segment 5 _ _ _ _
    (segment 3 _ _ _ _ (segment 6 _ _ _ _ (segment 0 _ _ _ _ before))))))

end Views

/-- The digits of the countdown, and the column past them. -/
theorem drawSegDigits (alike : Alike first second related) (y : Int) (digits : List Char) (x : Int)
    {fb fb' : FrameBuffer} (before : related fb fb') :
    related (first.drawSegDigits y digits x fb).1 (second.drawSegDigits y digits x fb').1 ∧
      (first.drawSegDigits y digits x fb).2 = (second.drawSegDigits y digits x fb').2 := by
  induction digits generalizing x fb fb' with
  | nil => exact ⟨before, rfl⟩
  | cons ch rest previous =>
    exact previous (x + (bigDw + bigGap)) (alike.drawSegDigit before x y _ .amber)

section Focus

variable (alike : Alike first second related) {fb fb' : FrameBuffer} (before : related fb fb')
include alike before

/-- The countdown. -/
theorem drawBigMinutes (minutes : Option UInt16) (cy : Int) :
    related (first.drawBigMinutes fb minutes cy) (second.drawBigMinutes fb' minutes cy) := by
  cases minutes with
  | none => exact alike.fillRect (alike.fillRect before _ _ _ _ .dim) _ _ _ _ .dim
  | some minutes =>
    unfold Canvas.drawBigMinutes
    dsimp only
    split_ifs
    · exact alike.drawTrainFrontScaled before _ _ 2 .accent
    · obtain ⟨digits, past⟩ := alike.drawSegDigits (cy - bigDh.tdiv 2) _ _ before
      rw [past]
      exact alike.fillRect digits _ _ 2 6 .amber

/-- The focus view. -/
theorem drawFocus (deps : List Departure) (frame : UInt32) :
    Both related (first.drawFocus fb deps frame) (second.drawFocus fb' deps frame) := by
  cases deps with
  | nil => exact ⟨alike.centered before _ 28 .font5x7 .dim, rfl⟩
  | cons next others =>
    unfold Canvas.drawFocus
    dsimp only
    obtain ⟨label, past⟩ := alike.drawLineLabel before next.line.chars 1 1
    rw [past, alike.city]
    have heading := alike.destination label (second.city next.destination.chars)
      ((second.drawLineLabel fb' next.line.chars 1 1).2 + 2) 1
      (cols - 1 - ((second.drawLineLabel fb' next.line.chars 1 1).2 + 2)) 11 4 frame
    have counted := alike.drawBigMinutes heading.1 next.minutes 33
    cases others with
    | nil => exact ⟨counted, heading.2⟩
    | cons after _ =>
      obtain ⟨line, scrolls⟩ := alike.drawSegmentsRow counted
        [⟨"next".toList, .font5x7, .dim⟩, ⟨after.line.chars, .font5x7, .amber⟩,
          ⟨"in".toList, .font5x7, .dim⟩, ⟨fmtMinutes after.minutes, .font5x7, .accent⟩]
        1 57 (cols - 2) 4 frame
      exact ⟨line, congrArg₂ (· || ·) heading.2 scrolls⟩

end Focus

/-! ## The custom layout -/

section Custom

variable (alike : Alike first second related)
include alike

/-- A glyph rasterises the same on both. -/
theorem rasterise (font : MonoFont) (char : Char) :
    first.rasterise font char = second.rasterise font char := by
  unfold Canvas.rasterise
  rw [alike.textLit]

/-- A glyph. -/
theorem blitGlyph (glyph : GlyphCanvas) (x y : Int) (style : GlyphStyle) (clip : Band)
    {fb fb' : FrameBuffer} (before : related fb fb') :
    related (first.blitGlyph fb glyph x y style clip)
      (second.blitGlyph fb' glyph x y style clip) := by
  refine forRange_related related before fun gy _ _ _ outer => ?_
  refine forRange_related related outer fun gx _ _ _ inner => ?_
  split_ifs
  · exact alike.blitCell inner _ _ style.k style.color clip
  · exact inner

/-- A scaled text. -/
theorem blitScaledText (y : Int) (style : GlyphStyle) (clip : Band) (text : List Char) (x : Int)
    {fb fb' : FrameBuffer} (before : related fb fb') :
    related (first.blitScaledText y style clip text x fb)
      (second.blitScaledText y style clip text x fb') := by
  induction text generalizing x fb fb' with
  | nil => exact before
  | cons char rest previous =>
    refine previous (x + style.font.width * style.k) ?_
    rw [alike.rasterise]
    split_ifs
    · exact alike.blitGlyph (second.rasterise style.font char) x y style clip before
    · exact before

variable {fb fb' : FrameBuffer} (before : related fb fb')
include before

/-- A placed text. -/
theorem placeText (text : List Char) (el : Element) (allowMarquee : Bool) (frame : UInt32) :
    Both related (first.placeText fb text el allowMarquee frame)
      (second.placeText fb' text el allowMarquee frame) := by
  unfold Canvas.placeText
  dsimp only
  by_cases still : (decide (charCount text * (fontFor el.s).width * el.scale ≤
      if 0 < el.w then (el.w.toNat : Int) else charCount text * (fontFor el.s).width * el.scale) ||
        !allowMarquee) = true
  · rw [if_pos still, if_pos still]
    exact ⟨alike.blitScaledText _ _ _ text _ before, rfl⟩
  · rw [if_neg still, if_neg still]
    exact ⟨alike.blitScaledText _ _ _ text _ (alike.blitScaledText _ _ _ text _ before), rfl⟩

/-- A scaled badge. -/
theorem drawBadgeScaled (line : List Char) (el : Element) (fill : Color) :
    related (first.drawBadgeScaled fb line el fill) (second.drawBadgeScaled fb' line el fill) :=
  alike.blitScaledText _ _ _ line _ (alike.fillRect before _ _ _ _ fill)

/-- A field of a departure. -/
theorem drawDepField (el : Element) (deps : List Departure) (frame : UInt32) :
    Both related (first.drawDepField fb el deps frame)
      (second.drawDepField fb' el deps frame) := by
  unfold Canvas.drawDepField
  dsimp only
  cases deps[min el.di.toNat 2]? with
  | none => exact ⟨before, rfl⟩
  | some dep =>
    dsimp only
    rw [alike.lineBadges, alike.city]
    split_ifs
    · exact ⟨alike.drawBadgeScaled before _ el _, rfl⟩
    · exact alike.placeText before _ el true frame
    · exact alike.placeText before _ el true frame
    · exact ⟨alike.drawTrainFrontScaled before _ _ _ _, rfl⟩
    · exact alike.placeText before _ el true frame

/-- The local time. -/
theorem drawLocalTimeText (el : Element)
    (format : Int × Nat × Nat × Nat × Nat → List (List Char)) :
    Both related (first.drawLocalTimeText fb el format)
      (second.drawLocalTimeText fb' el format) := by
  unfold Canvas.drawLocalTimeText
  rw [alike.nowUnix]
  cases second.nowUnix with
  | none => exact ⟨before, rfl⟩
  | some unix => exact alike.placeText before _ el false 0

/-- An icon. -/
theorem drawIcon (el : Element) : related (first.drawIcon fb el) (second.drawIcon fb' el) := by
  unfold Canvas.drawIcon
  dsimp only
  split_ifs
  · exact alike.blitBitmap before zGlyph _ _ _ _
  · exact alike.blitBitmap before arrowGlyph _ _ _ _
  · exact alike.drawTrainFrontScaled before _ _ _ _

/-- An element. -/
theorem drawElement (station : List Char) (deps : List Departure) (frame : UInt32) (el : Element) :
    Both related (first.drawElement fb station deps frame el)
      (second.drawElement fb' station deps frame el) := by
  unfold Canvas.drawElement
  split
  · exact alike.placeText before _ el true frame
  · exact alike.drawDepField before el deps frame
  · rw [alike.city]
    exact alike.placeText before _ el true frame
  · exact alike.drawLocalTimeText before el _
  · exact alike.drawLocalTimeText before el _
  · exact ⟨alike.fillRect before _ _ _ _ _, rfl⟩
  · exact ⟨alike.drawIcon before el, rfl⟩
  · exact ⟨before, rfl⟩

/-- The custom layout. -/
theorem drawCustomLayout (layout : Layout) (station : List Char) (deps : List Departure)
    (frame : UInt32) :
    Both related (first.drawCustomLayout fb layout station deps frame)
      (second.drawCustomLayout fb' layout station deps frame) := by
  unfold Canvas.drawCustomLayout
  refine List.foldl_rel (r := Both related) ⟨before, rfl⟩ fun el _ _ _ drawn => ?_
  obtain ⟨shown, animates⟩ := alike.drawElement drawn.1 station deps frame el
  exact ⟨shown, congrArg₂ (· || ·) drawn.2 animates⟩

end Custom

/-- Every screen. -/
theorem drawState {panel full : Panel} (alike : Alike panel.canvas full.canvas related)
    (sameMode : panel.shared.mode = full.shared.mode) (state : DisplayState) (layout : LayoutCache)
    (frame : UInt32) {fb fb' : FrameBuffer} (before : related fb fb') :
    Both related (panel.drawState state layout frame fb)
      (full.drawState state layout frame fb') := by
  cases state with
  | provisioning => exact alike.drawProvisioning before frame
  | connecting => exact alike.drawConnecting before frame
  | idleAddress octets => exact alike.drawIdle before octets frame
  | offline => exact alike.drawOffline before frame
  | departures station deps =>
    have board := alike.drawDepartures before station.chars deps.val frame
    have custom (layout : Layout) :=
      alike.drawCustomLayout before layout station.chars deps.val frame
    unfold Panel.drawState Panel.drawDeparturesScreen
    dsimp only
    rw [sameMode]
    cases layout.preview with
    | some preview =>
      dsimp only
      split_ifs
      · exact board
      · exact custom preview
    | none =>
      cases full.shared.mode with
      | focus => exact alike.drawFocus before deps.val frame
      | default => exact board
      | custom =>
        cases layout.custom with
        | none => exact board
        | some layout =>
          dsimp only
          split_ifs
          · exact board
          · exact custom layout

end Canvas.Alike

end Zugli
