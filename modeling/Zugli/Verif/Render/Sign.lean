import Zugli.Verif.Parity.Layout
import Zugli.Verif.Render.Layers

/-!
# The board shows the sign

A row lays its time, its label over it and its destination between them, each within the band of
the row, and the board lays its heading, its rule and its rows.
-/

namespace Zugli

namespace Canvas

variable (canvas : Canvas) (picture : Picture)

/-! ## Texts of one line -/

/-- A number is written in one line. -/
theorem oneLine_toDigits (n : Nat) : OneLine (Nat.toDigits 10 n) := by
  intro char member
  have printable := Parity.printable_toDigits char member
  constructor
  · rintro rfl
    exact absurd printable (by decide)
  · rintro rfl
    exact absurd printable (by decide)

/-- Pieces of one line are written as one line. -/
theorem oneLine_writeInto {capacity : Nat} {pieces : List (List Char)} {written : List Char}
    (before : OneLine written) (plain : ∀ piece ∈ pieces, OneLine piece) :
    OneLine (writeInto capacity pieces written) := by
  induction pieces generalizing written with
  | nil => exact before
  | cons piece rest previous =>
    obtain ⟨first, others⟩ := List.forall_mem_cons.mp plain
    rw [writeInto]
    split
    · refine previous (fun char member => ?_) others
      rcases List.mem_append.mp member with earlier | later
      · exact before char earlier
      · exact first char later
    · exact before

/-- The text of a time is one line. -/
theorem oneLine_minutes (minutes : Option UInt16) : OneLine (fmtMinutes minutes) := by
  have none : OneLine [] := fun _ member => absurd member List.not_mem_nil
  unfold fmtMinutes
  split
  · exact oneLine_writeInto none (by simp [OneLine])
  · split
    · exact oneLine_writeInto none (by simp [OneLine])
    · refine oneLine_writeInto none ?_
      rw [List.forall_mem_cons]
      exact ⟨oneLine_toDigits _, by simp [OneLine]⟩

/-- A text without its city has no other characters. -/
theorem oneLine_city {name : List Char} (plain : OneLine name) : OneLine (canvas.city name) :=
  fun char member => plain char ((Parity.city_suffix canvas name).mem member)

/-! ## The rows -/

/-- A time is laid where it is drawn. -/
theorem time_rendered (minutes : Option UInt16) (x ry : Int) :
    (if minutes = some 0 then canvas.drawTrainFront (canvas.rendered picture) x (ry + 4) .accent
      else canvas.left (canvas.rendered picture) (fmtMinutes minutes) x (ry + 6) .font5x7 .accent) =
      canvas.rendered ((Sign.time canvas minutes).lay x ry picture) := by
  unfold drawTrainFront drawTrainFrontScaled
  rw [blitBitmap_rendered, left_rendered, ← apply_ite canvas.rendered]
  apply rendered_congr
  intro column row _ _ _ _
  by_cases leaving : minutes = some 0
  · simp only [leaving, if_true, Picture.lay, Sign.time]
    rw [show row - (ry + 4) = row - ry - 4 by omega]
  · simp only [leaving, if_false, Picture.lay, Sign.time]
    rw [show row - (ry + 6) = row - ry - 6 by omega]

/-- A time stands right of its edge and within its row. -/
theorem time_outside (celled : canvas.textLit.Celled) {minutes : Option UInt16} {column down : Int}
    (outside : column < 0 ∨ down < 0 ∨ 17 ≤ down) :
    Sign.time canvas minutes column down = none := by
  unfold Sign.time
  split
  · unfold Sign.bitmap
    rw [if_neg]
    rintro ⟨fromLeft, fromTop, one⟩
    rw [List.getD_eq_default trainGlyph [] (show trainGlyph.length ≤ (down - 4).toNat from
      show 10 ≤ (down - 4).toNat by omega)] at one
    exact absurd one (by simp)
  · unfold Sign.still
    rw [dark_outside canvas celled (oneLine_minutes minutes)]
    · rfl
    · simp only [MonoFont.height]
      omega

/-- A label is as wide as it says and within its row. -/
theorem label_outside (celled : canvas.textLit.Celled) {line : List Char} (plain : OneLine line)
    {column down : Int}
    (outside : (column < 0 ∨ Sign.labelWidth canvas line ≤ column) ∨ down < 0 ∨ 11 ≤ down) :
    Sign.label canvas line column down = none := by
  unfold Sign.label
  unfold Sign.labelWidth at outside ⊢
  split
  · next badges =>
    simp only [badges, if_true] at outside ⊢
    rw [if_neg]
    simp only [Raster.rectangle, decide_eq_true_eq]
    omega
  · next badges =>
    simp only [badges, Bool.false_eq_true, if_false] at outside
    unfold Sign.still
    rw [dark_outside canvas celled plain]
    · rfl
    · simp only [Sign.textWidth, MonoFont.width, MonoFont.height]
      omega

/-- A window is as high as its text. -/
theorem window_outside (celled : canvas.textLit.Celled) {text : List Char} (plain : OneLine text)
    {font : MonoFont} {avail : Int} {color : Color} {frame : UInt32} {column row : Int}
    (outside : row < 0 ∨ font.height ≤ row) :
    Sign.window canvas text font avail color frame column row = none := by
  rw [Sign.window, dark_outside canvas celled plain (.inr outside)]
  rfl

/-- A row is its time, its label over it and its destination between them. -/
theorem row_parts (celled : canvas.textLit.Celled) {dep : Departure}
    (plain : OneLine dep.line.chars) (frame : UInt32) (ry : Int) :
    (Sign.row canvas dep frame).lay 0 ry picture =
      ((Sign.window canvas (canvas.city dep.destination.chars) .font5x7 (Sign.room canvas dep)
        .amber frame).cut (Sign.room canvas dep)).lay (Sign.labelEnd canvas dep + 2) (ry + 6)
        ((Sign.label canvas dep.line.chars).lay 1 (ry + 3)
          ((Sign.time canvas dep.minutes).lay (timeX dep.minutes) ry picture)) := by
  funext column row
  have windowRow : row - (ry + 6) = row - ry - 6 := by omega
  have labelRow : row - (ry + 3) = row - ry - 3 := by omega
  simp only [Picture.lay, Picture.cut, Sign.row, windowRow, labelRow, Int.sub_zero]
  by_cases labelled : column < Sign.labelEnd canvas dep
  · -- The destination begins right of the label.
    have before : ¬(0 ≤ column - (Sign.labelEnd canvas dep + 2) ∧
        column - (Sign.labelEnd canvas dep + 2) < Sign.room canvas dep) := by omega
    simp only [labelled, before, if_true, if_false, Option.none_or, Option.or_assoc]
  · have unlabelled : Sign.label canvas dep.line.chars (column - 1) (row - ry - 3) = none :=
      label_outside canvas celled plain (.inl (.inr (by unfold Sign.labelEnd at labelled; omega)))
    simp only [labelled, unlabelled, if_false, Option.none_or]
    by_cases timed : column < timeX dep.minutes - 2
    · have untimed : Sign.time canvas dep.minutes (column - timeX dep.minutes) (row - ry) = none :=
        time_outside canvas celled (.inl (by omega))
      have inside : (0 ≤ column - (Sign.labelEnd canvas dep + 2) ∧
          column - (Sign.labelEnd canvas dep + 2) < Sign.room canvas dep) ↔
          Sign.labelEnd canvas dep + 2 ≤ column := by
        unfold Sign.room
        omega
      simp only [timed, untimed, inside, if_true, Option.none_or]
    · have past : ¬(0 ≤ column - (Sign.labelEnd canvas dep + 2) ∧
          column - (Sign.labelEnd canvas dep + 2) < Sign.room canvas dep) := by
        unfold Sign.room
        omega
      simp only [timed, past, if_false, Option.none_or]

/-- A row is laid at its top. -/
theorem drawRow_rendered (celled : canvas.textLit.Celled) {dep : Departure}
    (plain : OneLine dep.line.chars ∧ OneLine dep.destination.chars) (i : Nat) (frame : UInt32) :
    canvas.drawRow (canvas.rendered picture) dep i frame =
      (canvas.rendered ((Sign.row canvas dep frame).lay 0 (boardTop + i * rowH) picture),
        Sign.rowScrolls canvas dep) := by
  unfold drawRow Sign.rowScrolls
  generalize boardTop + (i : Int) * rowH = ry
  have city := oneLine_city canvas plain.2
  have band : ry ≤ ry + 6 ∧ ry + 6 + MonoFont.height .font5x7 ≤ ry + rowH := by
    simp only [MonoFont.height, rowH]
    omega
  simp only [time_rendered, drawLineLabel_rendered canvas _ celled plain.1]
  rw [drawMarqueeClipped_rendered canvas _ celled city _ band,
    row_parts canvas picture celled plain.1]
  have room : Sign.room canvas dep =
    timeX dep.minutes - 2 - (1 + Sign.labelWidth canvas dep.line.chars + 2) := rfl
  rw [← room]
  by_cases roomy : 0 < Sign.room canvas dep
  · rw [if_pos roomy, decide_eq_true roomy, Bool.true_and]
    rfl
  · rw [if_neg roomy, decide_eq_false roomy, Bool.false_and]
    refine congrArg (fun drawn : FrameBuffer => (drawn, false)) (rendered_congr _ ?_)
    intro column row _ _ _ _
    have closed (column : Int) : ¬(0 ≤ column ∧ column < Sign.room canvas dep) := by omega
    simp only [Picture.lay, Picture.cut, closed, if_false, Option.none_or]

/-- A row shows nothing above or below its band. -/
theorem row_outside (celled : canvas.textLit.Celled) {dep : Departure}
    (plain : OneLine dep.line.chars ∧ OneLine dep.destination.chars) {frame : UInt32}
    {column down : Int} (outside : down < 0 ∨ 17 ≤ down) :
    Sign.row canvas dep frame column down = none := by
  have untimed (column : Int) : Sign.time canvas dep.minutes column down = none :=
    time_outside canvas celled (.inr outside)
  have unlabelled (column : Int) :
      Sign.label canvas dep.line.chars column (down - 3) = none :=
    label_outside canvas celled plain.1 (.inr (by omega))
  have unseen (column : Int) : Sign.window canvas (canvas.city dep.destination.chars) .font5x7
      (Sign.room canvas dep) .amber frame column (down - 6) = none :=
    window_outside canvas celled (oneLine_city canvas plain.2) (by
      simp only [MonoFont.height]
      omega)
  simp only [Sign.row, untimed, unlabelled, unseen, Option.none_or, ite_self]

/-! ## The board -/

/-- The first of the rows is laid over the panel, the others below it. -/
theorem rows_cons (celled : canvas.textLit.Celled) {dep : Departure}
    (plain : OneLine dep.line.chars ∧ OneLine dep.destination.chars) (rest : List Departure)
    (frame : UInt32) (top : Int) :
    (Sign.rows canvas (dep :: rest) frame).lay 0 top picture =
      (Sign.rows canvas rest frame).lay 0 (top + rowH)
        ((Sign.row canvas dep frame).lay 0 top picture) := by
  funext column row
  have height : rowH = 17 := rfl
  simp only [Picture.lay, Sign.rows, Int.sub_zero, height]
  rcases lt_or_ge (row - top) 0 with above | below
  · rw [if_neg (by omega), if_neg (by omega), row_outside canvas celled plain (.inl above)]
    rfl
  · rcases lt_or_ge (row - top) 17 with first | others
    · have zero : (row - top) / 17 = 0 := Int.ediv_eq_zero_of_lt below first
      rw [if_pos below, if_neg (by omega), zero, Int.emod_eq_of_lt below first]
      rfl
    · have next : ((row - top) / 17).toNat = ((row - (top + 17)) / 17).toNat + 1 := by omega
      have same : (row - top) % 17 = (row - (top + 17)) % 17 := by omega
      rw [if_pos below, if_pos (by omega), next, same, List.getElem?_cons_succ,
        row_outside canvas celled plain (.inr others)]
      rfl

/-- Rows are laid below each other. -/
theorem drawRows_rendered (celled : canvas.textLit.Celled) (frame : UInt32) (deps : List Departure)
    (plain : ∀ dep ∈ deps, OneLine dep.line.chars ∧ OneLine dep.destination.chars) (i : Nat)
    (scrolling : Bool) :
    canvas.drawRows frame deps i (canvas.rendered picture, scrolling) =
      (canvas.rendered ((Sign.rows canvas deps frame).lay 0 (boardTop + i * rowH) picture),
        scrolling || deps.any (Sign.rowScrolls canvas)) := by
  induction deps generalizing i picture scrolling with
  | nil =>
    rw [drawRows, List.any_nil, Bool.or_false]
    refine congrArg (fun drawn : FrameBuffer => (drawn, scrolling)) (rendered_congr _ ?_)
    intro column row _ _ _ _
    simp only [Picture.lay, Sign.rows, List.getElem?_nil, Option.bind_none, ite_self,
      Option.none_or]
  | cons dep rest previous =>
    obtain ⟨first, others⟩ := List.forall_mem_cons.mp plain
    have next : boardTop + (i : Int) * rowH + rowH = boardTop + ((i + 1 : Nat) : Int) * rowH := by
      simp only [rowH]
      omega
    rw [drawRows, drawRow_rendered canvas _ celled first]
    show canvas.drawRows frame rest (i + 1) (_, _) = _
    rw [previous _ others, rows_cons canvas _ celled first, next, List.any_cons, Bool.or_assoc]

/-- The heading and the rule below it. -/
theorem heading_rendered (celled : canvas.textLit.Celled) {station : List Char}
    (plain : OneLine station) (frame : UInt32) :
    (canvas.drawMarquee erased (canvas.city station) 1 0 (cols - 2) .font6x10 .amber frame).2 =
        Sign.scrolls (canvas.city station) .font6x10 (cols - 2) ∧
      canvas.rule (canvas.drawMarquee erased (canvas.city station) 1 0 (cols - 2) .font6x10 .amber
        frame).1 11 .accent =
        canvas.rendered fun column row =>
          if row < 11 then
            Sign.window canvas (canvas.city station) .font6x10 (cols - 2) .amber frame (column - 1)
              row
          else if row < boardTop then some .accent else none := by
  have city := oneLine_city canvas plain
  have placed : (0 : Int) ≤ 1 ∧ (1 : Int) ≤ 14 ∧ (50 : Int) ≤ 1 + ((cols : Nat) - 2) := by decide
  rw [erased_rendered, drawMarquee_rendered canvas _ celled city placed]
  refine ⟨rfl, ?_⟩
  rw [rule, rendered_paint]
  apply rendered_congr
  intro column row left right top bottom
  have top' : boardTop = 12 := rfl
  have wide : ((cols : Nat) : Int) = 64 := rfl
  simp only [Raster.rectangle, Picture.lay, Option.or_none, Int.sub_zero, decide_eq_true_eq]
  rcases lt_trichotomy row 11 with above | same | below
  · rw [if_neg (by omega), if_pos above]
  · rw [if_pos (by omega), if_neg (by omega), if_pos (by omega)]
  · rw [if_neg (by omega), if_neg (by omega), if_neg (by omega)]
    exact window_outside canvas celled city (.inr (by simp only [MonoFont.height]; omega))

end Canvas

/-! ## A board of one departure -/

/-- The glyphs of a few characters. -/
def boardGlyph : MonoFont → Char → List Nat
  | .font5x7, 'Z' => [15, 8, 4, 2, 1, 15, 0]
  | .font5x7, 'u' => [0, 0, 9, 9, 9, 14, 0]
  | .font5x7, 'g' => [0, 0, 14, 9, 6, 1, 14]
  | .font6x10, 'Z' => [0, 31, 16, 8, 4, 2, 1, 31, 0, 0]
  | .font6x10, 'u' => [0, 0, 0, 17, 17, 17, 25, 22, 0, 0]
  | .font6x10, 'g' => [0, 0, 0, 30, 17, 17, 30, 16, 17, 14]
  | .font6x10, '7' => [0, 31, 16, 8, 8, 4, 2, 2, 0, 0]
  | _, _ => []

/-- Text drawn from the glyphs, cell by cell. -/
def boardGlyphs : TextRaster := fun font text column row =>
  decide ((0 ≤ column ∧ column < charCount text * font.width) ∧ 0 ≤ row ∧ row < font.height) &&
    ((boardGlyph font (text.getD (column / font.width).toNat ' ')).getD row.toNat 0).testBit
      (column % font.width).toNat

/-- A canvas at full brightness. -/
def boardCanvas : Canvas := ⟨boardGlyphs, true, true, 100, none⟩

/-- A tram that is leaving. -/
def leavingTram : Departure := { Parity.afternoonDeparture with minutes := some 0 }

end Zugli
