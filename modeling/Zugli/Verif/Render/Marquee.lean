import Zugli.Verif.Render.Regions

/-!
# The marquee

A text wider than its box is seen through the box as a tape on which the text and a gap repeat
without end; a text that fits is drawn whole.
-/

namespace Zugli

/-! ## The phase -/

/-- Frames of a cycle: the pause and one frame a column. -/
def marqueeCycle (period : Int) : Nat := holdFrames + period.toNat

/-- The offset counts the frames of the cycle after the pause. -/
theorem marqueeOffset_eq (period : Int) (frame : UInt32) : marqueeOffset period frame =
    ((frame.toNat % marqueeCycle period - holdFrames : Nat) : Int) := rfl

/-- A frame is one of its cycle. -/
theorem frame_of_cycle (period : Int) (frame : UInt32) :
    frame.toNat % marqueeCycle period < holdFrames + period.toNat :=
  Nat.mod_lt _ (Nat.add_pos_left (by decide) _)

/-- The offset stays within the period. -/
theorem marqueeOffset_bounds {period : Int} (positive : 0 < period) (frame : UInt32) :
    0 ≤ marqueeOffset period frame ∧ marqueeOffset period frame < period := by
  have inCycle := frame_of_cycle period frame
  rw [marqueeOffset_eq]
  omega

/-- The offset is zero during the pause. -/
theorem marqueeOffset_held {period : Int} {frame : UInt32}
    (held : frame.toNat % marqueeCycle period < holdFrames) : marqueeOffset period frame = 0 := by
  rw [marqueeOffset_eq]
  omega

/-- After the pause the offset goes on by a column, and from the last one back to zero. -/
theorem marqueeOffset_next {period : Int} (positive : 0 < period) {frame : UInt32}
    (moving : holdFrames ≤ frame.toNat % marqueeCycle period)
    (counts : frame.toNat + 1 < 2 ^ 32) :
    marqueeOffset period (frame + 1) = (marqueeOffset period frame + 1) % period := by
  have next : (frame + 1).toNat = frame.toNat + 1 := by
    rw [UInt32.toNat_add]
    exact Nat.mod_eq_of_lt counts
  have inCycle := frame_of_cycle period frame
  rw [marqueeOffset_eq, marqueeOffset_eq, next, ← Nat.mod_add_mod]
  generalize frame.toNat % marqueeCycle period = phase at moving inCycle
  by_cases last : phase + 1 = marqueeCycle period
  · have wrapped : ((phase - holdFrames : Nat) : Int) + 1 = period := by
      unfold marqueeCycle at last
      omega
    rw [last, Nat.mod_self, wrapped, Int.emod_self]
    rfl
  · have inside : phase + 1 < marqueeCycle period := by
      unfold marqueeCycle at last ⊢
      omega
    rw [Nat.mod_eq_of_lt inside, Int.emod_eq_of_lt (by omega)]
    · omega
    · unfold marqueeCycle at inside
      omega

/-- Each offset is taken at a frame of each cycle. -/
theorem exists_marqueeOffset {period column : Int} (within : 0 ≤ column ∧ column < period)
    {cycle : Nat} (counts : (cycle + 1) * marqueeCycle period ≤ 2 ^ 32) :
    ∃ frame : UInt32, frame.toNat / marqueeCycle period = cycle ∧
      marqueeOffset period frame = column := by
  have inCycle : holdFrames + column.toNat < marqueeCycle period := by
    unfold marqueeCycle
    omega
  rw [Nat.add_mul, Nat.one_mul] at counts
  have numbered : (UInt32.ofNat (cycle * marqueeCycle period + (holdFrames + column.toNat))).toNat =
      cycle * marqueeCycle period + (holdFrames + column.toNat) := by
    rw [UInt32.toNat_ofNat']
    exact Nat.mod_eq_of_lt (by omega)
  refine ⟨.ofNat (cycle * marqueeCycle period + (holdFrames + column.toNat)), ?_, ?_⟩
  · rw [numbered, Nat.mul_comm, Nat.mul_add_div (by omega), Nat.div_eq_of_lt inCycle,
      Nat.add_zero]
  · rw [marqueeOffset_eq, numbered, Nat.mul_comm, Nat.mul_add_mod, Nat.mod_eq_of_lt inCycle]
    omega

/-! ## The tape -/

/-- How a text element is drawn. -/
def Element.style (el : Element) : GlyphStyle := ⟨fontFor el.s, el.scale, elemColor el⟩

/-- Width of a scaled text. -/
def GlyphStyle.textWidth (style : GlyphStyle) (text : List Char) : Int :=
  charCount text * style.font.width * style.k

/-- Columns after which the tape repeats. -/
def GlyphStyle.period (style : GlyphStyle) (text : List Char) : Int :=
  style.textWidth text + marqueeGap

namespace Canvas

variable (canvas : Canvas)

/-- The tape: the scaled text and the gap, over and over. -/
def tape (style : GlyphStyle) (text : List Char) (column row : Int) : Bool :=
  canvas.scaledText style text (column % style.period text) row

/-- Two copies of a text, a period apart, are as much of the tape as a box shows. -/
theorem two_copies {style : GlyphStyle} {text : List Char} {column row : Int}
    (seen : 0 ≤ column ∧ column < 2 * style.period text) :
    (canvas.scaledText style text column row ||
      canvas.scaledText style text (column - style.period text) row) =
        canvas.tape style text column row := by
  have dark (beside : Int) (outside : beside < 0 ∨ style.textWidth text ≤ beside) :
      canvas.scaledText style text beside row = false := by
    by_contra lit
    have inside := canvas.scaledText_inside (Bool.eq_true_of_not_eq_false lit)
    unfold GlyphStyle.textWidth at outside
    omega
  have gap : style.period text = style.textWidth text + 14 := rfl
  unfold tape
  by_cases first : column < style.period text
  · rw [Int.emod_eq_of_lt seen.1 first, dark (column - style.period text) (.inl (by omega)),
      Bool.or_false]
  · have wrapped : column % style.period text = column - style.period text := by
      rw [← Int.sub_emod_right, Int.emod_eq_of_lt (by omega) (by omega)]
    rw [wrapped, dark column (.inr (by omega)), Bool.false_or]

/-- A scaled text has a width. -/
theorem textWidth_nonneg (style : GlyphStyle) (text : List Char) : 0 ≤ style.textWidth text := by
  have wide : 0 ≤ style.font.width := by cases style.font <;> decide
  unfold GlyphStyle.textWidth charCount
  exact Int.mul_nonneg (Int.mul_nonneg (Int.natCast_nonneg _) wide) (Int.natCast_nonneg _)

/-- The scale of an element is positive. -/
theorem scale_pos (el : Element) : 0 < el.style.k :=
  Nat.lt_of_lt_of_le Nat.one_pos (Nat.le_max_left _ _)

/-- A text wider than its box shows the tape through it. -/
theorem placeText_marquee (fb : FrameBuffer) (text : List Char) (el : Element) (frame : UInt32)
    (boxed : 0 < el.w) (wider : el.w.toNat < el.style.textWidth text) :
    canvas.placeText fb text el true frame =
      (fb.paint (fun column row =>
        decide (el.x.toNat ≤ column ∧ column < el.x.toNat + el.w.toNat) &&
          canvas.tape el.style text
            (column - el.x.toNat + marqueeOffset (el.style.period text) frame) (row - el.y.toNat))
        (canvas.scaled el.style.color), true) := by
  have positive : 0 < el.style.period text := by
    unfold GlyphStyle.period marqueeGap
    omega
  have phase := marqueeOffset_bounds positive frame
  have overflow : decide (charCount text * (fontFor el.s).width * el.scale ≤ (el.w.toNat : Int)) =
      false := decide_eq_false (Int.not_le.mpr wider)
  simp only [placeText, boxed, if_true, overflow, Bool.not_true, Bool.or_self,
    Bool.false_eq_true, if_false]
  refine congrArg (fun drawn : FrameBuffer => (drawn, true)) ?_
  show canvas.blitScaledText _ el.style _ text
    (el.x.toNat - marqueeOffset (el.style.period text) frame + el.style.period text)
    (canvas.blitScaledText _ el.style _ text
      (el.x.toNat - marqueeOffset (el.style.period text) frame) fb) = _
  rw [blitScaledText_eq _ _ _ (scale_pos el), blitScaledText_eq _ _ _ (scale_pos el),
    Raster.paint_paint]
  apply Raster.paint_congr
  intro row column
  rw [← Bool.and_or_distrib_left, Band.contains]
  by_cases inside : (el.x.toNat : Int) ≤ column.val ∧ (column.val : Int) < el.x.toNat + el.w.toNat
  · have first : (column.val : Int) - (el.x.toNat - marqueeOffset (el.style.period text) frame) =
        column.val - el.x.toNat + marqueeOffset (el.style.period text) frame := by omega
    have second : (column.val : Int) - (el.x.toNat -
        marqueeOffset (el.style.period text) frame + el.style.period text) =
        column.val - el.x.toNat + marqueeOffset (el.style.period text) frame -
          el.style.period text := by omega
    have gap : el.style.period text = el.style.textWidth text + 14 := rfl
    rw [first, second, two_copies canvas (by omega)]
  · rw [decide_eq_false inside, Bool.false_and, Bool.false_and]

/-- Width of the box of an element, its own width when it has none. -/
def boxWidth (el : Element) (text : List Char) : Int :=
  if 0 < el.w then el.w.toNat else el.style.textWidth text

/-- Where alignment puts a text in its box. -/
def alignment (el : Element) (text : List Char) : Int :=
  if el.a = 1 then (boxWidth el text - el.style.textWidth text) / 2
  else if el.a = 2 then boxWidth el text - el.style.textWidth text
  else 0

/-- An aligned text is within its box. -/
theorem alignment_within {el : Element} {text : List Char}
    (fits : el.style.textWidth text ≤ boxWidth el text) :
    0 ≤ alignment el text ∧
      alignment el text + el.style.textWidth text ≤ boxWidth el text := by
  unfold alignment
  split_ifs <;> omega

/-- A text that fits its box is drawn whole. -/
theorem placeText_flush (fb : FrameBuffer) (text : List Char) (el : Element) (allowMarquee : Bool)
    (frame : UInt32) (fits : el.style.textWidth text ≤ boxWidth el text) :
    canvas.placeText fb text el allowMarquee frame =
      (fb.paint (fun column row => canvas.scaledText el.style text
        (column - (el.x.toNat + alignment el text)) (row - el.y.toNat))
        (canvas.scaled el.style.color), false) := by
  have within := alignment_within fits
  have aligned : (if el.a = 1 then (boxWidth el text - el.style.textWidth text).tdiv 2
      else if el.a = 2 then boxWidth el text - el.style.textWidth text else 0) =
      alignment el text := by
    rw [Int.tdiv_eq_ediv_of_nonneg (by omega)]
    rfl
  have roomy : decide (el.style.textWidth text ≤ boxWidth el text) = true := decide_eq_true fits
  have drawn : canvas.placeText fb text el allowMarquee frame =
      (canvas.blitScaledText el.y.toNat el.style
        (if 0 < el.w then ⟨el.x.toNat, el.x.toNat + boxWidth el text⟩ else .unbounded) text
        (el.x.toNat + alignment el text) fb, false) := by
    show (if (decide (el.style.textWidth text ≤ boxWidth el text) || !allowMarquee) = true then
      (canvas.blitScaledText el.y.toNat el.style
        (if 0 < el.w then ⟨el.x.toNat, el.x.toNat + boxWidth el text⟩ else .unbounded) text
        (el.x.toNat + if decide (el.style.textWidth text ≤ boxWidth el text) = true then
          (if el.a = 1 then (boxWidth el text - el.style.textWidth text).tdiv 2
            else if el.a = 2 then boxWidth el text - el.style.textWidth text else 0)
          else 0) fb, false) else _) = _
    rw [roomy, Bool.true_or, if_pos rfl, if_pos rfl, aligned]
  rw [drawn, blitScaledText_eq _ _ _ (scale_pos el)]
  refine congrArg (fun shown : FrameBuffer => (shown, false)) (Raster.paint_congr ?_)
  intro row column
  by_cases lit : canvas.scaledText el.style text
      (column.val - (el.x.toNat + alignment el text)) (row.val - el.y.toNat) = true
  · have inside := canvas.scaledText_inside lit
    have columnBound : column.val < 64 := column.isLt
    have kept : (if 0 < el.w then ⟨el.x.toNat, el.x.toNat + boxWidth el text⟩
        else Band.unbounded : Band).contains column.val = true := by
      unfold GlyphStyle.textWidth at within
      rw [Band.contains, decide_eq_true_eq]
      split
      · show (el.x.toNat : Int) ≤ column.val ∧ (column.val : Int) < el.x.toNat + boxWidth el text
        omega
      · show (-2147483648 : Int) ≤ column.val ∧ (column.val : Int) < 2147483647
        omega
    rw [kept, Bool.true_and]
  · rw [Bool.eq_false_of_not_eq_true lit, Bool.and_false]

/-- The marquee is a seamless window onto a periodic tape. A text wider than its box is seen through
it as the tape, moved on by the offset, and nothing beside the box changes. The offset is held at
zero for the first frames of each cycle, goes on by a column a frame and is back at zero after the
last column of the period, and every column of the text comes to the left edge of the box in each
cycle. A text that fits is drawn whole, aligned within its box, and does not move. -/
theorem marquee_seamless (canvas : Canvas) (fb : FrameBuffer) (text : List Char) (el : Element) :
    (0 < el.w → el.w.toNat < el.style.textWidth text →
      (∀ frame : UInt32, (canvas.placeText fb text el true frame).2 = true ∧
        ∀ (row : Fin rows) (column : Fin cols),
          (canvas.placeText fb text el true frame).1 row column =
            if ((el.x.toNat : Int) ≤ column.val ∧ (column.val : Int) < el.x.toNat + el.w.toNat) ∧
                canvas.tape el.style text
                  (column.val - el.x.toNat + marqueeOffset (el.style.period text) frame)
                  (row.val - el.y.toNat) = true
              then canvas.scaled (elemColor el) else fb row column) ∧
      (∀ frame : UInt32, 0 ≤ marqueeOffset (el.style.period text) frame ∧
        marqueeOffset (el.style.period text) frame < el.style.period text ∧
        (frame.toNat % marqueeCycle (el.style.period text) < holdFrames →
          marqueeOffset (el.style.period text) frame = 0) ∧
        (holdFrames ≤ frame.toNat % marqueeCycle (el.style.period text) →
          frame.toNat + 1 < 2 ^ 32 →
            marqueeOffset (el.style.period text) (frame + 1) =
              (marqueeOffset (el.style.period text) frame + 1) % el.style.period text)) ∧
      ∀ (cycle : Nat) (column : Int),
        (cycle + 1) * marqueeCycle (el.style.period text) ≤ 2 ^ 32 →
          0 ≤ column → column < el.style.textWidth text →
            ∃ frame : UInt32, frame.toNat / marqueeCycle (el.style.period text) = cycle ∧
              ∀ row, canvas.tape el.style text
                (marqueeOffset (el.style.period text) frame) row =
                  canvas.scaledText el.style text column row) ∧
      (el.style.textWidth text ≤ boxWidth el text →
        (0 ≤ alignment el text ∧
          alignment el text + el.style.textWidth text ≤ boxWidth el text) ∧
        ∀ (allowMarquee : Bool) (frame : UInt32),
          (canvas.placeText fb text el allowMarquee frame).2 = false ∧
          ∀ (row : Fin rows) (column : Fin cols),
            (canvas.placeText fb text el allowMarquee frame).1 row column =
              if canvas.scaledText el.style text
                  (column.val - (el.x.toNat + alignment el text)) (row.val - el.y.toNat) = true
                then canvas.scaled (elemColor el) else fb row column) := by
  have width := textWidth_nonneg el.style text
  have positive : 0 < el.style.period text := by
    unfold GlyphStyle.period marqueeGap
    omega
  refine ⟨fun boxed wider => ⟨fun frame => ?_, fun frame => ?_, ?_⟩, fun fits => ?_⟩
  · rw [canvas.placeText_marquee fb text el frame boxed wider]
    refine ⟨rfl, fun row column => ?_⟩
    simp only [Raster.paint, Bool.and_eq_true, decide_eq_true_eq]
    rfl
  · obtain ⟨low, high⟩ := marqueeOffset_bounds positive frame
    exact ⟨low, high, marqueeOffset_held, marqueeOffset_next positive⟩
  · intro cycle column counts low high
    have within : 0 ≤ column ∧ column < el.style.period text := by
      unfold GlyphStyle.period marqueeGap
      omega
    obtain ⟨frame, inCycle, offset⟩ := exists_marqueeOffset within counts
    refine ⟨frame, inCycle, fun row => ?_⟩
    rw [offset, tape, Int.emod_eq_of_lt within.1 within.2]
  · refine ⟨alignment_within fits, fun allowMarquee frame => ?_⟩
    rw [canvas.placeText_flush fb text el allowMarquee frame fits]
    refine ⟨rfl, fun row column => ?_⟩
    simp only [Raster.paint]
    rfl

end Canvas

end Zugli
