import Zugli.Firmware.Display.Draw

/-!
# The built-in screens

Provisioning, the rolling tram of the connecting and offline screens, the idle address, the
departures board and the focus view. Each drawer also says whether anything on it is animating.
-/

namespace Zugli

namespace Canvas

variable (canvas : Canvas) (fb : FrameBuffer)

/-- `draw_provisioning`. -/
def drawProvisioning (frame : UInt32) : FrameBuffer × Bool :=
  let fb := canvas.left fb "Zugli".toList 2 2 .font6x10 .accent
  let fb := canvas.left fb "Join WiFi:".toList 2 18 .font5x7 .dim
  let fb := canvas.left fb "Zugli-Setup".toList 2 26 .font5x7 .accent
  let fb := canvas.left fb "then open:".toList 2 42 .font5x7 .dim
  canvas.drawMarquee fb "zugli.local or 192.168.4.1".toList 2 50 (cols - 2) .font5x7 .accent frame

/-! ## The rolling tram -/

/-- `T_BODY`. -/
def tBody : Color := ⟨0xBE, 0x56, 0x14⟩
/-- `T_HI`. -/
def tHi : Color := ⟨0xDE, 0x74, 0x1C⟩
/-- `T_DK`. -/
def tDk : Color := ⟨0x58, 0x26, 0x08⟩
/-- `T_HEAD`. -/
def tHead : Color := ⟨0xFF, 0xBE, 0x3C⟩
/-- `T_GLOW`. -/
def tGlow : Color := ⟨0xE0, 0x86, 0x10⟩
/-- `T_GLASS`. -/
def tGlass : Color := ⟨0x10, 0x0A, 0x05⟩
/-- `T_LITWIN`. -/
def tLitwin : Color := ⟨0xF0, 0x9C, 0x00⟩
/-- `T_BLIND`. -/
def tBlind : Color := ⟨0xFF, 0xA8, 0x00⟩
/-- `T_BLIND_BG`. -/
def tBlindBg : Color := ⟨0x0D, 0x09, 0x04⟩
/-- `T_WHEEL`. -/
def tWheel : Color := ⟨0x0A, 0x06, 0x03⟩
/-- `WIRE`. -/
def wire : Color := ⟨0x3E, 0x24, 0x0A⟩
/-- `RAIL`. -/
def rail : Color := ⟨0x90, 0x4E, 0x16⟩
/-- `SLEEP`. -/
def sleeper : Color := ⟨0x2C, 0x16, 0x06⟩

/-- `TW`, the tram's length. -/
def tw : Int := 28
/-- `CONNECT_SPAN`, from fully left of the panel to fully right of it. -/
def connectSpan : Int := cols + tw
/-- `CONNECT_CYCLE_FRAMES`, frames of one pass. -/
def connectCycleFrames : Nat := 48
/-- `TRAIN_TOP`. -/
def trainTop : Int := 34
/-- `WIRE_Y`. -/
def wireY : Int := 28
/-- `RAIL_Y`. -/
def railY : Int := 50

/-- Whether the animation has completed a pass. -/
def connectCycleDone (frame : UInt32) : Bool := decide (connectCycleFrames - 1 ≤ frame.toNat)

/-- Plot a tram-local pixel; the tram is modelled nose first and mirrored. -/
def tp (ox lx ly : Int) (color : Color) (fb : FrameBuffer) : FrameBuffer :=
  canvas.pset fb (ox + (tw - 1 - lx)) ly color

/-- One bogie. -/
def bogie (ox lx ly : Int) (fb : FrameBuffer) : FrameBuffer :=
  let fb := forSpan 0 5 (fun i => canvas.tp ox (lx + i) ly tDk) fb
  [lx + 1, lx + 3].foldl
    (fun fb wx => canvas.tp ox wx (ly + 2) tWheel (canvas.tp ox wx (ly + 1) tWheel fb)) fb

/-- The route blind, its unlit cells filled. -/
def blind (ox top : Int) : List (List Nat × Nat) → FrameBuffer → FrameBuffer
  | [], fb => fb
  | (row, gy) :: rest, fb =>
    blind ox top rest (row.zipIdx.foldl (fun fb (on, gx) =>
      canvas.tp ox (3 + gx) (top + 3 + gy) (if on = 1 then tBlind else tBlindBg) fb) fb)

/-- Sleepers below the rail, every fifth column from the second on. -/
def sleepers : FrameBuffer :=
  forRange 13 (fun i fb => canvas.pset fb (2 + 5 * i) (railY + 1) sleeper) fb

/-- `draw_tram_scene`. -/
def drawTramScene (frame : UInt32) : FrameBuffer :=
  let fb := canvas.rule fb wireY wire
  let fb := canvas.rule fb railY rail
  let fb := canvas.sleepers fb
  let phase : Int := (frame.toNat % connectCycleFrames : Nat)
  let ox := -tw + (phase * connectSpan).tdiv connectCycleFrames
  let top := trainTop
  let fb := forSpan 0 tw (fun lx fb =>
    let bt := if lx = 0 then top + 4 else if lx = 1 then top + 2 else top + 1
    forSpan bt (top + 12) (fun ly => canvas.tp ox lx ly tBody) fb) fb
  let fb := forSpan 2 (tw - 1) (fun lx => canvas.tp ox lx (top + 1) tHi) fb
  let fb := forSpan 1 (tw - 1) (fun lx => canvas.tp ox lx (top + 11) tDk) fb
  let fb := forSpan 8 (tw - 2) (fun lx fb =>
    if (lx - 8).tmod 3 ≠ 2 then forSpan (top + 3) (top + 7) (fun ly => canvas.tp ox lx ly tGlass) fb
    else fb) fb
  let fb := forSpan (top + 3) (top + 6) (fun ly fb =>
    canvas.tp ox 11 ly tLitwin (canvas.tp ox 10 ly tLitwin fb)) fb
  let fb := canvas.blind ox top zGlyph.zipIdx fb
  let fb := canvas.tp ox 0 (top + 8) tHead fb
  let fb := canvas.tp ox 0 (top + 9) tHead fb
  let fb := canvas.tp ox 0 (top + 10) tHi fb
  let fb := canvas.tp ox 1 (top + 9) tGlow fb
  let fb := canvas.tp ox (tw - 9) top tHi fb
  let fb := canvas.tp ox (tw - 9) (top - 1) tDk fb
  let fb := forSpan (tw - 11) (tw - 6) (fun lx => canvas.tp ox lx (top - 2) tDk) fb
  let fb := canvas.bogie ox 3 (top + 12) fb
  canvas.bogie ox 18 (top + 12) fb

/-- `draw_connecting`. -/
def drawConnecting (frame : UInt32) : FrameBuffer × Bool :=
  let fb := canvas.centered fb "Connecting".toList 6 .font5x7 .amber
  (canvas.drawTramScene fb frame, true)

/-- `draw_offline`. -/
def drawOffline (frame : UInt32) : FrameBuffer × Bool :=
  let fb := canvas.centered fb "offline".toList 4 .font5x7 .amber
  let fb := canvas.centered fb "reconnecting".toList 13 .font5x7 .amber
  (canvas.drawTramScene fb frame, true)

/-- `draw_idle`. -/
def drawIdle (octets : UInt8 × UInt8 × UInt8 × UInt8) (frame : UInt32) : FrameBuffer × Bool :=
  let fb := canvas.left fb "Choose a".toList 2 2 .font5x7 .amber
  let fb := canvas.left fb "connection".toList 2 12 .font5x7 .amber
  let fb := canvas.blitBitmap fb arrowGlyph 54 13 1 .accent
  let fb := canvas.left fb "Open:".toList 2 32 .font5x7 .dim
  let (a, b, c, d) := octets
  let addr := writeInto 32 ["zugli.local or ".toList, Nat.toDigits 10 a.toNat, ['.'],
    Nat.toDigits 10 b.toNat, ['.'], Nat.toDigits 10 c.toNat, ['.'], Nat.toDigits 10 d.toNat] []
  canvas.drawMarquee fb addr 2 42 (cols - 2) .font5x7 .accent frame

/-! ## The departures board -/

/-- `ROW_H`, height of a row of the board. -/
def rowH : Int := 17

/-- `TOP`, top of the first row. -/
def boardTop : Int := 12

/-- Left edge of a row's time: the tram pictogram centred over the first digit of a one-digit time,
else the figures right-aligned. -/
def timeX (minutes : Option UInt16) : Int :=
  if minutes = some 0 then cols - 1 - 2 * 5 + (5 - trainW).tdiv 2
  else cols - 1 - charCount (fmtMinutes minutes) * 5

/-- One row of the board: its time, its line and its destination. -/
def drawRow (dep : Departure) (i : Nat) (frame : UInt32) : FrameBuffer × Bool :=
  let ry := boardTop + i * rowH
  let badgeY := ry + 3
  let textY := ry + 6
  let x := timeX dep.minutes
  let fb :=
    if dep.minutes = some 0 then canvas.drawTrainFront fb x (ry + 4) .accent
    else canvas.left fb (fmtMinutes dep.minutes) x textY .font5x7 .accent
  let (fb, badgeEnd) := canvas.drawLineLabel fb dep.line.chars 1 badgeY
  let destX := badgeEnd + 2
  let destAvail := x - 2 - destX
  if 0 < destAvail then
    canvas.drawMarqueeClipped fb (canvas.city dep.destination.chars) destX ry destAvail rowH textY
      .font5x7 .amber frame
  else (fb, false)

/-- The rows from index `i` on. -/
def drawRows (frame : UInt32) : List Departure → Nat → FrameBuffer × Bool → FrameBuffer × Bool
  | [], _, (fb, scrolling) => (fb, scrolling)
  | dep :: rest, i, (fb, scrolling) =>
    let (fb, scrolls) := canvas.drawRow fb dep i frame
    drawRows frame rest (i + 1) (fb, scrolling || scrolls)

/-- `draw_departures`. -/
def drawDepartures (station : List Char) (deps : List Departure) (frame : UInt32) :
    FrameBuffer × Bool :=
  let (fb, scrollStation) :=
    canvas.drawMarquee fb (canvas.city station) 1 0 (cols - 2) .font6x10 .amber frame
  let fb := canvas.rule fb 11 .accent
  if deps.isEmpty then
    (canvas.centered fb "no service".toList 32 .font5x7 .dim, scrollStation)
  else canvas.drawRows frame (deps.take 3) 0 (fb, scrollStation)

/-! ## The focus view -/

/-- `BIG_DW`. -/
def bigDw : Int := 15
/-- `BIG_DH`. -/
def bigDh : Int := 34
/-- `BIG_GAP`. -/
def bigGap : Int := 4

/-- `MASK`, the lit segments of each digit, a bit per segment. -/
def segMask : List Nat := [
  0b0111111, 0b0000110, 0b1011011, 0b1001111, 0b1100110,
  0b1101101, 0b1111101, 0b0000111, 0b1111111, 0b1101111]

/-- Draw one seven-segment digit. -/
def drawSegDigit (x y : Int) (d : Nat) (color : Color) : FrameBuffer :=
  let t : Int := 3
  let m := segMask.getD (d % 10) 0
  let on (seg : Nat) (fill : FrameBuffer → FrameBuffer) (fb : FrameBuffer) : FrameBuffer :=
    if m.testBit seg then fill fb else fb
  let w := bigDw
  let h := bigDh
  let mid := y + (h - t).tdiv 2
  let fb := on 0 (fun fb => canvas.fillRect fb x y w t color) fb
  let fb := on 6 (fun fb => canvas.fillRect fb x mid w t color) fb
  let fb := on 3 (fun fb => canvas.fillRect fb x (y + h - t) w t color) fb
  let fb := on 5 (fun fb => canvas.fillRect fb x y t (h.tdiv 2) color) fb
  let fb := on 1 (fun fb => canvas.fillRect fb (x + w - t) y t (h.tdiv 2) color) fb
  let fb := on 4 (fun fb => canvas.fillRect fb x (y + h.tdiv 2) t (h.tdiv 2) color) fb
  on 2 (fun fb => canvas.fillRect fb (x + w - t) (y + h.tdiv 2) t (h.tdiv 2) color) fb

/-- The digits of the countdown from `x` on; the column past them. -/
def drawSegDigits (y : Int) : List Char → Int → FrameBuffer → FrameBuffer × Int
  | [], x, fb => (fb, x)
  | ch :: rest, x, fb =>
    drawSegDigits y rest (x + (bigDw + bigGap))
      (canvas.drawSegDigit fb x y (ch.toNat - '0'.toNat) .amber)

/-- The large countdown, centred on row `cy`. -/
def drawBigMinutes (minutes : Option UInt16) (cy : Int) : FrameBuffer :=
  match minutes with
  | none =>
    let t : Int := 4
    let total := 2 * bigDw + bigGap
    let x := (cols - total).tdiv 2
    let y := cy - t.tdiv 2
    let fb := canvas.fillRect fb x y bigDw t .dim
    canvas.fillRect fb (x + (bigDw + bigGap)) y bigDw t .dim
  | some m =>
    if m = 0 then
      canvas.drawTrainFrontScaled fb ((cols - trainW * 2).tdiv 2) (cy - trainH) 2 .accent
    else
      let buf := writeInto 8 [Nat.toDigits 10 m.toNat] []
      let n := charCount buf
      let digitsW := n * bigDw + (n - 1) * bigGap
      let x := (cols - digitsW).tdiv 2
      let y := cy - bigDh.tdiv 2
      let (fb, x) := canvas.drawSegDigits y buf x fb
      canvas.fillRect fb (x - bigGap + 3) y 2 6 .amber

/-- `draw_focus`. -/
def drawFocus (deps : List Departure) (frame : UInt32) : FrameBuffer × Bool :=
  match deps with
  | [] => (canvas.centered fb "no service".toList 28 .font5x7 .dim, false)
  | next :: others =>
    let (fb, badgeEnd) := canvas.drawLineLabel fb next.line.chars 1 1
    let destX := badgeEnd + 2
    let destAvail := cols - 1 - destX
    let (fb, scrolling) :=
      if 0 < destAvail then
        canvas.drawMarqueeClipped fb (canvas.city next.destination.chars) destX 1 destAvail 11 4
          .font5x7 .amber frame
      else (fb, false)
    let fb := canvas.drawBigMinutes fb next.minutes 33
    match others with
    | [] => (fb, scrolling)
    | after :: _ =>
      let segs : List Segment := [
        ⟨"next".toList, .font5x7, .dim⟩,
        ⟨after.line.chars, .font5x7, .amber⟩,
        ⟨"in".toList, .font5x7, .dim⟩,
        ⟨fmtMinutes after.minutes, .font5x7, .accent⟩]
      let (fb, scrolls) := canvas.drawSegmentsRow fb segs 1 57 (cols - 2) 4 frame
      (fb, scrolling || scrolls)

end Canvas

end Zugli
