/-!
# Counted loops and pixel rasters

A raster gives every pixel of a fixed-size panel a value. Drawing paints a region, and the part of
the region that lies off the panel is lost. Drawing code is made of counted loops, so the module
also gives the loop with its two rules: two loops that keep a relation step by step keep it, and a
loop that paints one region after another in one value paints their union.
-/

/-- Run `body` on `0, 1, …, count - 1` in order, threading a state. -/
def forRange {σ : Type} : Nat → (Nat → σ → σ) → σ → σ
  | 0, _, state => state
  | count + 1, body, state => body count (forRange count body state)

/-- Run `body` on the integers from `low` up to `high`, excluded. -/
def forSpan {σ : Type} (low high : Int) (body : Int → σ → σ) (state : σ) : σ :=
  forRange (high - low).toNat (fun index => body (low + index)) state

section Loops

variable {σ τ : Type}

@[simp] theorem forRange_zero (body : Nat → σ → σ) (state : σ) : forRange 0 body state = state := rfl

@[simp] theorem forRange_succ (count : Nat) (body : Nat → σ → σ) (state : σ) :
    forRange (count + 1) body state = body count (forRange count body state) := rfl

/-- Two loops of one length keep every relation that their bodies keep at each index. -/
theorem forRange_related (related : σ → τ → Prop) {count : Nat} {left : Nat → σ → σ}
    {right : Nat → τ → τ} {state : σ} {state' : τ} (start : related state state')
    (step : ∀ index < count, ∀ s t, related s t → related (left index s) (right index t)) :
    related (forRange count left state) (forRange count right state') := by
  induction count with
  | zero => exact start
  | succ count previous =>
    have before := previous fun index below => step index (Nat.lt_succ_of_lt below)
    exact step count (Nat.lt_succ_self count) _ _ before

/-- Two loops over one span keep every relation that their bodies keep. -/
theorem forSpan_related (related : σ → τ → Prop) {low high : Int} {left : Int → σ → σ}
    {right : Int → τ → τ} {state : σ} {state' : τ} (start : related state state')
    (step : ∀ index s t, related s t → related (left index s) (right index t)) :
    related (forSpan low high left state) (forSpan low high right state') :=
  forRange_related related start fun index _ s t before => step (low + index) s t before

/-- Loops whose bodies agree at each index agree. -/
theorem forRange_congr {count : Nat} {left right : Nat → σ → σ}
    (same : ∀ index < count, ∀ s, left index s = right index s) (state : σ) :
    forRange count left state = forRange count right state :=
  forRange_related Eq rfl fun index below s t equal => by
    rw [← equal, same index below]

end Loops

/-- A raster of `height` rows of `width` pixels. -/
def Raster (width height : Nat) (γ : Type) : Type := Fin height → Fin width → γ

namespace Raster

variable {width height : Nat} {γ : Type}

/-- A raster of one value. -/
def blank (value : γ) : Raster width height γ := fun _ _ => value

/-- Give `value` to every pixel whose column and row lie in the region. -/
def paint (region : Int → Int → Bool) (value : γ) (raster : Raster width height γ) :
    Raster width height γ :=
  fun row column => if region column.val row.val then value else raster row column

/-- The region of a single pixel. -/
def pixel (x y : Int) : Int → Int → Bool := fun column row => decide (column = x ∧ row = y)

/-- The region of a rectangle given by its top left corner and its size. -/
def rectangle (x y w h : Int) : Int → Int → Bool :=
  fun column row => decide (x ≤ column ∧ column < x + w ∧ y ≤ row ∧ row < y + h)

/-- A raster with a function of each of its values. -/
def map {δ : Type} (change : γ → δ) (raster : Raster width height γ) : Raster width height δ :=
  fun row column => change (raster row column)

/-- A blank raster changes to a blank one. -/
theorem map_blank {δ : Type} (change : γ → δ) (value : γ) :
    (blank value : Raster width height γ).map change = blank (change value) := rfl

/-- Painting and changing is changing and painting the changed value. -/
theorem map_paint {δ : Type} (change : γ → δ) (region : Int → Int → Bool) (value : γ)
    (raster : Raster width height γ) :
    (raster.paint region value).map change = (raster.map change).paint region (change value) := by
  funext row column
  simp only [map, paint, apply_ite change]

/-- Regions that agree on the panel paint the same. -/
theorem paint_congr {left right : Int → Int → Bool} {value : γ} {raster : Raster width height γ}
    (same : ∀ (row : Fin height) (column : Fin width),
      left column.val row.val = right column.val row.val) :
    raster.paint left value = raster.paint right value := by
  funext row column
  simp only [paint, same]

/-- Painting a region that lies off the panel changes nothing. -/
theorem paint_of_off_panel {region : Int → Int → Bool} {value : γ}
    {raster : Raster width height γ}
    (off : ∀ (row : Fin height) (column : Fin width), region column.val row.val = false) :
    raster.paint region value = raster := by
  funext row column
  simp [paint, off]

/-- Painting a region and then another in one value paints both. -/
theorem paint_paint (first second : Int → Int → Bool) (value : γ)
    (raster : Raster width height γ) :
    (raster.paint first value).paint second value =
      raster.paint (fun column row => first column row || second column row) value := by
  funext row column
  by_cases later : second column.val row.val = true
  · simp [paint, later]
  · simp [paint, later]

/-- Painting under a condition paints the region the condition leaves. -/
theorem paint_if (condition : Prop) [Decidable condition] (region : Int → Int → Bool) (value : γ)
    (raster : Raster width height γ) :
    (if condition then raster.paint region value else raster) =
      raster.paint (fun column row => decide condition && region column row) value := by
  by_cases holds : condition
  · simp [holds]
  · simp only [holds, if_false, decide_false, Bool.false_and]
    exact (paint_of_off_panel fun _ _ => rfl).symm

/-- Painting regions one after another in one value paints their union. -/
theorem forRange_paint (count : Nat) (region : Nat → Int → Int → Bool) (value : γ)
    (raster : Raster width height γ) :
    forRange count (fun index => paint (region index) value) raster =
      raster.paint (fun column row => decide (∃ index < count, region index column row = true))
        value := by
  induction count with
  | zero => simp [paint_of_off_panel]
  | succ count previous =>
    funext row column
    rw [forRange_succ, previous]
    by_cases last : region count column.val row.val = true
    · have some : ∃ index < count + 1, region index column.val row.val = true :=
        ⟨count, Nat.lt_succ_self count, last⟩
      simp only [paint, last, some, decide_true, ↓reduceIte]
    · have below : (∃ index < count + 1, region index column.val row.val = true) ↔
          ∃ index < count, region index column.val row.val = true := by
        constructor
        · rintro ⟨index, bound, lit⟩
          have : index ≠ count := fun same => last (same ▸ lit)
          exact ⟨index, by omega, lit⟩
        · rintro ⟨index, bound, lit⟩
          exact ⟨index, Nat.lt_succ_of_lt bound, lit⟩
      simp only [paint, last, below, Bool.false_eq_true, ↓reduceIte]

/-- Setting every pixel of a rectangle, row by row, fills it. -/
theorem forRange_pixels (x y : Int) (w h : Nat) (value : γ) (raster : Raster width height γ) :
    forRange h (fun down => forRange w fun right =>
        paint (pixel (x + right) (y + down)) value) raster =
      raster.paint (rectangle x y w h) value := by
  have rows : ∀ down < h, ∀ state : Raster width height γ,
      forRange w (fun right => paint (pixel (x + right) (y + down)) value) state =
        state.paint (fun column row =>
          decide (∃ right < w, pixel (x + right) (y + down) column row = true)) value :=
    fun down _ state => forRange_paint w (fun right => pixel (x + right) (y + down)) value state
  rw [forRange_congr rows, forRange_paint]
  apply paint_congr
  intro row column
  simp only [pixel, rectangle, decide_eq_true_eq, decide_eq_decide]
  constructor
  · rintro ⟨down, low, right, near, across, along⟩
    omega
  · rintro ⟨left, across, top, along⟩
    exact ⟨(row.val - y).toNat, by omega, (column.val - x).toNat, by omega, by omega, by omega⟩

end Raster
