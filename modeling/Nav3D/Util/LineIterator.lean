/-
Nav3D.Util.LineIterator — the cells of a line between two cells of a grid
(`nav3d_util/line_iterator.hpp`).

The members are `int`s. A computation that leaves their range is undefined,
so it is `none` here; nothing is assumed of a run but that it does not
happen (`NoOverflow`). Then `for (; isValid(); advance())` draws the line
(`visitedCells_draws`).
-/
import Nav3D.Lib.DigitalLine

namespace Nav3D.Util

open DigitalLine

/-! ## The iterator -/

/-- The result of a computation with `int`s. -/
def int? (n : Int) : Option Int := if -2 ^ 31 ≤ n ∧ n < 2 ^ 31 then some n else none

theorem int?_eq_some {n m : Int} (h : int? n = some m) : m = n := by
  simp only [int?] at h
  split at h <;> simp_all

/-- The members that `advance()` and `isValid()` look at. -/
@[ext] structure LineIterator where
  x : Int
  y : Int
  curpixel : Int
  xinc1 : Int
  xinc2 : Int
  yinc1 : Int
  yinc2 : Int
  den : Int
  num : Int
  numadd : Int
  numpixels : Int
  deriving DecidableEq, Repr

namespace LineIterator

/-- The constructor. -/
def new (x0 y0 x1 y1 : Int) : Option LineIterator := do
  let dx ← int? (x1 - x0)
  let deltax ← int? |dx|
  let dy ← int? (y1 - y0)
  let deltay ← int? |dy|
  let xinc := if x1 ≥ x0 then 1 else -1
  let yinc := if y1 ≥ y0 then 1 else -1
  if deltax ≥ deltay then
    return {
      x := x0, y := y0, curpixel := 0
      xinc1 := 0, xinc2 := xinc, yinc1 := yinc, yinc2 := 0
      den := deltax, num := deltax / 2, numadd := deltay, numpixels := deltax }
  else
    return {
      x := x0, y := y0, curpixel := 0
      xinc1 := xinc, xinc2 := 0, yinc1 := 0, yinc2 := yinc
      den := deltay, num := deltay / 2, numadd := deltax, numpixels := deltay }

def isValid (it : LineIterator) : Bool := it.curpixel ≤ it.numpixels

/-- `if (num_ >= den_) { … }`. -/
def carry (it : LineIterator) : Option LineIterator :=
  if it.num ≥ it.den then do
    let num ← int? (it.num - it.den)
    let x ← int? (it.x + it.xinc1)
    let y ← int? (it.y + it.yinc1)
    return { it with num := num, x := x, y := y }
  else some it

def advance (it : LineIterator) : Option LineIterator := do
  let num ← int? (it.num + it.numadd)
  let it ← carry { it with num := num }
  let x ← int? (it.x + it.xinc2)
  let y ← int? (it.y + it.yinc2)
  let curpixel ← int? (it.curpixel + 1)
  return { it with x := x, y := y, curpixel := curpixel }

/-- `carry` over the integers. -/
def carried (it : LineIterator) : LineIterator :=
  if it.num ≥ it.den then
    { it with num := it.num - it.den, x := it.x + it.xinc1, y := it.y + it.yinc1 }
  else it

/-- `advance()` over the integers. -/
def advanced (it : LineIterator) : LineIterator :=
  let it := carried { it with num := it.num + it.numadd }
  { it with x := it.x + it.xinc2, y := it.y + it.yinc2, curpixel := it.curpixel + 1 }

theorem carry_eq_some {it it' : LineIterator} (h : it.carry = some it') : it' = it.carried := by
  simp only [carry] at h
  simp only [carried]
  split at h
  · simp only [Option.bind_eq_bind, Option.bind_eq_some_iff, Option.pure_def,
      Option.some.injEq] at h
    obtain ⟨num, hnum, x, hx, y, hy, rfl⟩ := h
    simp_all [int?_eq_some hnum, int?_eq_some hx, int?_eq_some hy]
  · simp_all

/-- Without overflow `advance()` computes over the integers. -/
theorem advance_eq_some {it it' : LineIterator} (h : it.advance = some it') :
    it' = it.advanced := by
  simp only [advance, Option.bind_eq_bind, Option.bind_eq_some_iff, Option.pure_def,
    Option.some.injEq] at h
  obtain ⟨num, hnum, it₁, hcarry, x, hx, y, hy, pixel, hpixel, rfl⟩ := h
  simp [advanced, ← carry_eq_some hcarry, ← int?_eq_some hnum, int?_eq_some hx, int?_eq_some hy,
    int?_eq_some hpixel]

@[simp] theorem carried_curpixel (it : LineIterator) : it.carried.curpixel = it.curpixel := by
  simp only [carried]
  split <;> rfl

@[simp] theorem carried_numpixels (it : LineIterator) : it.carried.numpixels = it.numpixels := by
  simp only [carried]
  split <;> rfl

@[simp] theorem advanced_curpixel (it : LineIterator) :
    it.advanced.curpixel = it.curpixel + 1 := by
  simp [advanced]

@[simp] theorem advanced_numpixels (it : LineIterator) :
    it.advanced.numpixels = it.numpixels := by
  simp [advanced]

/-- The cells that `for (; isValid(); advance())` visits. -/
def cells (it : LineIterator) : Option (List (Int × Int)) :=
  if it.isValid then
    match _hadvance : it.advance with
    | none => none
    | some it' => do
      let rest ← cells it'
      return (it.x, it.y) :: rest
  else some []
termination_by (it.numpixels + 1 - it.curpixel).toNat
decreasing_by
  have hvalid : it.curpixel ≤ it.numpixels := by simpa [isValid] using ‹it.isValid = true›
  obtain rfl := advance_eq_some _hadvance
  simp only [advanced_curpixel, advanced_numpixels]
  omega

/-! ## Its states -/

/-- What the constructor leaves. -/
structure Fresh (it : LineIterator) : Prop where
  numadd_nonneg : 0 ≤ it.numadd
  numadd_le : it.numadd ≤ it.den
  numpixels_eq : it.numpixels = it.den
  num_eq : it.num = it.den / 2
  curpixel_eq : it.curpixel = 0

/-- The iterator after `k` steps of `advance()`. -/
def after (it : LineIterator) (k : Nat) : LineIterator :=
  { it with
    x := it.x + k * it.xinc2 + minor it.den it.numadd k * it.xinc1
    y := it.y + k * it.yinc2 + minor it.den it.numadd k * it.yinc1
    num := accumulator it.den it.numadd k
    curpixel := k }

variable {it : LineIterator}

theorem Fresh.den_nonneg (h : it.Fresh) : 0 ≤ it.den := h.numadd_nonneg.trans h.numadd_le

theorem Fresh.after_zero (h : it.Fresh) : it.after 0 = it := by
  ext <;> simp [after, minor_zero h.den_nonneg, accumulator_zero h.den_nonneg, h.num_eq,
    h.curpixel_eq]

theorem Fresh.isValid_after (h : it.Fresh) (k : Nat) :
    (it.after k).isValid = decide ((k : Int) ≤ it.den) := by
  simp [isValid, after, h.numpixels_eq]

theorem Fresh.isValid_advanced_after (h : it.Fresh) (k : Nat) :
    (it.after k).advanced.isValid = decide ((k : Int) + 1 ≤ it.den) := by
  simp [isValid, after, h.numpixels_eq]

/-- One step. -/
theorem Fresh.advanced_after (h : it.Fresh) (hden : 0 < it.den) (k : Nat) :
    (it.after k).advanced = it.after (k + 1) := by
  by_cases hcarry : it.den ≤ accumulator it.den it.numadd k + it.numadd
  · obtain ⟨hminor, hacc⟩ := step_carry hden h.numadd_le hcarry
    ext <;> simp [advanced, carried, after, hcarry, hminor, hacc] <;> ring
  · obtain ⟨hminor, hacc⟩ := step_stay hden h.numadd_nonneg (not_le.mp hcarry)
    ext <;> simp [advanced, carried, after, hcarry, hminor, hacc] <;> ring

/-- The cell after `k` steps. -/
def cell (it : LineIterator) (k : Nat) : Int × Int := ((it.after k).x, (it.after k).y)

/-- The cells that are left after `k` steps. By induction on their number. -/
theorem Fresh.cells_after (h : it.Fresh) {visited : List (Int × Int)} (count k : Nat)
    (hcount : (k + count : Int) = it.den + 1) (hcells : (it.after k).cells = some visited) :
    visited = (List.range' k count).map it.cell := by
  induction count generalizing k visited with
  | zero =>
    have hinvalid : (it.after k).isValid = false := by
      rw [h.isValid_after, decide_eq_false_iff_not]
      omega
    rw [cells] at hcells
    simp [hinvalid] at hcells
    simp [hcells]
  | succ count ih =>
    have hvalid : (it.after k).isValid = true := by
      rw [h.isValid_after, decide_eq_true_eq]
      omega
    rw [cells] at hcells
    simp only [hvalid, if_true] at hcells
    split at hcells
    · cases hcells
    · next it' hadvance =>
      obtain rfl := advance_eq_some hadvance
      simp only [Option.bind_eq_bind, Option.bind_eq_some_iff, Option.pure_def,
        Option.some.injEq] at hcells
      obtain ⟨rest, hrest, rfl⟩ := hcells
      rw [List.range'_succ, List.map_cons]
      congr 1
      by_cases hden : 0 < it.den
      · rw [h.advanced_after hden] at hrest
        exact ih (k + 1) (by push_cast at hcount ⊢; omega) hrest
      · -- a single cell: what is left is no longer valid
        have hzero := h.den_nonneg
        have hinvalid : (it.after k).advanced.isValid = false := by
          rw [h.isValid_advanced_after, decide_eq_false_iff_not]
          omega
        have hcount0 : count = 0 := by
          push_cast at hcount
          omega
        rw [cells] at hrest
        simp [hinvalid] at hrest
        simp [hrest, hcount0]

/-- All the cells. -/
theorem Fresh.cells_eq (h : it.Fresh) {visited : List (Int × Int)}
    (hcells : it.cells = some visited) :
    visited = (List.range (it.den.toNat + 1)).map it.cell := by
  have hnonneg := h.den_nonneg
  rw [List.range_eq_range']
  apply h.cells_after
  · push_cast
    omega
  · rwa [h.after_zero]

end LineIterator

/-! ## The line -/

open LineIterator

/-- The cells visited between two cells, if nothing overflows. -/
def visitedCells (x0 y0 x1 y1 : Int) : Option (List (Int × Int)) := do
  let it ← LineIterator.new x0 y0 x1 y1
  it.cells

/-- No difference or sum that the iterator computes leaves the range of
`int`. -/
def NoOverflow (x0 y0 x1 y1 : Int) : Prop := visitedCells x0 y0 x1 y1 ≠ none

/-- The cells of a line, seen with the axis of the longer side first. -/
def Draws (x0 y0 x1 y1 : Int) (visited : List (Int × Int)) : Prop :=
  if |y1 - y0| ≤ |x1 - x0| then IsLine x0 y0 x1 y1 visited
  else IsLine y0 x0 y1 x1 (visited.map Prod.swap)

section Line

variable {x0 y0 x1 y1 : Int} {it : LineIterator}

/-- The constructor leaves an iterator whose cells are the points of the
line. -/
theorem new_eq_some (h : LineIterator.new x0 y0 x1 y1 = some it) :
    it.Fresh ∧
      if |y1 - y0| ≤ |x1 - x0| then
        it.den = |x1 - x0| ∧ ∀ k, it.cell k = point x0 y0 x1 y1 k
      else it.den = |y1 - y0| ∧ ∀ k, it.cell k = (point y0 x0 y1 x1 k).swap := by
  simp only [LineIterator.new, Option.bind_eq_bind, Option.bind_eq_some_iff] at h
  obtain ⟨dx, hdx, deltax, hdeltax, dy, hdy, deltay, hdeltay, h⟩ := h
  obtain rfl := int?_eq_some hdx
  obtain rfl := int?_eq_some hdeltax
  obtain rfl := int?_eq_some hdy
  obtain rfl := int?_eq_some hdeltay
  split at h
  · next hmajor =>
    cases h
    rw [if_pos hmajor]
    refine ⟨⟨abs_nonneg _, hmajor, rfl, rfl, rfl⟩, rfl, ?_⟩
    intro k
    simp [cell, after, point, direction]
  · next hmajor =>
    cases h
    rw [if_neg hmajor]
    refine ⟨⟨abs_nonneg _, (not_le.mp hmajor).le, rfl, rfl, rfl⟩, rfl, ?_⟩
    intro k
    simp [cell, after, point, direction]

/-- **The line.** Without overflow the iterator visits the cells of a line
from the first cell to the second one. -/
theorem visitedCells_draws (h : NoOverflow x0 y0 x1 y1) :
    ∃ visited, visitedCells x0 y0 x1 y1 = some visited ∧
      (visited.length : Int) = max |x1 - x0| |y1 - y0| + 1 ∧ Draws x0 y0 x1 y1 visited := by
  obtain ⟨visited, hvisited⟩ := Option.ne_none_iff_exists'.mp h
  refine ⟨visited, hvisited, ?_⟩
  simp only [visitedCells, Option.bind_eq_bind, Option.bind_eq_some_iff] at hvisited
  obtain ⟨it, hnew, hcells⟩ := hvisited
  obtain ⟨hfresh, hcell⟩ := new_eq_some hnew
  have hall := hfresh.cells_eq hcells
  simp only [Draws]
  split at hcell
  · next hmajor =>
    have hline : IsLine x0 y0 x1 y1 visited := by
      rw [hall, hcell.1, funext hcell.2]
      exact isLine_points hmajor
    rw [if_pos hmajor, max_eq_left hmajor]
    exact ⟨hline.length, hline⟩
  · next hmajor =>
    have hline : IsLine y0 x0 y1 x1 (visited.map Prod.swap) := by
      have hswap : Prod.swap ∘ it.cell = point y0 x0 y1 x1 := by
        funext k
        simp [hcell.2 k]
      rw [hall, hcell.1, List.map_map, hswap]
      exact isLine_points (not_le.mp hmajor).le
    have hlength := hline.length
    rw [List.length_map] at hlength
    rw [if_neg hmajor, max_eq_right (not_le.mp hmajor).le]
    exact ⟨hlength, hline⟩

end Line

/-! ### Lines that do not overflow -/

namespace LineIterator

variable {x0 y0 x1 y1 : Int} {it : LineIterator}

theorem int?_of_abs_lt {n : Int} (h : |n| < 2 ^ 31) : int? n = some n := by
  rw [abs_lt] at h
  exact if_pos ⟨h.1.le, h.2⟩

/-- What one step adds to the members stays in range. -/
structure Room (it : LineIterator) : Prop where
  num : |it.num| + |it.numadd| + |it.den| < 2 ^ 31
  x : |it.x| + |it.xinc1| + |it.xinc2| < 2 ^ 31
  y : |it.y| + |it.yinc1| + |it.yinc2| < 2 ^ 31
  pixel : |it.curpixel| + 1 < 2 ^ 31

theorem Room.carry (h : Room it) : LineIterator.carry { it with num := it.num + it.numadd } =
    some (carried { it with num := it.num + it.numadd }) := by
  obtain ⟨hnum, hx, hy, -⟩ := h
  have hnum' : int? (it.num + it.numadd - it.den) = some (it.num + it.numadd - it.den) :=
    int?_of_abs_lt (by grind)
  have hx' : int? (it.x + it.xinc1) = some (it.x + it.xinc1) := int?_of_abs_lt (by grind)
  have hy' : int? (it.y + it.yinc1) = some (it.y + it.yinc1) := int?_of_abs_lt (by grind)
  simp only [LineIterator.carry, carried]
  split
  · simp [hnum', hx', hy']
  · rfl

theorem Room.advance (h : Room it) : it.advance = some it.advanced := by
  have hcarry := h.carry
  obtain ⟨hnum, hx, hy, hpixel⟩ := h
  have hnum' : int? (it.num + it.numadd) = some (it.num + it.numadd) :=
    int?_of_abs_lt (by grind)
  have hx' : int? ((carried { it with num := it.num + it.numadd }).x + it.xinc2) =
      some ((carried { it with num := it.num + it.numadd }).x + it.xinc2) := by
    apply int?_of_abs_lt
    simp only [carried]
    split <;> grind
  have hy' : int? ((carried { it with num := it.num + it.numadd }).y + it.yinc2) =
      some ((carried { it with num := it.num + it.numadd }).y + it.yinc2) := by
    apply int?_of_abs_lt
    simp only [carried]
    split <;> grind
  have hpixel' : int? (it.curpixel + 1) = some (it.curpixel + 1) := int?_of_abs_lt (by grind)
  have hinc (it : LineIterator) : it.carried.xinc2 = it.xinc2 ∧ it.carried.yinc2 = it.yinc2 := by
    simp only [carried]
    split <;> simp
  simp [LineIterator.advance, advanced, hnum', hcarry, hx', hy', hpixel', hinc]

/-- The loop goes through if there is room in each of its steps. By induction
on the number of cells that are left. -/
theorem cells_ne_none (h : it.Fresh) (hroom : ∀ k : Nat, (k : Int) ≤ it.den → Room (it.after k))
    (count k : Nat) (hcount : (k + count : Int) = it.den + 1) : (it.after k).cells ≠ none := by
  induction count generalizing k with
  | zero =>
    have hinvalid : (it.after k).isValid = false := by
      rw [h.isValid_after, decide_eq_false_iff_not]
      omega
    rw [cells]
    simp [hinvalid]
  | succ count ih =>
    have hvalid : (it.after k).isValid = true := by
      rw [h.isValid_after, decide_eq_true_eq]
      omega
    have hadvance := (hroom k (by omega)).advance
    have hrest : (it.after k).advanced.cells ≠ none := by
      by_cases hden : 0 < it.den
      · rw [h.advanced_after hden]
        exact ih (k + 1) (by push_cast at hcount ⊢; omega)
      · have hinvalid : (it.after k).advanced.isValid = false := by
          rw [h.isValid_advanced_after, decide_eq_false_iff_not]
          omega
        rw [cells]
        simp [hinvalid]
    obtain ⟨rest, hrest⟩ := Option.ne_none_iff_exists'.mp hrest
    rw [cells]
    simp [hvalid]
    split
    · next hnone => simp [hadvance] at hnone
    · next it' hsome =>
      rw [hadvance] at hsome
      cases hsome
      simp [hrest]

/-- An iterator with steps of at most one. -/
structure UnitSteps (it : LineIterator) : Prop where
  xinc1 : |it.xinc1| ≤ 1
  xinc2 : |it.xinc2| ≤ 1
  yinc1 : |it.yinc1| ≤ 1
  yinc2 : |it.yinc2| ≤ 1

theorem exists_new (hx : |x1 - x0| < 2 ^ 31) (hy : |y1 - y0| < 2 ^ 31) :
    ∃ it, LineIterator.new x0 y0 x1 y1 = some it ∧ UnitSteps it ∧ it.x = x0 ∧ it.y = y0 ∧
      (it.den = |x1 - x0| ∨ it.den = |y1 - y0|) := by
  have hdx := int?_of_abs_lt hx
  have hdy := int?_of_abs_lt hy
  have hdeltax : int? |x1 - x0| = some |x1 - x0| := int?_of_abs_lt (by rwa [abs_abs])
  have hdeltay : int? |y1 - y0| = some |y1 - y0| := int?_of_abs_lt (by rwa [abs_abs])
  have hunit := fun a b => (abs_direction a b).le
  simp only [direction] at hunit
  simp only [LineIterator.new, hdx, hdy, hdeltax, hdeltay, Option.bind_eq_bind, Option.bind_some,
    Option.pure_def]
  split
  · exact ⟨_, rfl, ⟨by simp, hunit x0 x1, hunit y0 y1, by simp⟩, rfl, rfl, .inl rfl⟩
  · exact ⟨_, rfl, ⟨hunit x0 x1, by simp, by simp, hunit y0 y1⟩, rfl, rfl, .inr rfl⟩

theorem abs_mul_le {n m b : Int} (hn : |n| ≤ 1) (hm : |m| ≤ b) : |m * n| ≤ b := by
  rw [abs_mul]
  nlinarith [abs_nonneg m, abs_nonneg n]

theorem Fresh.abs_accumulator_le (h : it.Fresh) {k : Nat} (hk : (k : Int) ≤ it.den) :
    |accumulator it.den it.numadd k| ≤ it.den := by
  rcases h.den_nonneg.eq_or_lt with hzero | hpos
  · have hk0 : k = 0 := by omega
    rw [hk0, accumulator_zero h.den_nonneg, ← hzero]
    simp
  · rw [abs_of_nonneg (accumulator_nonneg hpos)]
    exact (accumulator_lt hpos).le

/-- There is room in each step that starts and ends near the origin. -/
theorem Fresh.room_after (h : it.Fresh) (hunit : UnitSteps it) (hx : |it.x| < 2 ^ 28)
    (hy : |it.y| < 2 ^ 28) (hden : it.den < 2 ^ 29) {k : Nat} (hk : (k : Int) ≤ it.den) :
    Room (it.after k) := by
  have hminor : |minor it.den it.numadd k| ≤ k := by
    rw [abs_of_nonneg (minor_nonneg h.numadd_nonneg h.numadd_le)]
    exact minor_le h.numadd_nonneg h.numadd_le
  have hcount : |(k : Int)| ≤ k := by simp
  have hx₁ := abs_mul_le hunit.xinc1 hminor
  have hx₂ := abs_mul_le hunit.xinc2 hcount
  have hy₁ := abs_mul_le hunit.yinc1 hminor
  have hy₂ := abs_mul_le hunit.yinc2 hcount
  have hsumx := abs_add_three it.x (k * it.xinc2) (minor it.den it.numadd k * it.xinc1)
  have hsumy := abs_add_three it.y (k * it.yinc2) (minor it.den it.numadd k * it.yinc1)
  have hnum := h.abs_accumulator_le hk
  have hnumadd := abs_of_nonneg h.numadd_nonneg
  have hden' := abs_of_nonneg h.den_nonneg
  have hle := h.numadd_le
  obtain ⟨hxinc1, hxinc2, hyinc1, hyinc2⟩ := hunit
  constructor
  · simp only [after]
    linarith
  · simp only [after]
    linarith
  · simp only [after]
    linarith
  · simp only [after]
    linarith

end LineIterator

/-- Coordinates below a quarter of a billion leave room. -/
theorem noOverflow_of_small {x0 y0 x1 y1 : Int} (hx0 : |x0| < 2 ^ 28) (hy0 : |y0| < 2 ^ 28)
    (hx1 : |x1| < 2 ^ 28) (hy1 : |y1| < 2 ^ 28) : NoOverflow x0 y0 x1 y1 := by
  have hdx : |x1 - x0| < 2 ^ 29 := by grind
  have hdy : |y1 - y0| < 2 ^ 29 := by grind
  obtain ⟨it, hnew, hunit, rfl, rfl, hden⟩ :=
    @exists_new x0 y0 x1 y1 (by omega) (by omega)
  have hfresh := (new_eq_some hnew).1
  have hnonneg := hfresh.den_nonneg
  have hcells := cells_ne_none hfresh
    (fun k hk => hfresh.room_after hunit hx0 hy0 (by omega) hk) (it.den.toNat + 1) 0
    (by push_cast; omega)
  rw [hfresh.after_zero] at hcells
  simpa [NoOverflow, visitedCells, hnew] using hcells

/-- A line downwards, longer along the second axis. -/
theorem visitedCells_draws_steep :
    ∃ visited, visitedCells 1 4 3 (-1) = some visited ∧
      (visited.length : Int) = max |3 - 1| |-1 - 4| + 1 ∧ Draws 1 4 3 (-1) visited :=
  visitedCells_draws
    (noOverflow_of_small (by decide) (by decide) (by decide) (by decide))

end Nav3D.Util
