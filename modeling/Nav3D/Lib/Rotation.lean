/-
Nav3D.Lib.Rotation — rotations of space as unit quaternions and as
matrices, on real numbers.

The conversions are those of Eigen (`Quaternion::toRotationMatrix`, the
constructor of a quaternion from a matrix, `AngleAxis::toRotationMatrix`);
a quaternion `⟨w, x, y, z⟩` is one of Mathlib. The matrix of a unit
quaternion is multiplicative (`toRotationMatrix_mul`), and the quaternion
made from it is the same up to its sign (`ofRotationMatrix_toRotationMatrix`),
so that it stands for the same rotation.
-/
import Mathlib.Algebra.Quaternion
import Mathlib.Analysis.SpecialFunctions.Trigonometric.Basic
import Mathlib.LinearAlgebra.Matrix.Notation
import Mathlib.Tactic.LinearCombination
import Nav3D.Lib.Numerals

namespace Rotation

open Quaternion

/-- Mathlib's quaternions over the real numbers, `⟨w, x, y, z⟩`. -/
abbrev Quat : Type := Quaternion ℝ

/-! ## The conversions -/

/-- `Quaternion::toRotationMatrix`. -/
def toRotationMatrix (q : Quat) : Matrix (Fin 3) (Fin 3) ℝ :=
  let tx := 2 * q.imI
  let ty := 2 * q.imJ
  let tz := 2 * q.imK
  !![1 - (ty * q.imJ + tz * q.imK), ty * q.imI - tz * q.re, tz * q.imI + ty * q.re;
    ty * q.imI + tz * q.re, 1 - (tx * q.imI + tz * q.imK), tz * q.imJ - tx * q.re;
    tz * q.imI - ty * q.re, tz * q.imJ + tx * q.re, 1 - (tx * q.imI + ty * q.imJ)]

/-- The quaternion of a matrix with a positive trace. -/
noncomputable def ofTrace (m : Matrix (Fin 3) (Fin 3) ℝ) (trace : ℝ) : Quat :=
  let t := Real.sqrt (trace + 1)
  let s := 0.5 / t
  ⟨0.5 * t, (m 2 1 - m 1 2) * s, (m 0 2 - m 2 0) * s, (m 1 0 - m 0 1) * s⟩

/-- The quaternion of a matrix by its diagonal entry `i`. -/
noncomputable def ofDiagonal (m : Matrix (Fin 3) (Fin 3) ℝ) (i : Fin 3) : Quat :=
  let j := i + 1
  let k := j + 1
  let t := Real.sqrt (m i i - m j j - m k k + 1)
  let s := 0.5 / t
  let coeff (l : Fin 3) := if l = i then 0.5 * t else (m l i + m i l) * s
  ⟨(m k j - m j k) * s, coeff 0, coeff 1, coeff 2⟩

/-- The index of the largest diagonal entry, the first of equal ones. -/
noncomputable def largestDiagonal (m : Matrix (Fin 3) (Fin 3) ℝ) : Fin 3 :=
  let i : Fin 3 := if m 0 0 < m 1 1 then 1 else 0
  if m i i < m 2 2 then 2 else i

/-- The constructor of a quaternion from a matrix. -/
noncomputable def ofRotationMatrix (m : Matrix (Fin 3) (Fin 3) ℝ) : Quat :=
  let trace := m 0 0 + m 1 1 + m 2 2
  if 0 < trace then ofTrace m trace else ofDiagonal m (largestDiagonal m)

/-- `AngleAxis::toRotationMatrix`. -/
noncomputable def angleAxis (angle : ℝ) (axis : Fin 3 → ℝ) : Matrix (Fin 3) (Fin 3) ℝ :=
  let sinAxis := fun i => Real.sin angle * axis i
  let c := Real.cos angle
  let cos1Axis := fun i => (1 - c) * axis i
  let xy := cos1Axis 0 * axis 1
  let xz := cos1Axis 0 * axis 2
  let yz := cos1Axis 1 * axis 2
  !![cos1Axis 0 * axis 0 + c, xy - sinAxis 2, xz + sinAxis 1;
    xy + sinAxis 2, cos1Axis 1 * axis 1 + c, yz - sinAxis 0;
    xz - sinAxis 1, yz + sinAxis 0, cos1Axis 2 * axis 2 + c]

/-! ## Products -/

/-- The sum of the squares of a unit quaternion. -/
theorem sq_add_of_normSq {q : Quat} (hq : normSq q = 1) :
    q.re ^ 2 + q.imI ^ 2 + q.imJ ^ 2 + q.imK ^ 2 = 1 := by
  exact (normSq_def' q).symm.trans hq

/-- The entries of the matrix of a unit quaternion as forms of degree two. -/
theorem toRotationMatrix_eq {q : Quat} (hq : normSq q = 1) :
    toRotationMatrix q =
      !![q.re ^ 2 + q.imI ^ 2 - q.imJ ^ 2 - q.imK ^ 2, 2 * (q.imI * q.imJ - q.imK * q.re),
          2 * (q.imI * q.imK + q.imJ * q.re);
        2 * (q.imI * q.imJ + q.imK * q.re), q.re ^ 2 - q.imI ^ 2 + q.imJ ^ 2 - q.imK ^ 2,
          2 * (q.imJ * q.imK - q.imI * q.re);
        2 * (q.imI * q.imK - q.imJ * q.re), 2 * (q.imJ * q.imK + q.imI * q.re),
          q.re ^ 2 - q.imI ^ 2 - q.imJ ^ 2 + q.imK ^ 2] := by
  have hone := sq_add_of_normSq hq
  ext i j
  -- only the diagonal needs the length of the quaternion
  fin_cases i <;> fin_cases j <;> simp [toRotationMatrix] <;>
    first | linear_combination -hone | linear_combination

/-- The matrix of a product is the product of the matrices. -/
theorem toRotationMatrix_mul {p q : Quat} (hp : normSq p = 1) (hq : normSq q = 1) :
    toRotationMatrix (p * q) = toRotationMatrix p * toRotationMatrix q := by
  have hpq : normSq (p * q) = 1 := by rw [map_mul, hp, hq, mul_one]
  rw [toRotationMatrix_eq hpq, toRotationMatrix_eq hp, toRotationMatrix_eq hq]
  ext i j
  fin_cases i <;> fin_cases j <;> simp [Matrix.mul_apply, Fin.sum_univ_three] <;> ring

/-- Opposite quaternions stand for one rotation. -/
theorem toRotationMatrix_neg (q : Quat) : toRotationMatrix (-q) = toRotationMatrix q := by
  ext i j
  fin_cases i <;> fin_cases j <;> simp [toRotationMatrix]

/-! ## From a quaternion to its matrix and back -/

/-- The coefficient that is found by a root has the right absolute value,
and it gives the others their sign. -/
theorem exists_sign {c : ℝ} (hc : c ≠ 0) : ∃ σ : ℝ, (σ = 1 ∨ σ = -1) ∧
    0.5 * Real.sqrt (4 * c ^ 2) = σ * c ∧
    ∀ x, 4 * c * x * (0.5 / Real.sqrt (4 * c ^ 2)) = σ * x := by
  have hroot : Real.sqrt (4 * c ^ 2) = 2 * |c| := by
    rw [show 4 * c ^ 2 = (2 * c) ^ 2 by ring, Real.sqrt_sq_eq_abs, abs_mul, abs_two]
  rw [hroot]
  rcases lt_or_gt_of_ne hc with hneg | hpos
  · refine ⟨-1, .inr rfl, ?_, fun x => ?_⟩
    · rw [abs_of_neg hneg]; ring
    · rw [abs_of_neg hneg]; field_simp; ring
  · refine ⟨1, .inl rfl, ?_, fun x => ?_⟩
    · rw [abs_of_pos hpos]; ring
    · rw [abs_of_pos hpos]; field_simp; ring

/-- In the trace case the real coefficient is found by the root. -/
theorem ofTrace_eq {q : Quat} (hre : q.re ≠ 0) {trace : ℝ} (htrace : trace + 1 = 4 * q.re ^ 2) :
    ∃ σ : ℝ, (σ = 1 ∨ σ = -1) ∧ ofTrace (toRotationMatrix q) trace = σ • q := by
  obtain ⟨σ, hσ, hself, hother⟩ := exists_sign hre
  refine ⟨σ, hσ, ?_⟩
  have h21 : toRotationMatrix q 2 1 - toRotationMatrix q 1 2 = 4 * q.re * q.imI := by
    simp [toRotationMatrix]; ring
  have h02 : toRotationMatrix q 0 2 - toRotationMatrix q 2 0 = 4 * q.re * q.imJ := by
    simp [toRotationMatrix]; ring
  have h10 : toRotationMatrix q 1 0 - toRotationMatrix q 0 1 = 4 * q.re * q.imK := by
    simp [toRotationMatrix]; ring
  simp only [ofTrace, htrace, h21, h02, h10, hself, hother]
  rfl

/-- The axis coefficients of a quaternion. -/
def coeffs (q : Quat) : Fin 3 → ℝ := ![q.imI, q.imJ, q.imK]

/-- The diagonal entries give the squares of the axis coefficients. -/
theorem diagonal_eq {q : Quat} (hq : normSq q = 1) (i : Fin 3) :
    toRotationMatrix q i i - toRotationMatrix q (i + 1) (i + 1) -
      toRotationMatrix q (i + 1 + 1) (i + 1 + 1) + 1 = 4 * coeffs q i ^ 2 := by
  have hone := sq_add_of_normSq hq
  fin_cases i <;> simp [toRotationMatrix_eq hq, coeffs] <;> linear_combination -hone

/-- The skew part gives the products with the real coefficient. -/
theorem skew_eq (q : Quat) (i : Fin 3) :
    toRotationMatrix q (i + 1 + 1) (i + 1) - toRotationMatrix q (i + 1) (i + 1 + 1) =
      4 * coeffs q i * q.re := by
  fin_cases i <;> simp [toRotationMatrix, coeffs] <;> ring

/-- The symmetric part gives the products of the axis coefficients. -/
theorem symmetric_eq (q : Quat) {i l : Fin 3} (hne : l ≠ i) :
    toRotationMatrix q l i + toRotationMatrix q i l = 4 * coeffs q i * coeffs q l := by
  fin_cases i <;> fin_cases l <;> simp [toRotationMatrix, coeffs] at hne ⊢ <;> ring

/-- In the other cases the root finds an axis coefficient. -/
theorem ofDiagonal_eq {q : Quat} (hq : normSq q = 1) {i : Fin 3} (hne : coeffs q i ≠ 0) :
    ∃ σ : ℝ, (σ = 1 ∨ σ = -1) ∧ ofDiagonal (toRotationMatrix q) i = σ • q := by
  obtain ⟨σ, hσ, hself, hother⟩ := exists_sign hne
  refine ⟨σ, hσ, ?_⟩
  have hcoeff : ∀ l, (if l = i then 0.5 * Real.sqrt (4 * coeffs q i ^ 2) else
      (toRotationMatrix q l i + toRotationMatrix q i l) *
        (0.5 / Real.sqrt (4 * coeffs q i ^ 2))) = σ * coeffs q l := by
    intro l
    split
    · next heq => rw [hself, heq]
    · next hl => rw [symmetric_eq q hl, hother]
  simp only [ofDiagonal, diagonal_eq hq, skew_eq, hcoeff, hother]
  rfl

/-- No diagonal entry is above the largest one. -/
theorem le_largestDiagonal (m : Matrix (Fin 3) (Fin 3) ℝ) (i : Fin 3) :
    m i i ≤ m (largestDiagonal m) (largestDiagonal m) := by
  unfold largestDiagonal
  dsimp only
  split_ifs <;> fin_cases i <;> simp_all <;> linarith

/-- The diagonal entries are ordered as the axis coefficients. -/
theorem diagonal_apply {q : Quat} (hq : normSq q = 1) (i : Fin 3) :
    toRotationMatrix q i i = 2 * coeffs q i ^ 2 + 2 * q.re ^ 2 - 1 := by
  have hone := sq_add_of_normSq hq
  fin_cases i <;> simp [toRotationMatrix_eq hq, coeffs] <;> linear_combination -hone

/-- Without a positive trace the largest axis coefficient is not zero. -/
theorem coeffs_largestDiagonal_ne_zero {q : Quat} (hq : normSq q = 1)
    (htrace : 4 * q.re ^ 2 ≤ 1) : coeffs q (largestDiagonal (toRotationMatrix q)) ≠ 0 := by
  intro hzero
  have hone := sq_add_of_normSq hq
  have hle : ∀ i, coeffs q i ^ 2 ≤ 0 := by
    intro i
    have hmax := le_largestDiagonal (toRotationMatrix q) i
    rw [diagonal_apply hq, diagonal_apply hq, hzero] at hmax
    linarith
  have h0 : q.imI ^ 2 ≤ 0 := hle 0
  have h1 : q.imJ ^ 2 ≤ 0 := hle 1
  have h2 : q.imK ^ 2 ≤ 0 := hle 2
  linarith

/-- **Round trip.** The quaternion of the matrix of a unit quaternion is
this quaternion up to its sign. -/
theorem ofRotationMatrix_toRotationMatrix {q : Quat} (hq : normSq q = 1) :
    ofRotationMatrix (toRotationMatrix q) = q ∨ ofRotationMatrix (toRotationMatrix q) = -q := by
  have hone := sq_add_of_normSq hq
  have htrace : toRotationMatrix q 0 0 + toRotationMatrix q 1 1 + toRotationMatrix q 2 2 + 1 =
      4 * q.re ^ 2 := by
    simp [toRotationMatrix_eq hq]; linear_combination -hone
  obtain ⟨σ, hσ, heq⟩ : ∃ σ : ℝ, (σ = 1 ∨ σ = -1) ∧
      ofRotationMatrix (toRotationMatrix q) = σ • q := by
    unfold ofRotationMatrix
    dsimp only
    split
    · next hpos =>
      refine ofTrace_eq (fun hzero => ?_) htrace
      rw [hzero] at htrace
      linarith
    · next hnot => exact ofDiagonal_eq hq (coeffs_largestDiagonal_ne_zero hq (by linarith))
  rcases hσ with rfl | rfl
  · exact .inl (heq.trans (one_smul ℝ q))
  · exact .inr (heq.trans (neg_one_smul ℝ q))

/-- The quaternion made from a rotation matrix has this matrix. -/
theorem toRotationMatrix_ofRotationMatrix {q : Quat} (hq : normSq q = 1) :
    toRotationMatrix (ofRotationMatrix (toRotationMatrix q)) = toRotationMatrix q := by
  rcases ofRotationMatrix_toRotationMatrix hq with h | h
  · rw [h]
  · rw [h, toRotationMatrix_neg]

/-! ## Rotations about an axis -/

/-- The rotation by an angle about the first axis. -/
noncomputable def aboutX (angle : ℝ) : Quat := ⟨Real.cos (angle / 2), Real.sin (angle / 2), 0, 0⟩

/-- The rotation by an angle about the second axis. -/
noncomputable def aboutY (angle : ℝ) : Quat := ⟨Real.cos (angle / 2), 0, Real.sin (angle / 2), 0⟩

/-- The rotation by an angle about the third axis. -/
noncomputable def aboutZ (angle : ℝ) : Quat := ⟨Real.cos (angle / 2), 0, 0, Real.sin (angle / 2)⟩

theorem normSq_aboutX (angle : ℝ) : normSq (aboutX angle) = 1 :=
  (normSq_def' _).trans (by simp [aboutX])

theorem normSq_aboutY (angle : ℝ) : normSq (aboutY angle) = 1 :=
  (normSq_def' _).trans (by simp [aboutY])

theorem normSq_aboutZ (angle : ℝ) : normSq (aboutZ angle) = 1 :=
  (normSq_def' _).trans (by simp [aboutZ])

/-- The body's first axis in the frame of the quaternion. -/
def bodyX (q : Quat) : Fin 3 → ℝ := Matrix.mulVec (toRotationMatrix q) ![1, 0, 0]

theorem bodyX_apply (q : Quat) (i : Fin 3) : bodyX q i = toRotationMatrix q i 0 := by
  simp [bodyX, Matrix.mulVec, dotProduct, Fin.sum_univ_three]

theorem bodyX_mul {p q : Quat} (hp : normSq p = 1) (hq : normSq q = 1) :
    bodyX (p * q) = Matrix.mulVec (toRotationMatrix p) (bodyX q) := by
  rw [bodyX, toRotationMatrix_mul hp hq, ← Matrix.mulVec_mulVec, bodyX]

/-- A unit quaternion has a unit body axis. -/
theorem sq_bodyX {q : Quat} (hq : normSq q = 1) :
    bodyX q 0 ^ 2 + bodyX q 1 ^ 2 + bodyX q 2 ^ 2 = 1 := by
  have hone := sq_add_of_normSq hq
  simp only [bodyX_apply, toRotationMatrix_eq hq, Matrix.of_apply, Matrix.cons_val]
  linear_combination (q.re ^ 2 + q.imI ^ 2 + q.imJ ^ 2 + q.imK ^ 2 + 1) * hone

theorem bodyX_aboutX (angle : ℝ) : bodyX (aboutX angle) = ![1, 0, 0] := by
  ext i
  rw [bodyX_apply]
  fin_cases i <;> simp [toRotationMatrix, aboutX]

theorem bodyX_aboutY (angle : ℝ) :
    bodyX (aboutY angle) = ![Real.cos angle, 0, -Real.sin angle] := by
  have hcos := Real.cos_sq' (angle / 2)
  have hdouble := Real.cos_two_mul (angle / 2)
  have hsin := Real.sin_two_mul (angle / 2)
  rw [mul_div_cancel₀ angle two_ne_zero] at hdouble hsin
  ext i
  rw [bodyX_apply]
  fin_cases i
  · simp [toRotationMatrix, aboutY]; linear_combination -hdouble - 2 * hcos
  · simp [toRotationMatrix, aboutY]
  · simp [toRotationMatrix, aboutY]; linear_combination -hsin

/-- The matrix of a rotation about the third axis. -/
theorem toRotationMatrix_aboutZ (angle : ℝ) : toRotationMatrix (aboutZ angle) =
    !![Real.cos angle, -Real.sin angle, 0; Real.sin angle, Real.cos angle, 0; 0, 0, 1] := by
  have hcos := Real.cos_sq' (angle / 2)
  have hdouble := Real.cos_two_mul (angle / 2)
  have hsin := Real.sin_two_mul (angle / 2)
  rw [mul_div_cancel₀ angle two_ne_zero] at hdouble hsin
  ext i j
  fin_cases i <;> fin_cases j <;> simp [toRotationMatrix, aboutZ] <;>
    first | linear_combination -hdouble - 2 * hcos | linear_combination hsin |
      linear_combination -hsin

/-- The body's third axis in the frame of the quaternion. -/
def bodyZ (q : Quat) : Fin 3 → ℝ := Matrix.mulVec (toRotationMatrix q) ![0, 0, 1]

theorem bodyZ_apply (q : Quat) (i : Fin 3) : bodyZ q i = toRotationMatrix q i 2 := by
  simp [bodyZ, Matrix.mulVec, dotProduct, Fin.sum_univ_three]

theorem bodyX_aboutZ (angle : ℝ) :
    bodyX (aboutZ angle) = ![Real.cos angle, Real.sin angle, 0] := by
  funext i
  rw [bodyX_apply, toRotationMatrix_aboutZ]
  fin_cases i <;> rfl

/-- A rotation about the third axis keeps it. -/
theorem bodyZ_aboutZ (angle : ℝ) : bodyZ (aboutZ angle) = ![0, 0, 1] := by
  funext i
  rw [bodyZ_apply, toRotationMatrix_aboutZ]
  fin_cases i <;> rfl

end Rotation
