import YusCipher.Verif.LayerData
import Mathlib.LinearAlgebra.Matrix.NonsingularInverse
import Mathlib.Tactic.NormNum.Prime

/-!
# The linear layer is invertible modulo every admissible prime

The integer matrix `inverseMatrix` is a left inverse of the coefficient matrix of `yusLayer`
up to the factor `inverseFactor = 2 · 3³ · 7² · 13 · 29 · 201547 · 6641527 · 8005957`. Each
prime factor is below `2^16` or congruent to one modulo three, so no prime `p ≡ 2 (mod 3)` with
`p ≥ 2^16` divides it: over `ZMod p` the coefficient matrix is a unit, and `apply` permutes the
field vectors of every such `p`, although the matrix it multiplies by is not `matrix_`: on the
first unit vector, row 0 of `apply` is 6 where the plain product over `matrix_` gives 1.
-/

open Yus Yus.LinearLayer YusVerif.Field YusVerif.LinearLayer YusVerif.LayerData YusVerif.Circulant

namespace YusVerif.LayerInverse

/-- A count over the 36 bits restricted to one residue modulo four is a count over nine bits. -/
theorem card_filter_mod4 (q : Nat → Prop) [DecidablePred q] {b : Nat} (hb : b < 4) :
    ((Finset.range 36).filter fun i => q i ∧ i % 4 = b).card =
      ((Finset.range 9).filter fun k => q (4 * k + b)).card := by
  symm
  rw [← Finset.card_image_of_injective _ (fun x y h => by simp only at h; omega :
    Function.Injective fun k => 4 * k + b)]
  congr 1
  ext i
  simp only [Finset.mem_filter, Finset.mem_range, Finset.mem_image]
  constructor
  · rintro ⟨k, ⟨hk, hq⟩, rfl⟩
    exact ⟨by omega, hq, by omega⟩
  · rintro ⟨hi, hq, hmod⟩
    exact ⟨i / 4, ⟨by omega, by rwa [show 4 * (i / 4) + b = i by omega]⟩, by omega⟩

/-- A coefficient is the bit count of its group's table entry. -/
theorem coefficient_eq_bitCount (ll : LinearLayer) (row col : Nat) :
    coefficient ll row col = bitCount (tableEntry ll row (col / 4)) (col % 4) := by
  rw [coefficient, card_filter_mod4 _ (Nat.mod_lt col (by decide))]
  simp [bitCount, Finset.card, Finset.filter_val, Finset.range_val, Multiset.range,
    Multiset.filter_coe]

/-- The literal columns are the coefficients of `yusLayer`. -/
theorem coefficientColumns_getD {row col : Nat} (hrow : row < 36) (hcol : col < 36) :
    (coefficientColumns.getD col []).getD row 0 = coefficient yusLayer row col := by
  have h := groupCheck_all
  simp only [List.all_eq_true, List.mem_range] at h
  have hg := h row hrow (col / 4) (by omega)
  simp only [groupCheck, List.all_eq_true, List.mem_range, beq_iff_eq] at hg
  have hb := hg (col % 4) (Nat.mod_lt col (by decide))
  rwa [show 4 * (col / 4) + col % 4 = col by omega, ← coefficient_eq_bitCount] at hb

/-- `dot` is the sum of the products of the words at the first list's indices. -/
theorem dot_eq_sum : ∀ a b : List Int,
    dot a b = ∑ k ∈ Finset.range a.length, a.getD k 0 * b.getD k 0
  | [], b => by simp [dot]
  | x :: xs, [] => by simp [dot]
  | x :: xs, y :: ys => by
    rw [dot, dot_eq_sum xs ys, List.length_cons, Finset.sum_range_succ', add_comm]
    simp

/-- The matrix of `inverseRows`. -/
def inverseMatrix : Matrix (Fin 36) (Fin 36) ℤ :=
  Matrix.of fun i j => (inverseRows.getD i []).getD j 0

/-- `inverseMatrix` repeats along the diagonals of step 12. -/
theorem inverseMatrix_rotate (i j : Fin 36) :
    inverseMatrix (i + (12 : ℕ)) (j + (12 : ℕ)) = inverseMatrix i j := by
  have h12 : ((12 : ℕ) : Fin 36).val = 12 := rfl
  simp only [inverseMatrix, Matrix.of_apply, Fin.val_add, h12]
  exact getD_getD_rotate 0 (by norm_num) length_columns.2.1 (by simpa using length_columns.2.2.2)
    columns_rotate.2 i.isLt j.isLt

/-- The coefficient matrix of `yusLayer` repeats along the diagonals of step 12. -/
theorem effectiveMatrix_rotate (i j : Fin 36) :
    effectiveMatrix yusLayer (i + (12 : ℕ)) (j + (12 : ℕ)) = effectiveMatrix yusLayer i j := by
  have h12 : ((12 : ℕ) : Fin 36).val = 12 := rfl
  simp only [effectiveMatrix, Matrix.of_apply]
  rw [← coefficientColumns_getD (Fin.isLt _) (Fin.isLt _),
    ← coefficientColumns_getD i.isLt j.isLt]
  simp only [Fin.val_add, h12]
  exact getD_getD_rotate 0 (by norm_num) length_columns.1 (by simpa using length_columns.2.2.1)
    columns_rotate.1 j.isLt i.isLt

/-- `inverseMatrix` is a left inverse of the coefficient matrix up to `inverseFactor`: both
repeat along the diagonals of step 12, so the first twelve rows of the product decide it. -/
theorem inverseMatrix_mul :
    inverseMatrix * effectiveMatrix yusLayer =
      (inverseFactor : ℤ) • (1 : Matrix (Fin 36) (Fin 36) ℤ) := by
  refine eq_of_first_rows (c := 12) (by norm_num) (mul_apply_add inverseMatrix_rotate
    effectiveMatrix_rotate) (fun i j => by simp [Matrix.one_apply]) fun i j hi => ?_
  have hcheck := inverseRows_check
  have hlen := inverseRows_length
  simp only [List.all_eq_true, List.mem_range, beq_iff_eq] at hcheck hlen
  have hdot := hcheck i hi j j.isLt
  rw [dot_eq_sum, hlen i i.isLt, ← Fin.sum_univ_eq_sum_range] at hdot
  rw [Matrix.mul_apply, Matrix.smul_apply, Matrix.one_apply]
  calc ∑ k, inverseMatrix i k * effectiveMatrix yusLayer k j
      = ∑ k : Fin 36,
          (inverseRows.getD i []).getD k 0 * (coefficientColumns.getD j []).getD k 0 :=
        Finset.sum_congr rfl fun k _ => by
          rw [coefficientColumns_getD k.isLt j.isLt]
          rfl
    _ = (inverseFactor : ℤ) • if i = j then 1 else 0 := by
        rw [hdot]
        by_cases h : i = j <;> simp [h, Fin.val_eq_val]

/-- No prime `p ≡ 2 (mod 3)` with `p ≥ 2^16` divides `inverseFactor`. -/
theorem not_dvd_inverseFactor {p : ℕ} (hp : p.Prime) (h3 : p % 3 = 2) (hbig : 2 ^ 16 ≤ p) :
    ¬ p ∣ inverseFactor := by
  have small : ∀ q k, 0 < q → q < 2 ^ 16 → ¬ p ∣ q ^ k := fun q k h0 hq hd => by
    have := Nat.le_of_dvd h0 (hp.dvd_of_dvd_pow hd)
    omega
  have large : ∀ q, q.Prime → q % 3 = 1 → ¬ p ∣ q := fun q hq hq3 hd => by
    have := (Nat.prime_dvd_prime_iff_eq hp hq).mp hd
    omega
  rw [show inverseFactor = 2 ^ 1 * 3 ^ 3 * 7 ^ 2 * 13 ^ 1 * 29 ^ 1 * 201547 * 6641527 * 8005957
    by rfl]
  simp only [hp.dvd_mul, not_or]
  exact ⟨⟨⟨⟨⟨⟨⟨small 2 1 two_pos (by norm_num), small 3 3 three_pos (by norm_num)⟩,
    small 7 2 (by norm_num) (by norm_num)⟩, small 13 1 (by norm_num) (by norm_num)⟩,
    small 29 1 (by norm_num) (by norm_num)⟩, large 201547 (by norm_num) rfl⟩,
    large 6641527 (by norm_num) rfl⟩, large 8005957 (by norm_num) rfl⟩

/-- Over `ZMod p` for an admissible prime, the coefficient matrix of `yusLayer` is a unit. -/
theorem effectiveMatrix_isUnit {p : ℕ} [Fact p.Prime] (h3 : p % 3 = 2) (hbig : 2 ^ 16 ≤ p) :
    IsUnit ((effectiveMatrix yusLayer).map (Int.cast : ℤ → ZMod p)) := by
  have hd : ((inverseFactor : ℤ) : ZMod p) ≠ 0 := by
    rw [Int.cast_natCast, ne_eq, ZMod.natCast_zmod_eq_zero_iff_dvd]
    exact not_dvd_inverseFactor Fact.out h3 hbig
  have hmul : inverseMatrix.map (Int.castRingHom (ZMod p)) *
      (effectiveMatrix yusLayer).map (Int.castRingHom (ZMod p)) =
        ((inverseFactor : ℤ) : ZMod p) • (1 : Matrix (Fin 36) (Fin 36) (ZMod p)) := by
    rw [← Matrix.map_mul, inverseMatrix_mul]
    ext i j
    rw [Matrix.map_apply, Matrix.smul_apply, Matrix.smul_apply, Matrix.one_apply,
      Matrix.one_apply]
    split_ifs <;> simp
  have hleft :
      (((inverseFactor : ℤ) : ZMod p)⁻¹ • inverseMatrix.map (Int.castRingHom (ZMod p))) *
      (effectiveMatrix yusLayer).map (Int.castRingHom (ZMod p)) = 1 := by
    rw [Matrix.smul_mul, hmul, smul_smul, inv_mul_cancel₀ hd, one_smul]
  exact (Matrix.isUnit_iff_isUnit_det _).mpr (Matrix.isUnit_det_of_left_inverse hleft)

/-- On field vectors of an admissible prime, the rows of `apply` are a permutation. -/
theorem rows_bijOn {p : ℕ} (hp : p.Prime) (h3 : p % 3 = 2) (hbig : 2 ^ 16 ≤ p) :
    Set.BijOn (fun state => yusLayer.rows state p) (FieldVec p 36) (FieldVec p 36) := by
  haveI := Fact.mk hp
  have hU := effectiveMatrix_isUnit h3 hbig
  exact bijOn_of_conj ⟨Matrix.mulVec_injective_iff_isUnit.mpr hU,
    Matrix.mulVec_surjective_iff_isUnit.mpr hU⟩ fun v _ => rows_eq_mulVec yusLayer v

/-- The plain product over the binary matrix `matrix_`, the alternative the specification
allows: row `i` sums the state words of the columns whose entry is 1, modulo `p`. -/
def plainProduct (matrix : List (List Nat)) (state : List Int) (p : Int) : List Int :=
  (List.range 36).map fun row =>
    mod (((List.range 36).filter fun col => entry matrix row col = 1).map
      fun col => state.getD col 0).sum p

/-- The first unit vector. -/
def unitState : List Int := 1 :: List.replicate 35 0

/-- On the first unit vector, a row of `apply` is the row's coefficient of column 0. -/
theorem rowSum_unitState (ll : LinearLayer) {p : Int} (hp : 0 < p) (row : Nat) :
    ll.rowSum unitState p row = (coefficient ll row 0 : Int) % p := by
  rw [rowSum_eq hp, groups_eq_coefficients, Finset.sum_eq_single 0]
  · simp [unitState]
  · intro col _ hcol
    obtain ⟨k, rfl⟩ := Nat.exists_eq_succ_of_ne_zero hcol
    simp only [unitState, List.getD_eq_getElem?_getD, List.getElem?_cons_succ,
      List.getElem?_getD_replicate_default_eq, mul_zero]
  · simp

/-- On the first unit vector, row 0 of the Four-Russians path is 6 and row 0 of the plain
product over `matrix_` is 1. -/
theorem apply_unitState_ne_plainProduct :
    LinearLayer.new = .ok yusLayer ∧ unitState ∈ FieldVec 65537 36 ∧
    yusLayer.apply unitState 65537 = .ok (yusLayer.rows unitState 65537) ∧
    (yusLayer.rows unitState 65537).head? = some 6 ∧
    (plainProduct yusLayer.matrix unitState 65537).head? = some 1 := by
  have hcoeff : (coefficient yusLayer 0 0 : Int) = 6 :=
    (coefficientColumns_getD (by decide : 0 < 36) (by decide : 0 < 36)).symm.trans (by decide)
  refine ⟨new_eq_yusLayer, ⟨rfl, fun x hx => ?_⟩, if_neg (by decide), ?_, by decide⟩
  · simp only [unitState, List.mem_cons, List.mem_replicate] at hx
    omega
  · simp [LinearLayer.rows, List.range_succ_eq_map,
      rowSum_unitState _ (by decide : (0 : Int) < 65537), hcoeff]

end YusVerif.LayerInverse
