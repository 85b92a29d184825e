import YusCipher.Verif.BranchData
import Mathlib.Data.Finset.Sort
import Mathlib.LinearAlgebra.Matrix.Nondegenerate
import Mathlib.Tactic.NormNum.Prime

/-!
# The branch numbers of the linear layer

`linear_branch_number` returns 6 and `differential_branch_number` 10 for the matrix `matrix_`
the constructor builds. Over `F_65537`, for an admissible prime, every non-zero `y` has at
least 7 non-zero words in `y` and `Mᵀ y` together, so 6 is not the linear branch number of
`matrix_`. The argument is the one for the branch number of an MDS matrix. Write
`z = Mᵀ y = y ᵥ* M`. When `y` has `s ≤ 2` non-zero words, a non-zero `s × s` minor of their
rows on a block of columns forces a non-zero word of `z` in that block, and the data module
counts such blocks. When `z` has `t ≤ 3` non-zero words, the same holds for
`y = z ᵥ* M⁻¹`, with the inverse `binaryInverseRows`. Otherwise the weights already add up
to 7. Both matrices commute with reading a vector three words further on, which keeps
weights, so only supports whose first index is below 3 need the minors checked.
-/

open Matrix Yus Yus.LinearLayer YusVerif.LayerData YusVerif.BranchData YusVerif.Circulant

namespace YusVerif.Branch

section Weight

variable {p : ℕ}

/-- The number of non-zero words of a vector of `F_p^36`. -/
def wt (v : Fin 36 → ZMod p) : ℕ := (Finset.univ.filter fun i => v i ≠ 0).card

/-- Only the zero vector has weight zero. -/
theorem wt_eq_zero {v : Fin 36 → ZMod p} : wt v = 0 ↔ v = 0 := by
  simp [wt, Finset.filter_eq_empty_iff, funext_iff]

/-- A matrix of 36 rows of naturals, read over `F_p`. -/
def listMatrix (p : ℕ) (rows : List (List Nat)) : Matrix (Fin 36) (Fin 36) (ZMod p) :=
  Matrix.of fun i j => (entry rows i j : ZMod p)

/-- `matrix_` over `F_p`. -/
def matrixOver (p : ℕ) (ll : LinearLayer) : Matrix (Fin 36) (Fin 36) (ZMod p) :=
  listMatrix p ll.matrix

/-- `b` is the branch number of `A`: the least of `wt x + wt (A x)` over non-zero `x`. -/
def IsBranchNumber (A : Matrix (Fin 36) (Fin 36) (ZMod p)) (b : ℕ) : Prop :=
  (∀ x, x ≠ 0 → b ≤ wt x + wt (A *ᵥ x)) ∧ ∃ x, x ≠ 0 ∧ wt x + wt (A *ᵥ x) = b

end Weight

section Rotation

variable {p : ℕ}

/-- The vector read three words further on, indices modulo 36. -/
def rotate3 (v : Fin 36 → ZMod p) : Fin 36 → ZMod p := fun i => v (i + 3)

/-- Rotating a vector keeps its weight. -/
theorem wt_rotate3 (v : Fin 36 → ZMod p) : wt (rotate3 v) = wt v :=
  Finset.card_nbij' (· + 3) (· - 3) (by simp [Set.MapsTo, rotate3])
    (by simp [Set.MapsTo, rotate3]) (by simp [Set.LeftInvOn]) (by simp [Set.LeftInvOn])

/-- A matrix constant along the diagonals of step 3 commutes with `rotate3`. -/
theorem rotate3_vecMul {A : Matrix (Fin 36) (Fin 36) (ZMod p)}
    (hA : ∀ i j, A (i + 3) (j + 3) = A i j) (v : Fin 36 → ZMod p) :
    rotate3 v ᵥ* A = rotate3 (v ᵥ* A) := by
  funext j
  simp only [rotate3, Matrix.vecMul, Matrix.dotProduct]
  rw [← Equiv.sum_comp (Equiv.addRight 3) fun i => v i * A i (j + 3)]
  simp [hA]

/-- So does every number of rotations. -/
theorem wt_iterate_rotate3 (v : Fin 36 → ZMod p) (a : ℕ) : wt (rotate3^[a] v) = wt v := by
  induction a with
  | zero => rfl
  | succ a ih => rw [Function.iterate_succ_apply', wt_rotate3, ih]

/-- A matrix constant along the diagonals of step 3 commutes with every number of rotations. -/
theorem iterate_rotate3_vecMul {A : Matrix (Fin 36) (Fin 36) (ZMod p)}
    (hA : ∀ i j, A (i + 3) (j + 3) = A i j) (v : Fin 36 → ZMod p) (a : ℕ) :
    rotate3^[a] v ᵥ* A = rotate3^[a] (v ᵥ* A) := by
  induction a with
  | zero => rfl
  | succ a ih =>
    rw [Function.iterate_succ_apply', Function.iterate_succ_apply', rotate3_vecMul hA, ih]

/-- `a` rotations read the vector `3a` words further on. -/
theorem iterate_rotate3_apply (v : Fin 36 → ZMod p) (a : ℕ) (i : Fin 36) :
    (rotate3^[a] v) i = v (i + (3 * a : ℕ)) := by
  induction a generalizing i with
  | zero => simp
  | succ a ih =>
    rw [Function.iterate_succ_apply', rotate3, ih]
    congr 1
    push_cast
    ring

/-- A rotation of a non-zero vector has a non-zero word among its first three. -/
theorem exists_rotate3_lt {v : Fin 36 → ZMod p} (hv : v ≠ 0) :
    ∃ a, ∃ k : Fin 36, (k : ℕ) < 3 ∧ (rotate3^[a] v) k ≠ 0 := by
  obtain ⟨i, hi⟩ := Function.ne_iff.mp hv
  refine ⟨i / 3, ⟨i % 3, by omega⟩, Nat.mod_lt _ (by norm_num), ?_⟩
  rw [iterate_rotate3_apply]
  convert hi using 2
  ext
  simp only [Fin.val_add, Fin.val_natCast]
  omega

end Rotation

section Blocks

variable {p : ℕ}

/-- Column `t` of block `r` of `s` consecutive columns. -/
def blockCol {s m : ℕ} (hsm : s * m ≤ 36) (r : Fin m) (t : Fin s) : Fin 36 :=
  ⟨s * r + t, by
    have := Nat.mul_le_mul_left s r.isLt
    rw [Nat.mul_succ] at this
    omega⟩

/-- The number of blocks `r < m` of `s` consecutive columns on which the rows `e` of `A` have
a non-zero minor. -/
def goodBlocks (A : Matrix (Fin 36) (Fin 36) (ZMod p)) {s : ℕ} (e : Fin s → Fin 36) (m : ℕ)
    (hsm : s * m ≤ 36) : ℕ :=
  (Finset.univ.filter fun r : Fin m => (A.submatrix e (blockCol hsm r)).det ≠ 0).card

/-- On a vector supported on the rows `e`, the product with the rows `e` of `A` is the product
with `A`. -/
theorem vecMul_submatrix (A : Matrix (Fin 36) (Fin 36) (ZMod p)) {s : ℕ}
    {e : Fin s → Fin 36} (he : Function.Injective e) {v : Fin 36 → ZMod p}
    (hsupp : ∀ i, v i ≠ 0 → i ∈ Set.range e) (b : Fin s → Fin 36) (t : Fin s) :
    ((v ∘ e) ᵥ* A.submatrix e b) t = (v ᵥ* A) (b t) := by
  simp only [Matrix.vecMul, Matrix.dotProduct, Function.comp, Matrix.submatrix_apply]
  refine Fintype.sum_of_injective e he _ _ (fun i hi => ?_) fun _ => rfl
  rw [not_not.mp (mt (hsupp i) hi), zero_mul]

/-- A non-zero vector supported on the rows `e` of `A` has a non-zero word of `v ᵥ* A` in
every block where those rows have a non-zero minor. -/
theorem goodBlocks_le_wt [Fact p.Prime] (A : Matrix (Fin 36) (Fin 36) (ZMod p)) {s : ℕ}
    {e : Fin s → Fin 36} (he : Function.Injective e) {v : Fin 36 → ZMod p} (hv : v ≠ 0)
    (hsupp : ∀ i, v i ≠ 0 → i ∈ Set.range e) (m : ℕ) (hsm : s * m ≤ 36) :
    goodBlocks A e m hsm ≤ wt (v ᵥ* A) := by
  have hblock : ∀ r : Fin m, (A.submatrix e (blockCol hsm r)).det ≠ 0 →
      ∃ t, (v ᵥ* A) (blockCol hsm r t) ≠ 0 := by
    intro r hdet
    by_contra! h
    have hzero := Matrix.eq_zero_of_vecMul_eq_zero hdet
      (funext fun t => by rw [vecMul_submatrix A he hsupp, h t]; rfl)
    refine hv (funext fun i => ?_)
    by_contra hi
    obtain ⟨u, rfl⟩ := hsupp i hi
    exact hi (congrFun hzero u)
  have hsurj : Set.SurjOn (fun c : Fin 36 => (c : ℕ) / s)
      (Finset.univ.filter fun c => (v ᵥ* A) c ≠ 0)
      ((Finset.univ.filter fun r : Fin m => (A.submatrix e (blockCol hsm r)).det ≠ 0).map
        Fin.valEmbedding) := by
    intro r hr
    simp only [Finset.coe_map, Finset.coe_filter, Finset.mem_univ, true_and, Set.mem_image,
      Set.mem_setOf_eq, Fin.valEmbedding_apply] at hr
    obtain ⟨r, hdet, rfl⟩ := hr
    obtain ⟨t, ht⟩ := hblock r hdet
    refine ⟨blockCol hsm r t, by simpa using ht, ?_⟩
    simp only [blockCol, Nat.mul_add_div t.pos, Nat.div_eq_of_lt t.isLt, add_zero]
  calc goodBlocks A e m hsm = ((Finset.univ.filter fun r : Fin m =>
        (A.submatrix e (blockCol hsm r)).det ≠ 0).map Fin.valEmbedding).card :=
        (Finset.card_map _).symm
    _ ≤ wt (v ᵥ* A) := Finset.card_le_card_of_surjOn _ hsurj

/-- For a matrix constant along the diagonals of step 3: if the rows of every support of `s`
indices whose first is below 3 have `n` blocks with a non-zero minor, every non-zero vector of
weight `s` has a product of weight at least `n`. -/
theorem le_wt_vecMul [Fact p.Prime] {A : Matrix (Fin 36) (Fin 36) (ZMod p)}
    (hA : ∀ i j, A (i + 3) (j + 3) = A i j) {s m n : ℕ} (hsm : s * m ≤ 36)
    (hgood : ∀ e : Fin s → Fin 36, StrictMono e → ∀ u, (e u : ℕ) < 3 →
      n ≤ goodBlocks A e m hsm)
    {v : Fin 36 → ZMod p} (hv : v ≠ 0) (hs : wt v = s) : n ≤ wt (v ᵥ* A) := by
  obtain ⟨a, k, hk, hwk⟩ := exists_rotate3_lt hv
  have hw : (Finset.univ.filter fun i => (rotate3^[a] v) i ≠ 0).card = s :=
    (wt_iterate_rotate3 v a).trans hs
  let e := (Finset.univ.filter fun i => (rotate3^[a] v) i ≠ 0).orderEmbOfFin hw
  have hrange : ∀ i, (rotate3^[a] v) i ≠ 0 → i ∈ Set.range e := fun i hi => by
    simp [e, Finset.range_orderEmbOfFin, hi]
  obtain ⟨u, hu⟩ := hrange k hwk
  calc n ≤ goodBlocks A e m hsm := hgood e e.strictMono u (hu ▸ hk)
    _ ≤ wt (rotate3^[a] v ᵥ* A) :=
        goodBlocks_le_wt A e.injective (fun h => hwk (by rw [h]; rfl)) hrange m hsm
    _ = wt (v ᵥ* A) := by rw [iterate_rotate3_vecMul hA, wt_iterate_rotate3]

end Blocks

section Data

/-- A count over `Fin m` is a count over `List.range m`. -/
theorem card_filter_fin : ∀ (m : ℕ) (f : ℕ → Bool),
    (Finset.univ.filter fun r : Fin m => f r = true).card = (List.range m).countP f
  | 0, _ => rfl
  | m + 1, f => by
    rw [Fin.card_filter_univ_succ']
    simp only [Fin.val_succ, Fin.val_zero]
    rw [card_filter_fin m fun r => f (r + 1), List.range_succ_eq_map, List.countP_cons,
      List.countP_map]
    simp [add_comm, Function.comp_def]

/-- Two naturals differ in `F_q` exactly when they differ modulo `q`. -/
theorem natCast_sub_ne_zero_iff {q x y : ℕ} : ((x : ZMod q) - y ≠ 0) ↔ x % q ≠ y % q := by
  rw [sub_ne_zero, ne_eq, ZMod.natCast_eq_natCast_iff']

/-- The blocks of one row are its words that are non-zero modulo 65537. -/
theorem goodBlocks_one (rows : List (List Nat)) (e : Fin 1 → Fin 36) :
    goodBlocks (listMatrix 65537 rows) e 36 (by norm_num) =
      (List.range 36).countP (minor1Ok (rows.getD (e 0) [])) := by
  rw [goodBlocks, ← card_filter_fin]
  refine congrArg Finset.card (Finset.filter_congr fun r _ => ?_)
  rw [minor1Ok, bne_iff_ne, det_fin_one]
  simp [listMatrix, entry, blockCol, ZMod.natCast_zmod_eq_zero_iff_dvd, Nat.dvd_iff_mod_eq_zero]

/-- The blocks of two rows are the pairs of columns that `minor2Ok` accepts. -/
theorem goodBlocks_two (rows : List (List Nat)) (e : Fin 2 → Fin 36) :
    goodBlocks (listMatrix 65537 rows) e 18 (by norm_num) =
      (List.range 18).countP (minor2Ok (rows.getD (e 0) []) (rows.getD (e 1) [])) := by
  rw [goodBlocks, ← card_filter_fin]
  refine congrArg Finset.card (Finset.filter_congr fun r _ => ?_)
  rw [minor2Ok, bne_iff_ne, ← natCast_sub_ne_zero_iff, det_fin_two]
  simp [listMatrix, entry, blockCol]

/-- The first four blocks of three rows are the triples of columns that `minor3Ok` accepts. -/
theorem goodBlocks_three (rows : List (List Nat)) (e : Fin 3 → Fin 36) :
    goodBlocks (listMatrix 65537 rows) e 4 (by norm_num) =
      (List.range 4).countP
        (minor3Ok (rows.getD (e 0) []) (rows.getD (e 1) []) (rows.getD (e 2) [])) := by
  rw [goodBlocks, ← card_filter_fin]
  refine congrArg Finset.card (Finset.filter_congr fun r _ => ?_)
  rw [minor3Ok, bne_iff_ne, ← natCast_sub_ne_zero_iff, det_fin_three]
  simp only [submatrix_apply, listMatrix, of_apply, entry, blockCol]
  push_cast
  apply Iff.of_eq
  congr 1
  simp only [Fin.isValue, Fin.val_zero, Fin.val_one, Fin.val_two, add_zero]
  ring

variable {rows : List (List Nat)} (hlen : rows.length = 36)
include hlen

/-- Every index below 36 reads a row of the list. -/
theorem getD_mem_rows (i : Fin 36) : rows.getD i [] ∈ rows := by
  rw [List.getD_eq_getElem _ _ (by omega)]
  exact List.getElem_mem _

/-- Every row with six non-zero words gives six blocks for a vector of weight one. -/
theorem singles_le
    (hcheck : (rows.all fun a => 6 ≤ (List.range 36).countP (minor1Ok a)) = true)
    (e : Fin 1 → Fin 36) (_ : StrictMono e) (u : Fin 1) (_ : (e u : ℕ) < 3) :
    6 ≤ goodBlocks (listMatrix 65537 rows) e 36 (by norm_num) := by
  rw [goodBlocks_one]
  simpa using List.all_eq_true.mp hcheck _ (getD_mem_rows hlen (e 0))

/-- The checked pairs of rows give five blocks for a vector of weight two. -/
theorem pairs_le
    (hcheck : pairsFrom (fun a b => 5 ≤ (List.range 18).countP (minor2Ok a b)) 3 rows = true)
    (e : Fin 2 → Fin 36) (he : StrictMono e) (u : Fin 2) (hu : (e u : ℕ) < 3) :
    5 ≤ goodBlocks (listMatrix 65537 rows) e 18 (by norm_num) := by
  rw [goodBlocks_two]
  have h01 : e 0 < e 1 := he (by decide)
  simpa using pairsFrom_spec hcheck (lt_of_le_of_lt (he.monotone (Fin.zero_le u)) hu) h01
    (by rw [hlen]; exact (e 1).isLt)

/-- The checked triples of rows give four blocks for a vector of weight three. -/
theorem triples_le
    (hcheck : triplesFrom (fun a b c => 4 ≤ (List.range 4).countP (minor3Ok a b c)) 3 rows = true)
    (e : Fin 3 → Fin 36) (he : StrictMono e) (u : Fin 3) (hu : (e u : ℕ) < 3) :
    4 ≤ goodBlocks (listMatrix 65537 rows) e 4 (by norm_num) := by
  rw [goodBlocks_three]
  have h01 : e 0 < e 1 := he (by decide)
  have h12 : e 1 < e 2 := he (by decide)
  simpa using triplesFrom_spec hcheck (lt_of_le_of_lt (he.monotone (Fin.zero_le u)) hu) h01 h12
    (by rw [hlen]; exact (e 2).isLt)

/-- A block-circulant list of rows gives a matrix constant along the diagonals of step 3. -/
theorem listMatrix_rotate {p : ℕ} (hrow : (rows.all fun r => r.length == 36) = true)
    (hrot : rows.rotate 3 = rows.map fun r => r.rotate 33) (i j : Fin 36) :
    listMatrix p rows (i + 3) (j + 3) = listMatrix p rows i j := by
  have h3 : ((3 : Fin 36) : ℕ) = 3 := rfl
  simp only [listMatrix, of_apply, entry, Fin.val_add, h3]
  rw [getD_getD_rotate 0 (by norm_num) hlen (by simpa using hrow) hrot i.isLt j.isLt]

end Data

/-- `matrix_` over `F_65537` repeats along the diagonals of step 3. -/
theorem matrixOver_rotate (i j : Fin 36) :
    matrixOver 65537 yusLayer (i + 3) (j + 3) = matrixOver 65537 yusLayer i j :=
  listMatrix_rotate length_rows.1 length_rows.2.2.1 rows_rotate.1 i j

/-- So does its inverse. -/
theorem inverse_rotate (i j : Fin 36) :
    listMatrix 65537 binaryInverseRows (i + 3) (j + 3) = listMatrix 65537 binaryInverseRows i j :=
  listMatrix_rotate length_rows.2.1 length_rows.2.2.2 rows_rotate.2 i j

/-- Over `F_65537`, `binaryInverseRows` is a right inverse of `matrix_`: both repeat along the
diagonals of step 3, so the first three rows of the product, which the data module computes,
decide it. -/
theorem matrixOver_mul_inverse :
    matrixOver 65537 yusLayer * listMatrix 65537 binaryInverseRows = 1 := by
  refine eq_of_first_rows (c := 3) (by norm_num)
    (fun i j => by simpa using mul_apply_add matrixOver_rotate inverse_rotate i j)
    (fun i j => by simp [one_apply]) fun i j hi => ?_
  have hrow := beq_iff_eq.mp (List.all_eq_true.mp rowTimes_check i (List.mem_range.mpr hi))
  have hj := congrArg (fun l => l.getD j 0) hrow
  have hmap := List.getD_map (l := rowTimes (yusLayer.matrix.getD i []) binaryInverseRows)
    (d := 0) (n := j) (· % 65537)
  simp only [Nat.zero_mod] at hmap
  simp only [hmap, unitRow] at hj
  have hlen_i : (yusLayer.matrix.getD i []).length = 36 := by
    have h := List.all_eq_true.mp length_rows.2.2.1 _ (getD_mem_rows length_rows.1 i)
    simpa using h
  have hsum : ∑ k, matrixOver 65537 yusLayer i k * listMatrix 65537 binaryInverseRows k j =
      ((rowTimes (yusLayer.matrix.getD i []) binaryInverseRows).getD j 0 : ℕ) := by
    rw [getD_rowTimes, hlen_i, ← Fin.sum_univ_eq_sum_range]
    push_cast
    rfl
  rw [mul_apply, one_apply, hsum, ← ZMod.natCast_mod, hj,
    List.getD_eq_getElem _ _ (by simp), List.getElem_map, List.getElem_range]
  simp [Fin.val_eq_val]

/-- Over `F_65537`, every non-zero `y` has at least seven non-zero words in `y` and `y ᵥ* M`
together. -/
theorem seven_le_wt_add_wt (y : Fin 36 → ZMod 65537) (hy : y ≠ 0) :
    7 ≤ wt y + wt (y ᵥ* matrixOver 65537 yusLayer) := by
  haveI : Fact (Nat.Prime 65537) := ⟨by norm_num⟩
  have hy0 : wt y ≠ 0 := mt wt_eq_zero.mp hy
  rcases (by omega : wt y = 1 ∨ wt y = 2 ∨ 3 ≤ wt y) with hs | hs | hs
  · have := le_wt_vecMul matrixOver_rotate (by norm_num)
      (singles_le length_rows.1 matrix_minors.1) hy hs
    omega
  · have := le_wt_vecMul matrixOver_rotate (by norm_num)
      (pairs_le length_rows.1 matrix_minors.2) hy hs
    omega
  set z := y ᵥ* matrixOver 65537 yusLayer with hz_def
  have hback : z ᵥ* listMatrix 65537 binaryInverseRows = y := by
    rw [hz_def, vecMul_vecMul, matrixOver_mul_inverse, vecMul_one]
  have hz : z ≠ 0 := fun hz => hy (by rw [← hback, hz, zero_vecMul])
  have hz0 : wt z ≠ 0 := mt wt_eq_zero.mp hz
  clear_value z
  subst hback
  rcases (by omega : wt z = 1 ∨ wt z = 2 ∨ wt z = 3 ∨ 4 ≤ wt z) with ht | ht | ht | ht
  · have := le_wt_vecMul inverse_rotate (by norm_num)
      (singles_le length_rows.2.1 inverse_minors.1) hz ht
    omega
  · have := le_wt_vecMul inverse_rotate (by norm_num)
      (pairs_le length_rows.2.1 inverse_minors.2.1) hz ht
    omega
  · have := le_wt_vecMul inverse_rotate (by norm_num)
      (triples_le length_rows.2.1 inverse_minors.2.2) hz ht
    omega
  · omega

/-- `matrix_` does not have the branch numbers its methods return: over `F_65537`, `65537` an
admissible prime, every non-zero `y` has at least seven non-zero words in `y` and `Mᵀ y`
together, so the least of them is not the 6 `linear_branch_number` returns. -/
theorem branchNumbers_not_minimal :
    LinearLayer.new = .ok yusLayer ∧ yusLayer.linearBranchNumber = 6 ∧
    (∀ y : Fin 36 → ZMod 65537, y ≠ 0 →
      7 ≤ wt y + wt ((matrixOver 65537 yusLayer)ᵀ *ᵥ y)) ∧
    ¬ ∀ p : ℕ, p.Prime → p % 3 = 2 → 2 ^ 16 ≤ p →
      IsBranchNumber (matrixOver p yusLayer) yusLayer.differentialBranchNumber.toNat ∧
      IsBranchNumber (matrixOver p yusLayer)ᵀ yusLayer.linearBranchNumber.toNat := by
  have hseven : ∀ y : Fin 36 → ZMod 65537, y ≠ 0 →
      7 ≤ wt y + wt ((matrixOver 65537 yusLayer)ᵀ *ᵥ y) := fun y hy => by
    rw [mulVec_transpose]
    exact seven_le_wt_add_wt y hy
  refine ⟨new_eq_yusLayer, rfl, hseven, fun h => ?_⟩
  obtain ⟨-, -, y, hy, hmin⟩ := h 65537 (by norm_num) (by norm_num) (by norm_num)
  have h7 := hseven y hy
  rw [hmin] at h7
  exact absurd h7 (by decide)

end YusVerif.Branch
