import Mathlib.Data.List.Rotate
import Mathlib.Data.List.GetD
import Mathlib.Data.Matrix.Mul
import Mathlib.Algebra.BigOperators.Fin
import Mathlib.Data.ZMod.Defs
import Mathlib.Tactic.Ring

/-!
# Matrices of size 36 that repeat along their diagonals

The matrix `matrix_` of the linear layer is block circulant: row `i + 3` is row `i` rotated
right by three words. Its inverse modulo 65537 repeats along the same diagonals. The
coefficient matrix of `apply` and its integer left inverse do so with step 12. The product of
two matrices that repeat along the diagonals of one step repeats along them too. So an
identity between two such matrices holds once it holds on the first rows, and the checked
computations of the data modules only compute those rows.
-/

namespace YusVerif.Circulant

/-- In a list of 36 rows of 36 words where row `i + k` is row `i` rotated right by `k` words,
the word at `(i + k, j + k)`, indices modulo 36, is the word at `(i, j)`. -/
theorem getD_getD_rotate {α : Type} (d : α) {rows : List (List α)} {k : ℕ} (hk : k ≤ 36)
    (hlen : rows.length = 36) (hrow : ∀ r ∈ rows, r.length = 36)
    (hrot : rows.rotate k = rows.map fun r => r.rotate (36 - k)) {i j : ℕ} (hi : i < 36)
    (hj : j < 36) :
    (rows.getD ((i + k) % 36) []).getD ((j + k) % 36) d = (rows.getD i []).getD j d := by
  have hr : i < (rows.rotate k).length := by rw [List.length_rotate, hlen]; exact hi
  have hm : i < (rows.map fun r => r.rotate (36 - k)).length := by
    rw [List.length_map, hlen]; exact hi
  have hi' : i < rows.length := by omega
  have hrow_i : rows.getD ((i + k) % 36) [] = (rows.getD i []).rotate (36 - k) := by
    have h := congrArg (fun l => l.getD i []) hrot
    simp only [List.getD_eq_getElem _ _ hr, List.getD_eq_getElem _ _ hm, List.getElem_rotate,
      List.getElem_map, hlen] at h
    rw [List.getD_eq_getElem _ _ (by omega), List.getD_eq_getElem _ _ hi', h]
  have hlen_i : (rows.getD i []).length = 36 :=
    hrow _ (by rw [List.getD_eq_getElem _ _ hi']; exact List.getElem_mem _)
  have hj' : (j + k) % 36 < ((rows.getD i []).rotate (36 - k)).length := by
    rw [List.length_rotate, hlen_i]; omega
  rw [hrow_i, List.getD_eq_getElem _ _ hj', List.getElem_rotate, ← List.getD_eq_getElem _ d,
    hlen_i]
  congr 1
  omega

/-- Repeating along the diagonals of step `c` is repeating along those of step `c · a`. -/
theorem apply_add_mul {R : Type} {P : Matrix (Fin 36) (Fin 36) R} {c : ℕ}
    (hP : ∀ i j, P (i + c) (j + c) = P i j) (a : ℕ) (i j : Fin 36) :
    P (i + (c * a : ℕ)) (j + (c * a : ℕ)) = P i j := by
  induction a generalizing i j with
  | zero => simp
  | succ a ih =>
    have hstep : ((c * (a + 1) : ℕ) : Fin 36) = (c * a : ℕ) + c := by push_cast; ring
    rw [hstep, ← add_assoc, ← add_assoc, hP, ih]

/-- Two matrices that repeat along the diagonals of step `c > 0` are equal once their first `c`
rows are. -/
theorem eq_of_first_rows {R : Type} {P Q : Matrix (Fin 36) (Fin 36) R} {c : ℕ} (hc : 0 < c)
    (hP : ∀ i j, P (i + c) (j + c) = P i j) (hQ : ∀ i j, Q (i + c) (j + c) = Q i j)
    (h : ∀ i j : Fin 36, (i : ℕ) < c → P i j = Q i j) : P = Q := by
  ext i j
  obtain ⟨i0, a, hi0, rfl⟩ :
      ∃ (i0 : Fin 36) (a : ℕ), (i0 : ℕ) < c ∧ i = i0 + (c * a : ℕ) := by
    have hdiv := Nat.mod_add_div (i : ℕ) c
    refine ⟨⟨i % c, by omega⟩, i / c, Nat.mod_lt _ hc, Fin.ext ?_⟩
    simp only [Fin.val_add, Fin.val_natCast, Fin.val_mk]
    rw [Nat.mod_eq_of_lt (by omega : c * ((i : ℕ) / c) < 36), hdiv, Nat.mod_eq_of_lt i.isLt]
  calc P (i0 + (c * a : ℕ)) j = P (i0 + (c * a : ℕ)) (j - (c * a : ℕ) + (c * a : ℕ)) := by
        rw [sub_add_cancel]
    _ = Q i0 (j - (c * a : ℕ)) := (apply_add_mul hP a _ _).trans (h _ _ hi0)
    _ = Q (i0 + (c * a : ℕ)) j := by rw [← apply_add_mul hQ a, sub_add_cancel]

/-- The product of two matrices that repeat along the diagonals of step `c` repeats along
them. -/
theorem mul_apply_add {R : Type} [NonUnitalNonAssocSemiring R]
    {A B : Matrix (Fin 36) (Fin 36) R} {c : Fin 36} (hA : ∀ i j, A (i + c) (j + c) = A i j)
    (hB : ∀ i j, B (i + c) (j + c) = B i j) (i j : Fin 36) :
    (A * B) (i + c) (j + c) = (A * B) i j := by
  simp only [Matrix.mul_apply]
  exact (Fintype.sum_equiv (Equiv.addRight c) _ _ fun k => by simp [hA, hB]).symm

end YusVerif.Circulant
