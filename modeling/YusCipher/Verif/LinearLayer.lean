import YusCipher.Model.LinearLayer
import YusCipher.Verif.Field
import Mathlib.Algebra.BigOperators.Ring
import Mathlib.Algebra.BigOperators.Fin
import Mathlib.Data.Matrix.Mul

/-!
# What the Four-Russians path of `LinearLayer::apply` computes

For a row and a group, `apply` reads the table entry at the row's mask and then, for every
set bit `i` among the 36 bits of that entry, adds `state[colStart + i % 4]`. Every step
reduces modulo `p`, so the row is the residue of a sum over groups and bits. Counting, for
each column, the bits that land on it turns that sum into an integer matrix times the state:
the layer is linear, with the matrix `effectiveMatrix`, whose entries are these counts and
not the zero-one entries of `matrix_`. Read in `ZMod p`, `apply` on a field vector is that
matrix's `mulVec`.
-/

open Yus Yus.LinearLayer YusVerif.Field

namespace YusVerif.LinearLayer

/-- A fold whose every step, from a residue, adds a term modulo `p` ends in the residue of
the sum of the terms. -/
theorem foldl_range_emod {p : Int} (hp : 0 < p) (step : Int → Nat → Int) (term : Nat → Int)
    (hstep : ∀ acc g, 0 ≤ acc → acc < p → step acc g = (acc + term g) % p) :
    ∀ (n : Nat) (acc : Int), 0 ≤ acc → acc < p →
      (List.range n).foldl step acc = (acc + ∑ g ∈ Finset.range n, term g) % p
  | 0, acc, h0, h1 => by simp [Int.emod_eq_of_lt h0 h1]
  | n + 1, acc, h0, h1 => by
    rw [List.range_succ, List.foldl_append, foldl_range_emod hp step term hstep n acc h0 h1,
      List.foldl_cons, List.foldl_nil,
      hstep _ _ (Int.emod_nonneg _ hp.ne') (Int.emod_lt_of_pos _ hp), Int.emod_add_emod,
      Finset.sum_range_succ, add_assoc]

/-- The table entry `apply` reads for a row in a group. -/
def tableEntry (ll : LinearLayer) (row group : Nat) : Nat :=
  (ll.fourRussiansTable.getD group []).getD (rowMask ll.matrix row (group * 4)) 0

/-- What the bit loop of one group adds to a row: `state[4g + i % 4]` for each set bit `i`. -/
def groupSum (ll : LinearLayer) (state : List Int) (row group : Nat) : Int :=
  ∑ i ∈ Finset.range 36,
    if (tableEntry ll row group).testBit i then state.getD (group * 4 + i % 4) 0 else 0

/-- A row sum of `apply` is the residue of the sum of its groups' contributions. -/
theorem rowSum_eq {p : Int} (hp : 0 < p) (ll : LinearLayer) (state : List Int) (row : Nat) :
    ll.rowSum state p row = (∑ g ∈ Finset.range 9, groupSum ll state row g) % p := by
  have bitLoop : ∀ acc group, 0 ≤ acc → acc < p →
      (List.range 36).foldl (fun rowSum i => if (tableEntry ll row group).testBit i then
        mod (rowSum + state.getD (group * 4 + i % 4) 0) p else rowSum) acc =
        (acc + groupSum ll state row group) % p := by
    intro acc group h0 h1
    refine foldl_range_emod hp _ _ (fun acc i h0 h1 => ?_) 36 acc h0 h1
    split
    · exact mod_eq_emod _ hp
    · simp [Int.emod_eq_of_lt h0 h1]
  rw [← zero_add (∑ g ∈ Finset.range 9, groupSum ll state row g)]
  exact foldl_range_emod hp _ (groupSum ll state row) bitLoop 9 0 le_rfl hp

/-- The coefficient of `state[col]` in a row of `apply`: the set bits `i` of the table
entry of the column's group with `i % 4 = col % 4`. -/
def coefficient (ll : LinearLayer) (row col : Nat) : Nat :=
  ((Finset.range 36).filter fun i =>
    (tableEntry ll row (col / 4)).testBit i ∧ i % 4 = col % 4).card

/-- One group's contribution, spread over the columns it reads. -/
theorem groupSum_eq_columns (ll : LinearLayer) (state : List Int) (row : Nat) {g : Nat}
    (hg : g < 9) : groupSum ll state row g = ∑ col ∈ Finset.range 36, ∑ i ∈ Finset.range 36,
      if (tableEntry ll row g).testBit i ∧ col = g * 4 + i % 4 then state.getD col 0 else 0 := by
  rw [groupSum, Finset.sum_comm]
  refine Finset.sum_congr rfl fun i _ => ?_
  by_cases hb : (tableEntry ll row g).testBit i
  · have hin : g * 4 + i % 4 ∈ Finset.range 36 := Finset.mem_range.mpr (by omega)
    simp [hb, Finset.sum_ite_eq', hin]
  · simp [hb]

/-- The column `col` is read, through bit `i`, only by the group `col / 4`. -/
theorem sum_groups_at_column (ll : LinearLayer) (state : List Int) (row : Nat) {col : Nat}
    (hcol : col < 36) (i : Nat) : (∑ g ∈ Finset.range 9,
      if (tableEntry ll row g).testBit i ∧ col = g * 4 + i % 4 then state.getD col 0 else 0) =
      (if (tableEntry ll row (col / 4)).testBit i ∧ i % 4 = col % 4 then 1 else 0) *
        state.getD col 0 := by
  rw [Finset.sum_eq_single (col / 4)]
  · by_cases h : (tableEntry ll row (col / 4)).testBit i ∧ i % 4 = col % 4
    · rw [if_pos ⟨h.1, by omega⟩, if_pos h, one_mul]
    · rw [if_neg (fun h' => h ⟨h'.1, by omega⟩), if_neg h, zero_mul]
  · intro g _ hne
    rw [if_neg (fun h => hne (by omega))]
  · intro h
    exact absurd (Finset.mem_range.mpr (by omega)) h

/-- Summing the groups of a row is summing the state weighted by the coefficients. -/
theorem groups_eq_coefficients (ll : LinearLayer) (state : List Int) (row : Nat) :
    ∑ g ∈ Finset.range 9, groupSum ll state row g =
      ∑ col ∈ Finset.range 36, (coefficient ll row col : Int) * state.getD col 0 := by
  rw [Finset.sum_congr rfl fun g hg => groupSum_eq_columns ll state row
    (Finset.mem_range.mp hg), Finset.sum_comm]
  refine Finset.sum_congr rfl fun col hcol => ?_
  rw [Finset.sum_comm, coefficient, Finset.natCast_card_filter, Finset.sum_mul]
  exact Finset.sum_congr rfl fun i _ =>
    sum_groups_at_column ll state row (Finset.mem_range.mp hcol) i

/-- `apply` on a state of 36 words is the product by the coefficient matrix, reduced
modulo `p`. -/
theorem apply_eq_coefficients {p : Int} (hp : 0 < p) (ll : LinearLayer) {state : List Int}
    (hlen : state.length = 36) : ll.apply state p = .ok ((List.range 36).map fun row =>
      (∑ col ∈ Finset.range 36, (coefficient ll row col : Int) * state.getD col 0) % p) := by
  rw [LinearLayer.apply, if_neg (not_not.mpr hlen), rows]
  exact congrArg Except.ok (List.map_congr_left fun row _ => by
    rw [rowSum_eq hp, groups_eq_coefficients])

/-- The integer matrix `apply` multiplies by. -/
def effectiveMatrix (ll : LinearLayer) : Matrix (Fin 36) (Fin 36) ℤ :=
  Matrix.of fun row col => coefficient ll row col

/-- On field vectors, the rows of `apply` are the coefficient matrix's `mulVec` in `ZMod p`. -/
theorem rows_eq_mulVec {p : ℕ} [NeZero p] (ll : LinearLayer) (state : List Int) :
    ll.rows state p = ofZMod (Matrix.mulVec ((effectiveMatrix ll).map (Int.cast : ℤ → ZMod p))
      (toZMod p 36 state)) := by
  have hp : (0 : Int) < p := by exact_mod_cast Nat.pos_of_ne_zero (NeZero.ne p)
  have hrow : ∀ row : Fin 36, ll.rowSum state p row = ((Matrix.mulVec
      ((effectiveMatrix ll).map (Int.cast : ℤ → ZMod p)) (toZMod p 36 state)) row).val := by
    intro row
    rw [rowSum_eq hp, groups_eq_coefficients, ← ZMod.val_intCast]
    congr 2
    simp only [Matrix.mulVec, Matrix.dotProduct, effectiveMatrix, Matrix.map_apply,
      Matrix.of_apply, toZMod, Int.cast_sum, Int.cast_mul, Int.cast_natCast]
    exact (Fin.sum_univ_eq_sum_range (fun col => (coefficient ll row col : ZMod p) *
      ((state.getD col 0 : ℤ) : ZMod p)) 36).symm
  apply List.ext_getElem (by simp [rows, ofZMod])
  intro i h1 h2
  simp only [rows, List.getElem_map, List.getElem_range, ofZMod, List.getElem_ofFn]
  exact hrow ⟨i, by simpa [rows] using h1⟩

end YusVerif.LinearLayer
