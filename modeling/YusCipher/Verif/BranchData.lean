import YusCipher.Verif.LayerData
import YusCipher.Verif.Circulant
import Mathlib.Data.List.Rotate
import Mathlib.Data.List.GetD

/-!
# The inverse of `matrix_` modulo 65537, and the minors of the branch-number argument

Over `F_65537` the binary matrix `matrix_` of `yusLayer` has the inverse `binaryInverseRows`,
written out row by row with entries below 65537. Both matrices are block circulant: row
`i + 3` is row `i` rotated right by three words, indices modulo 36. Closed computations, each
checked by evaluation, tie the literals together: the product of the two is the identity
modulo 65537, and the minors of consecutive columns that bound the linear branch number are
non-zero modulo 65537 often enough. By the circulant structure only the first three rows of the
product, and only supports whose first index is below 3, need to be checked.
-/

open Yus Yus.LinearLayer YusVerif.LayerData

namespace YusVerif.BranchData

/-- The inverse of `matrix_` over `F_65537`, row by row, with entries below 65537. -/
def binaryInverseRows : List (List Nat) :=
  [[57091, 51331, 9214, 65383, 21687, 120, 59448, 26064, 42652, 58478, 37539, 57739, 9791, 21192, 32379, 37468, 41228, 12036, 64036, 11172, 50597, 25176, 22255, 24333, 18496, 48130, 50199, 28823, 40702, 60797, 53285, 60569, 33416, 46818, 11355, 19741],
    [62417, 60634, 32918, 5856, 55960, 12438, 37548, 28840, 61927, 25482, 44278, 64280, 52636, 52169, 39780, 1520, 20052, 45395, 26824, 28204, 19847, 40606, 17459, 63239, 61651, 5043, 48288, 8792, 10969, 27478, 6511, 21720, 22978, 34256, 4200, 34753],
    [3529, 49885, 56324, 5706, 63438, 25411, 47136, 7248, 27389, 15789, 4583, 4844, 27091, 50158, 8337, 20579, 44407, 21895, 5932, 7527, 48938, 20044, 11807, 39067, 52954, 15599, 48576, 33840, 51889, 60720, 59968, 44349, 50739, 35115, 42333, 983],
    [46818, 11355, 19741, 57091, 51331, 9214, 65383, 21687, 120, 59448, 26064, 42652, 58478, 37539, 57739, 9791, 21192, 32379, 37468, 41228, 12036, 64036, 11172, 50597, 25176, 22255, 24333, 18496, 48130, 50199, 28823, 40702, 60797, 53285, 60569, 33416],
    [34256, 4200, 34753, 62417, 60634, 32918, 5856, 55960, 12438, 37548, 28840, 61927, 25482, 44278, 64280, 52636, 52169, 39780, 1520, 20052, 45395, 26824, 28204, 19847, 40606, 17459, 63239, 61651, 5043, 48288, 8792, 10969, 27478, 6511, 21720, 22978],
    [35115, 42333, 983, 3529, 49885, 56324, 5706, 63438, 25411, 47136, 7248, 27389, 15789, 4583, 4844, 27091, 50158, 8337, 20579, 44407, 21895, 5932, 7527, 48938, 20044, 11807, 39067, 52954, 15599, 48576, 33840, 51889, 60720, 59968, 44349, 50739],
    [53285, 60569, 33416, 46818, 11355, 19741, 57091, 51331, 9214, 65383, 21687, 120, 59448, 26064, 42652, 58478, 37539, 57739, 9791, 21192, 32379, 37468, 41228, 12036, 64036, 11172, 50597, 25176, 22255, 24333, 18496, 48130, 50199, 28823, 40702, 60797],
    [6511, 21720, 22978, 34256, 4200, 34753, 62417, 60634, 32918, 5856, 55960, 12438, 37548, 28840, 61927, 25482, 44278, 64280, 52636, 52169, 39780, 1520, 20052, 45395, 26824, 28204, 19847, 40606, 17459, 63239, 61651, 5043, 48288, 8792, 10969, 27478],
    [59968, 44349, 50739, 35115, 42333, 983, 3529, 49885, 56324, 5706, 63438, 25411, 47136, 7248, 27389, 15789, 4583, 4844, 27091, 50158, 8337, 20579, 44407, 21895, 5932, 7527, 48938, 20044, 11807, 39067, 52954, 15599, 48576, 33840, 51889, 60720],
    [28823, 40702, 60797, 53285, 60569, 33416, 46818, 11355, 19741, 57091, 51331, 9214, 65383, 21687, 120, 59448, 26064, 42652, 58478, 37539, 57739, 9791, 21192, 32379, 37468, 41228, 12036, 64036, 11172, 50597, 25176, 22255, 24333, 18496, 48130, 50199],
    [8792, 10969, 27478, 6511, 21720, 22978, 34256, 4200, 34753, 62417, 60634, 32918, 5856, 55960, 12438, 37548, 28840, 61927, 25482, 44278, 64280, 52636, 52169, 39780, 1520, 20052, 45395, 26824, 28204, 19847, 40606, 17459, 63239, 61651, 5043, 48288],
    [33840, 51889, 60720, 59968, 44349, 50739, 35115, 42333, 983, 3529, 49885, 56324, 5706, 63438, 25411, 47136, 7248, 27389, 15789, 4583, 4844, 27091, 50158, 8337, 20579, 44407, 21895, 5932, 7527, 48938, 20044, 11807, 39067, 52954, 15599, 48576],
    [18496, 48130, 50199, 28823, 40702, 60797, 53285, 60569, 33416, 46818, 11355, 19741, 57091, 51331, 9214, 65383, 21687, 120, 59448, 26064, 42652, 58478, 37539, 57739, 9791, 21192, 32379, 37468, 41228, 12036, 64036, 11172, 50597, 25176, 22255, 24333],
    [61651, 5043, 48288, 8792, 10969, 27478, 6511, 21720, 22978, 34256, 4200, 34753, 62417, 60634, 32918, 5856, 55960, 12438, 37548, 28840, 61927, 25482, 44278, 64280, 52636, 52169, 39780, 1520, 20052, 45395, 26824, 28204, 19847, 40606, 17459, 63239],
    [52954, 15599, 48576, 33840, 51889, 60720, 59968, 44349, 50739, 35115, 42333, 983, 3529, 49885, 56324, 5706, 63438, 25411, 47136, 7248, 27389, 15789, 4583, 4844, 27091, 50158, 8337, 20579, 44407, 21895, 5932, 7527, 48938, 20044, 11807, 39067],
    [25176, 22255, 24333, 18496, 48130, 50199, 28823, 40702, 60797, 53285, 60569, 33416, 46818, 11355, 19741, 57091, 51331, 9214, 65383, 21687, 120, 59448, 26064, 42652, 58478, 37539, 57739, 9791, 21192, 32379, 37468, 41228, 12036, 64036, 11172, 50597],
    [40606, 17459, 63239, 61651, 5043, 48288, 8792, 10969, 27478, 6511, 21720, 22978, 34256, 4200, 34753, 62417, 60634, 32918, 5856, 55960, 12438, 37548, 28840, 61927, 25482, 44278, 64280, 52636, 52169, 39780, 1520, 20052, 45395, 26824, 28204, 19847],
    [20044, 11807, 39067, 52954, 15599, 48576, 33840, 51889, 60720, 59968, 44349, 50739, 35115, 42333, 983, 3529, 49885, 56324, 5706, 63438, 25411, 47136, 7248, 27389, 15789, 4583, 4844, 27091, 50158, 8337, 20579, 44407, 21895, 5932, 7527, 48938],
    [64036, 11172, 50597, 25176, 22255, 24333, 18496, 48130, 50199, 28823, 40702, 60797, 53285, 60569, 33416, 46818, 11355, 19741, 57091, 51331, 9214, 65383, 21687, 120, 59448, 26064, 42652, 58478, 37539, 57739, 9791, 21192, 32379, 37468, 41228, 12036],
    [26824, 28204, 19847, 40606, 17459, 63239, 61651, 5043, 48288, 8792, 10969, 27478, 6511, 21720, 22978, 34256, 4200, 34753, 62417, 60634, 32918, 5856, 55960, 12438, 37548, 28840, 61927, 25482, 44278, 64280, 52636, 52169, 39780, 1520, 20052, 45395],
    [5932, 7527, 48938, 20044, 11807, 39067, 52954, 15599, 48576, 33840, 51889, 60720, 59968, 44349, 50739, 35115, 42333, 983, 3529, 49885, 56324, 5706, 63438, 25411, 47136, 7248, 27389, 15789, 4583, 4844, 27091, 50158, 8337, 20579, 44407, 21895],
    [37468, 41228, 12036, 64036, 11172, 50597, 25176, 22255, 24333, 18496, 48130, 50199, 28823, 40702, 60797, 53285, 60569, 33416, 46818, 11355, 19741, 57091, 51331, 9214, 65383, 21687, 120, 59448, 26064, 42652, 58478, 37539, 57739, 9791, 21192, 32379],
    [1520, 20052, 45395, 26824, 28204, 19847, 40606, 17459, 63239, 61651, 5043, 48288, 8792, 10969, 27478, 6511, 21720, 22978, 34256, 4200, 34753, 62417, 60634, 32918, 5856, 55960, 12438, 37548, 28840, 61927, 25482, 44278, 64280, 52636, 52169, 39780],
    [20579, 44407, 21895, 5932, 7527, 48938, 20044, 11807, 39067, 52954, 15599, 48576, 33840, 51889, 60720, 59968, 44349, 50739, 35115, 42333, 983, 3529, 49885, 56324, 5706, 63438, 25411, 47136, 7248, 27389, 15789, 4583, 4844, 27091, 50158, 8337],
    [9791, 21192, 32379, 37468, 41228, 12036, 64036, 11172, 50597, 25176, 22255, 24333, 18496, 48130, 50199, 28823, 40702, 60797, 53285, 60569, 33416, 46818, 11355, 19741, 57091, 51331, 9214, 65383, 21687, 120, 59448, 26064, 42652, 58478, 37539, 57739],
    [52636, 52169, 39780, 1520, 20052, 45395, 26824, 28204, 19847, 40606, 17459, 63239, 61651, 5043, 48288, 8792, 10969, 27478, 6511, 21720, 22978, 34256, 4200, 34753, 62417, 60634, 32918, 5856, 55960, 12438, 37548, 28840, 61927, 25482, 44278, 64280],
    [27091, 50158, 8337, 20579, 44407, 21895, 5932, 7527, 48938, 20044, 11807, 39067, 52954, 15599, 48576, 33840, 51889, 60720, 59968, 44349, 50739, 35115, 42333, 983, 3529, 49885, 56324, 5706, 63438, 25411, 47136, 7248, 27389, 15789, 4583, 4844],
    [58478, 37539, 57739, 9791, 21192, 32379, 37468, 41228, 12036, 64036, 11172, 50597, 25176, 22255, 24333, 18496, 48130, 50199, 28823, 40702, 60797, 53285, 60569, 33416, 46818, 11355, 19741, 57091, 51331, 9214, 65383, 21687, 120, 59448, 26064, 42652],
    [25482, 44278, 64280, 52636, 52169, 39780, 1520, 20052, 45395, 26824, 28204, 19847, 40606, 17459, 63239, 61651, 5043, 48288, 8792, 10969, 27478, 6511, 21720, 22978, 34256, 4200, 34753, 62417, 60634, 32918, 5856, 55960, 12438, 37548, 28840, 61927],
    [15789, 4583, 4844, 27091, 50158, 8337, 20579, 44407, 21895, 5932, 7527, 48938, 20044, 11807, 39067, 52954, 15599, 48576, 33840, 51889, 60720, 59968, 44349, 50739, 35115, 42333, 983, 3529, 49885, 56324, 5706, 63438, 25411, 47136, 7248, 27389],
    [59448, 26064, 42652, 58478, 37539, 57739, 9791, 21192, 32379, 37468, 41228, 12036, 64036, 11172, 50597, 25176, 22255, 24333, 18496, 48130, 50199, 28823, 40702, 60797, 53285, 60569, 33416, 46818, 11355, 19741, 57091, 51331, 9214, 65383, 21687, 120],
    [37548, 28840, 61927, 25482, 44278, 64280, 52636, 52169, 39780, 1520, 20052, 45395, 26824, 28204, 19847, 40606, 17459, 63239, 61651, 5043, 48288, 8792, 10969, 27478, 6511, 21720, 22978, 34256, 4200, 34753, 62417, 60634, 32918, 5856, 55960, 12438],
    [47136, 7248, 27389, 15789, 4583, 4844, 27091, 50158, 8337, 20579, 44407, 21895, 5932, 7527, 48938, 20044, 11807, 39067, 52954, 15599, 48576, 33840, 51889, 60720, 59968, 44349, 50739, 35115, 42333, 983, 3529, 49885, 56324, 5706, 63438, 25411],
    [65383, 21687, 120, 59448, 26064, 42652, 58478, 37539, 57739, 9791, 21192, 32379, 37468, 41228, 12036, 64036, 11172, 50597, 25176, 22255, 24333, 18496, 48130, 50199, 28823, 40702, 60797, 53285, 60569, 33416, 46818, 11355, 19741, 57091, 51331, 9214],
    [5856, 55960, 12438, 37548, 28840, 61927, 25482, 44278, 64280, 52636, 52169, 39780, 1520, 20052, 45395, 26824, 28204, 19847, 40606, 17459, 63239, 61651, 5043, 48288, 8792, 10969, 27478, 6511, 21720, 22978, 34256, 4200, 34753, 62417, 60634, 32918],
    [5706, 63438, 25411, 47136, 7248, 27389, 15789, 4583, 4844, 27091, 50158, 8337, 20579, 44407, 21895, 5932, 7527, 48938, 20044, 11807, 39067, 52954, 15599, 48576, 33840, 51889, 60720, 59968, 44349, 50739, 35115, 42333, 983, 3529, 49885, 56324]]

/-- `x · us + vs` word by word, a missing word read as zero. -/
def addScaled (x : Nat) : List Nat → List Nat → List Nat
  | u :: us, v :: vs => (x * u + v) :: addScaled x us vs
  | u :: us, [] => x * u :: addScaled x us []
  | [], vs => vs

theorem getD_addScaled (x : Nat) : ∀ (us vs : List Nat) (j : Nat),
    (addScaled x us vs).getD j 0 = x * us.getD j 0 + vs.getD j 0
  | _ :: _, _ :: _, 0 | _ :: _, [], 0 => rfl
  | _ :: us, _ :: vs, j + 1 => getD_addScaled x us vs j
  | _ :: us, [], j + 1 => getD_addScaled x us [] j
  | [], _, _ => by simp [addScaled]

/-- Row `i` of a product: the rows of the second factor scaled by the words of row `i` of the
first, and summed. -/
def rowTimes : List Nat → List (List Nat) → List Nat
  | x :: xs, r :: rs => addScaled x r (rowTimes xs rs)
  | _, _ => []

/-- Word `j` of `rowTimes a rows` is the sum over `k` of word `k` of `a` times word `j` of row
`k`. -/
theorem getD_rowTimes (j : Nat) : ∀ (a : List Nat) (rows : List (List Nat)),
    (rowTimes a rows).getD j 0 =
      ∑ k ∈ Finset.range a.length, a.getD k 0 * (rows.getD k []).getD j 0
  | [], _ => by simp [rowTimes]
  | _ :: _, [] => by simp [rowTimes]
  | x :: xs, r :: rs => by
    rw [rowTimes, getD_addScaled, getD_rowTimes j xs rs, List.length_cons, Finset.sum_range_succ',
      add_comm]
    rfl

/-- Row `i` of the identity. -/
def unitRow (i : Nat) : List Nat := (List.range 36).map fun j => if i = j then 1 else 0

/-- The word of row `a` at column `r` is non-zero modulo 65537. -/
def minor1Ok (a : List Nat) (r : Nat) : Bool := a.getD r 0 % 65537 != 0

/-- The minor of rows `a, b` on columns `2r, 2r + 1` is non-zero modulo 65537. -/
def minor2Ok (a b : List Nat) (r : Nat) : Bool :=
  a.getD (2 * r) 0 * b.getD (2 * r + 1) 0 % 65537 != a.getD (2 * r + 1) 0 * b.getD (2 * r) 0 % 65537

/-- The minor of rows `a, b, c` on columns `3r, 3r + 1, 3r + 2` is non-zero modulo 65537: its
positive and negative terms differ. -/
def minor3Ok (a b c : List Nat) (r : Nat) : Bool :=
  (a.getD (3 * r) 0 * b.getD (3 * r + 1) 0 * c.getD (3 * r + 2) 0 +
      a.getD (3 * r + 1) 0 * b.getD (3 * r + 2) 0 * c.getD (3 * r) 0 +
      a.getD (3 * r + 2) 0 * b.getD (3 * r) 0 * c.getD (3 * r + 1) 0) % 65537 !=
    (a.getD (3 * r) 0 * b.getD (3 * r + 2) 0 * c.getD (3 * r + 1) 0 +
      a.getD (3 * r + 1) 0 * b.getD (3 * r) 0 * c.getD (3 * r + 2) 0 +
      a.getD (3 * r + 2) 0 * b.getD (3 * r + 1) 0 * c.getD (3 * r) 0) % 65537

/-- `R a b` for every two rows `a` before `b` of which `a` is among the first `n`. -/
def pairsFrom (R : List Nat → List Nat → Bool) : Nat → List (List Nat) → Bool
  | n + 1, a :: rest => rest.all (R a) && pairsFrom R n rest
  | _, _ => true

/-- What `pairsFrom` checks, by indices. -/
theorem pairsFrom_spec {R : List Nat → List Nat → Bool} {n : Nat} {l : List (List Nat)}
    (h : pairsFrom R n l = true) {i j : Nat} (hi : i < n) (hij : i < j) (hj : j < l.length) :
    R (l.getD i []) (l.getD j []) = true := by
  induction l generalizing n i j with
  | nil => simp at hj
  | cons a rest ih =>
    obtain ⟨n, rfl⟩ : ∃ m, n = m + 1 := ⟨n - 1, by omega⟩
    obtain ⟨j, rfl⟩ : ∃ k, j = k + 1 := ⟨j - 1, by omega⟩
    simp only [pairsFrom, Bool.and_eq_true, List.all_eq_true] at h
    rw [List.length_cons] at hj
    cases i with
    | zero =>
      refine h.1 _ ?_
      rw [List.getD_cons_succ, List.getD_eq_getElem _ _ (by omega)]
      exact List.getElem_mem _
    | succ i => exact ih h.2 (by omega) (by omega) (by omega)

/-- `R a b c` for every three rows in order of which `a` is among the first `n`. -/
def triplesFrom (R : List Nat → List Nat → List Nat → Bool) : Nat → List (List Nat) → Bool
  | n + 1, a :: rest => pairsFrom (R a) rest.length rest && triplesFrom R n rest
  | _, _ => true

/-- What `triplesFrom` checks, by indices. -/
theorem triplesFrom_spec {R : List Nat → List Nat → List Nat → Bool} {n : Nat}
    {l : List (List Nat)} (h : triplesFrom R n l = true) {i j k : Nat} (hi : i < n) (hij : i < j)
    (hjk : j < k) (hk : k < l.length) : R (l.getD i []) (l.getD j []) (l.getD k []) = true := by
  induction l generalizing n i j k with
  | nil => simp at hk
  | cons a rest ih =>
    obtain ⟨n, rfl⟩ : ∃ m, n = m + 1 := ⟨n - 1, by omega⟩
    obtain ⟨j, rfl⟩ : ∃ m, j = m + 1 := ⟨j - 1, by omega⟩
    obtain ⟨k, rfl⟩ : ∃ m, k = m + 1 := ⟨k - 1, by omega⟩
    simp only [triplesFrom, Bool.and_eq_true] at h
    rw [List.length_cons] at hk
    cases i with
    | zero => exact pairsFrom_spec h.1 (by omega) (by omega) (by omega)
    | succ i => exact ih h.2 (by omega) (by omega) (by omega) (by omega)

/-- Both matrices have 36 rows of 36 words. -/
theorem length_rows : yusLayer.matrix.length = 36 ∧ binaryInverseRows.length = 36 ∧
    (yusLayer.matrix.all fun r => r.length == 36) = true ∧
    (binaryInverseRows.all fun r => r.length == 36) = true := by
  decide

/-- Both matrices are block circulant: row `i + 3` is row `i` rotated right by three words. -/
theorem rows_rotate : yusLayer.matrix.rotate 3 = yusLayer.matrix.map (fun r => r.rotate 33) ∧
    binaryInverseRows.rotate 3 = binaryInverseRows.map (fun r => r.rotate 33) := by
  decide

/-- The first three rows of the product of `matrix_` and `binaryInverseRows` are those of the
identity modulo 65537: both matrices are block circulant, so the others follow. -/
theorem rowTimes_check : ((List.range 3).all fun i =>
    (rowTimes (yusLayer.matrix.getD i []) binaryInverseRows).map (· % 65537) == unitRow i) =
      true := by
  decide

/-- Every row of `matrix_` has at least six non-zero words, and every pair of rows, the first
among the first three, a non-zero minor on at least five of the eighteen pairs of columns
`2r, 2r + 1`. -/
theorem matrix_minors :
    (yusLayer.matrix.all fun a => 6 ≤ (List.range 36).countP (minor1Ok a)) = true ∧
    pairsFrom (fun a b => 5 ≤ (List.range 18).countP (minor2Ok a b)) 3 yusLayer.matrix =
      true := by
  decide

/-- The same bounds for `binaryInverseRows`, and a non-zero minor on each of the first four
triples of columns for every three rows, the first among the first three. -/
theorem inverse_minors :
    (binaryInverseRows.all fun a => 6 ≤ (List.range 36).countP (minor1Ok a)) = true ∧
    pairsFrom (fun a b => 5 ≤ (List.range 18).countP (minor2Ok a b)) 3 binaryInverseRows =
      true ∧
    triplesFrom (fun a b c => 4 ≤ (List.range 4).countP (minor3Ok a b c)) 3 binaryInverseRows =
      true := by
  decide

end YusVerif.BranchData
