import YusCipher.Verif.LayerInverse

/-!
# The Four-Russians table of `LinearLayer`, for every matrix

`precompute_four_russians` stores, for the group `g` of columns `4g, …, 4g + 3` and a four-bit
mask, the exclusive or of the selected columns, each a 36-bit integer whose bit `i` is the
entry of row `i`. `apply` reads the table at the mask of row `r`'s entries in the group, so
bit `i` of what it reads is the parity of the columns of the group where rows `r` and `i`
both hold one, and for each such bit it adds `state[4g + i % 4]`. Whatever the matrix
`matrix_`, the coefficient of `state[col]` in row `r` is therefore the number of rows
`i ≡ col (mod 4)` whose overlap with row `r` in the group of `col` is odd; and the result is
the product by `matrix_` on every state exactly when these counts are the entries of
`matrix_` modulo `p`.
-/

open Yus Yus.LinearLayer YusVerif.Field YusVerif.LinearLayer YusVerif.LayerInverse
  YusVerif.LayerData

namespace YusVerif.FourRussians

section Bits

/-- The test `mask & (1 << b)` of the table loop reads bit `b` of the mask. -/
theorem and_one_shiftLeft_ne_zero (x b : Nat) : (x &&& 1 <<< b != 0) = x.testBit b := by
  rw [Nat.one_shiftLeft]
  cases h : x.testBit b
  · have hz : x &&& 2 ^ b = 0 := Nat.eq_of_testBit_eq fun i => by
      by_cases hi : b = i
      · subst hi
        simp [h]
      · simp [Nat.testBit_two_pow_of_ne hi]
    simp [hz]
  · have hb : (x &&& 2 ^ b).testBit b = true := by simp [h]
    simpa using fun h0 => by simp [h0] at hb

/-- A loop that sets bit `b` for each `b < n` satisfying `q` sets exactly those bits. -/
theorem testBit_foldl_or (q : Nat → Prop) [DecidablePred q] (n i : Nat) :
    ((List.range n).foldl (fun acc b => if q b then acc ||| 1 <<< b else acc) 0).testBit i =
      decide (i < n ∧ q i) := by
  induction n with
  | zero => simp
  | succ n ih =>
    rw [List.range_succ, List.foldl_append, List.foldl_cons, List.foldl_nil]
    have hlt : i < n + 1 ↔ i < n ∨ i = n := by omega
    split
    · rw [Nat.testBit_or, ih, Nat.one_shiftLeft, Nat.testBit_two_pow]
      by_cases hi : i = n <;> simp [hlt, hi, Ne.symm, *]
    · rw [ih]
      by_cases hi : i = n <;> simp [hlt, hi, Ne.symm, *]

/-- A loop that adds by exclusive or the word `v b` of each bit `b < n` set in `mask` has bit
`i` set iff an odd number of those words have it. -/
theorem testBit_foldl_xor (mask : Nat) (v : Nat → Nat) (n i : Nat) :
    ((List.range n).foldl
      (fun sum b => if mask &&& 1 <<< b != 0 then sum ^^^ v b else sum) 0).testBit i =
      decide (((List.range n).filter fun b =>
        mask.testBit b && (v b).testBit i).length % 2 = 1) := by
  induction n with
  | zero => simp
  | succ n ih =>
    rw [List.range_succ, List.foldl_append, List.foldl_cons, List.foldl_nil, List.filter_append,
      List.length_append]
    split <;> rename_i hmask <;> rw [and_one_shiftLeft_ne_zero] at hmask
    · rw [Nat.testBit_xor, ih]
      rcases Nat.mod_two_eq_zero_or_one ((List.range n).filter
        fun b => mask.testBit b && (v b).testBit i).length with h | h <;>
      cases hv : (v n).testBit i <;> simp [hmask, hv, h, List.filter_cons, Nat.add_mod]
    · rw [ih]
      simp [hmask]

end Bits

section Table

variable (matrix : List (List Nat))

/-- Bit `i` of the column vector of `col` is row `i`'s entry, for the 36 rows. -/
theorem testBit_columnVector (col i : Nat) :
    (columnVector matrix col).testBit i = decide (i < 36 ∧ entry matrix i col = 1) :=
  testBit_foldl_or (fun row => entry matrix row col = 1) 36 i

/-- Bit `b` of the mask of row `r` at `colStart` is the row's entry in column `colStart + b`,
for the four bits. -/
theorem testBit_rowMask (r colStart b : Nat) :
    (rowMask matrix r colStart).testBit b = decide (b < 4 ∧ entry matrix r (colStart + b) = 1) :=
  testBit_foldl_or (fun bit => entry matrix r (colStart + bit) = 1) 4 b

/-- A mask has four bits, so it indexes a row of the table. -/
theorem rowMask_lt (r colStart : Nat) : rowMask matrix r colStart < 16 :=
  Nat.lt_pow_two_of_testBit (n := 4) _ fun b hb => by
    simp only [testBit_rowMask, decide_eq_false_iff_not, not_and]
    omega

/-- The number of the four columns of group `g` in which rows `r` and `i` both hold one. -/
def overlap (r i g : Nat) : Nat :=
  ((List.range 4).filter fun b =>
    entry matrix r (g * 4 + b) = 1 ∧ entry matrix i (g * 4 + b) = 1).length

/-- For a group of the table, bit `i` of the entry `apply` reads for row `r` is set iff `i` is
one of the 36 rows and its overlap with row `r` in the group is odd. -/
theorem testBit_tableEntry (r : Nat) {g : Nat} (hg : g < 9) (i : Nat) :
    (tableEntry ⟨matrix, precomputeFourRussians matrix⟩ r g).testBit i =
      decide (i < 36 ∧ overlap matrix r i g % 2 = 1) := by
  simp only [tableEntry, precomputeFourRussians]
  rw [getD_map_range _ hg, getD_map_range _ (rowMask_lt matrix r (g * 4)), testBit_foldl_xor,
    overlap]
  by_cases hi : i < 36
  · have hfilter : ((List.range 4).filter fun b => (rowMask matrix r (g * 4)).testBit b &&
        (columnVector matrix (g * 4 + b)).testBit i) = (List.range 4).filter fun b =>
          entry matrix r (g * 4 + b) = 1 ∧ entry matrix i (g * 4 + b) = 1 :=
      List.filter_congr fun b hb => by
        simp [testBit_rowMask, testBit_columnVector, hi, List.mem_range.mp hb]
    simp [hfilter, hi]
  · simp [testBit_columnVector, hi]

/-- The coefficient of `state[col]` in row `r` of the Four-Russians path: the number of rows
`i ≡ col (mod 4)` among the 36 whose overlap with row `r` in the group of `col` is odd. -/
def fourRussiansCoefficient (r col : Nat) : Nat :=
  ((Finset.range 9).filter fun k => overlap matrix r (4 * k + col % 4) (col / 4) % 2 = 1).card

/-- The coefficients `apply` reads off its table are the odd-overlap counts of the matrix. -/
theorem coefficient_precomputeFourRussians (r : Nat) {col : Nat} (hcol : col < 36) :
    coefficient ⟨matrix, precomputeFourRussians matrix⟩ r col =
      fourRussiansCoefficient matrix r col := by
  rw [coefficient, card_filter_mod4 _ (Nat.mod_lt col (by decide)), fourRussiansCoefficient]
  refine congrArg Finset.card (Finset.filter_congr fun k hk => ?_)
  have hk36 : 4 * k + col % 4 < 36 := by
    simp only [Finset.mem_range] at hk
    omega
  simp [testBit_tableEntry matrix r (by omega : col / 4 < 9), hk36]

/-- The rows of the layer built from `matrix_` are the state weighted by the odd-overlap
counts, modulo `p`. -/
theorem rows_precomputeFourRussians {p : Int} (hp : 0 < p) (state : List Int) :
    (⟨matrix, precomputeFourRussians matrix⟩ : LinearLayer).rows state p =
      (List.range 36).map fun row => (∑ col ∈ Finset.range 36,
        (fourRussiansCoefficient matrix row col : Int) * state.getD col 0) % p := by
  refine List.map_congr_left fun row _ => ?_
  rw [rowSum_eq hp, groups_eq_coefficients]
  exact congrArg (· % p) (Finset.sum_congr rfl fun col hcol => by
    rw [coefficient_precomputeFourRussians matrix row (Finset.mem_range.mp hcol)])

/-- For every matrix `matrix_`, `apply` with the table `precompute_four_russians` builds from
it multiplies a state of 36 words, modulo `p`, by the odd-overlap counts of the matrix. -/
theorem apply_precomputeFourRussians {p : Int} (hp : 0 < p) {state : List Int}
    (hlen : state.length = 36) :
    LinearLayer.apply ⟨matrix, precomputeFourRussians matrix⟩ state p =
      .ok ((List.range 36).map fun row => (∑ col ∈ Finset.range 36,
        (fourRussiansCoefficient matrix row col : Int) * state.getD col 0) % p) := by
  rw [LinearLayer.apply, if_neg (not_not.mpr hlen), rows_precomputeFourRussians matrix hp]

/-- The literal of the constructor on the counter vector `(1, …, 36)` of block 0, modulo
65537. -/
theorem apply_precomputeFourRussians_65537 : (0 : Int) < 65537 ∧
    ((List.range 36).map fun i : Nat => (i + 1 : Int)).length = 36 ∧
    LinearLayer.apply ⟨yusLayer.matrix, precomputeFourRussians yusLayer.matrix⟩
        ((List.range 36).map fun i : Nat => (i + 1 : Int)) 65537 =
      .ok ((List.range 36).map fun row => (∑ col ∈ Finset.range 36,
        (fourRussiansCoefficient yusLayer.matrix row col : Int) *
          ((List.range 36).map fun i : Nat => (i + 1 : Int)).getD col 0) % 65537) := by
  have hlen : ((List.range 36).map fun i : Nat => (i + 1 : Int)).length = 36 := by
    rw [List.length_map, List.length_range]
  exact ⟨by decide, hlen, apply_precomputeFourRussians yusLayer.matrix (by decide) hlen⟩

/-- On the literal of the constructor, the coefficient of `state[0]` in row 0 is six where
`matrix_` holds a one. -/
example : fourRussiansCoefficient yusLayer.matrix 0 0 = 6 ∧ entry yusLayer.matrix 0 0 = 1 := by
  decide

end Table

section Product

/-- A sum over the columns of a filter is the sum of the selected terms. -/
theorem sum_map_filter_range (q : Nat → Prop) [DecidablePred q] (f : Nat → Int) (n : Nat) :
    (((List.range n).filter fun k => q k).map f).sum =
      ∑ k ∈ Finset.range n, (if q k then 1 else 0) * f k := by
  induction n with
  | zero => simp
  | succ n ih =>
    rw [List.range_succ, List.filter_append, List.map_append, List.sum_append, ih,
      Finset.sum_range_succ]
    by_cases hq : q n <;> simp [hq]

/-- The plain product over `matrix_` sums the state weighted by the indicator of its ones. -/
theorem plainProduct_eq_sum (matrix : List (List Nat)) (state : List Int) {p : Int}
    (hp : 0 < p) : plainProduct matrix state p = (List.range 36).map fun row =>
      (∑ col ∈ Finset.range 36,
        (if entry matrix row col = 1 then 1 else 0) * state.getD col 0) % p :=
  List.map_congr_left fun row _ => by
    rw [mod_eq_emod _ hp, sum_map_filter_range]

/-- Sums of products whose coefficients agree modulo `p` agree modulo `p`. -/
theorem sum_emod_congr {p : Int} {a b : Nat → Int} (x : Nat → Int)
    (h : ∀ col < 36, a col ≡ b col [ZMOD p]) :
    (∑ col ∈ Finset.range 36, a col * x col) % p =
      (∑ col ∈ Finset.range 36, b col * x col) % p := by
  rw [Finset.sum_int_mod, Finset.sum_int_mod _ _ fun col => b col * x col]
  exact congrArg (· % p) (Finset.sum_congr rfl fun col hcol =>
    (h col (Finset.mem_range.mp hcol)).mul_right (x col))

/-- The state with a one at `col` and zeros elsewhere. -/
def basisState (col : Nat) : List Int := (List.range 36).map fun k => if k = col then 1 else 0

/-- A weighted sum over the basis state of `col` is the weight of `col`. -/
theorem sum_mul_basisState (f : Nat → Int) {col : Nat} (hcol : col < 36) :
    ∑ c ∈ Finset.range 36, f c * (basisState col).getD c 0 = f col := by
  rw [Finset.sum_congr rfl fun c hc => by
    rw [basisState, getD_map_range _ (Finset.mem_range.mp hc)]]
  simp [hcol]

/-- For every matrix and every modulus `p > 1`, the Four-Russians path agrees with the plain
product over `matrix_` on every state of 36 words iff each odd-overlap count is congruent
modulo `p` to the indicator of a one in `matrix_`. -/
theorem apply_eq_plainProduct_iff (matrix : List (List Nat)) {p : Int} (hp : 1 < p) :
    (∀ state : List Int, state.length = 36 →
      LinearLayer.apply ⟨matrix, precomputeFourRussians matrix⟩ state p =
        .ok (plainProduct matrix state p)) ↔
    ∀ row col, row < 36 → col < 36 → (fourRussiansCoefficient matrix row col : Int) ≡
      (if entry matrix row col = 1 then 1 else 0) [ZMOD p] := by
  constructor
  · intro h row col hrow hcol
    have hbasis := h (basisState col) (by simp [basisState])
    rw [LinearLayer.apply, if_neg (by simp [basisState]),
      rows_precomputeFourRussians matrix (by omega), plainProduct_eq_sum _ _ (by omega)] at hbasis
    simpa only [getD_map_range _ hrow, sum_mul_basisState _ hcol] using
      congrArg (fun l => l.getD row 0) (Except.ok.inj hbasis)
  · intro h state hlen
    rw [LinearLayer.apply, if_neg (not_not.mpr hlen), rows_precomputeFourRussians matrix (by omega),
      plainProduct_eq_sum _ _ (by omega)]
    exact congrArg Except.ok (List.map_congr_left fun row hrow =>
      sum_emod_congr _ fun col hcol => h row col (List.mem_range.mp hrow) hcol)

/-- The literal of the constructor modulo 65537. -/
theorem apply_eq_plainProduct_iff_65537 : 1 < (65537 : Int) ∧
    ((∀ state : List Int, state.length = 36 →
      LinearLayer.apply ⟨yusLayer.matrix, precomputeFourRussians yusLayer.matrix⟩ state 65537 =
        .ok (plainProduct yusLayer.matrix state 65537)) ↔
    ∀ row col, row < 36 → col < 36 → (fourRussiansCoefficient yusLayer.matrix row col : Int) ≡
      (if entry yusLayer.matrix row col = 1 then 1 else 0) [ZMOD 65537]) :=
  ⟨by decide, apply_eq_plainProduct_iff yusLayer.matrix (by decide)⟩

end Product

end YusVerif.FourRussians
