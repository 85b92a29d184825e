import YusCipher.Verif.Field
import Mathlib.FieldTheory.Finite.Basic
import Mathlib.Tactic.LinearCombination
import Mathlib.Tactic.FieldSimp

/-!
# The S-box over `ZMod p` and its inverse

For a fixed first word `a`, the S-box is linear in the other two words, with the matrix
`[[1, a], [-a, a + 1]]` of determinant `a² + a + 1`. A root of `a² + a + 1` is a cube root of
one other than one, whose order three divides `p - 1`; for `p ≡ 2 (mod 3)` there is none, so
the inverse solves the 2×2 system by Cramer's rule. A state of `3m` words is transformed block
by block, and a block map with a two-sided inverse gives a blockwise map with one.
-/

namespace YusVerif.SBoxAlgebra

/-- The S-box on a triple of `ZMod p`. -/
def sboxMap {p : ℕ} (x : ZMod p × ZMod p × ZMod p) : ZMod p × ZMod p × ZMod p :=
  (x.1, x.1 * x.2.2 + x.2.1, -x.1 * x.2.1 + x.1 * x.2.2 + x.2.2)

section Quadratic

variable {p : ℕ} [hp : Fact p.Prime]

/-- `a² + a + 1` has no root modulo a prime `p ≡ 2 (mod 3)`. -/
theorem sq_add_self_add_one_ne_zero (h3 : p % 3 = 2) (a : ZMod p) : a ^ 2 + a + 1 ≠ 0 := by
  intro h
  have ha : a ≠ 0 := by
    rintro rfl
    simp at h
  have hcube : a ^ 3 = 1 := by linear_combination (a - 1) * h
  have hfermat := ZMod.pow_card_sub_one_eq_one ha
  obtain ⟨k, hk⟩ : ∃ k, p - 1 = 3 * k + 1 := ⟨(p - 1) / 3, by omega⟩
  rw [hk, pow_succ, pow_mul, hcube, one_pow, one_mul] at hfermat
  have hthree : ((3 : ℕ) : ZMod p) = 0 := by
    rw [hfermat] at h
    push_cast
    linear_combination h
  rw [ZMod.natCast_zmod_eq_zero_iff_dvd] at hthree
  have := (Nat.prime_dvd_prime_iff_eq hp.out Nat.prime_three).mp hthree
  omega

/-- The inverse of `sboxMap`: the first word, then Cramer's rule for the other two. -/
def sboxInv (y : ZMod p × ZMod p × ZMod p) : ZMod p × ZMod p × ZMod p :=
  (y.1, ((y.1 + 1) * y.2.1 - y.1 * y.2.2) / (y.1 ^ 2 + y.1 + 1),
    (y.1 * y.2.1 + y.2.2) / (y.1 ^ 2 + y.1 + 1))

/-- `sboxInv` undoes `sboxMap`. -/
theorem sboxInv_sboxMap (h3 : p % 3 = 2) (x : ZMod p × ZMod p × ZMod p) :
    sboxInv (sboxMap x) = x := by
  obtain ⟨a, b, c⟩ := x
  have hd := sq_add_self_add_one_ne_zero h3 a
  simp only [sboxInv, sboxMap, Prod.mk.injEq, true_and]
  constructor <;> (rw [div_eq_iff hd]; ring)

/-- `sboxMap` undoes `sboxInv`. -/
theorem sboxMap_sboxInv (h3 : p % 3 = 2) (y : ZMod p × ZMod p × ZMod p) :
    sboxMap (sboxInv y) = y := by
  obtain ⟨a, b, c⟩ := y
  have hd := sq_add_self_add_one_ne_zero h3 a
  simp only [sboxInv, sboxMap, Prod.mk.injEq, true_and]
  constructor <;> (field_simp; ring)

end Quadratic

section Blockwise

variable {p : ℕ} {m : ℕ}

/-- Word `k` of a vector, zero past its end. -/
def word {n : ℕ} (v : Fin n → ZMod p) (k : ℕ) : ZMod p :=
  if h : k < n then v ⟨k, h⟩ else 0

/-- The triple of block `i`. -/
def triple {n : ℕ} (v : Fin n → ZMod p) (i : ℕ) : ZMod p × ZMod p × ZMod p :=
  (word v (3 * i), word v (3 * i + 1), word v (3 * i + 2))

/-- Word `t < 3` of a triple. -/
def component (t : ℕ) (y : ZMod p × ZMod p × ZMod p) : ZMod p :=
  if t = 0 then y.1 else if t = 1 then y.2.1 else y.2.2

/-- A block map applied to each of the `m` triples of a vector of `3m` words. -/
def blockwise (T : ZMod p × ZMod p × ZMod p → ZMod p × ZMod p × ZMod p)
    (v : Fin (3 * m) → ZMod p) : Fin (3 * m) → ZMod p :=
  fun j => component (j % 3) (T (triple v (j / 3)))

/-- Reading a triple of a blockwise image is applying the block map to the triple. -/
theorem triple_blockwise (T : ZMod p × ZMod p × ZMod p → ZMod p × ZMod p × ZMod p)
    (v : Fin (3 * m) → ZMod p) {i : ℕ} (hi : i < m) :
    triple (blockwise T v) i = T (triple v i) := by
  have h0 : (3 * i) / 3 = i := by omega
  have h1 : (3 * i + 1) / 3 = i := by omega
  have h2 : (3 * i + 2) / 3 = i := by omega
  have r1 : (3 * i + 1) % 3 = 1 := by omega
  have r2 : (3 * i + 2) % 3 = 2 := by omega
  simp only [triple, word, blockwise, component, dif_pos (by omega : 3 * i < 3 * m),
    dif_pos (by omega : 3 * i + 1 < 3 * m), dif_pos (by omega : 3 * i + 2 < 3 * m), h0, h1, h2,
    r1, r2, Nat.mul_mod_right, if_true, if_false, one_ne_zero, OfNat.ofNat_ne_zero,
    OfNat.ofNat_ne_one]

/-- Blockwise maps compose blockwise. -/
theorem blockwise_blockwise (T U : ZMod p × ZMod p × ZMod p → ZMod p × ZMod p × ZMod p)
    (v : Fin (3 * m) → ZMod p) : blockwise U (blockwise T v) = blockwise (U ∘ T) v := by
  funext j
  simp only [blockwise, triple_blockwise T v (by omega : j.val / 3 < m), Function.comp]

/-- The blockwise identity is the identity. -/
theorem blockwise_id (v : Fin (3 * m) → ZMod p) : blockwise id v = v := by
  funext j
  have hj := j.isLt
  simp only [blockwise, id, triple, component, word]
  split_ifs <;> first
    | (congr 1; ext; simp only; omega)
    | omega

/-- A block map with a two-sided inverse gives a bijective blockwise map. -/
theorem blockwise_bijective {T U : ZMod p × ZMod p × ZMod p → ZMod p × ZMod p × ZMod p}
    (hl : ∀ x, U (T x) = x) (hr : ∀ y, T (U y) = y) :
    Function.Bijective (blockwise (m := m) T) := by
  refine Function.bijective_iff_has_inverse.mpr ⟨blockwise U, fun v => ?_, fun v => ?_⟩
  · rw [blockwise_blockwise, show U ∘ T = id from funext hl, blockwise_id]
  · rw [blockwise_blockwise, show T ∘ U = id from funext hr, blockwise_id]

end Blockwise

end YusVerif.SBoxAlgebra
