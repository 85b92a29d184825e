import YusCipher.Verif.SBox
import Mathlib.Data.Fintype.Prod

/-!
# The differential uniformity of the S-box

For an input difference `Δ = (δ₀, δ₁, δ₂)`, the output difference of the S-box is affine in
the input: its first word is `δ₀`, its second `x₀δ₂ + δ₀x₂ + δ₀δ₂ + δ₁`. When `δ₀ ≠ 0` the
second word fixes `x₂` once `x₀` is known; when `δ₀ = 0` the two last words fix `x₀`, since
`(δ₁, δ₂) ≠ 0`. Either way at most `p²` inputs share an output difference, and the difference
`(0, 0, 1)` reaches `(0, 0, 1)` from the `p²` inputs with `x₀ = 0`. So the maximum is `p²`,
the constant `differential_uniformity` returns. The count is over the code's `apply`, given the
canonical residues of a point of `F_p^3` and read back in `ZMod p`.
-/

open Yus YusVerif.Field YusVerif.SBoxAlgebra

namespace YusVerif.Differential

section Count

variable {p : ℕ} [NeZero p]

/-- The canonical residues of a point of `F_p^3`: the input the code is given for it. -/
def residues (x : ZMod p × ZMod p × ZMod p) : List Int :=
  [(x.1.val : Int), x.2.1.val, x.2.2.val]

/-- A result of `SBox::apply` read in `F_p^3`; a rejected input reads as zero. -/
def readTriple : Except Exception (List Int) → ZMod p × ZMod p × ZMod p
  | .ok [a, b, c] => ((a : ZMod p), (b : ZMod p), (c : ZMod p))
  | _ => 0

/-- `SBox::apply` on `F_p^3`. -/
def applyField (sbox : SBox) (x : ZMod p × ZMod p × ZMod p) : ZMod p × ZMod p × ZMod p :=
  readTriple (sbox.apply (residues x))

/-- The number of inputs `x` with `apply(x + Δ) − apply(x) = Γ`. -/
def differentialCount (sbox : SBox) (Δ Γ : ZMod p × ZMod p × ZMod p) : ℕ :=
  (Finset.univ.filter fun x => applyField sbox (x + Δ) - applyField sbox x = Γ).card

/-- On `F_p^3`, the code's S-box over `p` is `sboxMap`. -/
theorem applyField_eq (sbox : SBox) (hsp : sbox.p = p) (x : ZMod p × ZMod p × ZMod p) :
    applyField sbox x = sboxMap x := by
  simp only [applyField, residues, SBox.apply, SBox.transform, readTriple, hsp, intCast_mod]
  simp [sboxMap]

end Count

/-- The output difference of `sboxMap` is affine in the input. -/
theorem sboxMap_sub {p : ℕ} (x Δ : ZMod p × ZMod p × ZMod p) :
    sboxMap (x + Δ) - sboxMap x =
      (Δ.1, x.1 * Δ.2.2 + Δ.1 * x.2.2 + Δ.1 * Δ.2.2 + Δ.2.1,
        -x.1 * Δ.2.1 - Δ.1 * x.2.1 - Δ.1 * Δ.2.1 + x.1 * Δ.2.2 + Δ.1 * x.2.2 + Δ.1 * Δ.2.2 +
          Δ.2.2) := by
  simp only [sboxMap, Prod.fst_add, Prod.snd_add, Prod.mk_sub_mk, Prod.mk.injEq]
  refine ⟨by ring, by ring, by ring⟩

section Bounds

variable {p : ℕ} [Fact p.Prime]

/-- Two inputs with the same output difference under `Δ ≠ 0` agree on `x₁, x₂` when `δ₀ = 0`,
and on `x₀, x₁` otherwise, only if they are equal. -/
theorem eq_of_sub_eq {Δ x y : ZMod p × ZMod p × ZMod p} (hΔ : Δ ≠ 0)
    (hxy : sboxMap (x + Δ) - sboxMap x = sboxMap (y + Δ) - sboxMap y)
    (hkey : (if Δ.1 = 0 then (x.2.1, x.2.2) else (x.1, x.2.1)) =
      if Δ.1 = 0 then (y.2.1, y.2.2) else (y.1, y.2.1)) : x = y := by
  obtain ⟨x0, x1, x2⟩ := x
  obtain ⟨y0, y1, y2⟩ := y
  obtain ⟨d0, d1, d2⟩ := Δ
  simp only [sboxMap_sub, Prod.mk.injEq] at hxy hkey ⊢
  obtain ⟨-, h1, h2⟩ := hxy
  split_ifs at hkey with hd0
  · obtain ⟨rfl, rfl⟩ := hkey
    subst hd0
    have hx2 : (x0 - y0) * d2 = 0 := by linear_combination h1
    have hx1 : (x0 - y0) * d1 = 0 := by linear_combination h1 - h2
    refine ⟨sub_eq_zero.mp (by_contra fun hne => hΔ ?_), rfl, rfl⟩
    simp [(mul_eq_zero.mp hx1).resolve_left hne, (mul_eq_zero.mp hx2).resolve_left hne]
  · obtain ⟨rfl, rfl⟩ := hkey
    have hx2 : d0 * (x2 - y2) = 0 := by linear_combination h1
    exact ⟨rfl, rfl, sub_eq_zero.mp ((mul_eq_zero.mp hx2).resolve_left hd0)⟩

/-- Under a non-zero input difference at most `p²` inputs share an output difference. -/
theorem card_sub_eq_le {Δ : ZMod p × ZMod p × ZMod p} (hΔ : Δ ≠ 0)
    (Γ : ZMod p × ZMod p × ZMod p) :
    (Finset.univ.filter fun x => sboxMap (x + Δ) - sboxMap x = Γ).card ≤ p ^ 2 := by
  calc (Finset.univ.filter fun x => sboxMap (x + Δ) - sboxMap x = Γ).card
      ≤ (Finset.univ : Finset (ZMod p × ZMod p)).card :=
        Finset.card_le_card_of_injOn
          (fun x => if Δ.1 = 0 then (x.2.1, x.2.2) else (x.1, x.2.1))
          (fun _ _ => Finset.mem_univ _) fun x hx y hy hkey => by
            simp only [Finset.coe_filter, Finset.mem_univ, true_and, Set.mem_setOf_eq] at hx hy
            exact eq_of_sub_eq hΔ (hx.trans hy.symm) hkey
    _ = p ^ 2 := by simp [sq]

/-- Under the difference `(0, 0, 1)` the output difference is `(0, x₀, x₀ + 1)`. -/
theorem sboxMap_sub_unit (x : ZMod p × ZMod p × ZMod p) :
    sboxMap (x + (0, 0, 1)) - sboxMap x = (0, x.1, x.1 + 1) := by
  rw [sboxMap_sub]
  simp only [Prod.mk.injEq, true_and]
  constructor <;> ring

/-- The difference `(0, 0, 1)` reaches `(0, 0, 1)` from exactly the `p²` inputs with
`x₀ = 0`. -/
theorem card_sub_eq_unit :
    (Finset.univ.filter fun x : ZMod p × ZMod p × ZMod p =>
      sboxMap (x + (0, 0, 1)) - sboxMap x = (0, 0, 1)).card = p ^ 2 := by
  have hset : (Finset.univ.filter fun x : ZMod p × ZMod p × ZMod p =>
      sboxMap (x + (0, 0, 1)) - sboxMap x = (0, 0, 1)) =
        ({0} : Finset (ZMod p)) ×ˢ Finset.univ := by
    ext ⟨x0, x1, x2⟩
    simp only [Finset.mem_filter, Finset.mem_univ, true_and, Finset.mem_product,
      Finset.mem_singleton, and_true, sboxMap_sub_unit, Prod.mk.injEq]
    constructor
    · exact fun h => h.1
    · rintro rfl
      simp
  rw [hset, Finset.card_product, Finset.card_singleton, Finset.card_univ, Fintype.card_prod,
    ZMod.card, one_mul, sq]

end Bounds

/-- For a prime `p`, `differential_uniformity` returns `p²`, the maximum over non-zero input
and output differences of the number of inputs of `SBox::apply` on `F_p^3` with that output
difference. -/
theorem differentialUniformity_eq_max {p : ℕ} [Fact p.Prime] (sbox : SBox) (hsp : sbox.p = p) :
    sbox.differentialUniformity = (p : Int) ^ 2 ∧
    (∀ Δ Γ : ZMod p × ZMod p × ZMod p, Δ ≠ 0 → Γ ≠ 0 → differentialCount sbox Δ Γ ≤ p ^ 2) ∧
    ∃ Δ Γ : ZMod p × ZMod p × ZMod p, Δ ≠ 0 ∧ Γ ≠ 0 ∧ differentialCount sbox Δ Γ = p ^ 2 := by
  have hfield : applyField sbox = sboxMap := funext (applyField_eq sbox hsp)
  have hunit : ((0, 0, 1) : ZMod p × ZMod p × ZMod p) ≠ 0 := fun h => by
    simpa using congrArg (fun x => x.2.2) h
  refine ⟨by rw [SBox.differentialUniformity, hsp, sq], fun Δ Γ hΔ _ => ?_,
    ⟨(0, 0, 1), (0, 0, 1), hunit, hunit, ?_⟩⟩
  · rw [differentialCount, hfield]
    exact card_sub_eq_le hΔ Γ
  · rw [differentialCount, hfield]
    exact card_sub_eq_unit

/-- The S-box over the prime 65537. -/
theorem differentialUniformity_eq_max_65537 :
    Nat.Prime 65537 ∧ (⟨65537, rfl⟩ : SBox).p = (65537 : ℕ) ∧
    ((⟨65537, rfl⟩ : SBox).differentialUniformity = ((65537 : ℕ) : Int) ^ 2 ∧
    (∀ Δ Γ : ZMod 65537 × ZMod 65537 × ZMod 65537, Δ ≠ 0 → Γ ≠ 0 →
      differentialCount ⟨65537, rfl⟩ Δ Γ ≤ 65537 ^ 2) ∧
    ∃ Δ Γ : ZMod 65537 × ZMod 65537 × ZMod 65537, Δ ≠ 0 ∧ Γ ≠ 0 ∧
      differentialCount ⟨65537, rfl⟩ Δ Γ = 65537 ^ 2) :=
  haveI : Fact (Nat.Prime 65537) := ⟨by norm_num⟩
  ⟨Fact.out, rfl, differentialUniformity_eq_max ⟨65537, rfl⟩ rfl⟩

end YusVerif.Differential
