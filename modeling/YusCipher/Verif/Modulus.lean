import YusCipher.Verif.Keystream
import Mathlib.Tactic.LinearCombination

/-!
# What `is_permutation` decides, and the moduli no constructor rejects

Up to 1000, `SBox::is_permutation` inserts the images of the `p³` input triples into a set and
fails at the first repeat: it returns true exactly when the S-box is injective on residue
triples, whatever `p`. Above 1000 it tests `(1 + p + p²) mod p ≠ 0`, which is one, so it returns
true for every modulus. The constructors check `p ≡ 2 (mod 3)` and, for the cipher,
`p ≥ 2^16`, but not that `p` is prime. For a modulus with a prime factor `q ≡ 1 (mod 3)`,
`a² + a + 1` has a root `a` modulo `q`, so for the first word `a` the S-box's linear map on
the other two words has a determinant divisible by `q` and sends `(−a·p/q, p/q)` to zero: the
cipher is built, `is_permutation` returns true, and the S-box is not injective.
-/

open Yus Yus.SBox YusVerif.Field YusVerif.SBox YusVerif.LayerData

namespace YusVerif.Modulus

section Exhaustive

/-- The set-insertion loop runs to the end iff the images are distinct from each other and
from those already collected. -/
theorem collectOutputs_ne_none_iff (sbox : SBox) : ∀ (inputs : List (Int × Int × Int))
    (outputs : List (List Int)), sbox.collectOutputs inputs outputs ≠ none ↔
      (inputs.map fun x => sbox.transform x.1 x.2.1 x.2.2).Nodup ∧
        ∀ x ∈ inputs, sbox.transform x.1 x.2.1 x.2.2 ∉ outputs
  | [], outputs => by simp [collectOutputs]
  | (a, b, c) :: rest, outputs => by
    rw [collectOutputs]
    by_cases hmem : sbox.transform a b c ∈ outputs
    · simp [hmem]
    · rw [if_neg hmem, collectOutputs_ne_none_iff sbox rest, List.map_cons, List.nodup_cons,
        List.forall_mem_cons]
      constructor
      · rintro ⟨hnodup, hfresh⟩
        refine ⟨⟨fun hin => ?_, hnodup⟩, hmem,
          fun x hx h => hfresh x hx (List.mem_cons_of_mem _ h)⟩
        obtain ⟨x, hx, hxe⟩ := List.mem_map.mp hin
        exact hfresh x hx (hxe ▸ List.mem_cons_self _ _)
      · rintro ⟨⟨hnew, hnodup⟩, -, hfresh⟩
        refine ⟨hnodup, fun x hx h => ?_⟩
        rcases List.mem_cons.mp h with h | h
        · exact hnew (List.mem_map.mpr ⟨x, hx, h⟩)
        · exact hfresh x hx h

/-- The loop range of `is_permutation` is the integers in `[0, p)`. -/
theorem mem_range_cast {p a : Int} :
    a ∈ (List.range p.toNat).map (fun x : ℕ => (x : Int)) ↔ 0 ≤ a ∧ a < p := by
  simp only [List.mem_map, List.mem_range]
  constructor
  · rintro ⟨n, hn, rfl⟩
    omega
  · intro h
    exact ⟨a.toNat, by omega, by omega⟩

/-- A triple is a vector of `F_p^3` iff each of its words is a residue. -/
theorem mem_fieldVec_three {p a b c : Int} :
    [a, b, c] ∈ FieldVec p 3 ↔ (0 ≤ a ∧ a < p) ∧ (0 ≤ b ∧ b < p) ∧ (0 ≤ c ∧ c < p) := by
  simp only [FieldVec, Set.mem_setOf_eq, List.length_cons, List.length_nil, List.mem_cons,
    List.mem_singleton, List.not_mem_nil, or_false, forall_eq_or_imp, forall_eq, true_and]

/-- The inputs of the exhaustive test are the residue triples. -/
theorem mem_triples {p a b c : Int} :
    (a, b, c) ∈ triples p ↔ [a, b, c] ∈ FieldVec p 3 := by
  simp only [triples, List.pair_mem_product, mem_range_cast, mem_fieldVec_three]

/-- The images of the inputs are distinct iff `apply` is injective on residue triples. -/
theorem nodup_iff_injOn (sbox : SBox) :
    ((triples sbox.p).map fun x => sbox.transform x.1 x.2.1 x.2.2).Nodup ↔
      Set.InjOn sbox.apply (FieldVec sbox.p 3) := by
  constructor
  · intro hnodup v hv w hw hvw
    match v, w, hv.1, hw.1 with
    | [a, b, c], [a', b', c'], _, _ =>
      have h := List.inj_on_of_nodup_map hnodup (mem_triples.mpr hv) (mem_triples.mpr hw)
        (Except.ok.inj hvw)
      simp only [Prod.mk.injEq] at h
      rw [h.1, h.2.1, h.2.2]
  · intro hinj
    refine (triples_spec sbox.p).1.map_on fun x hx y hy hxy => ?_
    have h := hinj ((triples_spec sbox.p).2 x hx) ((triples_spec sbox.p).2 y hy)
      (congrArg Except.ok hxy)
    simp only [List.cons.injEq, and_true] at h
    exact Prod.ext h.1 (Prod.ext h.2.1 h.2.2)

/-- For every modulus up to 1000, prime or not, `is_permutation` returns true iff `apply` is
injective on the residue triples. -/
theorem isPermutation_iff_injOn (sbox : SBox) (hp : sbox.p ≤ 1000) :
    sbox.isPermutation = true ↔ Set.InjOn sbox.apply (FieldVec sbox.p 3) := by
  rw [← nodup_iff_injOn, isPermutation, if_neg (by omega)]
  have hiff := collectOutputs_ne_none_iff sbox (triples sbox.p) []
  simp only [List.not_mem_nil, not_false_eq_true, implies_true, and_true] at hiff
  split
  · rename_i h
    simpa [h] using hiff
  · rename_i outputs h
    have hnodup := hiff.mp (by simp [h])
    rw [collectOutputs_eq sbox _ [] hnodup (by simp)] at h
    cases h
    obtain ⟨n, hn⟩ := Int.eq_ofNat_of_zero_le (pos_of_isP2mod3 sbox.p_2mod3).le
    simp only [List.length_append, List.length_reverse, List.length_map, List.length_nil,
      add_zero, beq_iff_eq, hnodup, iff_true]
    rw [hn, length_triples]
    push_cast
    ring

end Exhaustive

section Composite

/-- Modulo a prime `q ≡ 1 (mod 3)`, `a² + a + 1` has a root: a unit of order three. -/
theorem exists_root_of_mod_three_eq_one {q : ℕ} [Fact q.Prime] (hq3 : q % 3 = 1) :
    ∃ a : ZMod q, a ^ 2 + a + 1 = 0 := by
  haveI : Fact (Nat.Prime 3) := ⟨Nat.prime_three⟩
  obtain ⟨g, hg⟩ := exists_prime_orderOf_dvd_card (G := (ZMod q)ˣ) 3
    (by rw [ZMod.card_units]; omega)
  have hcube : (g : ZMod q) ^ 3 = 1 := by
    rw [← Units.val_pow_eq_pow_val, ← hg, pow_orderOf_eq_one, Units.val_one]
  have hne : (g : ZMod q) ≠ 1 := fun h => by
    rw [Units.ext (h.trans Units.val_one.symm), orderOf_one] at hg
    omega
  have hfactor : ((g : ZMod q) - 1) * ((g : ZMod q) ^ 2 + g + 1) = 0 := by
    linear_combination hcube
  exact ⟨g, (mul_eq_zero.mp hfactor).resolve_left (sub_ne_zero.mpr hne)⟩

/-- Over a modulus with a prime factor `q ≡ 1 (mod 3)`, `apply` sends `(a, −a·p/q mod p, p/q)`
and `(a, 0, 0)` to one image, for a root `a` of `a² + a + 1` modulo `q`. -/
theorem not_injOn_of_prime_dvd (sbox : SBox) {p : ℕ} (hsp : sbox.p = p) {q : ℕ} (hq : q.Prime)
    (hqp : q ∣ p) (hq3 : q % 3 = 1) : ¬ Set.InjOn sbox.apply (FieldVec p 3) := by
  haveI := Fact.mk hq
  have hp0 : (0 : Int) < p := hsp ▸ pos_of_isP2mod3 sbox.p_2mod3
  obtain ⟨a, ha⟩ := exists_root_of_mod_three_eq_one hq3
  obtain ⟨t, ht⟩ := hqp
  have hq2 := hq.two_le
  have ht0 : 0 < t := Nat.pos_of_mul_pos_left (ht ▸ (by exact_mod_cast hp0 : 0 < p))
  have htp : t < p := by rw [ht]; nlinarith
  have haq : a.val < p := lt_of_lt_of_le (ZMod.val_lt a) (Nat.le_of_dvd (by omega) ⟨t, ht⟩)
  obtain ⟨k, hk⟩ : (q : Int) ∣ (a.val : Int) ^ 2 + a.val + 1 := by
    rw [← ZMod.intCast_zmod_eq_zero_iff_dvd]
    push_cast
    rwa [ZMod.natCast_zmod_val]
  have hzero : (q : ZMod p) * t = 0 := by rw [← Nat.cast_mul, ← ht, ZMod.natCast_self]
  have hword1 : ((a.val * t + (-((a.val : Int) * t)) % p : Int) : ZMod p) =
      ((a.val * 0 + 0 : Int) : ZMod p) := by
    push_cast [ZMod.intCast_mod]
    ring
  have hword2 : ((-(a.val : Int) * ((-((a.val : Int) * t)) % p) + a.val * t + t : Int) :
      ZMod p) = ((-(a.val : Int) * 0 + a.val * 0 + 0 : Int) : ZMod p) := by
    have hkz := congrArg (Int.cast : Int → ZMod p) hk
    push_cast [ZMod.intCast_mod] at hkz ⊢
    linear_combination (t : ZMod p) * hkz + (k : ZMod p) * hzero
  intro hinj
  have haRes : 0 ≤ (a.val : Int) ∧ (a.val : Int) < p := ⟨by positivity, by exact_mod_cast haq⟩
  have hv : [(a.val : Int), (-((a.val : Int) * t)) % p, (t : Int)] ∈ FieldVec p 3 :=
    mem_fieldVec_three.mpr ⟨haRes, ⟨Int.emod_nonneg _ (by omega), Int.emod_lt_of_pos _ hp0⟩,
      by positivity, by exact_mod_cast htp⟩
  have hw : [(a.val : Int), 0, 0] ∈ FieldVec p 3 :=
    mem_fieldVec_three.mpr ⟨haRes, ⟨le_rfl, hp0⟩, le_rfl, hp0⟩
  have himage := hinj hv hw (by
    simp only [SBox.apply, SBox.transform, hsp]
    rw [mod_congr hp0 ((ZMod.intCast_eq_intCast_iff _ _ _).mp hword1),
      mod_congr hp0 ((ZMod.intCast_eq_intCast_iff _ _ _).mp hword2)])
  simp only [List.cons.injEq, and_true] at himage
  omega

/-- Above 1000, `is_permutation` returns true: `(1 + p + p²) mod p` is one. -/
theorem isPermutation_of_gt (sbox : SBox) (hp : 1000 < sbox.p) : sbox.isPermutation = true := by
  rw [isPermutation, if_pos hp, mod_eq_emod _ (by omega),
    show 1 + sbox.p + sbox.p * sbox.p = 1 + sbox.p * (1 + sbox.p) by ring,
    Int.add_mul_emod_self_left, Int.emod_eq_of_lt (by omega) (by omega)]
  decide

end Composite

end YusVerif.Modulus
