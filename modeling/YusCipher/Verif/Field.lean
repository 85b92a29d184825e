import YusCipher.Model.Utils
import Mathlib.Data.ZMod.Basic
import Mathlib.Data.Set.Function

/-!
# Residues, field vectors and their reading in `ZMod p`

`mod a p` is the Euclidean residue `a % p` for every integer `a` of either sign once `p` is
positive: GMP's truncating remainder lies strictly between `-p` and `p`, and the correction
adds `p` exactly when it is negative. A field vector of length `n` over `p` is a list of `n`
integers in `[0, p)`, the code's representation of `F_p^n`; reading its words in `ZMod p` is
a bijection onto `Fin n → ZMod p`. A list function that is a bijection of `Fin n → ZMod p`
read through that bijection permutes the field vectors, which is how every permutation
result of the cipher reaches its list-level functions.
-/

open Yus

namespace YusVerif.Field

/-- The truncating remainder by a positive modulus is above `-p`. -/
theorem tmod_gt_neg (a : Int) {p : Int} (hp : 0 < p) : -p < a.tmod p := by
  obtain ⟨n, rfl⟩ := Int.eq_ofNat_of_zero_le hp.le
  cases a with
  | ofNat m => exact lt_of_lt_of_le (by omega) (Int.tmod_nonneg _ (Int.ofNat_nonneg m))
  | negSucc m =>
    have hm : (m + 1) % n < n := Nat.mod_lt _ (by omega)
    show -(n : Int) < -(((m + 1) % n : Nat) : Int)
    omega

/-- `mod` is the Euclidean residue for every integer of either sign. -/
theorem mod_eq_emod (a : Int) {p : Int} (hp : 0 < p) : mod a p = a % p := by
  have hsplit : a % p = a.tmod p % p := by
    conv_lhs => rw [← Int.tmod_add_tdiv a p]
    exact Int.add_mul_emod_self_left _ _ _
  have hlt := Int.tmod_lt_of_pos a hp
  have hgt := tmod_gt_neg a hp
  rw [hsplit, mod]
  split
  · rw [← Int.add_emod_self, Int.emod_eq_of_lt (by omega) (by omega)]
  · rw [Int.emod_eq_of_lt (by omega) hlt]

/-- `mod` lands in `[0, p)`. -/
theorem mod_mem (a : Int) {p : Int} (hp : 0 < p) : 0 ≤ mod a p ∧ mod a p < p := by
  rw [mod_eq_emod a hp]
  exact ⟨Int.emod_nonneg a hp.ne', Int.emod_lt_of_pos a hp⟩

/-- Congruent integers have the same `mod`. -/
theorem mod_congr {a b p : Int} (hp : 0 < p) (h : a ≡ b [ZMOD p]) : mod a p = mod b p := by
  rw [mod_eq_emod a hp, mod_eq_emod b hp]
  exact h

/-- `mod(a, p)` is the one residue of `a` in `[0, p)`, for every integer `a` of either sign. -/
theorem mod_spec (a : Int) {p : Int} (hp : 0 < p) :
    0 ≤ mod a p ∧ mod a p < p ∧ mod a p ≡ a [ZMOD p] ∧
      ∀ r, 0 ≤ r → r < p → r ≡ a [ZMOD p] → r = mod a p := by
  rw [mod_eq_emod a hp]
  refine ⟨Int.emod_nonneg a hp.ne', Int.emod_lt_of_pos a hp, Int.mod_modEq a p,
    fun r h0 h1 hr => ?_⟩
  rw [← hr, Int.emod_eq_of_lt h0 h1]

/-- A negative integer over 5. -/
theorem mod_spec_neg : (0 : Int) < 5 ∧ (0 ≤ mod (-7) 5 ∧ mod (-7) 5 < 5 ∧
    mod (-7) 5 ≡ -7 [ZMOD 5] ∧
      ∀ r, 0 ≤ r → r < 5 → r ≡ -7 [ZMOD 5] → r = mod (-7) 5) :=
  ⟨by decide, mod_spec (-7) (by decide)⟩

/-- `is_p_2mod3` on a non-negative modulus is the congruence `p ≡ 2 (mod 3)`. -/
theorem isP2mod3_iff {p : Int} (hp : 0 ≤ p) : isP2mod3 p = true ↔ p % 3 = 2 := by
  rw [isP2mod3, Int.tmod_eq_emod hp (by decide)]
  simp

/-- A modulus `p ≡ 2 (mod 3)` in the truncating sense is positive. -/
theorem pos_of_isP2mod3 {p : Int} (h : isP2mod3 p = true) : 0 < p := by
  by_contra hn
  have hle : p ≤ 0 := by omega
  have hr : p.tmod 3 ≤ 0 := by
    have := Int.tmod_nonneg 3 (by omega : 0 ≤ -p)
    rw [show (-p).tmod 3 = -p.tmod 3 from ?_] at this
    · omega
    · rw [Int.tmod_def, Int.tmod_def, Int.neg_tdiv]
      ring
  simp only [isP2mod3, beq_iff_eq] at h
  omega

/-- The code's representation of `F_p^n`: `n` integers in `[0, p)`. -/
def FieldVec (p : Int) (n : Nat) : Set (List Int) :=
  {v | v.length = n ∧ ∀ x ∈ v, 0 ≤ x ∧ x < p}

section Bridge

variable {p : ℕ} [NeZero p] {n : Nat}

/-- Reading a list's first `n` words in `ZMod p`. -/
def toZMod (p n : ℕ) (v : List Int) : Fin n → ZMod p := fun i => (v.getD i 0 : ZMod p)

/-- Writing a vector of `ZMod p` as its canonical residues. -/
def ofZMod (x : Fin n → ZMod p) : List Int := List.ofFn fun i => ((x i).val : Int)

/-- `mod` is invisible in `ZMod p`. -/
@[simp] theorem intCast_mod (a : Int) : ((mod a p : Int) : ZMod p) = (a : ZMod p) := by
  rw [mod_eq_emod a (by exact_mod_cast Nat.pos_of_ne_zero (NeZero.ne p)), ZMod.intCast_mod]

/-- `mod` is the canonical residue of the integer's image in `ZMod p`. -/
theorem mod_eq_val (a : Int) : mod a p = ((a : ZMod p).val : Int) := by
  rw [ZMod.val_intCast, mod_eq_emod a (by exact_mod_cast Nat.pos_of_ne_zero (NeZero.ne p))]

/-- Canonical residues form a field vector. -/
theorem ofZMod_mem (x : Fin n → ZMod p) : ofZMod x ∈ FieldVec p n := by
  refine ⟨List.length_ofFn _, fun y hy => ?_⟩
  obtain ⟨i, rfl⟩ := List.mem_ofFn _ _ |>.mp hy
  exact ⟨Int.ofNat_nonneg _, Int.ofNat_lt.mpr (ZMod.val_lt (x i))⟩

/-- Reading canonical residues back gives the vector. -/
@[simp] theorem toZMod_ofZMod (x : Fin n → ZMod p) : toZMod p n (ofZMod x) = x := by
  funext i
  simp [toZMod, ofZMod, List.getD_eq_getElem?_getD]

/-- Word `j` of the residues of a vector. -/
theorem getElem?_ofZMod (x : Fin n → ZMod p) (j : ℕ) :
    (ofZMod x)[j]? = if h : j < n then some ((x ⟨j, h⟩).val : Int) else none := by
  split
  · rw [List.getElem?_eq_getElem (by simpa [ofZMod])]
    simp [ofZMod]
  · exact List.getElem?_eq_none (by simp [ofZMod]; omega)

/-- A loop that stores `mod (f k) p` at every index writes the residues of `f`. -/
theorem map_range_mod (f : ℕ → Int) :
    (List.range n).map (fun k => mod (f k) p) = ofZMod fun i : Fin n => (f i : ZMod p) := by
  apply List.ext_getElem (by simp [ofZMod])
  intro i _ _
  simp [ofZMod, mod_eq_val]

/-- Reading a field vector and writing it back gives the list. -/
theorem ofZMod_toZMod {v : List Int} (hv : v ∈ FieldVec p n) : ofZMod (toZMod p n v) = v := by
  obtain ⟨hlen, hrange⟩ := hv
  apply List.ext_getElem (by simp [ofZMod, hlen])
  intro i hi hi'
  have hx := hrange v[i] (List.getElem_mem hi')
  have hval := ZMod.val_intCast (n := p) v[i]
  simp only [ofZMod, List.getElem_ofFn, toZMod, List.getD_eq_getElem?_getD,
    List.getElem?_eq_getElem hi', Option.getD_some]
  rw [hval, Int.emod_eq_of_lt hx.1 hx.2]

/-- A list function that is a bijection of `Fin n → ZMod p` read through the residues
permutes the field vectors. -/
theorem bijOn_of_conj {f : List Int → List Int} {F : (Fin n → ZMod p) → Fin n → ZMod p}
    (hF : Function.Bijective F) (hf : ∀ v ∈ FieldVec p n, f v = ofZMod (F (toZMod p n v))) :
    Set.BijOn f (FieldVec p n) (FieldVec p n) := by
  refine ⟨fun v hv => hf v hv ▸ ofZMod_mem _, fun v hv w hw hvw => ?_, fun y hy => ?_⟩
  · have hread := congrArg (toZMod p n) ((hf v hv).symm.trans (hvw.trans (hf w hw)))
    simp only [toZMod_ofZMod] at hread
    rw [← ofZMod_toZMod hv, ← ofZMod_toZMod hw, hF.injective hread]
  · obtain ⟨x, hx⟩ := hF.surjective (toZMod p n y)
    refine ⟨ofZMod x, ofZMod_mem x, ?_⟩
    rw [hf _ (ofZMod_mem x), toZMod_ofZMod, hx, ofZMod_toZMod hy]

end Bridge

/-- A permutation of a set followed by an injective wrapper is a bijection onto the wrapped
set; this carries permutations to the `Except` and `Option` results of the code. -/
theorem bijOn_wrap {β : Type} {w : List Int → β} (hw : Function.Injective w)
    {f : List Int → β} {g : List Int → List Int} {S : Set (List Int)} (hg : Set.BijOn g S S)
    (hfg : ∀ v ∈ S, f v = w (g v)) : Set.BijOn f S (w '' S) :=
  ((hw.injOn.bijOn_image).comp hg).congr fun v hv => (hfg v hv).symm

/-- An index of a list mapped over a range reads the map at that index. -/
theorem getD_map_range {β : Type} (f : Nat → β) {n i : Nat} (h : i < n) (d : β) :
    ((List.range n).map f).getD i d = f i := by
  simp [List.getD_eq_getElem?_getD, List.getElem?_range h]

end YusVerif.Field
