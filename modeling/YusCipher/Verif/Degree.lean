import YusCipher.Verif.Process
import Mathlib.Algebra.MvPolynomial.CommRing

/-!
# Every keystream word is a polynomial of low degree in the key

The cipher is meant to be evaluated under homomorphic encryption, where what costs is the
multiplicative depth. Read in `F_p`, the S-box layer has degree two, the linear layer and the
counter are linear, and the key enters only through the round keys `K ⊙ rc(r, j)`, whose
constants come from the nonce and the XOF and not from the key. So the words of every block,
after the whitening, `R` rounds and the last linear layer, are polynomials of total degree at
most `2^R` in the 36 key words: 32 at 80 bits and 64 at 128 bits. The proof follows the layers:
a closure lemma per layer for key-dependent states whose words are such polynomials, and the
round loop by induction.
-/

open Yus Yus.YuSCipher Yus.RoundKeyGenerator YusVerif.Field YusVerif.LinearLayer YusVerif.SBox
  YusVerif.SBoxAlgebra YusVerif.Keystream YusVerif.Process MvPolynomial

namespace YusVerif.Degree

section Polynomials

variable {p : ℕ} {d e : ℕ} {g h : List Int → ZMod p}

/-- A function of the key computed, from the key's residues, by a polynomial of total degree at
most `d` in its 36 words. -/
def IsPoly (d : ℕ) (g : List Int → ZMod p) : Prop :=
  ∃ P : MvPolynomial (Fin 36) (ZMod p), P.totalDegree ≤ d ∧
    ∀ key, eval (toZMod p 36 key) P = g key

/-- A degree bound may be raised. -/
theorem IsPoly.mono (hg : IsPoly d g) (hde : d ≤ e) : IsPoly e g :=
  let ⟨P, hP, hev⟩ := hg
  ⟨P, hP.trans hde, hev⟩

/-- A value that does not depend on the key has degree zero. -/
theorem isPoly_const (a : ZMod p) : IsPoly 0 fun _ => a :=
  ⟨C a, (totalDegree_C a).le, fun _ => eval_C a⟩

/-- A key word has degree one. -/
theorem isPoly_key (i : Fin 36) : IsPoly 1 fun key => toZMod p 36 key i :=
  ⟨X i, (totalDegree_monomial_le _ _).trans (by simp), fun _ => eval_X _⟩

/-- A sum has the degree of its terms. -/
theorem IsPoly.add (hg : IsPoly d g) (hh : IsPoly d h) : IsPoly d fun key => g key + h key :=
  let ⟨P, hP, hevP⟩ := hg
  let ⟨Q, hQ, hevQ⟩ := hh
  ⟨P + Q, (totalDegree_add P Q).trans (max_le hP hQ), fun key => by simp [hevP, hevQ]⟩

/-- A product has the sum of the degrees of its factors. -/
theorem IsPoly.mul (hg : IsPoly d g) (hh : IsPoly e h) : IsPoly (d + e) fun key => g key * h key :=
  let ⟨P, hP, hevP⟩ := hg
  let ⟨Q, hQ, hevQ⟩ := hh
  ⟨P * Q, (totalDegree_mul P Q).trans (add_le_add hP hQ), fun key => by simp [hevP, hevQ]⟩

/-- A negation keeps the degree. -/
theorem IsPoly.neg (hg : IsPoly d g) : IsPoly d fun key => -g key :=
  let ⟨P, hP, hevP⟩ := hg
  ⟨-P, (totalDegree_neg P).le.trans hP, fun key => by simp [hevP]⟩

/-- A finite sum has the degree of its terms. -/
theorem isPoly_sum {ι : Type} (s : Finset ι) {g : ι → List Int → ZMod p}
    (hg : ∀ i ∈ s, IsPoly d (g i)) : IsPoly d fun key => ∑ i ∈ s, g i key := by
  classical
  induction s using Finset.induction_on with
  | empty => simpa using (isPoly_const (0 : ZMod p)).mono (Nat.zero_le d)
  | insert hi ih =>
    simp only [Finset.sum_insert hi]
    exact (hg _ (Finset.mem_insert_self _ _)).add
      (ih fun i hmem => hg i (Finset.mem_insert_of_mem hmem))

end Polynomials

section States

variable {p : ℕ} {d : ℕ}

/-- A key-dependent state of `F_p^36` whose every word is a polynomial of degree at most `d` in
the key. -/
def HasDegree (d : ℕ) (s : List Int → Fin 36 → ZMod p) : Prop :=
  ∀ i, IsPoly d fun key => s key i

/-- A matrix that does not depend on the key keeps the degree. -/
theorem HasDegree.mulVec {s : List Int → Fin 36 → ZMod p}
    (A : Matrix (Fin 36) (Fin 36) (ZMod p))
    (hs : HasDegree d s) : HasDegree d fun key => A.mulVec (s key) := fun i => by
  show IsPoly d fun key => ∑ k, A i k * s key k
  exact isPoly_sum Finset.univ fun k _ => by
    simpa only [zero_add] using (isPoly_const (A i k)).mul (hs k)

/-- Each word of such a state, zero past its end, has its degree. -/
theorem HasDegree.isPoly_word {s : List Int → Fin 36 → ZMod p} (hs : HasDegree d s) (k : ℕ) :
    IsPoly d fun key => word (s key) k := by
  unfold SBoxAlgebra.word
  by_cases hk : k < 36
  · simpa [hk] using hs ⟨k, hk⟩
  · simpa [hk] using (isPoly_const (0 : ZMod p)).mono (Nat.zero_le d)

/-- The twelve S-boxes double the degree. -/
theorem HasDegree.blockwise {s : List Int → Fin 36 → ZMod p} (hs : HasDegree d s) :
    HasDegree (2 * d) fun key => blockwise (m := 12) sboxMap (s key) := by
  intro i
  have ha := hs.isPoly_word (3 * (i / 3))
  have hb := hs.isPoly_word (3 * (i / 3) + 1)
  have hc := hs.isPoly_word (3 * (i / 3) + 2)
  have hd2 : d ≤ 2 * d := by omega
  simp only [SBoxAlgebra.blockwise, component, sboxMap, triple]
  split_ifs
  · exact ha.mono hd2
  · exact (two_mul d ▸ ha.mul hc).add (hb.mono hd2)
  · exact ((two_mul d ▸ ha.neg.mul hb).add (two_mul d ▸ ha.mul hc)).add (hc.mono hd2)

/-- Adding the round key `K ⊙ rc` keeps a degree of at least one. -/
theorem HasDegree.addKey {s : List Int → Fin 36 → ZMod p} (hs : HasDegree d s) (hd : 1 ≤ d)
    (rc : Fin 36 → ZMod p) : HasDegree d fun key => s key + toZMod p 36 key * rc := fun i => by
  simpa using (hs i).add (((isPoly_key i).mul (isPoly_const (rc i))).mono (by omega))

end States

section Bridge

variable {p : ℕ} [NeZero p]

/-- `add_round_key` read in `F_p` is the sum. -/
theorem toZMod_addRoundKeyValues (state roundKey : List Int) :
    toZMod p 36 (addRoundKeyValues state roundKey p) =
      toZMod p 36 state + toZMod p 36 roundKey := by
  rw [addRoundKeyValues, map_range_mod, toZMod_ofZMod]
  funext i
  simp [toZMod]

/-- `generate_round_key` read in `F_p` is the word-wise product. -/
theorem toZMod_roundKeyValues (masterKey roundConstant : List Int) :
    toZMod p 36 (roundKeyValues masterKey roundConstant p) =
      toZMod p 36 masterKey * toZMod p 36 roundConstant := by
  rw [roundKeyValues, map_range_mod, toZMod_ofZMod]
  funext i
  simp [toZMod]

/-- The linear layer read in `F_p` is its coefficient matrix. -/
theorem toZMod_rows (ll : LinearLayer) (state : List Int) :
    toZMod p 36 (ll.rows state p) =
      ((effectiveMatrix ll).map (Int.cast : ℤ → ZMod p)).mulVec (toZMod p 36 state) := by
  rw [rows_eq_mulVec, toZMod_ofZMod]

/-- The S-box layer read in `F_p` is the blockwise `sboxMap`. -/
theorem toZMod_layerOutput {sbox : SBox} (hsp : sbox.p = p) (state : List Int) :
    toZMod p 36 (layerOutput sbox state) = blockwise (m := 12) sboxMap (toZMod p 36 state) := by
  rw [layerOutput_eq_blockOutput, blockOutput_eq_blockwise sbox hsp 12, toZMod_ofZMod]

end Bridge

section Cipher

variable (c : YuSCipher) (xof : Shake128) (nonce : List UInt8) {p : ℕ} [NeZero p]

/-- Adding the round key `K ⊙ rc(r, j)` keeps a degree of at least one. -/
theorem hasDegree_addRoundKey (hcp : c.p = p) {d : ℕ} {s : List Int → List Int}
    (hs : HasDegree d fun key => toZMod p 36 (s key)) (hd : 1 ≤ d) (r j : ℕ) :
    HasDegree d fun key => toZMod p 36
      (addRoundKeyValues (s key) (roundKey (withKey c key nonce) xof r j) c.p) := by
  have heq : (fun key => toZMod p 36
      (addRoundKeyValues (s key) (roundKey (withKey c key nonce) xof r j) c.p)) = fun key =>
        toZMod p 36 (s key) + toZMod p 36 key * toZMod p 36
          ((RoundKeyGenerator.mk nonce).generateRoundConstant xof r.toUInt32 j.toUInt32 c.p) := by
    funext key
    simp only [roundKey, withKey, hcp]
    rw [toZMod_addRoundKeyValues, toZMod_roundKeyValues]
  rw [heq]
  exact hs.addKey hd _

/-- The linear layer keeps the degree. -/
theorem hasDegree_rows (hcp : c.p = p) {d : ℕ} {s : List Int → List Int}
    (hs : HasDegree d fun key => toZMod p 36 (s key)) :
    HasDegree d fun key => toZMod p 36 (c.linearLayer.rows (s key) c.p) := by
  simp only [hcp, toZMod_rows]
  exact hs.mulVec _

/-- The S-box layer doubles the degree. -/
theorem hasDegree_layerOutput {sbox : SBox} (hsp : sbox.p = p) {d : ℕ}
    {s : List Int → List Int} (hs : HasDegree d fun key => toZMod p 36 (s key)) :
    HasDegree (2 * d) fun key => toZMod p 36 (layerOutput sbox (s key)) := by
  simp only [toZMod_layerOutput hsp]
  exact hs.blockwise

/-- Rounds `rs` multiply the degree by `2^|rs|`: each is the three layers above. -/
theorem hasDegree_foldl_roundFunction (hcp : c.p = p) {sbox : SBox} (hsp : sbox.p = p) (j : ℕ) :
    ∀ (rs : List ℕ) {d : ℕ} {s : List Int → List Int},
    1 ≤ d → (HasDegree d fun key => toZMod p 36 (s key)) →
    HasDegree (2 ^ rs.length * d) fun key => toZMod p 36 (rs.foldl (fun state r =>
      roundFunction (withKey c key nonce) sbox (roundKey (withKey c key nonce) xof r j) state)
        (s key))
  | [], _, _, _, hs => by simpa using hs
  | r :: rs, d, _, hd, hs => by
    rw [List.length_cons, pow_succ, mul_assoc]
    exact hasDegree_foldl_roundFunction hcp hsp j rs (by omega) (hasDegree_addRoundKey c xof nonce
      hcp (hasDegree_rows c hcp (hasDegree_layerOutput hsp hs)) (by omega) r j)

/-- Block `j` before truncation has degree at most `2^R` in the key: the whitened counter has
degree one, each of the `R` rounds doubles it, and the last linear layer keeps it. -/
theorem hasDegree_blockPermutation (hcp : c.p = p) {sbox : SBox} (hsp : sbox.p = p) (j : ℕ) :
    HasDegree (2 ^ c.level.rounds) fun key =>
      toZMod p 36 (blockPermutation (withKey c key nonce) xof sbox j (c.counterVector j)) := by
  have hwhite := hasDegree_addRoundKey c xof nonce hcp (s := fun _ => c.counterVector j)
    (fun _ => (isPoly_const _).mono (Nat.zero_le 1)) le_rfl 0 j
  have hrounds := hasDegree_foldl_roundFunction c xof nonce hcp hsp j
    (List.range' 1 c.level.rounds) le_rfl hwhite
  rw [List.length_range', mul_one] at hrounds
  exact hasDegree_rows c hcp hrounds

end Cipher

/-- Block `j` is, for every key, the residues at the key of 36 fixed polynomials of degree at
most `2^R`, without the first `m`. -/
theorem block_eq_eval (c : YuSCipher) (xof : Shake128) (nonce : List UInt8) {p : ℕ}
    (hcp : c.p = p) {sbox : SBox} (hsp : sbox.p = p) (j : ℕ) :
    ∃ P : Fin 36 → MvPolynomial (Fin 36) (ZMod p),
      (∀ i, (P i).totalDegree ≤ 2 ^ c.level.rounds) ∧ ∀ key : List Int,
        block (withKey c key nonce) xof sbox j =
          (ofZMod fun i => eval (toZMod p 36 key) (P i)).drop c.truncM.toNat := by
  have hp : (0 : Int) < p := by
    have := hcp ▸ c.p_ge
    omega
  haveI : NeZero p := ⟨by omega⟩
  choose P hP hev using hasDegree_blockPermutation c xof nonce hcp hsp j
  refine ⟨P, hP, fun key => ?_⟩
  have hmem : blockPermutation (withKey c key nonce) xof sbox j (c.counterVector j)
      ∈ FieldVec p 36 :=
    ⟨length_rows .., by
      rw [blockPermutation, show (withKey c key nonce).p = p from hcp]
      exact rows_mem _ _ hp⟩
  show (blockPermutation (withKey c key nonce) xof sbox j (c.counterVector j)).drop
    c.truncM.toNat = _
  rw [← ofZMod_toZMod hmem]
  congr 2
  funext i
  exact (hev i key).symm

/-- For every nonce, XOF and count `n`, over a modulus `p`, there are polynomials of total degree
at most `2^R` in the 36 key words, 36 for each block, such that for every key of 36 words
`generate_keystream(n)` after `init` returns their residues at the key, block by block without
the first `m` words, while the static S-box is unset or built from `p`. -/
theorem generateKeystream_eq_eval (c : YuSCipher) (xof : Shake128) (nonce : List UInt8) {p : ℕ}
    (hcp : c.p = p) {cache : Option SBox} (hcache : ∀ s ∈ cache, s.p = c.p) (n : UInt32) :
    ∃ P : ℕ → Fin 36 → MvPolynomial (Fin 36) (ZMod p),
      (∀ j i, (P j i).totalDegree ≤ 2 ^ c.level.rounds) ∧
      ∀ key : List Int, key.length = 36 →
        ((withKey c key nonce).generateKeystream xof n).run' cache =
          some ((List.range n.toNat).flatMap fun j =>
            (ofZMod fun i => eval (toZMod p 36 key) (P j i)).drop c.truncM.toNat) := by
  choose P hP hev using block_eq_eval c xof nonce hcp (getD_sbox_p c hcp hcache)
  refine ⟨P, hP, fun key hK => ?_⟩
  rw [EStateM.run', generateKeystream_run (withKey c key nonce) xof hK cache n, keystream]
  exact congrArg (fun f => some ((List.range n.toNat).flatMap f)) (funext fun j => hev j key)

/-- The cipher over 65537 at 80 bits, the empty nonce, one block, in a fresh process. -/
theorem generateKeystream_eq_eval_65537 :
    (cipher65537.p = (65537 : ℕ) ∧ ∀ s ∈ (none : Option SBox), s.p = cipher65537.p) ∧
    ∃ P : ℕ → Fin 36 → MvPolynomial (Fin 36) (ZMod 65537),
      (∀ j i, (P j i).totalDegree ≤ 2 ^ cipher65537.level.rounds) ∧
      ∀ key : List Int, key.length = 36 →
        ((withKey cipher65537 key []).generateKeystream (fun _ _ => 0) 1).run' none =
          some ((List.range (1 : UInt32).toNat).flatMap fun j =>
            (ofZMod fun i => eval (toZMod 65537 36 key) (P j i)).drop cipher65537.truncM.toNat) :=
  ⟨⟨rfl, fun _ h => nomatch h⟩,
    generateKeystream_eq_eval cipher65537 (fun _ _ => 0) [] rfl (by intro _ h; cases h) 1⟩

end YusVerif.Degree
