import YusCipher.Model.RoundKey
import YusCipher.Verif.Field
import Mathlib.Data.ZMod.Basic
import Mathlib.Algebra.Field.Basic
import Mathlib.Data.List.GetD

/-!
# Round constants, round keys and the inputs they are hashed from

The XOF input of `generate_round_constant` is the nonce followed by the block and round
indices, four bytes each, least significant first. The byte loop keeps every bit of a 32-bit
index, so reading the bytes back gives the index, and since both indices have a fixed width
the whole input determines the nonce and both indices, for nonces of every length.

Whatever bytes the XOF returns, a round constant word is a residue with zero replaced by one,
so it lies in `[1, p - 1]` and is a unit modulo a prime. A round key multiplies the master key
by these units word by word, and `add_round_key` adds a fixed vector: read in `ZMod p` both are
bijections of `Fin 36 → ZMod p`, so both permute the field vectors.
-/

open Yus Yus.RoundKeyGenerator YusVerif.Field

namespace YusVerif.RoundKey

section Bytes

/-- A 32-bit shift by a distance below 32 is division by a power of two. -/
theorem toNat_shiftRight_toUInt32 (x : UInt32) {s : Nat} (hs : s < 32) :
    (x >>> s.toUInt32).toNat = x.toNat / 2 ^ s := by
  show (x.toBitVec >>> (UInt32.mod s.toUInt32 32).toBitVec).toNat = _
  rw [BitVec.ushiftRight_eq', BitVec.toNat_ushiftRight, Nat.shiftRight_eq_div_pow]
  show x.toNat / 2 ^ (s % 2 ^ 32 % 32) = _
  rw [Nat.mod_eq_of_lt (by omega : s < 2 ^ 32), Nat.mod_eq_of_lt hs]

/-- Byte `k` of the loop is digit `k` of the index in base 256. -/
theorem toNat_leByte (x : UInt32) {k : Nat} (hk : k < 4) :
    ((x >>> (k * 8).toUInt32) &&& 0xFF).toUInt8.toNat = x.toNat / 2 ^ (k * 8) % 256 := by
  show ((x >>> (k * 8).toUInt32) &&& 0xFF).toNat % 2 ^ 8 = _
  rw [UInt32.and_toNat, toNat_shiftRight_toUInt32 x (by omega : k * 8 < 32)]
  show (x.toNat / 2 ^ (k * 8) &&& 2 ^ 8 - 1) % 2 ^ 8 = _
  rw [Nat.and_pow_two_sub_one_eq_mod, Nat.mod_mod]

/-- The value of little-endian bytes. -/
def leValue (bytes : List UInt8) : Nat := bytes.foldr (fun b acc => b.toNat + 256 * acc) 0

/-- The byte loop loses nothing: its bytes read back to the index. -/
theorem leValue_leBytes32 (x : UInt32) : leValue (leBytes32 x) = x.toNat := by
  have hx : x.toNat < 2 ^ 32 := x.toBitVec.isLt
  simp only [leBytes32, List.range_succ, List.range_zero, List.nil_append, List.map_cons,
    List.map_append, List.map_nil, List.cons_append, leValue, List.foldr_cons, List.foldr_nil,
    toNat_leByte x (by omega : 0 < 4), toNat_leByte x (by omega : 1 < 4),
    toNat_leByte x (by omega : 2 < 4), toNat_leByte x (by omega : 3 < 4)]
  omega

/-- Distinct indices have distinct bytes. -/
theorem leBytes32_injective : Function.Injective leBytes32 := fun x y h =>
  UInt32.toNat.inj (by rw [← leValue_leBytes32 x, ← leValue_leBytes32 y, h])

/-- An index takes four bytes. -/
@[simp] theorem length_leBytes32 (x : UInt32) : (leBytes32 x).length = 4 := by
  simp [leBytes32]

/-- Indices below `2^32` keep their value through `toUInt32`. -/
theorem toUInt32_inj {a b : Nat} (ha : a < 2 ^ 32) (hb : b < 2 ^ 32)
    (h : a.toUInt32 = b.toUInt32) : a = b := by
  rw [← UInt32.toNat_ofNat_of_lt (show a < UInt32.size from ha),
    ← UInt32.toNat_ofNat_of_lt (show b < UInt32.size from hb)]
  exact congrArg UInt32.toNat h

/-- The XOF input determines the nonce and both indices, for nonces of every length. -/
theorem roundConstantInput_inj {nonce nonce' : List UInt8} {i j i' j' : UInt32}
    (h : roundConstantInput nonce i j = roundConstantInput nonce' i' j') :
    nonce = nonce' ∧ j = j' ∧ i = i' := by
  have hlen : nonce.length = nonce'.length := by
    simpa [roundConstantInput] using congrArg List.length h
  obtain ⟨hn, hrest⟩ := List.append_inj (by simpa only [roundConstantInput,
    List.append_assoc] using h) hlen
  obtain ⟨hj, hi⟩ := List.append_inj hrest (by simp)
  exact ⟨hn, leBytes32_injective hj, leBytes32_injective hi⟩

/-- The XOF input determines the nonce, the block index and the round index; within one
nonce, the block and round indices of a keystream are hashed from distinct inputs. -/
theorem roundConstantInput_injective :
    (∀ (nonce nonce' : List UInt8) (i j i' j' : UInt32),
      roundConstantInput nonce i j = roundConstantInput nonce' i' j' →
        nonce = nonce' ∧ j = j' ∧ i = i') ∧
    (∀ (nonce : List UInt8) (blockCount : UInt32) (rounds : Nat) (j j' r r' : Nat),
      j < blockCount.toNat → j' < blockCount.toNat → r ≤ rounds → r' ≤ rounds →
      rounds < 2 ^ 32 →
      roundConstantInput nonce r.toUInt32 j.toUInt32 =
        roundConstantInput nonce r'.toUInt32 j'.toUInt32 → j = j' ∧ r = r') := by
  refine ⟨fun _ _ _ _ _ _ => roundConstantInput_inj,
    fun nonce blockCount rounds j j' r r' hj hj' hr hr' hR h => ?_⟩
  have hn : blockCount.toNat < 2 ^ 32 := blockCount.toBitVec.isLt
  obtain ⟨-, hjj, hrr⟩ := roundConstantInput_inj h
  exact ⟨toUInt32_inj (by omega) (by omega) hjj, toUInt32_inj (by omega) (by omega) hrr⟩

/-- In a keystream of two blocks of five rounds, round 0 of block 1 and round 1 of block 0 are
hashed from distinct inputs. -/
theorem roundConstantInput_injective_two_blocks :
    (1 < (2 : UInt32).toNat ∧ 0 < (2 : UInt32).toNat ∧ 0 ≤ 5 ∧ 1 ≤ 5 ∧ 5 < 2 ^ 32) ∧
    roundConstantInput [1, 2, 3] (0 : Nat).toUInt32 (1 : Nat).toUInt32 ≠
      roundConstantInput [1, 2, 3] (1 : Nat).toUInt32 (0 : Nat).toUInt32 :=
  ⟨by decide, fun h => absurd (roundConstantInput_injective.2 [1, 2, 3] 2 5 1 0 0 1
    (by decide) (by decide) (by decide) (by decide) (by decide) h).1 (by decide)⟩

end Bytes

section Constants

variable (gen : RoundKeyGenerator) (xof : Shake128) (i j : UInt32)

/-- A round constant has 36 words. -/
@[simp] theorem length_generateRoundConstant (p : Int) :
    (gen.generateRoundConstant xof i j p).length = 36 := by
  simp [generateRoundConstant]

/-- Every round constant word lies in `[1, p - 1]`, whatever bytes the XOF returns. -/
theorem generateRoundConstant_mem {p : Int} (hp : 2 ≤ p) :
    ∀ x ∈ gen.generateRoundConstant xof i j p, 1 ≤ x ∧ x ≤ p - 1 := by
  have hword : ∀ a : Int, 1 ≤ (if mod a p = 0 then 1 else mod a p) ∧
      (if mod a p = 0 then 1 else mod a p) ≤ p - 1 := fun a => by
    have := mod_mem a (by omega : 0 < p)
    split <;> omega
  simp only [generateRoundConstant, List.mem_map, List.mem_range]
  rintro _ ⟨k, -, rfl⟩
  exact hword _

/-- A round key has 36 words. -/
@[simp] theorem length_roundKeyValues (masterKey roundConstant : List Int) (p : Int) :
    (roundKeyValues masterKey roundConstant p).length = 36 := by
  simp [roundKeyValues]

/-- A key addition returns 36 words. -/
@[simp] theorem length_addRoundKeyValues (state roundKey : List Int) (p : Int) :
    (addRoundKeyValues state roundKey p).length = 36 := by
  simp [addRoundKeyValues]

/-- `generate_round_key` on inputs of 36 words returns the word-wise products. -/
theorem generateRoundKey_eq {masterKey roundConstant : List Int} (p : Int)
    (hk : masterKey.length = 36) (hc : roundConstant.length = 36) :
    generateRoundKey masterKey roundConstant p = .ok (roundKeyValues masterKey roundConstant p) :=
  if_neg (by omega)

/-- `add_round_key` on inputs of 36 words returns the word-wise sums. -/
theorem addRoundKey_eq {state roundKey : List Int} (p : Int) (hs : state.length = 36)
    (hk : roundKey.length = 36) :
    addRoundKey state roundKey p = .ok (addRoundKeyValues state roundKey p) :=
  if_neg (by omega)

/-- Round keys of congruent master keys are equal. -/
theorem roundKeyValues_congr {p : Int} (hp : 0 < p) {masterKey masterKey' : List Int}
    (h : ∀ k < 36, masterKey.getD k 0 ≡ masterKey'.getD k 0 [ZMOD p])
    (roundConstant : List Int) :
    roundKeyValues masterKey roundConstant p = roundKeyValues masterKey' roundConstant p :=
  List.map_congr_left fun k hk =>
    mod_congr hp ((h k (List.mem_range.mp hk)).mul_right _)

end Constants

section Bijections

variable {p : ℕ} [Fact p.Prime]

/-- An integer in `[1, p - 1]` is a unit modulo `p`. -/
theorem intCast_ne_zero {x : Int} (h1 : 1 ≤ x) (h2 : x ≤ (p : Int) - 1) :
    (x : ZMod p) ≠ 0 := by
  rw [Ne, ZMod.intCast_zmod_eq_zero_iff_dvd]
  intro hdvd
  have := Int.le_of_dvd (by omega) hdvd
  omega

/-- Multiplying the master key by a round constant of units permutes the field vectors. -/
theorem roundKeyValues_bijOn {roundConstant : List Int}
    (hc : ∀ k < 36, (roundConstant.getD k 0 : ZMod p) ≠ 0) :
    Set.BijOn (fun masterKey => roundKeyValues masterKey roundConstant p)
      (FieldVec p 36) (FieldVec p 36) := by
  refine bijOn_of_conj (F := fun x k => x k * (roundConstant.getD k 0 : ZMod p))
    ⟨fun x y h => funext fun k => mul_right_cancel₀ (hc k k.isLt) (congrFun h k),
      fun y => ⟨fun k => y k / (roundConstant.getD k 0 : ZMod p),
        funext fun k => div_mul_cancel₀ _ (hc k k.isLt)⟩⟩ fun masterKey _ => ?_
  rw [roundKeyValues, map_range_mod]
  simp [toZMod]

/-- Adding a fixed round key permutes the field vectors. -/
theorem addRoundKeyValues_bijOn (roundKey : List Int) :
    Set.BijOn (fun state => addRoundKeyValues state roundKey p)
      (FieldVec p 36) (FieldVec p 36) := by
  refine bijOn_of_conj (Equiv.addRight fun k : Fin 36 => (roundKey.getD k 0 : ZMod p)).bijective
    fun state _ => ?_
  rw [addRoundKeyValues, map_range_mod]
  simp [toZMod, Pi.add_def]

end Bijections

/-- Every round constant word lies in `[1, p - 1]` for every XOF output; for a prime `p` the
round-key map `K ↦ generate_round_key(K, rc, p)` is a bijection of `F_p^36`. -/
theorem roundConstant_units_roundKey_bijOn (gen : RoundKeyGenerator) (xof : Shake128)
    (i j : UInt32) {p : ℕ} (hp : 2 ≤ p) :
    (gen.generateRoundConstant xof i j p).length = 36 ∧
    (∀ x ∈ gen.generateRoundConstant xof i j p, 1 ≤ x ∧ x ≤ (p : Int) - 1) ∧
    (p.Prime → Set.BijOn (fun masterKey =>
        generateRoundKey masterKey (gen.generateRoundConstant xof i j p) p)
      (FieldVec p 36) (Except.ok '' FieldVec p 36)) := by
  have hmem := generateRoundConstant_mem gen xof i j (by exact_mod_cast hp : (2 : Int) ≤ p)
  refine ⟨length_generateRoundConstant .., hmem, fun hprime => ?_⟩
  haveI := Fact.mk hprime
  have hunit : ∀ k < 36, ((gen.generateRoundConstant xof i j p).getD k 0 : ZMod p) ≠ 0 := by
    intro k hk
    have hk' : k < (gen.generateRoundConstant xof i j p).length := by simpa using hk
    have hx := hmem _ (List.getD_eq_getElem _ 0 hk' ▸ List.getElem_mem hk')
    exact intCast_ne_zero hx.1 hx.2
  exact bijOn_wrap (fun _ _ h => Except.ok.inj h) (roundKeyValues_bijOn hunit)
    fun masterKey hk => generateRoundKey_eq _ hk.1 (length_generateRoundConstant ..)

/-- The round constants of the empty nonce over the prime 65537. -/
theorem roundConstant_units_roundKey_bijOn_65537 :
    2 ≤ 65537 ∧
    ((RoundKeyGenerator.mk []).generateRoundConstant (fun _ _ => 0) 0 0 (65537 : ℕ)).length =
      36 ∧
    (∀ x ∈ (RoundKeyGenerator.mk []).generateRoundConstant (fun _ _ => 0) 0 0 (65537 : ℕ),
      1 ≤ x ∧ x ≤ ((65537 : ℕ) : Int) - 1) ∧
    (Nat.Prime 65537 → Set.BijOn (fun masterKey => generateRoundKey masterKey
        ((RoundKeyGenerator.mk []).generateRoundConstant (fun _ _ => 0) 0 0 (65537 : ℕ))
        (65537 : ℕ))
      (FieldVec (65537 : ℕ) 36) (Except.ok '' FieldVec (65537 : ℕ) 36)) :=
  ⟨by norm_num, roundConstant_units_roundKey_bijOn ⟨[]⟩ (fun _ _ => 0) 0 0 (by norm_num)⟩

end YusVerif.RoundKey
