import YusCipher.Model.Cipher
import YusCipher.Verif.SBox
import YusCipher.Verif.RoundKey
import YusCipher.Verif.LayerInverse

/-!
# The keystream as a composition of layers

Once the key has 36 words no length check of `generate_keystream` can fail, and the static
S-box of `apply_sbox_layer` reads as one S-box for the whole call: the one it already held, or
`SBox(p)` if unset. So the call is the composition of the specification with that S-box, and
for a prime `p` whose S-box is the static's each round and each untruncated block permutes
`F_p^36`. A static built from another modulus changes the blocks and can merge two states.
-/
open Yus Yus.YuSCipher Yus.RoundKeyGenerator YusVerif.Field YusVerif.LinearLayer
  YusVerif.LayerData YusVerif.SBox YusVerif.RoundKey YusVerif.LayerInverse

namespace YusVerif.Keystream

section Monad

variable {ε σ α β : Type}

/-- `ofExcept` of a value returns it. -/
@[simp] theorem run_ofExcept_ok (a : α) (s : σ) :
    (ofExcept (.ok a : Except ε α) : EStateM ε σ α).run s = .ok a s := rfl

/-- A fold whose every step returns `g` of its arguments and leaves the static holding
`sbox`, from any static that reads as `sbox`. -/
theorem foldlM_run {d sbox : SBox} (step : β → α → EStateM Exception (Option SBox) β)
    (g : β → α → β) (P : β → Prop) (hP : ∀ b x, P (g b x))
    (hstep : ∀ b x (cache : Option SBox), P b → cache.getD d = sbox →
      (step b x).run cache = .ok (g b x) (some sbox)) :
    ∀ (xs : List α) (b : β) (cache : Option SBox), P b → cache.getD d = sbox →
      (xs.foldlM step b).run cache = .ok (xs.foldl g b) (xs.foldl (fun _ _ => some sbox) cache)
  | [], _, _, _, _ => rfl
  | x :: xs, b, cache, hb, hc => by
    rw [List.foldlM_cons, run_bind_ok (hstep b x cache hb hc)]
    exact foldlM_run step g P hP hstep xs (g b x) (some sbox) (hP b x) rfl

/-- The state a fold of `n` steps leaves, when every step leaves `b`. -/
theorem foldl_range_const (b : α) (n : Nat) (a : α) :
    (List.range n).foldl (fun _ _ => b) a = if n = 0 then a else b := by
  cases n with
  | zero => rfl
  | succ n => rw [List.range_succ, List.foldl_append]; rfl

end Monad

section Layers

variable (c : YuSCipher)

/-- The linear layer of every cipher is the one the constructor computes. -/
theorem linearLayer_eq : c.linearLayer = yusLayer :=
  Except.ok.inj (c.linearLayer_new.symm.trans new_eq_yusLayer)

/-- Two S-boxes of one modulus are one S-box. -/
theorem sbox_eq_of_p {s t : SBox} (h : s.p = t.p) : s = t := by
  cases s
  cases t
  cases h
  rfl

/-- The constructor's S-box is `SBox(p)`. -/
theorem sbox_new : SBox.new c.p = .ok c.sbox := by
  rw [SBox.new, dif_pos c.p_2mod3]
  exact congrArg Except.ok (sbox_eq_of_p c.sbox_p.symm)

/-- A static unset or built from `p` reads as `SBox(p)`. -/
theorem sbox_new_getD {cache : Option SBox} (hcache : ∀ s ∈ cache, s.p = c.p) :
    SBox.new c.p = .ok (cache.getD c.sbox) := by
  cases cache with
  | none => exact sbox_new c
  | some s => rw [sbox_new, sbox_eq_of_p (c.sbox_p.trans (hcache s rfl).symm)]; rfl

/-- `YuSCipher::YuSCipher` rejects a modulus not `2 mod 3` with the message of the S-box's
constructor, which runs first (the body's own check of the congruence is never reached), then a
width above 36, then a modulus below `2^16`; otherwise it returns an object with the given
parameters and an empty key. -/
theorem new_checks (p : Int) (level : SecurityLevel) (truncM : UInt32) :
    (isP2mod3 p = false → YuSCipher.new p level truncM =
      .error (.invalidArgument "Prime p must satisfy p ≡ 2 mod 3")) ∧
    (isP2mod3 p = true → truncM > 36 → YuSCipher.new p level truncM =
      .error (.invalidArgument "Truncation m must be ≤36")) ∧
    (isP2mod3 p = true → truncM ≤ 36 → p < 65536 → YuSCipher.new p level truncM =
      .error (.invalidArgument "Prime p must be > 16 bits")) ∧
    (isP2mod3 p = true → truncM ≤ 36 → 65536 ≤ p → ∃ c,
      YuSCipher.new p level truncM = .ok c ∧
        c.p = p ∧ c.level = level ∧ c.truncM = truncM ∧ c.masterKey = []) := by
  refine ⟨fun h => ?_, fun h hm => ?_, fun h hm hb => ?_, fun h hm hb => ?_⟩ <;>
    unfold YuSCipher.new <;> split <;> rename_i hs <;> simp [SBox.new, h] at hs
  · rw [← hs]
  all_goals
    split
    · rename_i hl
      rw [new_eq_yusLayer] at hl
      cases hl
  · rw [dif_pos h, dif_pos hm]
  · rw [dif_pos h, dif_neg (UInt32.not_lt.mpr hm), dif_pos hb]
  · exact ⟨_, by rw [dif_pos h, dif_neg (UInt32.not_lt.mpr hm), dif_neg (Int.not_lt.mpr hb)],
      rfl, rfl, rfl, rfl⟩

/-- The S-box layer reads each word only modulo the S-box's modulus. -/
theorem layerOutput_congr (sbox : SBox) {x y : List Int}
    (h : ∀ k < 36, x.getD k 0 ≡ y.getD k 0 [ZMOD sbox.p]) :
    layerOutput sbox x = layerOutput sbox y := by
  have hp := pos_of_isP2mod3 sbox.p_2mod3
  refine List.flatMap_congr fun i hi => ?_
  have hi : i < 12 := List.mem_range.mp hi
  have h0 := h (3 * i) (by omega)
  have h1 := h (3 * i + 1) (by omega)
  have h2 := h (3 * i + 2) (by omega)
  simp only [SBox.transform, List.cons.injEq, and_true]
  exact ⟨mod_congr hp h0, mod_congr hp ((h0.mul h2).add h1),
    mod_congr hp (((h0.neg.mul h1).add (h0.mul h2)).add h2)⟩

/-- The linear layer returns 36 words. -/
@[simp] theorem length_rows (ll : LinearLayer) (state : List Int) (p : Int) :
    (ll.rows state p).length = 36 := by
  simp [LinearLayer.rows]

/-- The twelve S-boxes return 36 words. -/
@[simp] theorem length_layerOutput (sbox : SBox) (state : List Int) :
    (layerOutput sbox state).length = 36 := by
  simp [layerOutput, SBox.transform, List.length_flatMap, Function.comp_def, List.map_const',
    List.sum_replicate]

/-- The counter vector has 36 words. -/
@[simp] theorem length_counterVector (j : Nat) : (c.counterVector j).length = 36 := by
  simp [counterVector]

/-- The rows of the linear layer are residues. -/
theorem rows_mem (ll : LinearLayer) (state : List Int) {p : Int} (hp : 0 < p) :
    ∀ x ∈ ll.rows state p, 0 ≤ x ∧ x < p := by
  simp only [LinearLayer.rows, List.mem_map]
  rintro _ ⟨row, -, rfl⟩
  rw [rowSum_eq hp]
  exact ⟨Int.emod_nonneg _ hp.ne', Int.emod_lt_of_pos _ hp⟩

/-- The counter vector is a field vector. -/
theorem counterVector_mem (j : Nat) : c.counterVector j ∈ FieldVec c.p 36 := by
  refine ⟨length_counterVector c j, ?_⟩
  simp only [counterVector, List.mem_map]
  rintro _ ⟨i, -, rfl⟩
  exact mod_mem _ (pos_of_isP2mod3 c.p_2mod3)

/-- `LinearLayer::apply` on 36 words returns its rows. -/
theorem apply_eq_rows (ll : LinearLayer) {state : List Int} (p : Int) (h : state.length = 36) :
    ll.apply state p = .ok (ll.rows state p) :=
  if_neg (not_not.mpr h)

/-- The static after any call reads as the S-box it held, or as `SBox(p)` if unset. -/
theorem applySboxLayer_cipher {state : List Int} (hlen : state.length = 36)
    (cache : Option SBox) : (applySboxLayer state c.p).run cache =
      .ok (layerOutput (cache.getD c.sbox) state) (some (cache.getD c.sbox)) := by
  refine applySboxLayer_run hlen c.p cache ?_
  cases cache with
  | none => exact .inr ⟨rfl, sbox_new c⟩
  | some s => exact .inl rfl

end Layers

section Blocks

variable (c : YuSCipher) (xof : Shake128)

/-- The round key `K ⊙ rc(r, j)` of round `r` of block `j`. -/
def roundKey (r j : Nat) : List Int :=
  roundKeyValues c.masterKey (c.rkGen.generateRoundConstant xof r.toUInt32 j.toUInt32 c.p) c.p

/-- The round function `RF(s) = AK(LP(SL(s)), rk)`, with the S-box layer of `sbox`. -/
def roundFunction (sbox : SBox) (roundKey state : List Int) : List Int :=
  addRoundKeyValues (c.linearLayer.rows (layerOutput sbox state) c.p) roundKey c.p

/-- The rounds `RF_{1,j}, …, RF_{R,j}` of block `j`, from a whitened state. -/
def rounds (sbox : SBox) (j : Nat) (state : List Int) : List Int :=
  (List.range' 1 c.level.rounds).foldl
    (fun state r => roundFunction c sbox (roundKey c xof r j) state) state

/-- Block `j` before truncation, from a counter vector:
`LP(RF_{R,j}(⋯RF_{1,j}(AK(·, K ⊙ rc(0, j)))⋯))`. -/
def blockPermutation (sbox : SBox) (j : Nat) (counter : List Int) : List Int :=
  c.linearLayer.rows (rounds c xof sbox j (addRoundKeyValues counter (roundKey c xof 0 j) c.p)) c.p

/-- Block `j`: the permuted counter vector `CV_j` without its first `m` words. -/
def block (sbox : SBox) (j : Nat) : List Int :=
  (blockPermutation c xof sbox j (c.counterVector j)).drop c.truncM.toNat

/-- The blocks `0, …, n − 1`, in order. -/
def keystream (sbox : SBox) (n : Nat) : List Int :=
  (List.range n).flatMap (block c xof sbox)

/-- A block has `36 − m` words. -/
@[simp] theorem length_block (sbox : SBox) (j : Nat) :
    (block c xof sbox j).length = 36 - c.truncM.toNat := by
  simp [block, blockPermutation]

/-- The keystream of `n` blocks has `n · (36 − m)` words. -/
@[simp] theorem length_keystream (sbox : SBox) (n : Nat) :
    (keystream c xof sbox n).length = n * (36 - c.truncM.toNat) := by
  simp [keystream, List.length_flatMap, Function.comp_def, List.map_const', List.sum_replicate]

/-- Every word of the keystream is a residue. -/
theorem keystream_mem (sbox : SBox) (n : Nat) :
    ∀ x ∈ keystream c xof sbox n, 0 ≤ x ∧ x < c.p := by
  simp only [keystream, List.mem_flatMap, block, blockPermutation]
  rintro x ⟨j, -, hx⟩
  exact rows_mem _ _ (pos_of_isP2mod3 c.p_2mod3) x (List.mem_of_mem_drop hx)

/-- The rounds return 36 words. -/
theorem length_rounds (sbox : SBox) (j : Nat) {state : List Int} (h : state.length = 36) :
    (rounds c xof sbox j state).length = 36 := by
  rw [rounds]
  generalize List.range' 1 c.level.rounds = rs
  induction rs generalizing state with
  | nil => exact h
  | cons r rs ih => exact ih (length_addRoundKeyValues ..)

/-- `round_transform` on 36 words is the round function of the static's S-box. -/
theorem roundTransform_run {state rk : List Int} (hs : state.length = 36)
    (hk : rk.length = 36) (cache : Option SBox) : (c.roundTransform state rk).run cache =
      .ok (roundFunction c (cache.getD c.sbox) rk state) (some (cache.getD c.sbox)) := by
  rw [roundTransform, run_bind_ok (applySboxLayer_cipher c hs cache),
    apply_eq_rows _ _ (length_layerOutput _ _), run_bind_ok (run_ofExcept_ok _ _),
    addRoundKey_eq _ (length_rows _ _ _) hk]
  rfl

/-- From a static holding `s`, `round_transform` reads a state of 36 words only through its
S-box layer under `s`. -/
theorem roundTransform_congr {s : SBox} {x y rk : List Int} (hx : x.length = 36)
    (hy : y.length = 36) (h : layerOutput s x = layerOutput s y) :
    (c.roundTransform x rk).run (some s) = (c.roundTransform y rk).run (some s) := by
  rw [roundTransform, roundTransform, run_bind_ok (applySboxLayer_cipher c hx (some s)),
    run_bind_ok (applySboxLayer_cipher c hy (some s))]
  simp only [Option.getD_some, h]

/-- The round loop of block `j`, for a key of 36 words: the rounds of the static's S-box. -/
theorem roundLoop_run (hK : c.masterKey.length = 36) (cache : Option SBox) (j : Nat)
    {state : List Int} (hs : state.length = 36) :
    ((List.range' 1 c.level.rounds).foldlM (fun (state : List Int) (r : Nat) => do
      let rc := c.rkGen.generateRoundConstant xof r.toUInt32 j.toUInt32 c.p
      let rk ← ofExcept (RoundKeyGenerator.generateRoundKey c.masterKey rc c.p)
      c.roundTransform state rk) state).run cache =
      .ok (rounds c xof (cache.getD c.sbox) j state) (some (cache.getD c.sbox)) := by
  have hcache : (List.range' 1 c.level.rounds).foldl (fun _ _ => some (cache.getD c.sbox))
      cache = some (cache.getD c.sbox) := by
    cases c.level <;> rfl
  rw [foldlM_run (d := c.sbox) _ (fun state r => roundFunction c (cache.getD c.sbox)
      (roundKey c xof r j) state) (fun state => state.length = 36)
      (fun _ _ => length_addRoundKeyValues ..) (fun state r cache' hs hc => ?_) _ _ cache hs rfl,
    hcache]
  · rfl
  · dsimp only
    rw [generateRoundKey_eq _ hK (length_generateRoundConstant ..),
      run_bind_ok (run_ofExcept_ok _ _), roundTransform_run c hs (length_roundKeyValues ..), hc]
    rfl

/-- One block of the loop of `generate_keystream`, for a key of 36 words. -/
theorem keystreamBlock_run (hK : c.masterKey.length = 36) (cache : Option SBox) (j : Nat) :
    (c.keystreamBlock xof j).run cache =
      .ok (block c xof (cache.getD c.sbox) j) (some (cache.getD c.sbox)) := by
  have hwhite : c.keyWhitening xof (c.counterVector j) j.toUInt32 =
      .ok (addRoundKeyValues (c.counterVector j) (roundKey c xof 0 j) c.p) := by
    rw [keyWhitening, generateRoundKey_eq _ hK (length_generateRoundConstant ..)]
    exact addRoundKey_eq _ (length_counterVector c j) (length_roundKeyValues ..)
  rw [keystreamBlock, hwhite, run_bind_ok (run_ofExcept_ok _ _),
    run_bind_ok (roundLoop_run c xof hK cache j (length_addRoundKeyValues ..)),
    apply_eq_rows _ _ (length_rounds c xof _ j (length_addRoundKeyValues ..)),
    run_bind_ok (run_ofExcept_ok _ _), truncate, if_neg (by simp)]
  rfl

/-- The keystream reads the key and the nonce only through the round keys. -/
theorem keystream_congr_roundKey (c c' : YuSCipher) (hp : c.p = c'.p)
    (hlevel : c.level = c'.level) (htrunc : c.truncM = c'.truncM)
    (hrk : ∀ r j, roundKey c xof r j = roundKey c' xof r j) (sbox : SBox) (n : Nat) :
    keystream c xof sbox n = keystream c' xof sbox n := by
  unfold keystream
  congr 1
  funext j
  simp only [block, blockPermutation, rounds, roundFunction, counterVector, hrk, hp, hlevel,
    htrunc, linearLayer_eq]

/-- Folding `ks ++ f j` over indices concatenates the `f j`. -/
theorem foldl_append_eq_flatMap {γ : Type} (f : Nat → List γ) :
    ∀ (js : List Nat) (acc : List γ),
      js.foldl (fun acc j => acc ++ f j) acc = acc ++ js.flatMap f
  | [], acc => (List.append_nil acc).symm
  | j :: js, acc => by
    rw [List.foldl_cons, foldl_append_eq_flatMap f js, List.flatMap_cons, List.append_assoc]

/-- `generate_keystream` with a key of 36 words: the blocks of the static's S-box. -/
theorem generateKeystream_run (hK : c.masterKey.length = 36) (cache : Option SBox)
    (n : UInt32) : (c.generateKeystream xof n).run cache =
      .ok (keystream c xof (cache.getD c.sbox) n.toNat)
        (if n.toNat = 0 then cache else some (cache.getD c.sbox)) := by
  have hfold := foldlM_run (d := c.sbox) (fun keystream j => do
      let block ← c.keystreamBlock xof j
      return keystream ++ block) (fun ks j => ks ++ block c xof (cache.getD c.sbox) j)
    (fun _ => True) (fun _ _ => trivial)
    (fun ks j cache' _ hc => by rw [run_bind_ok (keystreamBlock_run c xof hK cache' j), hc]; rfl)
    (List.range n.toNat) [] cache trivial rfl
  rw [foldl_append_eq_flatMap, List.nil_append, foldl_range_const] at hfold
  have hne : c.masterKey.isEmpty = false := by
    cases h : c.masterKey with
    | nil => simp [h] at hK
    | cons _ _ => rfl
  simp only [generateKeystream, hne, Bool.false_eq_true, if_false]
  exact hfold

/-- Block `j < n` is the `j`-th slice of `36 − m` words of the keystream of `n` blocks. -/
theorem take_drop_keystream (sbox : SBox) {j n : Nat} (h : j < n) :
    ((keystream c xof sbox n).drop (j * (36 - c.truncM.toNat))).take (36 - c.truncM.toNat) =
      block c xof sbox j := by
  obtain ⟨k, rfl⟩ := Nat.exists_eq_add_of_lt h
  have hlen : ((List.range j).flatMap (block c xof sbox)).length =
      j * (36 - c.truncM.toNat) := length_keystream c xof sbox j
  rw [keystream, show j + k + 1 = j + 1 + k by omega, List.range_add, List.flatMap_append,
    List.range_succ, List.flatMap_append, List.append_assoc, List.drop_left' hlen,
    List.flatMap_cons, List.flatMap_nil, List.append_nil,
    List.take_left' (length_block c xof sbox j)]

/-- Equal keystreams of `n` blocks have equal blocks below `n`. -/
theorem block_eq_of_keystream_eq {s t : SBox} {n : Nat}
    (h : keystream c xof s n = keystream c xof t n) (j : Nat) (hj : j < n) :
    block c xof s j = block c xof t j := by
  rw [← take_drop_keystream c xof s hj, h, take_drop_keystream c xof t hj]

/-- Under the zero key every round key is zero, whatever the round constants. -/
theorem roundKey_of_zeroKey (hK : c.masterKey = List.replicate 36 0) (r j : Nat) :
    roundKey c xof r j = List.replicate 36 0 := by
  simp only [roundKey, roundKeyValues, hK, List.getD_eq_getElem?_getD,
    List.getElem?_getD_replicate_default_eq, zero_mul,
    mod_eq_emod 0 (pos_of_isP2mod3 c.p_2mod3), Int.zero_emod, List.map_const',
    List.length_range]

/-- Under the zero key all blocks share one permutation of their counters. -/
theorem blockPermutation_of_zeroKey (hK : c.masterKey = List.replicate 36 0) (sbox : SBox)
    (j : Nat) : blockPermutation c xof sbox j = blockPermutation c xof sbox 0 := by
  funext counter
  simp only [blockPermutation, rounds, roundKey_of_zeroKey c xof hK]

/-- An untruncated block reads its whitened counter only through the first S-box layer, so
counters whose whitened words agree modulo the S-box's modulus give one block. -/
theorem blockPermutation_congr (sbox : SBox) (j : Nat) {x y : List Int}
    (h : ∀ k < 36, (addRoundKeyValues x (roundKey c xof 0 j) c.p).getD k 0 ≡
      (addRoundKeyValues y (roundKey c xof 0 j) c.p).getD k 0 [ZMOD sbox.p]) :
    blockPermutation c xof sbox j x = blockPermutation c xof sbox j y := by
  obtain ⟨R, hR⟩ : ∃ R, c.level.rounds = R + 1 := by cases c.level <;> exact ⟨_, rfl⟩
  simp only [blockPermutation, rounds, hR, List.range'_succ, List.foldl_cons, roundFunction,
    layerOutput_congr sbox h]

end Blocks

section Specification

variable (c : YuSCipher) (xof : Shake128)

/-- The round count `R` of the specification: 5 for SEC80, 6 for SEC128. -/
def specRounds : SecurityLevel → Nat
  | .SEC80 => 5
  | .SEC128 => 6

/-- The counter vector of the specification, `CV_j[i] = (i + 1 + j) mod p`. -/
def specCounter (p : Int) (j : Nat) : List Int :=
  (List.range 36).map fun i => ((i + 1 + j : Nat) : Int) % p

/-- Block `j` of the specification with the S-box layer of `sbox`:
`drop_m(LP(RF_{R,j}(⋯RF_{1,j}(AK(CV_j, K ⊙ rc(0, j)))⋯)))`. -/
def specBlock (sbox : SBox) (j : Nat) : List Int :=
  (c.linearLayer.rows ((List.range' 1 (specRounds c.level)).foldl
      (fun state r => roundFunction c sbox (roundKey c xof r j) state)
      (addRoundKeyValues (specCounter c.p j) (roundKey c xof 0 j) c.p)) c.p).drop c.truncM.toNat

/-- The round count of a level is the specification's. -/
theorem rounds_eq_specRounds (level : SecurityLevel) : level.rounds = specRounds level := by
  cases level <;> rfl

/-- The counter vector is the specification's. -/
theorem counterVector_eq_specCounter (j : Nat) : c.counterVector j = specCounter c.p j := by
  refine List.map_congr_left fun i _ => ?_
  rw [mod_eq_emod _ (pos_of_isP2mod3 c.p_2mod3)]
  push_cast
  rfl

/-- Block `j` of the code is block `j` of the specification. -/
theorem block_eq_specBlock (sbox : SBox) (j : Nat) :
    block c xof sbox j = specBlock c xof sbox j := by
  rw [block, specBlock, blockPermutation, rounds, rounds_eq_specRounds,
    counterVector_eq_specCounter]

end Specification

/-- A cipher over the prime 65537 at 80 bits with full output, as constructed. -/
def cipher65537 : YuSCipher where
  p := 65537
  level := .SEC80
  truncM := 0
  masterKey := []
  sbox := ⟨65537, rfl⟩
  linearLayer := yusLayer
  rkGen := ⟨[]⟩
  p_2mod3 := rfl
  truncM_le := by decide
  p_ge := by norm_num
  sbox_p := rfl
  linearLayer_new := new_eq_yusLayer

/-- The cipher over 65537 after `init` with the zero key and the empty nonce. -/
def keyedCipher65537 : YuSCipher := { cipher65537 with masterKey := List.replicate 36 0 }

section Permutation

variable (c : YuSCipher) (xof : Shake128) {p : ℕ} (hp : p.Prime) (hcp : c.p = p)
  (sbox : SBox) (hsp : sbox.p = p)
include hp hcp

/-- The linear layer of a cipher over a prime permutes `F_p^36`. -/
theorem linearLayer_rows_bijOn :
    Set.BijOn (fun state => c.linearLayer.rows state p) (FieldVec p 36) (FieldVec p 36) := by
  have h3 : p % 3 = 2 := by exact_mod_cast (isP2mod3_iff (by omega)).mp (hcp ▸ c.p_2mod3)
  have hbig : 2 ^ 16 ≤ p := by
    have := hcp ▸ c.p_ge
    omega
  rw [linearLayer_eq]
  exact rows_bijOn hp h3 hbig

include hsp

/-- A round function with the S-box of `p` permutes `F_p^36`. -/
theorem roundFunction_bijOn (rk : List Int) :
    Set.BijOn (roundFunction c sbox rk) (FieldVec p 36) (FieldVec p 36) := by
  haveI := Fact.mk hp
  refine ((addRoundKeyValues_bijOn rk).comp ((linearLayer_rows_bijOn c hp hcp).comp
    (blockOutput_bijOn hp sbox hsp 12))).congr fun state _ => ?_
  simp only [Function.comp_apply, roundFunction, hcp, layerOutput_eq_blockOutput]

/-- Block `j` before truncation permutes `F_p^36`: whitening, the rounds and the last linear
layer each do. -/
theorem blockPermutation_bijOn (j : Nat) :
    Set.BijOn (blockPermutation c xof sbox j) (FieldVec p 36) (FieldVec p 36) := by
  have hrounds : ∀ rs : List Nat, Set.BijOn (fun state => rs.foldl (fun state r =>
      roundFunction c sbox (roundKey c xof r j) state) state) (FieldVec p 36) (FieldVec p 36) := by
    intro rs
    induction rs with
    | nil => exact Set.bijOn_id _
    | cons r rs ih => exact ih.comp (roundFunction_bijOn c hp hcp sbox hsp _)
  haveI := Fact.mk hp
  refine ((linearLayer_rows_bijOn c hp hcp).comp ((hrounds (List.range' 1 c.level.rounds)).comp
    (addRoundKeyValues_bijOn (roundKey c xof 0 j)))).congr fun state _ => ?_
  simp only [Function.comp_apply, blockPermutation, rounds, hcp]

end Permutation

/-- A static S-box unset or built from `p` reads as an S-box over `p`. -/
theorem getD_sbox_p (c : YuSCipher) {p : ℕ} (hcp : c.p = p) {cache : Option SBox}
    (hcache : ∀ s ∈ cache, s.p = c.p) : (cache.getD c.sbox).p = p := by
  cases cache with
  | none => exact c.sbox_p.trans hcp
  | some s => exact (hcache s rfl).trans hcp

/-- For a prime modulus and a key of 36 words, block `j` of `generate_keystream` is its counter
vector under a permutation of `F_p^36` (the whitening, the rounds and the last linear layer),
without its first `m` words, while the static S-box is unset or built from `p`. -/
theorem keystreamBlock_eq_permutation (c : YuSCipher) (xof : Shake128) {p : ℕ} (hp : p.Prime)
    (hcp : c.p = p) (hK : c.masterKey.length = 36) {cache : Option SBox}
    (hcache : ∀ s ∈ cache, s.p = c.p) (j : Nat) :
    Set.BijOn (blockPermutation c xof (cache.getD c.sbox) j) (FieldVec p 36) (FieldVec p 36) ∧
    (c.keystreamBlock xof j).run' cache = some
      ((blockPermutation c xof (cache.getD c.sbox) j (c.counterVector j)).drop c.truncM.toNat) :=
  ⟨blockPermutation_bijOn c xof hp hcp _ (getD_sbox_p c hcp hcache) j,
    by rw [EStateM.run', keystreamBlock_run c xof hK cache j]; rfl⟩

/-- Block 0 of the keyed cipher over 65537 in a fresh process. -/
theorem keystreamBlock_eq_permutation_65537 :
    (Nat.Prime 65537 ∧ keyedCipher65537.p = (65537 : ℕ) ∧
      keyedCipher65537.masterKey.length = 36 ∧
      ∀ s ∈ (none : Option SBox), s.p = keyedCipher65537.p) ∧
    (Set.BijOn (blockPermutation keyedCipher65537 (fun _ _ => 0)
        ((none : Option SBox).getD keyedCipher65537.sbox) 0)
      (FieldVec (65537 : ℕ) 36) (FieldVec (65537 : ℕ) 36) ∧
    (keyedCipher65537.keystreamBlock (fun _ _ => 0) 0).run' none = some
      ((blockPermutation keyedCipher65537 (fun _ _ => 0)
        ((none : Option SBox).getD keyedCipher65537.sbox) 0
        (keyedCipher65537.counterVector 0)).drop keyedCipher65537.truncM.toNat)) :=
  ⟨⟨by norm_num, rfl, rfl, fun _ h => nomatch h⟩,
    keystreamBlock_eq_permutation keyedCipher65537 (fun _ _ => 0) (by norm_num) rfl rfl
      (by intro _ h; cases h) 0⟩

section Static

/-- A cipher over 65579, the least prime `≡ 2 (mod 3)` above `65537 + 36`, after `init` with the
zero key and the empty nonce. -/
def keyedCipher65579 : YuSCipher where
  p := 65579
  level := .SEC80
  truncM := 0
  masterKey := List.replicate 36 0
  sbox := ⟨65579, rfl⟩
  linearLayer := yusLayer
  rkGen := ⟨[]⟩
  p_2mod3 := rfl
  truncM_le := by decide
  p_ge := by norm_num
  sbox_p := rfl
  linearLayer_new := new_eq_yusLayer

/-- The first keystream of the keyed cipher over 65537 leaves the static holding
`SBox(65537)`. -/
theorem generateKeystream_static_65537 (xof : Shake128) :
    (keyedCipher65537.generateKeystream xof 1).run none =
      .ok (keystream keyedCipher65537 xof keyedCipher65537.sbox 1)
        (some keyedCipher65537.sbox) :=
  generateKeystream_run keyedCipher65537 xof rfl none 1

/-- With the static's `SBox(65537)`, blocks 0 and 65537 of the keyed cipher over 65579 are
equal: one permutation under the zero key, and counters that agree modulo 65537. -/
theorem block_static_eq (xof : Shake128) :
    block keyedCipher65579 xof keyedCipher65537.sbox 0 =
      block keyedCipher65579 xof keyedCipher65537.sbox 65537 := by
  rw [block, block, blockPermutation_of_zeroKey keyedCipher65579 xof rfl _ 65537]
  refine congrArg _ (blockPermutation_congr keyedCipher65579 xof _ 0 ?_)
  rw [roundKey_of_zeroKey keyedCipher65579 xof rfl]
  decide

/-- With `SBox(65579)`, blocks 0 and 65537 of the keyed cipher over 65579 differ: the block
permutation is injective and the two counters differ. -/
theorem block_fresh_ne (xof : Shake128) :
    block keyedCipher65579 xof keyedCipher65579.sbox 0 ≠
      block keyedCipher65579 xof keyedCipher65579.sbox 65537 := by
  rw [block, block, blockPermutation_of_zeroKey keyedCipher65579 xof rfl _ 65537]
  intro h
  have hinj := (blockPermutation_bijOn keyedCipher65579 xof (p := 65579) (by norm_num) rfl
    keyedCipher65579.sbox rfl 0).injOn (counterVector_mem keyedCipher65579 0)
    (counterVector_mem keyedCipher65579 65537)
  exact absurd (hinj h) (by decide)

/-- With the static's `SBox(65537)` the keyed cipher over 65579 returns another
`generate_keystream(65538)` than with `SBox(65579)`, whatever the XOF: its blocks 0 and 65537
are equal under the first and differ under the second. -/
theorem generateKeystream_static_ne (xof : Shake128) :
    (keyedCipher65579.generateKeystream xof 65538).run' (some keyedCipher65537.sbox) ≠
      (keyedCipher65579.generateKeystream xof 65538).run' none := by
  intro h
  rw [EStateM.run', EStateM.run', generateKeystream_run keyedCipher65579 xof rfl,
    generateKeystream_run keyedCipher65579 xof rfl] at h
  have hks : keystream keyedCipher65579 xof keyedCipher65537.sbox 65538 =
      keystream keyedCipher65579 xof keyedCipher65579.sbox 65538 := Option.some.inj h
  refine block_fresh_ne xof ?_
  rw [← block_eq_of_keystream_eq keyedCipher65579 xof hks 0 (by decide), block_static_eq,
    block_eq_of_keystream_eq keyedCipher65579 xof hks 65537 (by decide)]

/-- With the static holding `SBox(65537)`, `round_transform` of the keyed cipher over 65579 is
not injective on `F_65579^36`, whatever the round key: the zero state and `(65537, 0, …, 0)`
have one S-box layer. -/
theorem roundTransform_static_not_injOn (rk : List Int) : ¬ Set.InjOn
    (fun state => (keyedCipher65579.roundTransform state rk).run' (some keyedCipher65537.sbox))
    (FieldVec (65579 : ℕ) 36) := by
  intro hinj
  have hx : List.replicate 36 (0 : Int) ∈ FieldVec (65579 : ℕ) 36 := ⟨rfl, by decide⟩
  have hy : (65537 :: List.replicate 35 0 : List Int) ∈ FieldVec (65579 : ℕ) 36 :=
    ⟨rfl, by decide⟩
  have hlayer : layerOutput keyedCipher65537.sbox (List.replicate 36 0) =
      layerOutput keyedCipher65537.sbox (65537 :: List.replicate 35 0) :=
    layerOutput_congr _ (by decide)
  have heq := hinj hx hy (by
    simp only [EStateM.run', roundTransform_congr keyedCipher65579 hx.1 hy.1 hlayer])
  exact absurd heq (by decide)

end Static

end YusVerif.Keystream
