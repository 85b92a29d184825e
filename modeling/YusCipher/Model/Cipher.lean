import YusCipher.Model.SBox
import YusCipher.Model.LinearLayer
import YusCipher.Model.RoundKey

/-!
# The keystream engine of `yus_core.cpp`

`YuSCipher` holds the modulus, the security level, the truncation width, the master key and
its three components. The constructor's checks are fields of the structure, so that every
value is one the constructor can return; `init` and `generate_keystream` change neither the
modulus, nor the level, nor the width. `init` is a program on the cipher, and the
keystream functions are programs on the static S-box of `apply_sbox_layer`, the only state
they change. A block whitens the counter vector with the round-0 key, runs the rounds
`1..R`, applies the linear layer once more and drops the first `m` words.
-/

namespace Yus

/-- `SecurityLevel` — the enumerators' values are the round counts. -/
inductive SecurityLevel where
  /-- Five rounds. -/
  | SEC80
  /-- Six rounds. -/
  | SEC128
  deriving DecidableEq, Repr

/-- `static_cast<uint32_t>(level)`. -/
def SecurityLevel.rounds : SecurityLevel → Nat
  | .SEC80 => 5
  | .SEC128 => 6

/-- `YuSCipher` — its members, with the facts its constructor checked. -/
structure YuSCipher where
  /-- `p_`. -/
  p : Int
  /-- `level_`. -/
  level : SecurityLevel
  /-- `trunc_m_`. -/
  truncM : UInt32
  /-- `master_key_`, empty until `init` succeeds. -/
  masterKey : List Int
  /-- `sbox_`, built by the constructor and read by no method. -/
  sbox : SBox
  /-- `linear_layer_`. -/
  linearLayer : LinearLayer
  /-- `rk_gen_`. -/
  rkGen : RoundKeyGenerator
  /-- The constructor's check `is_p_2mod3(p)`. -/
  p_2mod3 : isP2mod3 p = true
  /-- The constructor's check on `trunc_m`. -/
  truncM_le : truncM ≤ 36
  /-- The constructor's check `p >= (1 << 16)`, that is `p ≥ 65536`. -/
  p_ge : 65536 ≤ p
  /-- `sbox_(p)`. -/
  sbox_p : sbox.p = p
  /-- `linear_layer_()`. -/
  linearLayer_new : LinearLayer.new = .ok linearLayer

namespace YuSCipher

/-- `YuSCipher::YuSCipher` — the members first (the S-box may throw), then the checks. -/
def new (p : Int) (level : SecurityLevel) (truncM : UInt32) : Except Exception YuSCipher :=
  match hs : SBox.new p with
  | .error e => .error e
  | .ok sbox =>
    match hl : LinearLayer.new with
    | .error e => .error e
    | .ok linearLayer =>
      if hp : isP2mod3 p = true then
        if hm : truncM > 36 then .error (.invalidArgument "Truncation m must be ≤36")
        else if hb : p < 65536 then .error (.invalidArgument "Prime p must be > 16 bits")
        else .ok
          { p := p, level := level, truncM := truncM, masterKey := [], sbox := sbox,
            linearLayer := linearLayer, rkGen := ⟨[]⟩, p_2mod3 := hp,
            truncM_le := UInt32.not_lt.mp hm, p_ge := Int.not_lt.mp hb,
            sbox_p := SBox.new_p hs, linearLayer_new := hl }
      else .error (.invalidArgument "Prime p must satisfy p ≡ 2 mod 3")

/-- `YuSCipher::init` — checks the key, then stores it and a generator for the nonce. -/
def init (masterKey : List Int) (nonce : List UInt8) : EStateM Exception YuSCipher Unit := do
  if masterKey.length ≠ 36 then
    throw (.invalidArgument "Master key must be 36 elements (F_p^36)")
  modify fun c => { c with masterKey := masterKey }
  modify fun c => { c with rkGen := ⟨nonce⟩ }

/-- `YuSCipher::round_transform` — the S-box layer, the linear layer, the round key. -/
def roundTransform (c : YuSCipher) (state roundKey : List Int) :
    EStateM Exception (Option SBox) (List Int) := do
  let sboxOut ← applySboxLayer state c.p
  let linearOut ← ofExcept (c.linearLayer.apply sboxOut c.p)
  ofExcept (addRoundKey linearOut roundKey c.p)

/-- `YuSCipher::truncate` — checks the length, then drops the first `trunc_m` words. -/
def truncate (c : YuSCipher) (state : List Int) : Except Exception (List Int) :=
  if state.length ≠ 36 then .error (.invalidArgument "Truncation input must be 36 elements")
  else .ok (state.drop c.truncM.toNat)

/-- `YuSCipher::key_whitening` — adds the round key of round 0 of the block. -/
def keyWhitening (c : YuSCipher) (xof : Shake128) (state : List Int) (blockIndex : UInt32) :
    Except Exception (List Int) := do
  let rc0 := c.rkGen.generateRoundConstant xof 0 blockIndex c.p
  let rk0 ← RoundKeyGenerator.generateRoundKey c.masterKey rc0 c.p
  addRoundKey state rk0 c.p

/-- The counter vector `CV_j[i] = mod(i + 1 + j, p)` of block `j`. -/
def counterVector (c : YuSCipher) (j : Nat) : List Int :=
  (List.range 36).map fun i => mod ((i + 1 : Nat) + (j : Int)) c.p

/-- The body of the block loop of `generate_keystream` for block `j`. -/
def keystreamBlock (c : YuSCipher) (xof : Shake128) (j : Nat) :
    EStateM Exception (Option SBox) (List Int) := do
  let state ← ofExcept (c.keyWhitening xof (c.counterVector j) j.toUInt32)
  let state ← (List.range' 1 c.level.rounds).foldlM (fun state r => do
    let rc := c.rkGen.generateRoundConstant xof r.toUInt32 j.toUInt32 c.p
    let rk ← ofExcept (RoundKeyGenerator.generateRoundKey c.masterKey rc c.p)
    c.roundTransform state rk) state
  let finalLinear ← ofExcept (c.linearLayer.apply state c.p)
  ofExcept (c.truncate finalLinear)

/-- `YuSCipher::generate_keystream` — fails before `init`, then concatenates the blocks
`0, …, blockCount − 1`. -/
def generateKeystream (c : YuSCipher) (xof : Shake128) (blockCount : UInt32) :
    EStateM Exception (Option SBox) (List Int) := do
  if c.masterKey.isEmpty then
    throw (.runtimeError "YuSCipher not initialized with master key")
  (List.range blockCount.toNat).foldlM (fun keystream j => do
    let block ← c.keystreamBlock xof j
    return keystream ++ block) []

end YuSCipher

end Yus
