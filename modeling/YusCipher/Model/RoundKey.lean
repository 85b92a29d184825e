import YusCipher.Model.Utils

/-!
# Round constants and round keys of `round_key.cpp`

A round constant is drawn from SHAKE128 on the nonce followed by the block index and the round
index, each four bytes little-endian; its 288 output bytes are read as 36 big-endian words,
reduced modulo `p`, with zero replaced by one. A round key multiplies the master key by a
round constant word by word, and `add_round_key` adds a round key to the state, both modulo
`p`. SHAKE128 comes from OpenSSL and is not part of the repository: it is a parameter, the
byte at each position of the output stream of an input, so every result here holds for any
extendable-output function. OpenSSL's failure paths are those of the host, not of the cipher,
and are not modelled.
-/

namespace Yus

/-- An extendable-output function: the byte at each position of the output of an input. -/
abbrev Shake128 := List UInt8 → Nat → UInt8

/-- `RoundKeyGenerator` — the nonce it hashes. -/
structure RoundKeyGenerator where
  /-- `nonce_`. -/
  nonce : List UInt8

namespace RoundKeyGenerator

/-- `RoundKeyGenerator::shake128_xof` — the first `outputLen` bytes of the output. -/
def shake128Xof (xof : Shake128) (input : List UInt8) (outputLen : Nat) : List UInt8 :=
  (List.range outputLen).map (xof input)

/-- The byte loop of `generate_round_constant`: `(x >> (k * 8)) & 0xFF` for `k < 4`. -/
def leBytes32 (x : UInt32) : List UInt8 :=
  (List.range 4).map fun k => ((x >>> (k * 8).toUInt32) &&& 0xFF).toUInt8

/-- The input of `generate_round_constant`: the nonce, then `j` and `i` little-endian. -/
def roundConstantInput (nonce : List UInt8) (i j : UInt32) : List UInt8 :=
  nonce ++ leBytes32 j ++ leBytes32 i

/-- `RoundKeyGenerator::generate_round_constant` — round `i`, block `j`. -/
def generateRoundConstant (gen : RoundKeyGenerator) (xof : Shake128) (i j : UInt32)
    (p : Int) : List Int :=
  let rcBytes := shake128Xof xof (roundConstantInput gen.nonce i j) (36 * 8)
  (List.range 36).map fun k =>
    let rc := mod (bytesToMpz ((rcBytes.drop (k * 8)).take 8)) p
    if rc = 0 then 1 else rc

/-- The loop of `generate_round_key`: word-wise products modulo `p`. -/
def roundKeyValues (masterKey roundConstant : List Int) (p : Int) : List Int :=
  (List.range 36).map fun k => mod (masterKey.getD k 0 * roundConstant.getD k 0) p

/-- `RoundKeyGenerator::generate_round_key` — both inputs must have 36 words. -/
def generateRoundKey (masterKey roundConstant : List Int) (p : Int) :
    Except Exception (List Int) :=
  if masterKey.length ≠ 36 ∨ roundConstant.length ≠ 36 then
    .error (.invalidArgument "Master key/round constant must be 36 elements")
  else .ok (roundKeyValues masterKey roundConstant p)

end RoundKeyGenerator

/-- The loop of `add_round_key`: word-wise sums modulo `p`. -/
def addRoundKeyValues (state roundKey : List Int) (p : Int) : List Int :=
  (List.range 36).map fun k => mod (state.getD k 0 + roundKey.getD k 0) p

/-- `add_round_key` — both inputs must have 36 words. -/
def addRoundKey (state roundKey : List Int) (p : Int) : Except Exception (List Int) :=
  if state.length ≠ 36 ∨ roundKey.length ≠ 36 then
    .error (.invalidArgument "State/round key must be 36 elements")
  else .ok (addRoundKeyValues state roundKey p)

end Yus
