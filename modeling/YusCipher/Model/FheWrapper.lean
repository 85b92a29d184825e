import YusCipher.Model.Utils
import Mathlib.Data.Int.Bitwise

/-!
# The plaintext packing of `fhe_wrapper.cpp`

`FHEWrapper` checks its security level and plain modulus, then hands the parameters to HElib
(BGV) or SEAL (BFV); key generation, encryption, decryption and the homomorphic evaluation are
those libraries' and are not modelled. Its own logic is `pack_plaintext`: for BFV it returns
the data, and for BGV it cuts the data into batches of `getNSlots()` words and packs each batch
into one integer, shifting the batch left by the bit length of the plain modulus before or-ing
in the next word. HElib's slot count is a parameter. The `uint32_t` variables of the loop are
the `% UInt32.size` below; `data.size()` and the sum it is part of are `size_t`, wide enough
here to be natural numbers.
-/

namespace Yus

/-- `FHE_SCHEME`. -/
inductive FheScheme where
  /-- HElib's BGV. -/
  | BGV
  /-- SEAL's BFV. -/
  | BFV
  deriving DecidableEq, Repr

/-- `FHEParams` — the fields the wrapper's own code reads. -/
structure FheParams where
  /-- `security_level`. -/
  securityLevel : UInt32
  /-- `plain_modulus`. -/
  plainModulus : Int

/-- `FHEWrapper` — its scheme and parameters, with the facts its constructor checked. -/
structure FHEWrapper where
  /-- `scheme_`. -/
  scheme : FheScheme
  /-- `params_`. -/
  params : FheParams
  /-- The constructor's check on `security_level`. -/
  securityLevel_ok : params.securityLevel = 80 ∨ params.securityLevel = 128
  /-- The constructor's check `is_p_2mod3(plain_modulus)`. -/
  plainModulus_2mod3 : isP2mod3 params.plainModulus = true

namespace FHEWrapper

/-- `FHEWrapper::FHEWrapper` — the two checks, before the library is initialised. -/
def new (scheme : FheScheme) (params : FheParams) : Except Exception FHEWrapper :=
  if hs : params.securityLevel ≠ 80 ∧ params.securityLevel ≠ 128 then
    .error (.invalidArgument "Security level must be 80 or 128")
  else if hp : isP2mod3 params.plainModulus = true then
    .ok ⟨scheme, params, by tauto, hp⟩
  else .error (.invalidArgument "Plain modulus must satisfy p ≡ 2 mod 3")

/-- The inner loop of `pack_plaintext`: `batch = (batch << elem_bits) | data[j]` for
`start ≤ j < end`, from zero. -/
def packBatch (data : List Int) (elemBits start stop : Nat) : Int :=
  (List.range' start (stop - start)).foldl
    (fun batch j => Int.lor (batch <<< (elemBits : Int)) (data.getD j 0)) 0

/-- `FHEWrapper::pack_plaintext`, with `nslots` the slot count of HElib's context. -/
def packPlaintext (w : FHEWrapper) (nslots : Nat) (data : List Int) : List Int :=
  match w.scheme with
  | .BFV => data
  | .BGV =>
    let batchSize := nslots % UInt32.size
    let numBatches := (data.length + batchSize - 1) / batchSize % UInt32.size
    (List.range numBatches).map fun i =>
      let start := i * batchSize % UInt32.size
      let stop := min ((start + batchSize) % UInt32.size) (data.length % UInt32.size)
      let elemBits := sizeInBase2 w.params.plainModulus % UInt32.size
      packBatch data elemBits start stop

end FHEWrapper

end Yus
