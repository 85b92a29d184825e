import Mathlib.Data.Int.Defs

/-!
# GMP helpers of `utils.cpp`

The cipher computes with `mpz_class` values, so a field element, a key word and a counter are
integers here. GMP's `%` on `mpz_class` truncates toward zero, which is `Int.tmod`; the safe
remainder `mod` moves a negative remainder into `[0, p)`. The byte conversions are
`mpz_import` and `mpz_export` with one-byte words, most significant word first. Exceptions of
the C++ code are values of `Exception`, with the message the code passes to the constructor.
-/

namespace Yus

/-- The two standard exceptions the cipher throws, each with its message. -/
inductive Exception where
  /-- `std::invalid_argument`. -/
  | invalidArgument (what : String)
  /-- `std::runtime_error`. -/
  | runtimeError (what : String)
  deriving DecidableEq, Repr

/-- `mod` — GMP's truncating remainder, moved up by `p` when it is negative. -/
def mod (a p : Int) : Int :=
  let res := a.tmod p
  if res < 0 then res + p else res

/-- `is_p_2mod3` — the truncating remainder of `p` by three is two. -/
def isP2mod3 (p : Int) : Bool :=
  p.tmod 3 == 2

/-- `bytes_to_mpz` — `mpz_import` of one-byte words, most significant first. -/
def bytesToMpz (bytes : List UInt8) : Int :=
  bytes.foldl (fun num byte => num * 256 + byte.toNat) 0

/-- `mpz_sizeinbase(num, 2)` — the bit length of `|num|`, and one for zero. -/
def sizeInBase2 (num : Int) : Nat :=
  if num = 0 then 1 else num.natAbs.log2 + 1

/-- `mpz_export` of one-byte words, most significant first: the bytes of `|num|`, as many as
its bit length needs, and none for zero. -/
def mpzExport (num : Int) : List UInt8 :=
  if num = 0 then []
  else
    let count := (sizeInBase2 num + 7) / 8
    (List.range count).reverse.map fun k => ((num.natAbs >>> (8 * k)) % 256).toUInt8

/-- `mpz_to_bytes` — a zeroed buffer of `⌊bits / 8⌋ + 1` bytes, with the exported bytes
written at its start. -/
def mpzToBytes (num : Int) : List UInt8 :=
  let len := sizeInBase2 num / 8 + 1
  let exported := mpzExport num
  exported ++ List.replicate (len - exported.length) 0

end Yus
