import YusCipher.Model.Utils
import Mathlib.Data.Nat.Prime.Infinite
import Mathlib.Data.Nat.Find

/-!
# `generate_prime` of `utils.cpp`

`generate_prime(bits)` seeds GMP's generator from `RAND_bytes`, throwing when that fails, and
then runs a do-while loop: draw `x` with `mpz_urandomb(state, bits)`, a value in `[0, 2^bits)`,
take `p = mpz_nextprime(x)`, the least prime above `x`, and draw again unless `p ≡ 2 (mod 3)`
and `p ≥ 2^16`. The generator's outputs are a parameter: a list of them runs the loop for as
many iterations, and the result is `none` while the loop has not exited. GMP's `nextprime`
applies a probabilistic test; it is modelled as the exact next prime.
-/

namespace Yus

/-- `mpz_nextprime` — the least prime greater than `n`. -/
def nextPrime (n : Nat) : Nat := Nat.find (Nat.exists_infinite_primes (n + 1))

/-- `mpz_urandomb(rop, state, bits)` — the low `bits` bits of the generator's next output. -/
def urandomb (bits : UInt32) (output : Nat) : Nat := output % 2 ^ bits.toNat

/-- The condition of the do-while loop: `!is_p_2mod3(p) || p < (1 << 16)`. -/
def drawAgain (p : Nat) : Bool := !isP2mod3 p || decide (p < 65536)

/-- The do-while loop over the generator's outputs, in order: the first candidate the loop
condition lets through, or `none` when the outputs run out before the loop exits. -/
def primeLoop (bits : UInt32) : List Nat → Option Nat
  | [] => none
  | output :: outputs =>
    let p := nextPrime (urandomb bits output)
    if drawAgain p then primeLoop bits outputs else some p

/-- `generate_prime` — throws when `RAND_bytes` cannot seed the generator, and otherwise runs
the loop over the generator's outputs. -/
def generatePrime (bits : UInt32) (seeded : Bool) (outputs : List Nat) :
    Except Exception (Option Nat) :=
  if seeded then .ok (primeLoop bits outputs)
  else .error (.runtimeError "Failed to generate secure random seed")

end Yus
