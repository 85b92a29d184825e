import YusCipher.Model.Prime
import YusCipher.Verif.Field
import Mathlib.Tactic.NormNum.Prime

/-!
# When the loop of `generate_prime` exits

A draw below `2^15` has a next prime below `2^16`, since 32771 is prime: for `bits ≤ 15` every
candidate fails the test `p ≥ 2^16`, and the do-while loop runs forever. For `bits ≥ 16` the
draw 65535 gives `nextprime(65535) = 65537`, which is `2 mod 3`, so the loop can exit. Whenever
it exits, it returns a prime `p ≡ 2 (mod 3)` with `p ≥ 2^16`.
-/

open Yus YusVerif.Field

namespace YusVerif.Prime

/-- `nextprime(n)` is a prime above `n`, and no prime above `n` is smaller. -/
theorem nextPrime_spec (n : Nat) :
    n < nextPrime n ∧ (nextPrime n).Prime ∧ ∀ q, n < q → q.Prime → nextPrime n ≤ q := by
  have hfind := Nat.find_spec (Nat.exists_infinite_primes (n + 1))
  exact ⟨hfind.1, hfind.2, fun q hq hprime => Nat.find_min' _ ⟨hq, hprime⟩⟩

/-- Below `2^15` the next prime is below `2^16`: 32771 is prime. -/
theorem nextPrime_lt_of_lt {x : Nat} (hx : x < 32768) : nextPrime x < 65536 :=
  lt_of_le_of_lt ((nextPrime_spec x).2.2 32771 (by omega) (by norm_num)) (by norm_num)

/-- `nextprime(65535) = 65537`: 65536 is even. -/
theorem nextPrime_65535 : nextPrime 65535 = 65537 := by
  rw [nextPrime, Nat.find_eq_iff]
  refine ⟨⟨by norm_num, by norm_num⟩, fun n hn hcand => ?_⟩
  obtain rfl : n = 65536 := by omega
  exact absurd hcand.2 (by norm_num)

/-- A candidate the loop condition lets through is `2 mod 3` and at least `2^16`. -/
theorem of_drawAgain_eq_false {p : Nat} (h : drawAgain p = false) : p % 3 = 2 ∧ 65536 ≤ p := by
  simp only [drawAgain, Bool.or_eq_false_iff, Bool.not_eq_false', decide_eq_false_iff_not,
    not_lt] at h
  refine ⟨?_, h.2⟩
  have := (isP2mod3_iff (Int.ofNat_nonneg p)).mp h.1
  omega

/-- When the loop exits, it returns a prime `p ≡ 2 (mod 3)` with `p ≥ 2^16`. -/
theorem primeLoop_spec (bits : UInt32) : ∀ (outputs : List Nat) {p : Nat},
    primeLoop bits outputs = some p → p.Prime ∧ p % 3 = 2 ∧ 65536 ≤ p
  | [], _, h => nomatch h
  | output :: outputs, p, h => by
    simp only [primeLoop] at h
    split at h
    · exact primeLoop_spec bits outputs h
    · cases h
      exact ⟨(nextPrime_spec _).2.1, of_drawAgain_eq_false (Bool.eq_false_iff.mpr ‹_›)⟩

/-- With `bits ≤ 15` the loop never exits, whatever the generator returns. -/
theorem primeLoop_eq_none {bits : UInt32} (hbits : bits.toNat < 16) :
    ∀ outputs : List Nat, primeLoop bits outputs = none
  | [] => rfl
  | output :: outputs => by
    have hdraw : urandomb bits output < 32768 :=
      lt_of_lt_of_le (Nat.mod_lt _ (by positivity))
        (Nat.pow_le_pow_right (by decide) (by omega : bits.toNat ≤ 15))
    have hagain : drawAgain (nextPrime (urandomb bits output)) = true := by
      simp [drawAgain, nextPrime_lt_of_lt hdraw]
    simp only [primeLoop, hagain, if_true]
    exact primeLoop_eq_none hbits outputs

/-- The exit of the loop of `generate_prime` is reachable, that is some draw in `[0, 2^bits)`
gives a candidate `≡ 2 (mod 3)` and `≥ 2^16`, exactly when `bits ≥ 16`; for smaller `bits` the
seeded loop never exits, and whenever it exits it returns a prime `≡ 2 (mod 3)`, `≥ 2^16`. -/
theorem generatePrime_exit_iff (bits : UInt32) :
    ((∃ x < 2 ^ bits.toNat, drawAgain (nextPrime x) = false) ↔ 16 ≤ bits.toNat) ∧
    (bits.toNat < 16 → ∀ outputs, generatePrime bits true outputs = .ok none) ∧
    ∀ seeded outputs p, generatePrime bits seeded outputs = .ok (some p) →
      p.Prime ∧ p % 3 = 2 ∧ 65536 ≤ p := by
  refine ⟨⟨fun ⟨x, hx, hexit⟩ => ?_, fun hbits => ⟨65535, ?_, ?_⟩⟩,
    fun hbits outputs => ?_, fun seeded outputs p h => ?_⟩
  · by_contra hbits
    have hx' : x < 32768 := lt_of_lt_of_le hx
      (Nat.pow_le_pow_right (by decide) (by omega : bits.toNat ≤ 15))
    have := (of_drawAgain_eq_false hexit).2
    have := nextPrime_lt_of_lt hx'
    omega
  · exact lt_of_lt_of_le (by norm_num) (Nat.pow_le_pow_right (by decide) hbits)
  · rw [nextPrime_65535]
    decide
  · rw [generatePrime, if_pos rfl, primeLoop_eq_none hbits]
  · unfold generatePrime at h
    split at h
    · exact primeLoop_spec bits outputs (Except.ok.inj h)
    · cases h

end YusVerif.Prime
