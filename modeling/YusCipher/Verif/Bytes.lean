import YusCipher.Model.Utils
import Mathlib.Tactic.Ring

/-!
# The byte conversions of `utils.cpp`

`mpz_export` writes the bytes of `|n|` that its bit length needs, most significant first, and
`bytes_to_mpz` reads bytes most significant first: read back, the exported bytes give `|n|`.
`mpz_to_bytes` sizes its buffer `⌊bits / 8⌋ + 1`, one byte more than `mpz_export` writes when
the bit length is a multiple of 8, and the spare byte stays zero after the exported ones, at
the least significant end. Reading the buffer back then gives `256 · |n|`: the round trip
holds exactly when the bit length of `n` is not a multiple of 8 (zero included, whose
`mpz_sizeinbase` is 1).
-/

open Yus

namespace YusVerif.Bytes

/-- The step of `bytes_to_mpz`: shift the value by a byte and add the next one. -/
def importStep (num : Int) (byte : UInt8) : Int := num * 256 + byte.toNat

/-- `bytes_to_mpz` is the fold of its step from zero. -/
theorem bytesToMpz_eq_foldl (bytes : List UInt8) :
    bytesToMpz bytes = bytes.foldl importStep 0 := rfl

/-- Byte `k` of `mpz_export` is digit `k` of `|n|` in base 256. -/
theorem toNat_exportByte (a k : Nat) :
    ((a >>> (8 * k)) % 256).toUInt8.toNat = a / 256 ^ k % 256 := by
  have hdigit : (a >>> (8 * k)) % 256 < 256 := Nat.mod_lt _ (by decide)
  rw [Nat.toUInt8, UInt8.toNat_ofNat_of_lt hdigit, Nat.shiftRight_eq_div_pow, pow_mul]
  rfl

/-- Reading the lowest `c` digits of `a`, most significant first, after a value `acc`. -/
theorem foldl_digits (a : Nat) : ∀ (c : Nat) (acc : Int),
    ((List.range c).reverse.map fun k => ((a >>> (8 * k)) % 256).toUInt8).foldl importStep acc =
      acc * 256 ^ c + (a % 256 ^ c : Nat)
  | 0, acc => by simp
  | c + 1, acc => by
    simp only [List.range_succ, List.reverse_append, List.reverse_cons, List.reverse_nil,
      List.nil_append, List.singleton_append, List.map_cons, List.foldl_cons]
    rw [foldl_digits a c, importStep, toNat_exportByte, Nat.mod_pow_succ]
    push_cast
    ring

/-- Zero bytes after a value multiply it by 256 each. -/
theorem foldl_zeros (k : Nat) : ∀ acc : Int,
    (List.replicate k (0 : UInt8)).foldl importStep acc = acc * 256 ^ k := by
  induction k with
  | zero => simp
  | succ k ih =>
    intro acc
    rw [List.replicate_succ, List.foldl_cons, ih, importStep]
    simp only [UInt8.toNat_zero, Nat.cast_zero, add_zero]
    ring

/-- The bytes of `mpz_export` read back to `|n|`. -/
theorem bytesToMpz_mpzExport (n : Int) : bytesToMpz (mpzExport n) = n.natAbs := by
  by_cases hn : n = 0
  · simp [hn, mpzExport, bytesToMpz]
  · have hbits : n.natAbs < 256 ^ ((sizeInBase2 n + 7) / 8) := by
      rw [sizeInBase2, if_neg hn, show (256 : Nat) = 2 ^ 8 from rfl, ← pow_mul]
      exact lt_of_lt_of_le Nat.lt_log2_self (Nat.pow_le_pow_right (by decide) (by omega))
    rw [mpzExport, if_neg hn, bytesToMpz_eq_foldl, foldl_digits, Nat.mod_eq_of_lt hbits]
    simp

/-- `mpz_sizeinbase(n, 2)` is the bit length of `|n|`. -/
theorem sizeInBase2_eq {n : Int} {b : Nat} (hlo : 2 ^ b ≤ n.natAbs)
    (hhi : n.natAbs < 2 ^ (b + 1)) : sizeInBase2 n = b + 1 := by
  have hn : n.natAbs ≠ 0 := by have := Nat.one_le_two_pow (n := b); omega
  have hle := (Nat.log2_lt hn).mpr hhi
  have hge := mt (Nat.log2_lt hn).mp (Nat.not_lt.mpr hlo)
  rw [sizeInBase2, if_neg (Int.natAbs_ne_zero.mp hn)]
  omega

/-- `mpz_export` writes `⌈bits / 8⌉` bytes for a non-zero integer. -/
theorem length_mpzExport {n : Int} (hn : n ≠ 0) :
    (mpzExport n).length = (sizeInBase2 n + 7) / 8 := by
  simp [mpzExport, hn]

/-- Reading back the buffer of `mpz_to_bytes` gives `|n|`, times 256 when the bit length of
`n` is a multiple of 8: the buffer then has one zero byte after the exported ones. -/
theorem bytesToMpz_mpzToBytes (n : Int) :
    bytesToMpz (mpzToBytes n) =
      if sizeInBase2 n % 8 = 0 then 256 * n.natAbs else n.natAbs := by
  by_cases hn : n = 0
  · simp [hn, mpzToBytes, mpzExport, sizeInBase2, bytesToMpz, importStep]
  have hspare : sizeInBase2 n / 8 + 1 - (mpzExport n).length =
      if sizeInBase2 n % 8 = 0 then 1 else 0 := by
    rw [length_mpzExport hn]
    split <;> omega
  rw [mpzToBytes, bytesToMpz_eq_foldl, List.foldl_append, ← bytesToMpz_eq_foldl,
    bytesToMpz_mpzExport, hspare, foldl_zeros]
  split <;> push_cast <;> ring

/-- 255 has 8 bits: its buffer is `[0xFF, 0x00]`, read back as `255 · 256`. -/
theorem bytesToMpz_mpzToBytes_255 : bytesToMpz (mpzToBytes 255) = 65280 := by
  rw [bytesToMpz_mpzToBytes, sizeInBase2_eq (b := 7) (by decide) (by decide)]
  decide

end YusVerif.Bytes
