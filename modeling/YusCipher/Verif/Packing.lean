import YusCipher.Model.FheWrapper
import YusCipher.Verif.Field

/-!
# `pack_plaintext` loses nothing on residues, and leaves the plaintext space

For BGV, `pack_plaintext` packs each batch of `b = getNSlots()` words `d₀, …, d_{k−1}` into
`(…(d₀ << e | d₁) << e | …) | d_{k−1}`, with `e` the bit length of the plain modulus `p`. A
residue has fewer than `e` bits, so the batch is the integer with base-`2^e` digits
`d₀, …, d_{k−1}`, and reading the digits back with the loop's batch sizes returns the data
while no `uint32_t` wraps. A non-zero word before the last of a batch weighs at least
`2^e > p`, so a packed batch is a residue of `p` only when its other words are zero.
-/

open Yus Yus.FHEWrapper YusVerif.Field

namespace YusVerif.Packing

section Wrapper

/-- The constructor returns a wrapper exactly when its checks pass, and the wrapper keeps the
scheme and parameters it was given. -/
theorem new_eq_ok_iff (scheme : FheScheme) (params : FheParams) (w : FHEWrapper) :
    FHEWrapper.new scheme params = .ok w ↔ w.scheme = scheme ∧ w.params = params := by
  obtain ⟨s, q, hl, hm⟩ := w
  rw [FHEWrapper.new]
  split_ifs with hs hp
  · simp only [false_iff, not_and]
    rintro - rfl
    tauto
  · simp only [Except.ok.injEq, FHEWrapper.mk.injEq, eq_comm]
  · simp only [false_iff, not_and]
    rintro - rfl
    exact hp hm

end Wrapper

section Batch

/-- On naturals, `batch << e | d` with `d < 2^e` is `batch · 2^e + d`. -/
theorem lor_shiftLeft_natCast (m n e : ℕ) (hn : n < 2 ^ e) :
    Int.lor ((m : ℤ) <<< (e : ℤ)) (n : ℤ) = (m : ℤ) * (2 ^ e : ℕ) + n := by
  rw [Int.shiftLeft_eq_mul_pow, ← Nat.cast_mul, ← Nat.cast_add, Nat.mul_comm,
    Nat.mul_add_lt_is_or hn]
  rfl

/-- The integer whose base-`2^e` digits, most significant first, are `ds`. -/
def horner (elemBits : ℕ) (ds : List Int) : Int :=
  ds.foldl (fun batch d => batch * (2 ^ elemBits : ℕ) + d) 0

/-- The inner loop over indices whose words are `e`-bit digits adds them as digits. -/
theorem foldl_lor_eq (data : List Int) (e : ℕ) : ∀ (js : List ℕ) (b : Int), 0 ≤ b →
    (∀ j ∈ js, 0 ≤ data.getD j 0 ∧ data.getD j 0 < (2 ^ e : ℕ)) →
    js.foldl (fun batch j => Int.lor (batch <<< (e : Int)) (data.getD j 0)) b =
      (js.map fun j => data.getD j 0).foldl
        (fun (batch d : Int) => batch * ((2 ^ e : ℕ) : Int) + d) b
  | [], _, _, _ => rfl
  | j :: js, b, hb, hd => by
    obtain ⟨m, rfl⟩ := Int.eq_ofNat_of_zero_le hb
    obtain ⟨h0, h1⟩ := hd j (List.mem_cons_self _ _)
    obtain ⟨n, hn⟩ := Int.eq_ofNat_of_zero_le h0
    have hlt : n < 2 ^ e := by omega
    rw [List.foldl_cons, List.map_cons, List.foldl_cons, hn, lor_shiftLeft_natCast m n e hlt]
    exact foldl_lor_eq data e js _ (by positivity) fun j hj => hd j (List.mem_cons_of_mem _ hj)

/-- The words at `start, …, start + n − 1` are a slice of the data. -/
theorem map_getD_range' (data : List Int) {start n : ℕ} (h : start + n ≤ data.length) :
    (List.range' start n).map (fun j => data.getD j 0) = (data.drop start).take n := by
  apply List.ext_getElem (by simp; omega)
  intro i h1 h2
  simp only [List.getElem_map, List.getElem_range', List.getElem_take, List.getElem_drop]
  rw [List.getD_eq_getElem _ _ (by simp at h1; omega)]
  simp

/-- A batch of `e`-bit words is the integer with those digits. -/
theorem packBatch_eq_horner (data : List Int) {e start stop : ℕ} (hstart : start ≤ stop)
    (hstop : stop ≤ data.length)
    (hdata : ∀ x ∈ data, 0 ≤ x ∧ x < (2 ^ e : ℕ)) :
    packBatch data e start stop = horner e ((data.drop start).take (stop - start)) := by
  rw [packBatch, foldl_lor_eq data e _ 0 le_rfl, map_getD_range' data (by omega), horner]
  intro j hj
  rw [List.mem_range'_1] at hj
  rw [List.getD_eq_getElem _ _ (by omega)]
  exact hdata _ (List.getElem_mem _)

/-- Appending a digit shifts the number by one digit. -/
theorem horner_append_singleton (e : ℕ) (ds : List Int) (d : Int) :
    horner e (ds ++ [d]) = horner e ds * (2 ^ e : ℕ) + d := by
  rw [horner, List.foldl_append, List.foldl_cons, List.foldl_nil, ← horner]

/-- Splits a batch into `count` words of `e` bits, most significant first. -/
def unpackBatch (elemBits : ℕ) : ℕ → Int → List Int
  | 0, _ => []
  | count + 1, batch =>
    unpackBatch elemBits count (batch / (2 ^ elemBits : ℕ)) ++ [batch % (2 ^ elemBits : ℕ)]

/-- Splitting the integer of `e`-bit digits into as many words returns the digits. -/
theorem unpackBatch_horner (e : ℕ) (ds : List Int)
    (hds : ∀ d ∈ ds, 0 ≤ d ∧ d < (2 ^ e : ℕ)) :
    unpackBatch e ds.length (horner e ds) = ds := by
  induction ds using List.reverseRecOn with
  | nil => rfl
  | append_singleton ds d ih =>
    have hd := hds d (List.mem_append_right _ (List.mem_singleton_self d))
    have hpos : (0 : Int) < (2 ^ e : ℕ) := by positivity
    rw [List.length_append, List.length_singleton, unpackBatch, horner_append_singleton]
    have hdiv :
        (horner e ds * ((2 ^ e : ℕ) : Int) + d) / ((2 ^ e : ℕ) : Int) = horner e ds := by
      rw [add_comm, Int.add_mul_ediv_right _ _ hpos.ne', Int.ediv_eq_zero_of_lt hd.1 hd.2,
        zero_add]
    have hmod : (horner e ds * ((2 ^ e : ℕ) : Int) + d) % ((2 ^ e : ℕ) : Int) = d := by
      rw [add_comm, Int.add_mul_emod_self, Int.emod_eq_of_lt hd.1 hd.2]
    rw [hdiv, hmod, ih fun x hx => hds x (List.mem_append_left _ hx)]

/-- A number with nonnegative digits is nonnegative, and zero exactly when all its digits are. -/
theorem horner_nonneg_and_eq_zero_iff (e : ℕ) (ds : List Int) (hds : ∀ d ∈ ds, 0 ≤ d) :
    0 ≤ horner e ds ∧ (horner e ds = 0 ↔ ∀ d ∈ ds, d = 0) := by
  induction ds using List.reverseRecOn with
  | nil => simp [horner]
  | append_singleton ds d ih =>
    obtain ⟨h0, hiff⟩ := ih fun x hx => hds x (List.mem_append_left _ hx)
    have hd := hds d (List.mem_append_right _ (List.mem_singleton_self d))
    have hpos : (0 : Int) < (2 ^ e : ℕ) := by positivity
    rw [horner_append_singleton, List.forall_mem_append, List.forall_mem_singleton, ← hiff]
    constructor
    · positivity
    · constructor
      · intro h
        have := mul_nonneg h0 hpos.le
        constructor <;> nlinarith
      · rintro ⟨h1, rfl⟩
        simp [h1]

/-- With digits below `p ≤ 2^e`, the number is below `p` exactly when all its digits but the
last are zero: any earlier non-zero digit weighs at least `2^e`. -/
theorem horner_lt_iff {e : ℕ} {p : Int} (hp0 : 0 < p) (hp : p ≤ (2 ^ e : ℕ)) (ds : List Int)
    (hds : ∀ d ∈ ds, 0 ≤ d ∧ d < p) :
    horner e ds < p ↔ ∀ d ∈ ds.dropLast, d = 0 := by
  rcases List.eq_nil_or_concat ds with rfl | ⟨ds, d, rfl⟩
  · simpa [horner] using hp0
  rw [List.concat_eq_append] at hds ⊢
  obtain ⟨h0, hiff⟩ := horner_nonneg_and_eq_zero_iff e ds
    fun x hx => (hds x (List.mem_append_left _ hx)).1
  have hd := hds d (List.mem_append_right _ (List.mem_singleton_self d))
  rw [horner_append_singleton, List.dropLast_concat, ← hiff]
  constructor
  · intro h
    by_contra hne
    have h1 : 1 ≤ horner e ds := by omega
    have : ((2 ^ e : ℕ) : Int) ≤ horner e ds * (2 ^ e : ℕ) :=
      le_mul_of_one_le_left (by positivity) h1
    omega
  · intro h
    rw [h, zero_mul, zero_add]
    exact hd.2

end Batch

section Plaintext

/-- Reads the output of `pack_plaintext` back: batch `i` holds the words from `i·b` to the next
multiple of the batch size `b` or to the end of the data. -/
def unpackPlaintext (elemBits batchSize len : ℕ) (packed : List Int) : List Int :=
  (List.range packed.length).flatMap fun i =>
    unpackBatch elemBits (min (i * batchSize + batchSize) len - i * batchSize) (packed.getD i 0)

/-- Consecutive slices of `b` words, `n` of them, are the first `n·b` words. -/
theorem flatMap_take_drop (l : List Int) (b : ℕ) : ∀ n : ℕ,
    (List.range n).flatMap (fun i => (l.drop (i * b)).take b) = l.take (n * b)
  | 0 => by simp
  | n + 1 => by
    rw [List.range_succ, List.flatMap_append, flatMap_take_drop l b n, Nat.succ_mul,
      List.take_add]
    simp

/-- A positive modulus is below two to its bit length. -/
theorem lt_two_pow_sizeInBase2 {p : Int} (hp : 0 < p) :
    p < ((2 ^ sizeInBase2 p : ℕ) : Int) := by
  rw [sizeInBase2, if_neg hp.ne']
  have h := Nat.lt_log2_self (n := p.natAbs)
  omega

/-- A residue of the plain modulus is a digit of its bit length. -/
theorem digits_of_residues (w : FHEWrapper) {data : List Int}
    (hdata : ∀ x ∈ data, 0 ≤ x ∧ x < w.params.plainModulus) :
    ∀ x ∈ data, 0 ≤ x ∧ x < ((2 ^ sizeInBase2 w.params.plainModulus : ℕ) : Int) :=
  fun x hx => ⟨(hdata x hx).1,
    (hdata x hx).2.trans (lt_two_pow_sizeInBase2 (pos_of_isP2mod3 w.plainModulus_2mod3))⟩

/-- Batch `i` of `b` words, read back with the size the loop used, is its slice of the data. -/
theorem unpackBatch_slice {e : ℕ} {data : List Int}
    (hdigits : ∀ x ∈ data, 0 ≤ x ∧ x < (2 ^ e : ℕ)) (b i : ℕ) :
    unpackBatch e (min (i * b + b) data.length - i * b) (horner e ((data.drop (i * b)).take b)) =
      (data.drop (i * b)).take b := by
  have hcount : min (i * b + b) data.length - i * b = ((data.drop (i * b)).take b).length := by
    simp only [List.length_take, List.length_drop]
    omega
  rw [hcount]
  exact unpackBatch_horner _ _ fun d hd =>
    hdigits d (List.mem_of_mem_drop (List.mem_of_mem_take hd))

/-- Without wrap-around, BGV packing gives `⌈len / b⌉` integers, each with the base-`2^e`
digits of its slice of `b` words. -/
theorem packPlaintext_eq (w : FHEWrapper) (hw : w.scheme = .BGV) {nslots : ℕ} (hn : 0 < nslots)
    {data : List Int} (hlen : data.length + nslots < UInt32.size)
    (hbits : sizeInBase2 w.params.plainModulus < UInt32.size)
    (hdata : ∀ x ∈ data, 0 ≤ x ∧ x < w.params.plainModulus) :
    w.packPlaintext nslots data = (List.range ((data.length + nslots - 1) / nslots)).map fun i =>
      horner (sizeInBase2 w.params.plainModulus) ((data.drop (i * nslots)).take nslots) := by
  have hnum : (data.length + nslots - 1) / nslots ≤ data.length := by
    rcases Nat.eq_zero_or_pos data.length with h0 | h0
    · rw [h0, Nat.zero_add, Nat.div_eq_of_lt (by omega)]
    · have h1 : data.length - 1 ≤ nslots * (data.length - 1) := Nat.le_mul_of_pos_left _ hn
      have h2 : nslots * (data.length - 1) + nslots = nslots * data.length := by
        rw [← Nat.mul_succ]
        congr 1
        omega
      exact Nat.div_le_of_le_mul (by omega)
  rw [packPlaintext, hw]
  simp only [Nat.mod_eq_of_lt (by omega : nslots < UInt32.size),
    Nat.mod_eq_of_lt (by omega : (data.length + nslots - 1) / nslots < UInt32.size),
    Nat.mod_eq_of_lt (by omega : data.length < UInt32.size), Nat.mod_eq_of_lt hbits]
  refine List.map_congr_left fun i hi => ?_
  have hi' : i * nslots < data.length := by
    have h := (Nat.le_div_iff_mul_le hn).mp (List.mem_range.mp hi)
    rw [Nat.succ_mul] at h
    omega
  rw [Nat.mod_eq_of_lt (by omega : i * nslots < UInt32.size),
    Nat.mod_eq_of_lt (by omega : i * nslots + nslots < UInt32.size),
    packBatch_eq_horner data (le_min (by omega) hi'.le) (min_le_right _ _)
      (digits_of_residues w hdata)]
  congr 1
  rw [List.take_eq_take, List.length_drop]
  omega

/-- The BGV wrapper over 65537 at 80 bits. -/
def bgv65537 : FHEWrapper := ⟨.BGV, ⟨80, 65537⟩, .inl rfl, rfl⟩

/-- The bit length of 65537 fits a `uint32_t`. -/
theorem sizeInBase2_bgv65537_lt : sizeInBase2 bgv65537.params.plainModulus < UInt32.size := by
  have h := (Nat.log2_lt (n := (65537 : Int).natAbs) (by decide)).mpr (by decide : _ < 2 ^ 17)
  show sizeInBase2 65537 < 4294967296
  rw [sizeInBase2, if_neg (by decide)]
  generalize Nat.log2 (65537 : Int).natAbs = k at h ⊢
  omega

/-- For every BGV wrapper, slot count `b > 0` and data of residues of the plain modulus, with the
data length plus `b` and the modulus's bit length below `2^32`, `pack_plaintext` returns
`⌈len / b⌉` integers, and reading their digits back with the batch sizes of the loop returns
the data. -/
theorem unpackPlaintext_packPlaintext (w : FHEWrapper) (hw : w.scheme = .BGV) {nslots : ℕ}
    (hn : 0 < nslots) {data : List Int} (hlen : data.length + nslots < UInt32.size)
    (hbits : sizeInBase2 w.params.plainModulus < UInt32.size)
    (hdata : ∀ x ∈ data, 0 ≤ x ∧ x < w.params.plainModulus) :
    (w.packPlaintext nslots data).length = (data.length + nslots - 1) / nslots ∧
    unpackPlaintext (sizeInBase2 w.params.plainModulus) nslots data.length
      (w.packPlaintext nslots data) = data := by
  rw [packPlaintext_eq w hw hn hlen hbits hdata]
  refine ⟨by simp, ?_⟩
  rw [unpackPlaintext, List.length_map, List.length_range]
  calc _ = (List.range ((data.length + nslots - 1) / nslots)).flatMap
          (fun i => (data.drop (i * nslots)).take nslots) :=
        List.flatMap_congr fun i hi => by
          rw [getD_map_range _ (List.mem_range.mp hi),
            unpackBatch_slice (digits_of_residues w hdata)]
    _ = data := by
      rw [flatMap_take_drop, List.take_of_length_le]
      have := Nat.lt_div_mul_add (a := data.length + nslots - 1) hn
      omega

/-- Three residues in batches of two. -/
theorem unpackPlaintext_packPlaintext_65537 :
    (bgv65537.scheme = .BGV ∧ 0 < 2 ∧ ([1, 2, 3] : List Int).length + 2 < UInt32.size ∧
      sizeInBase2 bgv65537.params.plainModulus < UInt32.size ∧
      ∀ x ∈ ([1, 2, 3] : List Int), 0 ≤ x ∧ x < bgv65537.params.plainModulus) ∧
    ((bgv65537.packPlaintext 2 [1, 2, 3]).length = (([1, 2, 3] : List Int).length + 2 - 1) / 2 ∧
      unpackPlaintext (sizeInBase2 bgv65537.params.plainModulus) 2
        ([1, 2, 3] : List Int).length (bgv65537.packPlaintext 2 [1, 2, 3]) = [1, 2, 3]) :=
  ⟨⟨rfl, by decide, by decide, sizeInBase2_bgv65537_lt, by decide⟩,
    unpackPlaintext_packPlaintext bgv65537 rfl (by decide) (by decide) sizeInBase2_bgv65537_lt
      (by decide)⟩

end Plaintext

end YusVerif.Packing
