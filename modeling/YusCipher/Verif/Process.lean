import YusCipher.Model.Process
import YusCipher.Verif.Keystream

/-!
# Call sequences on one cipher object

`init` either stores a key of 36 words with its nonce or throws before changing anything, and
`generate_keystream` never changes the object. So along every sequence of calls on an object
fresh from the constructor the stored key is empty exactly until an `init` with 36 words has
returned, and after it `generate_keystream(n)` returns `n · (36 − m)` words. The object keeps
no block counter, so each call starts again at block 0; keys congruent word by word give equal
streams.
-/

open Yus Yus.RoundKeyGenerator YusVerif.Field YusVerif.LayerData YusVerif.SBox YusVerif.RoundKey
  YusVerif.Keystream

namespace YusVerif.Process

open Yus.Process

section Calls

variable (xof : Shake128) (w : Process)

/-- The cipher `init` stores. -/
def withKey (c : YuSCipher) (masterKey : List Int) (nonce : List UInt8) : YuSCipher :=
  { c with masterKey := masterKey, rkGen := ⟨nonce⟩ }

/-- `init` stores a key of 36 words with its nonce, and otherwise throws with the state
unchanged. -/
theorem init_run (masterKey : List Int) (nonce : List UInt8) : (init masterKey nonce).run w =
    if masterKey.length = 36 then .ok () { w with cipher := withKey w.cipher masterKey nonce }
    else .error (.invalidArgument "Master key must be 36 elements (F_p^36)") w := by
  by_cases h : masterKey.length = 36
  · simp [init, YuSCipher.init, h, run_eq_apply, bind, EStateM.bind, modify, modifyGet,
      MonadStateOf.modifyGet, EStateM.modifyGet, pure, EStateM.pure, withKey]
  · simp [init, YuSCipher.init, h, run_eq_apply, bind, EStateM.bind, throw, throwThe,
      MonadExceptOf.throw, EStateM.throw]

/-- Before a key is stored, `generate_keystream` throws and changes nothing. -/
theorem generateKeystream_uninitialized (h : w.cipher.masterKey = []) (n : UInt32) :
    (generateKeystream xof n).run w =
      .error (.runtimeError "YuSCipher not initialized with master key") w := by
  simp [generateKeystream, YuSCipher.generateKeystream, h, run_eq_apply, bind, EStateM.bind,
    throw, throwThe, MonadExceptOf.throw, EStateM.throw]

/-- With a key of 36 words, `generate_keystream` returns the keystream of the static's S-box
and leaves the static reading as that S-box. -/
theorem generateKeystream_initialized (h : w.cipher.masterKey.length = 36) (n : UInt32) :
    (generateKeystream xof n).run w =
      .ok (keystream w.cipher xof (w.staticSbox.getD w.cipher.sbox) n.toNat)
        { w with staticSbox := if n.toNat = 0 then w.staticSbox
          else some (w.staticSbox.getD w.cipher.sbox) } := by
  simp only [run_eq_apply, generateKeystream]
  rw [show w.cipher.generateKeystream xof n w.staticSbox = _ from
    generateKeystream_run w.cipher xof h w.staticSbox n]

/-- With a key of 36 words, `generate_keystream` returns the keystream of the static's S-box,
keeps the object, and leaves the static reading as the same S-box. -/
theorem generateKeystream_returns (h : w.cipher.masterKey.length = 36) (n : UInt32) :
    ∃ w', (generateKeystream xof n).run w =
      .ok (keystream w.cipher xof (w.staticSbox.getD w.cipher.sbox) n.toNat) w' ∧
      w'.cipher = w.cipher ∧ w'.staticSbox.getD w.cipher.sbox = w.staticSbox.getD w.cipher.sbox :=
  ⟨_, generateKeystream_initialized xof w h n, rfl, by dsimp only; split <;> rfl⟩

/-- `generate_keystream` leaves the object as it was. -/
theorem generateKeystream_cipher (n : UInt32) :
    (resultState ((generateKeystream xof n).run w)).cipher = w.cipher := by
  simp only [run_eq_apply, generateKeystream]
  split <;> rfl

/-- A successful `init`. -/
def Succeeds : Call → Prop
  | .init masterKey _ => masterKey.length = 36
  | .generateKeystream _ => False

/-- A call of `init` leaves what `init` leaves. -/
theorem resultState_call_init (masterKey : List Int) (nonce : List UInt8) :
    resultState ((call xof (.init masterKey nonce)).run w) =
      resultState ((init masterKey nonce).run w) := by
  show resultState (EStateM.bind (init masterKey nonce) _ w) = _
  simp only [EStateM.bind, run_eq_apply]
  split <;> rename_i heq <;> rw [heq] <;> rfl

/-- What one call keeps: a key of 0 or 36 words, the width, and an empty key exactly when
it was empty and the call is no successful `init`. -/
theorem call_step (c : Call) (hw : w.cipher.masterKey.length = 0 ∨
    w.cipher.masterKey.length = 36) :
    let w' := resultState ((call xof c).run w)
    (w'.cipher.masterKey.length = 0 ∨ w'.cipher.masterKey.length = 36) ∧
      w'.cipher.truncM = w.cipher.truncM ∧
      (w'.cipher.masterKey = [] ↔ w.cipher.masterKey = [] ∧ ¬ Succeeds c) := by
  cases c with
  | init masterKey nonce =>
    simp only [resultState_call_init, init_run, Succeeds]
    split_ifs with h
    · have hne : masterKey ≠ [] := fun h' => by simp [h'] at h
      simp [resultState, withKey, h, hne]
    · exact ⟨hw, rfl, by simp [resultState, h]⟩
  | generateKeystream n =>
    simpa [call, Succeeds, generateKeystream_cipher] using hw

/-- What a sequence of calls keeps, by induction over the calls. -/
theorem after_spec : ∀ (calls : List Call) (w : Process), (w.cipher.masterKey.length = 0 ∨
    w.cipher.masterKey.length = 36) →
    let w' := after xof calls w
    (w'.cipher.masterKey.length = 0 ∨ w'.cipher.masterKey.length = 36) ∧
      w'.cipher.truncM = w.cipher.truncM ∧
      (w'.cipher.masterKey = [] ↔ w.cipher.masterKey = [] ∧ ∀ c ∈ calls, ¬ Succeeds c)
  | [], w, hw => ⟨hw, rfl, by simp [after]⟩
  | c :: calls, w, hw => by
    obtain ⟨hw1, htrunc1, hkey1⟩ := call_step xof w c hw
    obtain ⟨hw2, htrunc2, hkey2⟩ := after_spec calls _ hw1
    refine ⟨hw2, htrunc2.trans htrunc1, ?_⟩
    simp only [after, hkey2, hkey1, List.mem_cons, forall_eq_or_imp, and_assoc]

end Calls

/-- The life cycle of an object fresh from the constructor, as calls on it observe it. -/
structure Lifecycle (xof : Shake128) (c : YuSCipher) (static : Option SBox) : Prop where
  /-- An `init` with a key not of 36 words throws and changes nothing. -/
  initRejects : ∀ (w : Process) (masterKey : List Int) (nonce : List UInt8),
    masterKey.length ≠ 36 → (init masterKey nonce).run w =
      .error (.invalidArgument "Master key must be 36 elements (F_p^36)") w
  /-- After any calls the stored key has 0 or 36 words. -/
  keyLength : ∀ calls : List Call,
    (after xof calls ⟨c, static⟩).cipher.masterKey.length = 0 ∨
      (after xof calls ⟨c, static⟩).cipher.masterKey.length = 36
  /-- The width stays the checked one. -/
  width : ∀ calls : List Call, (after xof calls ⟨c, static⟩).cipher.truncM = c.truncM ∧
    c.truncM ≤ 36
  /-- `generate_keystream` throws its not-initialized error, changing nothing, exactly when
  no `init` with 36 words came before. -/
  uninitializedIff : ∀ (calls : List Call) (n : UInt32),
    (generateKeystream xof n).run (after xof calls ⟨c, static⟩) =
        .error (.runtimeError "YuSCipher not initialized with master key")
          (after xof calls ⟨c, static⟩) ↔
      ¬ ∃ masterKey nonce, Call.init masterKey nonce ∈ calls ∧ masterKey.length = 36
  /-- After such an `init`, `generate_keystream(n)` returns `n · (36 − m)` words. -/
  initializedLength : ∀ (calls : List Call) (n : UInt32),
    (∃ masterKey nonce, Call.init masterKey nonce ∈ calls ∧ masterKey.length = 36) →
      ∃ ks w', (generateKeystream xof n).run (after xof calls ⟨c, static⟩) = .ok ks w' ∧
        ks.length = n.toNat * (36 - c.truncM.toNat)

/-- The calls that store a key are the `init`s with 36 words. -/
theorem no_succeeds_iff (calls : List Call) : (∀ c ∈ calls, ¬ Succeeds c) ↔
    ¬ ∃ masterKey nonce, Call.init masterKey nonce ∈ calls ∧ masterKey.length = 36 := by
  constructor
  · rintro hall ⟨masterKey, nonce, hmem, hK⟩
    exact hall _ hmem hK
  · rintro hnone (⟨masterKey, nonce⟩ | ⟨n⟩) hmem hs
    · exact hnone ⟨masterKey, nonce, hmem, hs⟩
    · exact hs

/-- Every object fresh from the constructor has this life cycle, from any static S-box. -/
theorem lifecycle_of_fresh (xof : Shake128) (c : YuSCipher) (hc : c.masterKey = [])
    (static : Option SBox) : Lifecycle xof c static := by
  have hspec := fun calls => after_spec xof calls ⟨c, static⟩ (.inl (by simp [hc]))
  have hready : ∀ calls : List Call,
      (∃ masterKey nonce, Call.init masterKey nonce ∈ calls ∧ masterKey.length = 36) →
        (after xof calls ⟨c, static⟩).cipher.masterKey.length = 36 := by
    intro calls hinit
    obtain ⟨hinv, -, hkey⟩ := hspec calls
    refine hinv.resolve_left fun h0 => ?_
    exact (no_succeeds_iff calls).mp (hkey.mp (List.eq_nil_of_length_eq_zero h0)).2 hinit
  refine ⟨fun w masterKey nonce h => by rw [init_run, if_neg h], fun calls => (hspec calls).1,
    fun calls => ⟨(hspec calls).2.1, c.truncM_le⟩, fun calls n => ⟨fun herr hinit => ?_,
      fun hnone => ?_⟩, fun calls n hinit => ?_⟩
  · rw [generateKeystream_initialized xof _ (hready calls hinit)] at herr
    cases herr
  · exact generateKeystream_uninitialized xof _
      ((hspec calls).2.2.mpr ⟨hc, (no_succeeds_iff calls).mpr hnone⟩) n
  · refine ⟨_, _, generateKeystream_initialized xof _ (hready calls hinit) n, ?_⟩
    rw [length_keystream, (hspec calls).2.1]

/-- The fresh cipher over 65537 in a fresh process. -/
theorem lifecycle_of_fresh_65537 :
    cipher65537.masterKey = [] ∧ Lifecycle (fun _ _ => 0) cipher65537 none :=
  ⟨rfl, lifecycle_of_fresh (fun _ _ => 0) cipher65537 rfl none⟩

section Keys

variable (xof : Shake128)

/-- The keystream reads the key only through its residues modulo `p`. -/
theorem keystream_withKey_congr (c : YuSCipher) {masterKey masterKey' : List Int}
    (nonce : List UInt8) (hcong : ∀ k < 36, masterKey.getD k 0 ≡ masterKey'.getD k 0 [ZMOD c.p])
    (sbox : SBox) (n : Nat) : keystream (withKey c masterKey nonce) xof sbox n =
      keystream (withKey c masterKey' nonce) xof sbox n := by
  refine keystream_congr_roundKey xof (withKey c masterKey nonce) (withKey c masterKey' nonce)
    rfl rfl rfl (fun r j => ?_) sbox n
  exact roundKeyValues_congr (pos_of_isP2mod3 c.p_2mod3) hcong _

/-- `init` with a key of 36 words, then `generate_keystream`. -/
theorem init_generateKeystream_run (w : Process) {masterKey : List Int} (nonce : List UInt8)
    (hK : masterKey.length = 36) (n : UInt32) :
    (do init masterKey nonce; generateKeystream xof n).run' w = some (keystream
      (withKey w.cipher masterKey nonce) xof (w.staticSbox.getD w.cipher.sbox) n.toNat) := by
  rw [EStateM.run', run_bind_ok (by rw [init_run, if_pos hK]),
    generateKeystream_initialized xof _ hK]
  rfl

/-- Keys congruent word by word modulo `p` give the same keystream after `init`, and every
word of it is a residue. -/
theorem keystream_congruent_keys (w : Process) {masterKey masterKey' : List Int}
    (nonce : List UInt8) (n : UInt32) (hK : masterKey.length = 36)
    (hK' : masterKey'.length = 36)
    (hcong : ∀ k < 36, masterKey.getD k 0 ≡ masterKey'.getD k 0 [ZMOD w.cipher.p]) :
    (do init masterKey nonce; generateKeystream xof n).run' w =
      (do init masterKey' nonce; generateKeystream xof n).run' w ∧
    ∃ ks, (do init masterKey nonce; generateKeystream xof n).run' w = some ks ∧
      ∀ x ∈ ks, 0 ≤ x ∧ x < w.cipher.p := by
  rw [init_generateKeystream_run xof w nonce hK, init_generateKeystream_run xof w nonce hK',
    keystream_withKey_congr xof w.cipher nonce hcong]
  exact ⟨rfl, _, rfl, keystream_mem _ xof _ _⟩

end Keys

/-- The zero key of 36 words. -/
def zeroKey : List Int := List.replicate 36 0

/-- The zero key has 36 words. -/
theorem zeroKey_length : zeroKey.length = 36 := rfl

/-- A key of 36 words all congruent to zero modulo 65537, and negative. -/
def negatedKey : List Int := List.replicate 36 (-65537)

/-- The zero key and its negated unreduced twin over 65537. -/
theorem keystream_congruent_keys_65537 :
    zeroKey.length = 36 ∧ negatedKey.length = 36 ∧
    (∀ k < 36, zeroKey.getD k 0 ≡ negatedKey.getD k 0 [ZMOD cipher65537.p]) ∧
    ((do init zeroKey []; generateKeystream (fun _ _ => 0) 1).run' ⟨cipher65537, none⟩ =
      (do init negatedKey []; generateKeystream (fun _ _ => 0) 1).run' ⟨cipher65537, none⟩ ∧
    ∃ ks, (do init zeroKey []; generateKeystream (fun _ _ => 0) 1).run' ⟨cipher65537, none⟩ =
      some ks ∧ ∀ x ∈ ks, 0 ≤ x ∧ x < cipher65537.p) := by
  have hcong : ∀ k < 36, zeroKey.getD k 0 ≡ negatedKey.getD k 0 [ZMOD cipher65537.p] := by
    intro k hk
    simp only [zeroKey, negatedKey, List.getD_eq_getElem?_getD, List.getElem?_replicate, hk,
      if_true, Option.getD_some]
    decide
  exact ⟨rfl, rfl, hcong, keystream_congruent_keys (fun _ _ => 0) ⟨cipher65537, none⟩ [] 1
    rfl rfl hcong⟩

/-- Two calls of `generate_keystream` return the first `a` and the first `b` blocks of one
stream: the second call starts again at block 0. -/
theorem generateKeystream_twice (xof : Shake128) (w : Process)
    (hK : w.cipher.masterKey.length = 36) (a b : UInt32) :
    (do
      let x ← generateKeystream xof a
      let y ← generateKeystream xof b
      return (x, y)).run' w =
    some (keystream w.cipher xof (w.staticSbox.getD w.cipher.sbox) a.toNat,
      keystream w.cipher xof (w.staticSbox.getD w.cipher.sbox) b.toNat) := by
  obtain ⟨w1, h1, hc1, hs1⟩ := generateKeystream_returns xof w hK a
  obtain ⟨w2, h2, -, -⟩ := generateKeystream_returns xof w1 (hc1 ▸ hK) b
  rw [hc1, hs1] at h2
  rw [EStateM.run', run_bind_ok h1, run_bind_ok h2]
  rfl

/-- Two calls after `init` with the zero key over 65537. -/
theorem generateKeystream_twice_65537 :
    (withKey cipher65537 zeroKey []).masterKey.length = 36 ∧
    (do
      let x ← generateKeystream (fun _ _ => 0) 1
      let y ← generateKeystream (fun _ _ => 0) 1
      return (x, y)).run' ⟨withKey cipher65537 zeroKey [], none⟩ =
    some (keystream (withKey cipher65537 zeroKey []) (fun _ _ => 0)
        ((none : Option SBox).getD cipher65537.sbox) 1,
      keystream (withKey cipher65537 zeroKey []) (fun _ _ => 0)
        ((none : Option SBox).getD cipher65537.sbox) 1) :=
  ⟨rfl, generateKeystream_twice (fun _ _ => 0) ⟨withKey cipher65537 zeroKey [], none⟩ rfl
    1 1⟩

/-- The two blocks of a two-block keystream under the zero key differ. -/
theorem block_zeroKey_ne (xof : Shake128) :
    block (withKey cipher65537 zeroKey []) xof cipher65537.sbox 0 ≠
      block (withKey cipher65537 zeroKey []) xof cipher65537.sbox 1 := by
  intro h
  have hinj := (blockPermutation_bijOn (withKey cipher65537 zeroKey []) xof (p := 65537)
    (by norm_num) rfl cipher65537.sbox rfl 0).injOn
    (counterVector_mem (withKey cipher65537 zeroKey []) 0)
    (counterVector_mem (withKey cipher65537 zeroKey []) 1)
  simp only [block, blockPermutation_of_zeroKey (withKey cipher65537 zeroKey []) xof rfl _ 1]
    at h
  exact absurd (hinj h) (by decide)

/-- After `init`, two calls of `generate_keystream(1)` return block 0 twice, while
`generate_keystream(2)` returns blocks 0 and 1. -/
theorem generateKeystream_second_call_repeats :
    (do
      init zeroKey []
      let x ← generateKeystream (fun _ _ => 0) 1
      let y ← generateKeystream (fun _ _ => 0) 1
      return x ++ y).run' ⟨cipher65537, none⟩ ≠
    (do
      init zeroKey []
      generateKeystream (fun _ _ => 0) 2).run' ⟨cipher65537, none⟩ := by
  have hfirst :
      (generateKeystream (fun _ _ => 0) 1).run ⟨withKey cipher65537 zeroKey [], none⟩ =
      .ok (keystream (withKey cipher65537 zeroKey []) (fun _ _ => 0) cipher65537.sbox 1)
        ⟨withKey cipher65537 zeroKey [], some cipher65537.sbox⟩ :=
    generateKeystream_initialized _ _ zeroKey_length 1
  have hsecond : (generateKeystream (fun _ _ => 0) 1).run
      ⟨withKey cipher65537 zeroKey [], some cipher65537.sbox⟩ =
      .ok (keystream (withKey cipher65537 zeroKey []) (fun _ _ => 0) cipher65537.sbox 1)
        ⟨withKey cipher65537 zeroKey [], some cipher65537.sbox⟩ :=
    generateKeystream_initialized _ _ zeroKey_length 1
  rw [init_generateKeystream_run _ _ _ zeroKey_length, EStateM.run',
    run_bind_ok (by rw [init_run, if_pos zeroKey_length]), run_bind_ok hfirst,
    run_bind_ok hsecond]
  intro h
  simp only [run_eq_apply, pure, EStateM.pure, keystream, show (2 : UInt32).toNat = 2 from rfl,
    Option.getD_none, List.range_succ, List.range_zero, List.nil_append, List.flatMap_cons,
    List.flatMap_nil, List.append_nil, Option.some.injEq] at h
  exact block_zeroKey_ne _ (List.append_cancel_left h)

end YusVerif.Process
