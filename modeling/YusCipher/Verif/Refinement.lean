import YusCipher.Verif.Process

/-!
# A process refines a key store

A program observes a cipher object through the key and nonce of the last `init` with 36 words,
and through nothing before one. An abstract machine whose state is that pair answers `init` by
accepting a key of 36 words and rejecting any other with the code's message, and answers
`generate_keystream(n)` with the code's not-initialized error while it stores nothing and with
the keystream of the stored key and nonce once it does. Along every sequence of calls on an
object fresh from the constructor, the process answers each call as the machine does, and
what the object stores is the machine's state. The S-box of every keystream is the one the
static held when the sequence began, or the object's own when the static was not built: a
call of `generate_keystream` may build it, and no call changes it after.
-/

open Yus Yus.Process YusVerif.Keystream YusVerif.Process

namespace YusVerif.Refinement

/-- The abstract state: the key and nonce `init` stored last, if any. -/
abbrev Stored := Option (List Int × List UInt8)

section Machine

variable (xof : Shake128) (c : YuSCipher) (sbox : SBox)

/-- The abstract step: an `init` with 36 words replaces what is stored. -/
def storeStep (stored : Stored) : Call → Stored
  | .init masterKey nonce => if masterKey.length = 36 then some (masterKey, nonce) else stored
  | .generateKeystream _ => stored

/-- The abstract answer to a call, for the parameters of `c` and the S-box `sbox`. -/
def storeResult : Stored → Call → Except Exception (List Int)
  | _, .init masterKey _ =>
    if masterKey.length = 36 then .ok []
    else .error (.invalidArgument "Master key must be 36 elements (F_p^36)")
  | none, .generateKeystream _ => .error (.runtimeError "YuSCipher not initialized with master key")
  | some (masterKey, nonce), .generateKeystream n =>
    .ok (keystream (withKey c masterKey nonce) xof sbox n.toNat)

/-- The abstract answers to a sequence of calls, each from the state the previous one left. -/
def storeResults : List Call → Stored → List (Except Exception (List Int))
  | [], _ => []
  | k :: calls, stored => storeResult xof c sbox stored k :: storeResults calls (storeStep stored k)

end Machine

/-- What a call returned, or the exception it threw. -/
def resultValue {α : Type} : EStateM.Result Exception Process α → Except Exception α
  | .ok a _ => .ok a
  | .error e _ => .error e

/-- The answers of a process to a sequence of calls, each run from the state the previous one
left. -/
def results (xof : Shake128) : List Call → Process → List (Except Exception (List Int))
  | [], _ => []
  | k :: calls, w =>
    resultValue ((call xof k).run w) :: results xof calls (resultState ((call xof k).run w))

/-- The abstraction: what the object stores, read as `generate_keystream` reads it, through
`master_key_.empty()`. -/
def stored (w : Process) : Stored :=
  if w.cipher.masterKey.isEmpty then none else some (w.cipher.masterKey, w.cipher.rkGen.nonce)

/-- An object with no key stores nothing. -/
theorem stored_of_nil {w : Process} (h : w.cipher.masterKey = []) : stored w = none := by
  simp [stored, h]

/-- An object with a key of 36 words stores it with its nonce. -/
theorem stored_of_length {w : Process} (h : w.cipher.masterKey.length = 36) :
    stored w = some (w.cipher.masterKey, w.cipher.rkGen.nonce) := by
  have hne : w.cipher.masterKey ≠ [] := fun he => by simp [he] at h
  simp [stored, List.isEmpty_iff, hne]

/-- A process state the machine describes, for the parameters of `c` and the S-box `sbox`. -/
structure Conforms (c : YuSCipher) (sbox : SBox) (w : Process) : Prop where
  /-- The object is `c` with some key and nonce. -/
  params : ∃ masterKey nonce, w.cipher = withKey c masterKey nonce
  /-- The key has 0 or 36 words. -/
  keyLength : w.cipher.masterKey = [] ∨ w.cipher.masterKey.length = 36
  /-- The keystreams of the object use `sbox`. -/
  static : w.staticSbox.getD w.cipher.sbox = sbox

section Refinement

variable (xof : Shake128) (c : YuSCipher) (sbox : SBox)

/-- The call `init` returns no words after storing a key of 36 words, and otherwise throws
with the state unchanged. -/
theorem call_init_run (masterKey : List Int) (nonce : List UInt8) (w : Process) :
    (call xof (.init masterKey nonce)).run w =
      if masterKey.length = 36 then .ok [] { w with cipher := withKey w.cipher masterKey nonce }
      else .error (.invalidArgument "Master key must be 36 elements (F_p^36)") w := by
  have h : init masterKey nonce w = _ := init_run w masterKey nonce
  show EStateM.bind (init masterKey nonce) _ w = _
  rw [EStateM.bind, h]
  split_ifs <;> rfl

/-- One call from a described state: the process answers as the machine, stores the machine's
next state, and is described again. -/
theorem call_refines {w : Process} (hw : Conforms c sbox w) (k : Call) :
    resultValue ((call xof k).run w) = storeResult xof c sbox (stored w) k ∧
      stored (resultState ((call xof k).run w)) = storeStep (stored w) k ∧
      Conforms c sbox (resultState ((call xof k).run w)) := by
  obtain ⟨⟨masterKey₀, nonce₀, hparams⟩, hkey, hstatic⟩ := hw
  cases k with
  | init masterKey nonce =>
    rw [call_init_run]
    by_cases hK : masterKey.length = 36
    · rw [if_pos hK]
      refine ⟨by simp [resultValue, storeResult, hK], ?_, ⟨masterKey, nonce, by rw [hparams]; rfl⟩,
        .inr hK, hstatic⟩
      rw [storeStep, if_pos hK]
      exact stored_of_length (w := { w with cipher := withKey w.cipher masterKey nonce }) hK
    · rw [if_neg hK]
      exact ⟨by simp [resultValue, storeResult, hK], by simp [resultState, storeStep, hK],
        ⟨_, _, hparams⟩, hkey, hstatic⟩
  | generateKeystream n =>
    rcases hkey with hkey | hkey
    · rw [call, generateKeystream_uninitialized xof w hkey n, stored_of_nil hkey]
      exact ⟨rfl, stored_of_nil hkey, ⟨_, _, hparams⟩, .inl hkey, hstatic⟩
    · rw [call, generateKeystream_initialized xof w hkey n, stored_of_length hkey]
      refine ⟨?_, stored_of_length hkey, ⟨_, _, hparams⟩, .inr hkey, ?_⟩
      · simp only [resultValue, storeResult, hstatic]
        rw [hparams]
        rfl
      · simp only [resultState]
        split <;> simp [hstatic]

/-- Every sequence of calls from a described state: the process answers as the machine, and
stores the machine's final state. -/
theorem results_of_conforms : ∀ (calls : List Call) {w : Process}, Conforms c sbox w →
    results xof calls w = storeResults xof c sbox calls (stored w) ∧
      stored (after xof calls w) = calls.foldl storeStep (stored w)
  | [], _, _ => ⟨rfl, rfl⟩
  | k :: calls, w, hw => by
    obtain ⟨hresult, hstored, hnext⟩ := call_refines xof c sbox hw k
    obtain ⟨hresults, hafter⟩ := results_of_conforms calls hnext
    exact ⟨by rw [results, storeResults, hresult, hresults, hstored],
      by rw [after, hafter, hstored, List.foldl_cons]⟩

end Refinement

/-- On an object fresh from the constructor, in a process whose static S-box is `static`,
every sequence of calls is answered as the key store answers it with the S-box
`static.getD c.sbox`, and leaves the object storing the store's final state. -/
theorem results_refine (xof : Shake128) (c : YuSCipher) (hc : c.masterKey = [])
    (static : Option SBox) (calls : List Call) :
    results xof calls ⟨c, static⟩ = storeResults xof c (static.getD c.sbox) calls none ∧
      stored (after xof calls ⟨c, static⟩) = calls.foldl storeStep none := by
  have hfresh : Conforms c (static.getD c.sbox) ⟨c, static⟩ :=
    ⟨⟨c.masterKey, c.rkGen.nonce, rfl⟩, .inl hc, rfl⟩
  simpa only [stored_of_nil (w := ⟨c, static⟩) hc] using
    results_of_conforms xof c _ calls hfresh

/-- Three calls on the fresh cipher over 65537: a keystream before `init`, `init` with the
zero key, a keystream after it. -/
theorem results_refine_65537 : cipher65537.masterKey = [] ∧
    (results (fun _ _ => 0) [.generateKeystream 1, .init zeroKey [], .generateKeystream 1]
        ⟨cipher65537, none⟩ =
      storeResults (fun _ _ => 0) cipher65537 ((none : Option SBox).getD cipher65537.sbox)
        [.generateKeystream 1, .init zeroKey [], .generateKeystream 1] none ∧
    stored (after (fun _ _ => 0) [.generateKeystream 1, .init zeroKey [], .generateKeystream 1]
        ⟨cipher65537, none⟩) =
      [.generateKeystream 1, .init zeroKey [], .generateKeystream 1].foldl storeStep none) :=
  ⟨rfl, results_refine (fun _ _ => 0) cipher65537 rfl none _⟩

end YusVerif.Refinement
