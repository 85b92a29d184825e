import YusCipher.Model.Program
import YusCipher.Verif.Refinement

/-!
# Objects of one modulus do not see each other

The only state the objects of a program share is the static S-box of `apply_sbox_layer`. The
first `generate_keystream` of any object builds it from that object's modulus, and no call
changes it after. When all the objects have one modulus `p` and the static is unset or built
from `p`, the static is the S-box every object built for itself: each object is described by
the key store of `Refinement` with that S-box, whatever the others do. So along every
interleaving of calls, the answers to the calls on one object are those it gives when it runs
its own calls alone in a fresh process. With two moduli this fails: the static keeps the first.
-/

open Yus Yus.Process YusVerif.Keystream YusVerif.Process YusVerif.Refinement

namespace YusVerif.Isolation

variable {n : ℕ}

/-- What a call on the program returned, or the exception it threw. -/
def programValue {α : Type} : EStateM.Result Exception (Program n) α → Except Exception α
  | .ok a _ => .ok a
  | .error e _ => .error e

/-- The answers of a program to a sequence of calls, each tagged with its object and run from
the state the previous one left. -/
def programResults (xof : Shake128) :
    List (Fin n × Call) → Program n → List (Fin n × Except Exception (List Int))
  | [], _ => []
  | (i, k) :: calls, w => (i, programValue ((Program.call xof i k).run w)) ::
    programResults xof calls (Program.resultState ((Program.call xof i k).run w))

/-- The calls of a sequence made on object `i`, in order. -/
def callsOn (i : Fin n) (calls : List (Fin n × Call)) : List Call :=
  (calls.filter fun x => x.1 = i).map Prod.snd

/-- The answers to the calls on object `i`, in order. -/
def answersOn (i : Fin n) (answers : List (Fin n × Except Exception (List Int))) :
    List (Except Exception (List Int)) :=
  (answers.filter fun x => x.1 = i).map Prod.snd

/-- What object `i` stores, read as its `generate_keystream` reads it. -/
def storedAt (w : Program n) (i : Fin n) : Stored := stored ⟨w.ciphers i, w.staticSbox⟩

/-- Every object `j` is described by the key store of `c j` with the S-box `sbox`. -/
def AllConform (c : Fin n → YuSCipher) (sbox : SBox) (w : Program n) : Prop :=
  ∀ j, Conforms (c j) sbox ⟨w.ciphers j, w.staticSbox⟩

/-- A described object keeps the S-box of the object it was made from. -/
theorem sbox_eq_of_conforms {c : YuSCipher} {sbox : SBox} {w : Process} (hw : Conforms c sbox w) :
    w.cipher.sbox = c.sbox := by
  obtain ⟨⟨masterKey, nonce, h⟩, -, -⟩ := hw
  rw [h]
  rfl

/-- A described object stays described when the static changes to one that still gives `sbox`. -/
theorem conforms_of_static {c : YuSCipher} {sbox : SBox} (hc : c.sbox = sbox) {cipher : YuSCipher}
    {static static' : Option SBox} (hw : Conforms c sbox ⟨cipher, static⟩)
    (hstatic : static'.getD sbox = sbox) : Conforms c sbox ⟨cipher, static'⟩ :=
  ⟨hw.params, hw.keyLength, by
    rw [show cipher.sbox = c.sbox from sbox_eq_of_conforms hw, hc]
    exact hstatic⟩

section Step

variable (xof : Shake128)

/-- A call on object `i` answers as that object and the static answer as a process, and
leaves the object and the static as they leave them. -/
theorem call_run (i : Fin n) (k : Call) (w : Program n) :
    programValue ((Program.call xof i k).run w) =
      resultValue ((call xof k).run ⟨w.ciphers i, w.staticSbox⟩) ∧
    Program.resultState ((Program.call xof i k).run w) =
      ⟨Function.update w.ciphers i
          (resultState ((call xof k).run ⟨w.ciphers i, w.staticSbox⟩)).cipher,
        (resultState ((call xof k).run ⟨w.ciphers i, w.staticSbox⟩)).staticSbox⟩ := by
  rw [YusVerif.SBox.run_eq_apply, Program.call]
  split <;> next h => rw [h]; exact ⟨rfl, rfl⟩

variable {c : Fin n → YuSCipher} {sbox : SBox} (hsbox : ∀ j, (c j).sbox = sbox)
include hsbox

/-- One call from a program whose objects are all described: it answers as the key store of
its object, changes what that object stores as the store does and nothing else, and every
object is described again. -/
theorem call_isolated {w : Program n} (hw : AllConform c sbox w) (i : Fin n) (k : Call) :
    programValue ((Program.call xof i k).run w) = storeResult xof (c i) sbox (storedAt w i) k ∧
    (∀ j, storedAt (Program.resultState ((Program.call xof i k).run w)) j =
      if j = i then storeStep (storedAt w i) k else storedAt w j) ∧
    AllConform c sbox (Program.resultState ((Program.call xof i k).run w)) := by
  obtain ⟨hvalue, hstored, hnext⟩ := call_refines xof (c i) sbox (hw i) k
  obtain ⟨hrv, hrs⟩ := call_run xof i k w
  rw [hrv, hrs]
  refine ⟨hvalue, fun j => ?_, fun j => ?_⟩
  · by_cases hj : j = i
    · subst hj
      dsimp only [storedAt]
      rw [if_pos rfl, Function.update_same]
      exact hstored
    · dsimp only [storedAt]
      rw [if_neg hj, Function.update_noteq hj]
      rfl
  · by_cases hj : j = i
    · subst hj
      simpa only [Function.update_same] using hnext
    · have hstatic := hnext.static
      rw [sbox_eq_of_conforms hnext, hsbox] at hstatic
      simp only [Function.update_noteq hj]
      exact conforms_of_static (hsbox j) (hw j) hstatic

/-- Along every sequence of calls from a program whose objects are all described, the answers
to the calls on object `i` are the answers of its key store to them. -/
theorem answersOn_of_allConform : ∀ (calls : List (Fin n × Call)) {w : Program n},
    AllConform c sbox w → ∀ i, answersOn i (programResults xof calls w) =
      storeResults xof (c i) sbox (callsOn i calls) (storedAt w i)
  | [], _, _, _ => rfl
  | (j, k) :: calls, w, hw, i => by
    obtain ⟨hvalue, hstored, hnext⟩ := call_isolated xof hsbox hw j k
    have ih := answersOn_of_allConform calls hnext i
    rw [hstored i] at ih
    by_cases hj : j = i
    · subst hj
      rw [if_pos rfl] at ih
      simp only [answersOn, callsOn, programResults, List.filter_cons, decide_True,
        if_true, List.map_cons, storeResults] at ih ⊢
      rw [hvalue, ih]
    · rw [if_neg (Ne.symm hj)] at ih
      simp only [answersOn, callsOn, programResults, List.filter_cons, hj, decide_False,
        if_false, Bool.false_eq_true] at ih ⊢
      exact ih

end Step

/-- In a program whose objects all have the modulus `p` and are fresh from the constructor,
with the static S-box unset or built from `p`, along every interleaving of `init` and
`generate_keystream` calls on the objects, the answers to the calls on object `i` are the
answers object `i` gives to its own calls alone, in a fresh process. -/
theorem programResults_isolated (xof : Shake128) (c : Fin n → YuSCipher) {p : Int}
    (hp : ∀ j, (c j).p = p) (hfresh : ∀ j, (c j).masterKey = []) {static : Option SBox}
    (hstatic : ∀ s ∈ static, s.p = p) (calls : List (Fin n × Call)) (i : Fin n) :
    answersOn i (programResults xof calls ⟨c, static⟩) =
      results xof (callsOn i calls) ⟨c i, none⟩ := by
  have hsbox : ∀ j, (c j).sbox = (c i).sbox := fun j =>
    sbox_eq_of_p (by rw [(c j).sbox_p, (c i).sbox_p, hp j, hp i])
  have hw : AllConform c (c i).sbox ⟨c, static⟩ := fun j => ⟨⟨_, _, rfl⟩, .inl (hfresh j), by
    cases static with
    | none => exact hsbox j
    | some s => exact show s = (c i).sbox from
      sbox_eq_of_p (by rw [hstatic s rfl, (c i).sbox_p, hp i])⟩
  rw [answersOn_of_allConform xof hsbox calls hw i,
    (results_of_conforms xof (c i) (c i).sbox (callsOn i calls)
      (⟨⟨_, _, rfl⟩, .inl (hfresh i), rfl⟩ : Conforms (c i) (c i).sbox ⟨c i, none⟩)).1]
  rfl

/-- Two objects over 65537: `init` on the first, a keystream on the second, a keystream on the
first. -/
theorem programResults_isolated_65537 :
    ((∀ _ : Fin 2, cipher65537.p = 65537) ∧ (∀ _ : Fin 2, cipher65537.masterKey = []) ∧
      ∀ s ∈ (none : Option SBox), s.p = 65537) ∧
    answersOn (0 : Fin 2) (programResults (fun _ _ => 0)
        [(0, .init zeroKey []), (1, .generateKeystream 1), (0, .generateKeystream 1)]
        ⟨fun _ => cipher65537, none⟩) =
      results (fun _ _ => 0) (callsOn (0 : Fin 2)
        [(0, .init zeroKey []), (1, .generateKeystream 1), (0, .generateKeystream 1)])
        ⟨cipher65537, none⟩ :=
  ⟨⟨fun _ => rfl, fun _ => rfl, by intro _ h; cases h⟩,
    programResults_isolated (fun _ _ => 0) (fun _ => cipher65537) (fun _ => rfl) (fun _ => rfl)
      (by intro _ h; cases h) _ 0⟩

end YusVerif.Isolation
