import YusCipher.Model.Process
import Mathlib.Logic.Function.Basic

/-!
# A program with several cipher objects

A program may hold several `YuSCipher` objects, as the test binaries do, each built with its
own modulus. Their members are their own, but every `generate_keystream` reaches the same
function-local static S-box of `apply_sbox_layer`. A call names the object it is made on; that
object and the static run it as a process does, and the other objects are untouched.
-/

namespace Yus

/-- A program with `n` cipher objects and the one static S-box they share. -/
structure Program (n : Nat) where
  /-- The objects. -/
  ciphers : Fin n → YuSCipher
  /-- The function-local `static SBox` of `apply_sbox_layer`, unset before its first call. -/
  staticSbox : Option SBox

namespace Program

variable {n : Nat}

/-- A call on object `i`: the object and the static run it, and keep what it left them. -/
def call (xof : Shake128) (i : Fin n) (k : Call) : EStateM Exception (Program n) (List Int) :=
  fun w => match (Process.call xof k).run ⟨w.ciphers i, w.staticSbox⟩ with
    | .ok ks v => .ok ks ⟨Function.update w.ciphers i v.cipher, v.staticSbox⟩
    | .error e v => .error e ⟨Function.update w.ciphers i v.cipher, v.staticSbox⟩

/-- The state a call leaves, whether it returned or threw. -/
def resultState {α : Type} : EStateM.Result Exception (Program n) α → Program n
  | .ok _ w => w
  | .error _ w => w

end Program

end Yus
