import YusCipher.Model.Cipher

/-!
# A process using the cipher

A program holds a `YuSCipher` object and calls `init` and `generate_keystream` on it; every
call of `apply_sbox_layer` in the process shares that function's static S-box. A process is
the object together with the static. `init` runs on the object; `generate_keystream` reads
the object and runs on the static. An exception ends the call and keeps the state it was
thrown from, and the program goes on with its next call.
-/

namespace Yus

/-- A process: the cipher object and the static S-box of `apply_sbox_layer`. -/
structure Process where
  /-- The `YuSCipher` object. -/
  cipher : YuSCipher
  /-- The function-local `static SBox` of `apply_sbox_layer`, unset before its first call. -/
  staticSbox : Option SBox

/-- A call a program makes on the object. -/
inductive Call where
  /-- `init(master_key, nonce)`. -/
  | init (masterKey : List Int) (nonce : List UInt8)
  /-- `generate_keystream(block_count)`. -/
  | generateKeystream (blockCount : UInt32)

namespace Process

/-- `YuSCipher::init` on the object of the process. -/
def init (masterKey : List Int) (nonce : List UInt8) : EStateM Exception Process Unit :=
  fun w => match (YuSCipher.init masterKey nonce).run w.cipher with
    | .ok u c => .ok u { w with cipher := c }
    | .error e c => .error e { w with cipher := c }

/-- `YuSCipher::generate_keystream` on the object of the process. -/
def generateKeystream (xof : Shake128) (blockCount : UInt32) :
    EStateM Exception Process (List Int) :=
  fun w => match (w.cipher.generateKeystream xof blockCount).run w.staticSbox with
    | .ok ks s => .ok ks { w with staticSbox := s }
    | .error e s => .error e { w with staticSbox := s }

/-- A call; `init` returns no words. -/
def call (xof : Shake128) : Call → EStateM Exception Process (List Int)
  | .init masterKey nonce => do
    init masterKey nonce
    return []
  | .generateKeystream blockCount => generateKeystream xof blockCount

/-- The state a call leaves, whether it returned or threw. -/
def resultState {α : Type} : EStateM.Result Exception Process α → Process
  | .ok _ w => w
  | .error _ w => w

/-- The process after a sequence of calls, each run from the state the previous one left. -/
def after (xof : Shake128) : List Call → Process → Process
  | [], w => w
  | c :: calls, w => after xof calls (resultState ((call xof c).run w))

end Process

end Yus
