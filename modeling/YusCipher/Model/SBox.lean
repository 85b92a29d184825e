import YusCipher.Model.Utils
import Mathlib.Data.List.Defs

/-!
# The S-box of `sbox.cpp`

`SBox` keeps the modulus its constructor admitted. `apply` computes
`(x0, x0·x2 + x1, −x0·x1 + x0·x2 + x2)`, each word reduced by `mod`. `is_permutation` has two
branches: above 1000 it evaluates a determinant expression, and otherwise it inserts the
image of every input triple into a set, failing at the first repeated image. The layer
function `apply_sbox_layer` holds its S-box in a function-local `static`, built by the first
call that reaches it; that object is the process state of every function that calls the
layer, and it is the state of the `EStateM` programs below.
-/

namespace Yus

/-- `SBox` — the modulus it was built with, which its constructor checked. -/
structure SBox where
  /-- `p_`. -/
  p : Int
  /-- The constructor's check `is_p_2mod3(p)`. -/
  p_2mod3 : isP2mod3 p = true

namespace SBox

/-- `SBox::SBox` — throws unless `p ≡ 2 (mod 3)`. -/
def new (p : Int) : Except Exception SBox :=
  if h : isP2mod3 p = true then .ok ⟨p, h⟩
  else .error (.invalidArgument "Prime p must satisfy p ≡ 2 mod 3")

/-- A constructed S-box keeps the modulus it was given. -/
theorem new_p {p : Int} {sbox : SBox} (h : SBox.new p = .ok sbox) : sbox.p = p := by
  unfold SBox.new at h
  split at h <;> cases h
  rfl

/-- The three output words of `SBox::apply` on the input `(x0, x1, x2)`. -/
def transform (sbox : SBox) (x0 x1 x2 : Int) : List Int :=
  [mod x0 sbox.p, mod (x0 * x2 + x1) sbox.p, mod (-x0 * x1 + x0 * x2 + x2) sbox.p]

/-- `SBox::apply` — accepts exactly three input words. -/
def apply (sbox : SBox) : List Int → Except Exception (List Int)
  | [x0, x1, x2] => .ok (sbox.transform x0 x1 x2)
  | _ => .error (.invalidArgument "SBox input must be 3 elements (F_p^3)")

/-- The inputs of the exhaustive branch of `SBox::is_permutation`, in loop order: `x0`
outermost, `x2` innermost. -/
def triples (p : Int) : List (Int × Int × Int) :=
  let range := (List.range p.toNat).map fun x : Nat => (x : Int)
  List.product range (List.product range range)

/-- The set-insertion loop of `SBox::is_permutation`: `none` at the first image already in
the set, otherwise the set of all images. -/
def collectOutputs (sbox : SBox) :
    List (Int × Int × Int) → List (List Int) → Option (List (List Int))
  | [], outputs => some outputs
  | (x0, x1, x2) :: rest, outputs =>
    let output := sbox.transform x0 x1 x2
    if output ∈ outputs then none else sbox.collectOutputs rest (output :: outputs)

/-- `SBox::is_permutation` — the determinant test above 1000, the exhaustive test below. -/
def isPermutation (sbox : SBox) : Bool :=
  if sbox.p > 1000 then mod (1 + sbox.p + sbox.p * sbox.p) sbox.p != 0
  else
    match sbox.collectOutputs (triples sbox.p) [] with
    | none => false
    | some outputs => (outputs.length : Int) == sbox.p * sbox.p * sbox.p

/-- `SBox::differential_uniformity`. -/
def differentialUniformity (sbox : SBox) : Int :=
  sbox.p * sbox.p

end SBox

/-- The function-local `static SBox sbox(p)` of `apply_sbox_layer`: the first call that
reaches it builds it from that call's modulus, and every later call reuses it. A constructor
that throws leaves it unbuilt. -/
def staticSbox (p : Int) : EStateM Exception (Option SBox) SBox := fun cache =>
  match cache with
  | some sbox => .ok sbox cache
  | none =>
    match SBox.new p with
    | .ok sbox => .ok sbox (some sbox)
    | .error e => .error e none

/-- The output of the twelve S-boxes of `apply_sbox_layer`, triple by triple. -/
def layerOutput (sbox : SBox) (state : List Int) : List Int :=
  (List.range 12).flatMap fun i =>
    sbox.transform (state.getD (3 * i) 0) (state.getD (3 * i + 1) 0) (state.getD (3 * i + 2) 0)

/-- `apply_sbox_layer` — checks the length, then applies the static S-box to each triple. -/
def applySboxLayer (state : List Int) (p : Int) : EStateM Exception (Option SBox) (List Int) := do
  if state.length ≠ 36 then throw (.invalidArgument "SBox layer input must be 36 elements")
  let sbox ← staticSbox p
  return layerOutput sbox state

end Yus
