import YusCipher.Model.SBox
import YusCipher.Verif.SBoxAlgebra
import Mathlib.Data.List.ProdSigma
import Mathlib.Tactic.NormNum.Prime

/-!
# The S-box and the S-box layer permute their field vectors

`m` S-boxes on consecutive triples of a state are, word for word, the blockwise `sboxMap` of
the state read in `ZMod p`; with the inverse of `SBoxAlgebra` they permute the field vectors
of length `3m`. A single S-box is the case `m = 1` and the layer the case `m = 12`. The
exhaustive branch of `is_permutation` therefore never meets a repeated image and collects
`p³` of them. The layer function itself keeps its S-box in a `static`: once built, it is used
for every later call whatever modulus that call passes.
-/

open Yus Yus.SBox YusVerif.Field YusVerif.SBoxAlgebra

namespace YusVerif.SBox

section Blocks

/-- Word `j` of a concatenation of blocks of three words. -/
theorem getElem?_flatMap_three {α : Type} (f : ℕ → List α) (hf : ∀ i, (f i).length = 3) :
    ∀ n j, ((List.range n).flatMap f)[j]? = if j < 3 * n then (f (j / 3))[j % 3]? else none
  | 0, j => by simp
  | n + 1, j => by
    have hlen : ((List.range n).flatMap f).length = 3 * n := by
      induction n with
      | zero => simp
      | succ n ih => simp [List.range_succ, ih, hf]; omega
    rw [List.range_succ, List.flatMap_append, List.flatMap_singleton]
    by_cases hj : j < 3 * n
    · rw [List.getElem?_append_left (by omega), getElem?_flatMap_three f hf n j, if_pos hj,
        if_pos (by omega)]
    · rw [List.getElem?_append_right (by omega), hlen]
      by_cases hj' : j < 3 * (n + 1)
      · rw [if_pos hj', show j / 3 = n by omega, show j - 3 * n = j % 3 by omega]
      · rw [if_neg hj', List.getElem?_eq_none (by rw [hf]; omega)]

/-- The outputs of `m` S-boxes on the consecutive triples of a state. -/
def blockOutput (sbox : SBox) (m : ℕ) (state : List Int) : List Int :=
  (List.range m).flatMap fun i =>
    sbox.transform (state.getD (3 * i) 0) (state.getD (3 * i + 1) 0) (state.getD (3 * i + 2) 0)

/-- The layer's output is twelve S-boxes. -/
theorem layerOutput_eq_blockOutput (sbox : SBox) (state : List Int) :
    layerOutput sbox state = blockOutput sbox 12 state := rfl

/-- On three words, `SBox::apply` is one S-box. -/
theorem apply_eq_blockOutput (sbox : SBox) {x : List Int} (hx : x.length = 3) :
    sbox.apply x = .ok (blockOutput sbox 1 x) := by
  match x, hx with
  | [a, b, c], _ => simp [SBox.apply, blockOutput, List.range_succ]

/-- One S-box on a triple is its transform. -/
theorem blockOutput_triple (sbox : SBox) (a b c : Int) :
    blockOutput sbox 1 [a, b, c] = sbox.transform a b c := by
  simp [blockOutput, List.range_succ]

/-- Read in `ZMod p`, the S-boxes are the blockwise `sboxMap`. -/
theorem blockOutput_eq_blockwise {p : ℕ} [NeZero p] (sbox : SBox) (hsp : sbox.p = p) (m : ℕ)
    (state : List Int) :
    blockOutput sbox m state = ofZMod (blockwise sboxMap (toZMod p (3 * m) state)) := by
  apply List.ext_getElem?
  intro j
  rw [blockOutput, getElem?_flatMap_three _ (fun i => by simp [SBox.transform]), getElem?_ofZMod]
  by_cases hj : j < 3 * m
  · have hword : ∀ k, k < 3 * m →
        word (toZMod p (3 * m) state) k = (state.getD k 0 : ZMod p) :=
      fun k hk => by simp [word, toZMod, hk]
    rw [if_pos hj, dif_pos hj]
    simp only [blockwise, triple, component, hword _ (by omega : 3 * (j / 3) < 3 * m),
      hword _ (by omega : 3 * (j / 3) + 1 < 3 * m), hword _ (by omega : 3 * (j / 3) + 2 < 3 * m),
      sboxMap, SBox.transform, hsp, mod_eq_val]
    rcases (by omega : j % 3 = 0 ∨ j % 3 = 1 ∨ j % 3 = 2) with h | h | h <;> simp [h]
  · rw [if_neg hj, dif_neg hj]

/-- For a prime `p ≡ 2 (mod 3)`, `m` S-boxes permute the field vectors of length `3m`. -/
theorem blockOutput_bijOn {p : ℕ} (hp : p.Prime) (sbox : SBox) (hsp : sbox.p = p) (m : ℕ) :
    Set.BijOn (blockOutput sbox m) (FieldVec p (3 * m)) (FieldVec p (3 * m)) := by
  haveI := Fact.mk hp
  have h3 : p % 3 = 2 := by
    have h := (isP2mod3_iff (by omega : (0 : Int) ≤ sbox.p)).mp sbox.p_2mod3
    rw [hsp] at h
    exact_mod_cast h
  exact bijOn_of_conj (blockwise_bijective (sboxInv_sboxMap h3) (sboxMap_sboxInv h3))
    fun v _ => blockOutput_eq_blockwise sbox hsp m v

end Blocks

section Exhaustive

/-- The set-insertion loop collects every image, in reverse, when the images are distinct
from each other and from those already collected. -/
theorem collectOutputs_eq (sbox : SBox) : ∀ (inputs : List (Int × Int × Int))
    (outputs : List (List Int)),
    (inputs.map fun x => sbox.transform x.1 x.2.1 x.2.2).Nodup →
    (∀ x ∈ inputs, sbox.transform x.1 x.2.1 x.2.2 ∉ outputs) →
    sbox.collectOutputs inputs outputs =
      some ((inputs.map fun x => sbox.transform x.1 x.2.1 x.2.2).reverse ++ outputs)
  | [], outputs, _, _ => by simp [collectOutputs]
  | (a, b, c) :: rest, outputs, hnodup, hfresh => by
    rw [List.map_cons, List.nodup_cons] at hnodup
    rw [collectOutputs, if_neg (hfresh _ (List.mem_cons_self _ _)),
      collectOutputs_eq sbox rest _ hnodup.2 fun x hx hmem => ?_]
    · simp
    · rcases List.mem_cons.mp hmem with h | h
      · exact hnodup.1 (List.mem_map.mpr ⟨x, hx, h⟩)
      · exact hfresh x (List.mem_cons_of_mem _ hx) h

/-- The inputs of the exhaustive test are distinct triples of words in `[0, p)`. -/
theorem triples_spec (p : Int) : (triples p).Nodup ∧
    ∀ x ∈ triples p, [x.1, x.2.1, x.2.2] ∈ FieldVec p 3 := by
  have hrange : ((List.range p.toNat).map fun x : ℕ => (x : Int)).Nodup :=
    (List.nodup_range _).map fun a b h => by exact_mod_cast h
  refine ⟨hrange.product (hrange.product hrange), fun ⟨x0, x1, x2⟩ hx => ?_⟩
  simp only [triples, List.pair_mem_product, List.mem_map, List.mem_range] at hx
  obtain ⟨⟨a, ha, rfl⟩, ⟨b, hb, rfl⟩, ⟨c, hc, rfl⟩⟩ := hx
  refine ⟨rfl, fun y hy => ?_⟩
  simp only [List.mem_cons, List.mem_singleton, List.not_mem_nil, or_false] at hy
  rcases hy with rfl | rfl | rfl <;> omega

/-- The exhaustive test has `p³` inputs. -/
theorem length_triples (p : ℕ) : (triples p).length = p * (p * p) := by
  have hproduct : ∀ {α β : Type} (l₁ : List α) (l₂ : List β),
      (List.product l₁ l₂).length = l₁.length * l₂.length := List.length_product
  simp only [triples, hproduct, List.length_map, List.length_range, Int.toNat_natCast]

/-- A permuting S-box maps the distinct inputs of the exhaustive test to distinct images. -/
theorem triples_images_nodup {p : ℕ} (hp : p.Prime) (sbox : SBox) (hsp : sbox.p = p) :
    ((triples p).map fun x => sbox.transform x.1 x.2.1 x.2.2).Nodup := by
  obtain ⟨hnodup, hmem⟩ := triples_spec p
  refine hnodup.map_on fun x hx y hy hxy => ?_
  have h := (blockOutput_bijOn hp sbox hsp 1).injOn (hmem x hx) (hmem y hy)
    (by rw [blockOutput_triple, blockOutput_triple]; exact hxy)
  simp only [List.cons.injEq, and_true] at h
  exact Prod.ext h.1 (Prod.ext h.2.1 h.2.2)

/-- For a prime `p ≡ 2 (mod 3)`, `SBox::is_permutation` returns true in both branches. -/
theorem isPermutation_eq_true {p : ℕ} (hp : p.Prime) (sbox : SBox) (hsp : sbox.p = p) :
    sbox.isPermutation = true := by
  have hp2 := hp.two_le
  unfold isPermutation
  split
  · rw [mod_eq_emod _ (by omega), hsp,
      show (1 + (p : Int) + p * p) = 1 + p * (1 + p) by ring, Int.add_mul_emod_self_left,
      Int.emod_eq_of_lt (by omega) (by omega)]
    decide
  · rw [hsp, collectOutputs_eq sbox _ [] (triples_images_nodup hp sbox hsp) (by simp)]
    simp only [List.length_append, List.length_reverse, List.length_map, length_triples,
      List.length_nil, add_zero, beq_iff_eq]
    push_cast
    ring

/-- For a prime `p ≡ 2 (mod 3)`, the S-box over `p` permutes `F_p^3`, `is_permutation` says
so, and the twelve S-boxes of the layer permute `F_p^36`. -/
theorem sbox_permutes_field {p : ℕ} (hp : p.Prime) (sbox : SBox) (hsp : sbox.p = p) :
    Set.BijOn sbox.apply (FieldVec p 3) (Except.ok '' FieldVec p 3) ∧
      sbox.isPermutation = true ∧
      Set.BijOn (layerOutput sbox) (FieldVec p 36) (FieldVec p 36) :=
  ⟨bijOn_wrap (fun _ _ h => Except.ok.inj h) (blockOutput_bijOn hp sbox hsp 1)
      fun _ hx => apply_eq_blockOutput sbox hx.1,
    isPermutation_eq_true hp sbox hsp, blockOutput_bijOn hp sbox hsp 12⟩

/-- The S-box over the prime 65537. -/
theorem sbox_permutes_field_65537 :
    Nat.Prime 65537 ∧ (⟨65537, rfl⟩ : SBox).p = (65537 : ℕ) ∧
    (Set.BijOn (SBox.apply ⟨65537, rfl⟩) (FieldVec 65537 3) (Except.ok '' FieldVec 65537 3) ∧
      SBox.isPermutation ⟨65537, rfl⟩ = true ∧
      Set.BijOn (layerOutput ⟨65537, rfl⟩) (FieldVec 65537 36) (FieldVec 65537 36)) :=
  ⟨by norm_num, rfl, sbox_permutes_field (by norm_num) ⟨65537, rfl⟩ rfl⟩

end Exhaustive

section Static

/-- Running a program is applying it to the state. -/
theorem run_eq_apply {ε σ α : Type} (x : EStateM ε σ α) (s : σ) : x.run s = x s := rfl

/-- Binding after a computation that returns. -/
theorem run_bind_ok {ε σ α β : Type} {x : EStateM ε σ α} {f : α → EStateM ε σ β} {s s' : σ}
    {a : α} (h : x.run s = .ok a s') : (x >>= f).run s = (f a).run s' := by
  show EStateM.bind x f s = f a s'
  simp only [EStateM.bind, show x s = .ok a s' from h]

/-- A built static S-box is returned to every later call, whatever its modulus. -/
theorem staticSbox_built (sbox : SBox) (q : Int) :
    (staticSbox q).run (some sbox) = .ok sbox (some sbox) := rfl

/-- The first call that reaches the static builds it from its own modulus. -/
theorem staticSbox_unbuilt {q : Int} {sbox : SBox} (h : SBox.new q = .ok sbox) :
    (staticSbox q).run none = .ok sbox (some sbox) := by
  simp [run_eq_apply, staticSbox, h]

/-- On 36 words, `apply_sbox_layer` is the layer of the S-box the static holds after the
call: the one it held already, or the one built from this call's modulus. -/
theorem applySboxLayer_run {state : List Int} (hlen : state.length = 36) (q : Int)
    (cache : Option SBox) {sbox : SBox}
    (hsbox : cache = some sbox ∨ (cache = none ∧ SBox.new q = .ok sbox)) :
    (applySboxLayer state q).run cache = .ok (layerOutput sbox state) (some sbox) := by
  have hstatic : (staticSbox q).run cache = .ok sbox (some sbox) := by
    rcases hsbox with rfl | ⟨rfl, h⟩
    · exact staticSbox_built sbox q
    · exact staticSbox_unbuilt h
  simp only [applySboxLayer, hlen, ne_eq, not_true_eq_false, if_false]
  rw [run_bind_ok (x := pure PUnit.unit) rfl, run_bind_ok hstatic]
  rfl

/-- A state whose first word is in `[0, 65543)` but not in `[0, 65537)`. -/
def wideState : List Int := 65540 :: List.replicate 35 0

/-- After a call with the prime 65537, a call with the prime 65543 still reduces by 65537:
its result is not the layer of `SBox(65543)`. -/
theorem applySboxLayer_keeps_first_modulus :
    Nat.Prime 65537 ∧ Nat.Prime 65543 ∧ wideState ∈ FieldVec 65543 36 ∧
    (do let _ ← applySboxLayer wideState 65537; applySboxLayer wideState 65543).run' none ≠
      some (layerOutput ⟨65543, rfl⟩ wideState) := by
  refine ⟨by norm_num, by norm_num, ⟨rfl, fun x hx => ?_⟩, by decide⟩
  simp only [wideState, List.mem_cons, List.mem_replicate] at hx
  omega

/-- A sequence of `apply_sbox_layer` calls in one process, each with its state and modulus. -/
def layerCalls (calls : List (List Int × Int)) :
    EStateM Exception (Option SBox) (List (List Int)) :=
  calls.mapM fun call => applySboxLayer call.1 call.2

/-- Once the static holds an S-box, every call on 36 words returns that S-box's layer. -/
theorem layerCalls_built (sbox : SBox) : ∀ calls : List (List Int × Int),
    (∀ call ∈ calls, call.1.length = 36) →
      (layerCalls calls).run (some sbox) =
        .ok (calls.map fun call => layerOutput sbox call.1) (some sbox)
  | [], _ => rfl
  | call :: calls, hlen => by
    rw [layerCalls, List.mapM_cons, run_bind_ok (applySboxLayer_run (hlen call (.head _)) _ _
      (.inl rfl)), run_bind_ok (x := List.mapM _ calls)
      (layerCalls_built sbox calls fun c hc => hlen c (.tail _ hc))]
    rfl

/-- In a fresh process, every call of `apply_sbox_layer` on 36 words returns the layer of the
S-box built from the first call's modulus, whatever modulus it passes itself. -/
theorem layerCalls_first_modulus {state : List Int} {q : Int} {sbox : SBox}
    (hnew : SBox.new q = .ok sbox) (calls : List (List Int × Int))
    (hlen : ∀ call ∈ (state, q) :: calls, call.1.length = 36) :
    (layerCalls ((state, q) :: calls)).run none =
      .ok (((state, q) :: calls).map fun call => layerOutput sbox call.1) (some sbox) := by
  rw [layerCalls, List.mapM_cons, run_bind_ok (applySboxLayer_run (hlen _ (.head _)) q none
    (.inr ⟨rfl, hnew⟩)), run_bind_ok (x := List.mapM _ calls)
    (layerCalls_built sbox calls fun c hc => hlen c (.tail _ hc))]
  rfl

/-- Two calls over 65537 and then 65543. -/
theorem layerCalls_first_modulus_65537 :
    SBox.new 65537 = .ok ⟨65537, rfl⟩ ∧
    (∀ call ∈ [(wideState, (65537 : Int)), (wideState, 65543)], call.1.length = 36) ∧
    (layerCalls [(wideState, 65537), (wideState, 65543)]).run none =
      .ok ([(wideState, (65537 : Int)), (wideState, 65543)].map fun call =>
        layerOutput ⟨65537, rfl⟩ call.1) (some ⟨65537, rfl⟩) := by
  have hnew : SBox.new 65537 = .ok ⟨65537, rfl⟩ := rfl
  have hlen : ∀ call ∈ [(wideState, (65537 : Int)), (wideState, 65543)], call.1.length = 36 := by
    simp [wideState]
  exact ⟨hnew, hlen, layerCalls_first_modulus hnew [(wideState, 65543)] hlen⟩

end Static

end YusVerif.SBox
