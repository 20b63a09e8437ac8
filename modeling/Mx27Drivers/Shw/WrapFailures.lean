/-
# Failures of key wrapping

What `create_icv_calc` and `unwrap` leave where an allocation or the SCC fails.
-/
import Mx27Drivers.Shw.KeyWrap

namespace Mx27.Shw

open List

/-! ### The calls only grow -/

def World.Onto (w w' : World) : Prop := w.log <+: w'.log

lemma World.Onto.emit (w : World) (calls : List MemCall) : w.Onto (w.emit calls) := prefix_append ..

lemma World.Onto.alloc (w : World) : w.Onto w.alloc.2 := prefix_rfl

lemma World.Onto.trans {w w' w'' : World} (h : w.Onto w') (h' : w'.Onto w'') : w.Onto w'' := List.IsPrefix.trans h h'

lemma destroyLink_onto (links : List Link) (w : World) : w.Onto (sahDestroyLink links w) := .emit ..

def Adds {α : Type} (x : Build α) : Prop := ∀ w : World, w.Onto (x w).2

namespace Adds

variable {α β : Type} {x : Build α} {f : α → Build β}

lemma pure (a : α) : Adds (pure a : Build α) := fun _ => prefix_rfl

lemma bind (hx : Adds x) (hf : ∀ a, Adds (f a)) : Adds (x >>= f) := by
  intro w
  have hw := hx w
  rcases h : x w with ⟨e | a,w'⟩
  · rw [Build.bind_error h]
    rwa [h] at hw
  · rw [Build.bind_ok h]
    rw [h] at hw
    exact hw.trans (hf a w')

lemma onFailure (hx : Adds x) {g : World → World} (hg : ∀ w : World, w.Onto (g w)) : Adds (x.onFailure g) := by
  intro w
  have hw := hx w
  unfold Build.onFailure
  split
  · next h => rwa [h] at hw
  · next h =>
    rw [h] at hw
    exact hw.trans (hg _)

end Adds

lemma createLink_adds (p : Ptr) (n : BitVec 32) (flags : LinkFlags) : Adds (sahCreateLink p n flags) := by
  intro w
  have hw := World.Onto.alloc w
  unfold sahCreateLink
  split
  · next h => rwa [h] at hw
  · next h =>
    rw [h] at hw
    exact hw.trans (.emit ..)

lemma keyLink_adds (k : KeyInfo) : Adds (keyLink k) := by
  refine Adds.bind (fun w => ?_) fun _ => .pure _
  have hw := World.Onto.alloc w
  unfold sahCreateKeyLink
  split
  · next h =>
    rw [h] at hw
    split
    · exact hw
    · split <;> exact hw
  · next h => rwa [h] at hw

lemma userLink_adds (p : Option Ptr) (n : BitVec 32) (output : Bool) : Adds (userLink p n output) := by
  cases p with
  | none => exact .pure _
  | some p => exact Adds.bind (createLink_adds _ _ _) fun _ => .pure _

lemma appendLink_adds (links : List Link) (p : Ptr) (n : BitVec 32) (flags : LinkFlags) :
  Adds (sahAppendLink links p n flags) := Adds.bind (createLink_adds _ _ _) fun _ => .pure _

lemma appendDesc_adds (chain : List Desc) (header : BitVec 32) (link1 link2 : List Link) :
  Adds (sahAppendDesc chain header link1 link2) := by
  refine Adds.bind (fun w => ?_) fun _ => .pure _
  have hw := World.Onto.alloc w
  unfold sahCreateDesc
  split
  · next h => rwa [h] at hw
  · next h =>
    rw [h] at hw
    exact (hw.trans (destroyLink_onto ..)).trans (destroyLink_onto ..)

lemma addInKeyDesc_adds (header : BitVec 32) (p : Option Ptr) (n : BitVec 32) (k : KeyInfo) (chain : List Desc) :
  Adds (addInKeyDesc header p n k chain) :=
  Adds.bind (userLink_adds _ _ _) fun _ => ((keyLink_adds k).onFailure (destroyLink_onto _)).bind fun _ => appendDesc_adds _ _ _ _

lemma appendKek_adds (f : Frame) (t kek : KeyInfo) (chain : List Desc) : Adds (appendKek f t kek chain) :=
  (keyLink_adds t).bind fun _ => Adds.bind (appendLink_adds _ _ _ _) fun _ => (keyLink_adds kek).bind fun _ => appendDesc_adds _ _ _ _

lemma createIcvCalc_adds (f : Frame) (t : KeyInfo) (black : Ptr) (keyLength : BitVec 16) (hmac : Ptr) (chain : List Desc) :
  Adds (createIcvCalc f t black keyLength hmac chain) := by
  refine Adds.bind (addInKeyDesc_adds _ _ _ _ _) fun chain => Adds.bind (createLink_adds _ _ _) fun link1 w => ?_
  have hlink1 := appendLink_adds [link1] (black.add LENGTH_OFFSET)
    (LENGTH_LENGTH + ALGORITHM_LENGTH + keyLength.setWidth 32) usesFlags w
  unfold appendIcvHash
  split
  · next h =>
    rw [h] at hlink1
    exact hlink1.trans (appendDesc_adds ..)
  · next w' h =>
    rw [h] at hlink1
    have hlink2 := createLink_adds hmac ICV_LENGTH outFlags w'
    split
    · next h =>
      rw [h] at hlink2
      exact (hlink1.trans hlink2).trans (appendDesc_adds ..)
    · next h =>
      rw [h] at hlink2
      exact (hlink1.trans hlink2).trans (appendDesc_adds ..)

section
variable (c : Crypto) (f : Frame) (k : Sko) (t : KeyInfo) (black hmac : Ptr)

lemma execute_adds (chain : List Desc) (s : Sys) : s.world.Onto (execute c chain s).2.world := by
  have hsame := (reworkLinks_rel (R := fun _ _ => True) (fun _ => trivial) (fun _ _ => trivial) chain s.world
    fun _ _ _ _ _ => trivial).1
  have honto : s.world.Onto (sahReworkLinks chain s.world).2.2 := by rw [World.Onto,hsame.log]
  unfold execute
  dsimp only
  split
  · exact prefix_rfl
  · split <;> exact honto

/-! ### Unwrapping -/

lemma unwrapKey_keeps (s : Sys) : s.world.Onto (unwrapKey c f k t black s).2.2.world ∧
  ((unwrapKey c f k t black s).2.1 = k ∨ (unwrapKey c f k t black s).2.1 = { k with keyLength := roundedKeyLength k.keyLength }) := by
  have h1 := appendKek_adds f t t [] s.world
  unfold unwrapKey
  split
  · next h =>
    rw [h] at h1
    exact ⟨h1,.inl rfl⟩
  · next chain w h =>
    rw [h] at h1
    have h2 := addInKeyDesc_adds ctrHeader none 0#32 t chain w
    split
    · next h =>
      rw [h] at h2
      exact ⟨h1.trans h2,.inr rfl⟩
    · next chain w h =>
      rw [h] at h2
      have h3 := addInKeyDesc_adds SAH_HDR_SKHA_ENC_DEC (some (black.add KEY_PRIME_OFFSET))
        ((roundedKeyLength k.keyLength).setWidth 32) { k.toKeyInfo with keyLength := roundedKeyLength k.keyLength } chain w
      split
      · next h =>
        rw [h] at h3
        exact ⟨(h1.trans h2).trans h3,.inl rfl⟩
      · next chain w h =>
        rw [h] at h3
        exact ⟨((h1.trans h2).trans h3).trans (execute_adds c chain { s with world := w }),.inl rfl⟩

def Freed (p : Ptr) (w w' : World) : Prop := ∃ calls, w'.log = w.log ++ calls ∧ Wipe.Call.free p.block p.offset ∈ calls

lemma Freed.of_emit {p : Ptr} {w w' w'' : World} (h : w.Onto w') (h' : (w'.emit [.free p.block p.offset]).Onto w'') :
  Freed p w w'' := by
  obtain ⟨calls,hcalls⟩ := h
  obtain ⟨more,hmore⟩ := h'
  refine ⟨calls ++ [.free p.block p.offset] ++ more,?_,by simp⟩
  rw [← hmore,World.emit,← hcalls]
  simp only [List.append_assoc]

lemma unwrapWith_keeps (s : Sys) : Freed hmac s.world (unwrapWith c f k t black hmac s).2.2.world ∧
  ((unwrapWith c f k t black hmac s).2.1 = k ∨
    (unwrapWith c f k t black hmac s).2.1 = { k with keyLength := roundedKeyLength k.keyLength }) := by
  have h1 := createIcvCalc_adds f t black k.keyLength hmac [] s.world
  unfold unwrapWith
  split
  · next h =>
    rw [h] at h1
    exact ⟨.of_emit h1 prefix_rfl,.inl rfl⟩
  · next chain w h =>
    rw [h] at h1
    have h2 := h1.trans (execute_adds c chain { s with world := w })
    dsimp only
    generalize execute c chain { s with world := w } = r at h2 ⊢
    generalize (if r.1 = .ok then checkIcv black hmac r.2.store.mem else r.1) = ret
    split
    · obtain ⟨h3,hk⟩ := unwrapKey_keeps c f k t black ⟨r.2.world.emit [.free hmac.block hmac.offset],r.2.store⟩
      exact ⟨.of_emit h2 h3,hk⟩
    · exact ⟨.of_emit h2 prefix_rfl,.inl rfl⟩

lemma icvDescs_whole {keyLength : BitVec 16} {made1 made2 : Bool} :
  icvDescs f t black keyLength hmac made1 made2 = icvDescs f t black keyLength hmac true true ↔
    made1 = true ∧ made2 = true := by
  cases made1 <;> cases made2 <;> simp [icvDescs,icvDesc,descOf]

lemma slotDecrypt_keeps (owner : BitVec 64) (slot : BitVec 32) (n : ℕ) (p : Ptr) (s : Sys) :
  ((doSccSlotDecrypt c owner slot n p s).1 = .ok ↔ s.store.scc.Verify owner slot.toNat n) ∧
    (doSccSlotDecrypt c owner slot n p s).2.world = s.world := by
  unfold doSccSlotDecrypt
  split
  · next hv => exact ⟨iff_of_true rfl hv,rfl⟩
  · next hv => exact ⟨iff_of_false (fun h => by cases h) hv,rfl⟩

end

end Mx27.Shw
