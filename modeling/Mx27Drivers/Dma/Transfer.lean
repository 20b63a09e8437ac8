/-
# What setting up a transfer does to a channel

`setup_dmac` leaves the ring and what its descriptors describe.
-/
import Mx27Drivers.Dma.Driver

namespace Mx27.Dma

open Option

structure Buffer where
  last : Bool
  mode : DmaMode
  count : BitVec 32
  srcAddr : BitVec 32
  dstAddr : BitVec 32
  deriving DecidableEq

def DmaBd.buffer (p : DmaBd) : Buffer := ⟨p.state.last, p.mode, p.count, p.srcAddr, p.dstAddr⟩

variable {H : Type}

lemma Chan.setState_of_ne {i j : ℕ} (h : j ≠ i) (st : BdState) (c : Chan H) :
  (c.setState i st).bdRing j = c.bdRing j := Function.update_of_ne h ..

lemma Chan.setBusy_of_ne {i j : ℕ} (h : j ≠ i) (c : Chan H) : (c.setBusy i).bdRing j = c.bdRing j :=
  Chan.setState_of_ne h ..

lemma Chan.setBusy_self (c : Chan H) (i : ℕ) : ((c.setBusy i).bdRing i).state.busy = true := by
  simp [Chan.setBusy,Chan.setState]

lemma Chan.setBusy_buffer (c : Chan H) (i j : ℕ) : ((c.setBusy i).bdRing j).buffer = (c.bdRing j).buffer := by
  by_cases h : j = i
  · subst h
    simp [Chan.setBusy,Chan.setState,DmaBd.buffer]
  · rw [Chan.setBusy_of_ne h]

lemma Chan.setBusy_busy {c : Chan H} {i j : ℕ} (h : ((c.setBusy i).bdRing j).state.busy) :
  (c.bdRing j).state.busy ∨ j = i := by
  by_cases hj : j = i
  · exact Or.inr hj
  · rw [Chan.setBusy_of_ne hj] at h
    exact Or.inl h

structure OnlyTransfer (v v' : View H) : Prop where
  shared : v'.toShared = v.toShared
  chan : v'.toChan = { v.toChan with bdRing := v'.bdRing, mode := v'.mode, regs := v'.regs }
  buffer : ∀ i, (v'.bdRing i).buffer = (v.bdRing i).buffer
  busy : ∀ i, (v'.bdRing i).state.busy →
    (v.bdRing i).state.busy ∨ v.active ∧ (i = v.bdRd ∨ v.dmaChaining ∧ v.nextDmaBd = some i)

namespace OnlyTransfer

variable {v v' : View H}

lemma refl (v : View H) : OnlyTransfer v v := ⟨rfl, rfl, fun _ => rfl, fun _ => Or.inl⟩

lemma bdRd (h : OnlyTransfer v v') : v'.bdRd = v.bdRd :=
  (congrArg Chan.bdRd h.chan :)

lemma bdWr (h : OnlyTransfer v v') : v'.bdWr = v.bdWr :=
  (congrArg Chan.bdWr h.chan :)

lemma bdUsed (h : OnlyTransfer v v') : v'.bdUsed = v.bdUsed :=
  (congrArg Chan.bdUsed h.chan :)

lemma active (h : OnlyTransfer v v') : v'.active = v.active :=
  (congrArg Chan.active h.chan :)

lemma lock (h : OnlyTransfer v v') : v'.lock = v.lock :=
  (congrArg Chan.lock h.chan :)

lemma dmaInfo (h : OnlyTransfer v v') : v'.dmaInfo = v.dmaInfo :=
  (congrArg Chan.dmaInfo h.chan :)

lemma dmaChaining (h : OnlyTransfer v v') : v'.dmaChaining = v.dmaChaining :=
  (congrArg Chan.dmaChaining h.chan :)

end OnlyTransfer

variable {v v' : View H}

lemma masked_only {body : View H → Option (View H)} (hbody : ∀ w w', body w = some w' → OnlyTransfer w w')
  (h : masked body v = some v') : OnlyTransfer v v' := by
  unfold masked at h
  obtain ⟨w,hw,rfl⟩ := map_eq_some_iff.mp h
  have hw := hbody _ _ hw
  refine ⟨?_,hw.chan,hw.buffer,hw.busy⟩
  show { w.toShared with dimr := v.dimr } = v.toShared
  rw [hw.shared]
  rfl

lemma thenCheck_only {check : View H → Option (View H)} (hcheck : ∀ w w', check w = some w' → OnlyTransfer w w')
  (h : thenCheck check v = some v') : OnlyTransfer v v' := by
  unfold thenCheck at h
  split at h
  · exact Option.some.inj h ▸ OnlyTransfer.refl v
  · exact hcheck v v' h

variable [Dmac H]

lemma chainNext_only (hact : v.active) (q : Option ℕ) (ctrl : BitVec 32) (hq : ∀ i, q = some i → v.nextDmaBd = some i) :
  OnlyTransfer v (chainNext q ctrl v) := by
  unfold chainNext
  split
  · rename_i q
    split
    · rename_i hch
      refine ⟨rfl,rfl,fun i => Chan.setBusy_buffer ..,fun i hi => ?_⟩
      rcases Chan.setBusy_busy hi with h | rfl
      · exact Or.inl h
      · exact Or.inr ⟨hact,Or.inr ⟨hch,hq _ rfl⟩⟩
    · exact OnlyTransfer.refl v
  · exact OnlyTransfer.refl v

lemma setupFirst_only (hact : v.active) (h : setupFirst v = some v') : OnlyTransfer v v' := by
  simp only [setupFirst,bind_eq_bind,bind_eq_some_iff,Option.some.injEq] at h
  obtain ⟨ctrl,-,rfl⟩ := h
  generalize hw : ({ v with toChan := Chan.setBusy v.bdRd _ } : View H) = w
  have hfirst : OnlyTransfer v w := by
    rw [← hw]
    refine ⟨rfl,rfl,fun i => Chan.setBusy_buffer ..,fun i hi => ?_⟩
    rcases Chan.setBusy_busy hi with h | h
    · exact Or.inl h
    · exact Or.inr ⟨hact,Or.inl h⟩
  have hnext : w.nextDmaBd = v.nextDmaBd := by rw [← hw]; rfl
  have hchain := chainNext_only (hfirst.active ▸ hact) v.nextDmaBd (ctrl ||| DMA_CTL_CEN) fun i hi => hnext.trans hi
  refine ⟨hchain.shared.trans hfirst.shared,?_,fun i => (hchain.buffer i).trans (hfirst.buffer i),fun i hi => ?_⟩
  · rw [hchain.chan,hfirst.chan]
  · rcases hchain.busy i hi with h | ⟨-,h | h⟩
    · exact hfirst.busy i h
    · exact Or.inr ⟨hact,Or.inl (h.trans hfirst.bdRd)⟩
    · exact Or.inr ⟨hact,Or.inr ⟨hfirst.dmaChaining ▸ h.1,hnext ▸ h.2⟩⟩

lemma setupNext_only (hact : v.active) (h : setupNext v = some v') : OnlyTransfer v v' := by
  unfold setupNext at h
  split at h
  · cases h
  · rename_i hch
    split at h
    · rename_i q hq
      simp only at h
      split at h
      · cases h
        refine ⟨rfl,rfl,fun i => Chan.setBusy_buffer ..,fun i hi => ?_⟩
        rcases Chan.setBusy_busy hi with h | rfl
        · exact Or.inl h
        · exact Or.inr ⟨hact,Or.inr ⟨not_not.mp hch,hq⟩⟩
      · cases h
        exact ⟨rfl,rfl,fun _ => rfl,fun _ => Or.inl⟩
    · cases h
      exact ⟨rfl,rfl,fun _ => rfl,fun _ => Or.inl⟩

lemma setupDmac_cases (h : setupDmac v = some v') :
  (¬ v.active ∧ v' = v) ∨
  (v.active ∧ v.bdUsed ≤ 0 ∧ v' = { v with active := false, gDmaActived := v.gDmaActived - 1 }) ∨
  (v.active ∧ 0 < v.bdUsed ∧ OnlyTransfer v v') := by
  unfold setupDmac at h
  split at h
  · exact Or.inl ⟨‹_›,(Option.some.inj h).symm⟩
  · rename_i hact
    split at h
    · exact Or.inr (Or.inl ⟨not_not.mp hact,‹_›,(Option.some.inj h).symm⟩)
    · rename_i hused
      refine Or.inr (Or.inr ⟨not_not.mp hact,by omega,?_⟩)
      split at h
      · exact setupFirst_only (not_not.mp hact) h
      · exact setupNext_only (not_not.mp hact) h

lemma setupDmac_returns (hinfo : v.dmaInfo.isSome)
  (hbusy : 0 < v.bdUsed → (v.bdRing v.bdRd).state.busy → v.dmaChaining) :
  ∃ v', setupDmac v = some v' := by
  unfold setupDmac
  split
  · exact ⟨_,rfl⟩
  · split
    · exact ⟨_,rfl⟩
    · rename_i hused
      split
      · obtain ⟨info,hinfo⟩ := isSome_iff_exists.mp hinfo
        unfold setupFirst modeCtl
        simp only [hinfo,map_some,← apply_ite some,bind_eq_bind,bind_some]
        exact ⟨_,rfl⟩
      · rename_i hb
        unfold setupNext
        rw [if_neg (not_not.mpr (hbusy (by omega) (not_not.mp hb)))]
        split
        · simp only [← apply_ite some]
          exact ⟨_,rfl⟩
        · exact ⟨_,rfl⟩

lemma setupDmac_only (hact : v.active) (hused : v.bdUsed = 2) (h : setupDmac v = some v') : OnlyTransfer v v' := by
  rcases setupDmac_cases h with ⟨hn,-⟩ | ⟨-,hle,-⟩ | ⟨-,-,h⟩
  · exact absurd hact hn
  · omega
  · exact h

lemma recheck_only (h : recheck v = some v') : OnlyTransfer v v' := by
  refine masked_only (fun w w' hw => ?_) h
  unfold chainSecond at hw
  split at hw
  · rename_i hc
    split at hw
    · split at hw
      · exact setupDmac_only hc.2 ‹_› hw
      · exact Option.some.inj hw ▸ OnlyTransfer.refl w
    · exact Option.some.inj hw ▸ OnlyTransfer.refl w
  · exact Option.some.inj hw ▸ OnlyTransfer.refl w

lemma recheckSg_only (h : recheckSg v = some v') : OnlyTransfer v v' := by
  refine masked_only (fun w w' hw => ?_) h
  unfold chainSecondSg at hw
  split at hw
  · rename_i hc
    split at hw
    · split at hw
      · split at hw
        · exact setupDmac_only hc.2 ‹_› hw
        · exact Option.some.inj hw ▸ OnlyTransfer.refl w
      · exact Option.some.inj hw ▸ OnlyTransfer.refl w
    · exact Option.some.inj hw ▸ OnlyTransfer.refl w
  · exact Option.some.inj hw ▸ OnlyTransfer.refl w

end Mx27.Dma
