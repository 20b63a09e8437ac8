/-
# The masked re-check
-/
import Mx27Drivers.Dma.Driver

namespace Mx27.Dma

variable {H : Type}

def ChainsTo (c : Chan H) : Prop := c.dmaChaining ∧ c.active ∧ (c.bdRing c.bdRd).state.busy

variable {v : View H}

lemma masked_id {body : View H → Option (View H)}
  (h : body (v.onShared (maskDmaInterrupt v.channel)) = some (v.onShared (maskDmaInterrupt v.channel))) :
  masked body v = some v := by
  rw [masked,h]
  rfl

variable [Dmac H]

lemma recheck_idle (h : ¬ (ChainsTo v.toChan ∧ v.bdUsed = 2)) : recheck v = some v := by
  apply masked_id
  unfold chainSecond
  split
  · rename_i hc
    split
    · rename_i hb
      exact if_neg fun hused => h ⟨⟨hc.1,hc.2,hb⟩,hused⟩
    · rfl
  · rfl

lemma recheckSg_idle (h : ∀ q, v.nextDmaBd = some q → (v.bdRing q).state.busy = false) :
  recheckSg v = some v := by
  apply masked_id
  unfold chainSecondSg
  split
  · split
    · rename_i q hq
      split
      · rename_i hb
        exact absurd ((h q hq).symm.trans hb) (by decide)
      · rfl
    · rfl
  · rfl

def chainRegs (bd : DmaBd) (h : H) : H :=
  Dmac.writel (Dmac.readl .ctl (writeBd bd h) ||| (DMA_CTL_ACRPT ||| DMA_CTL_RPT ||| DMA_CTL_CEN)) .ctl (writeBd bd h)

def chained (q : ℕ) (c : Chan H) : Chan H :=
  if getDmaInterrupt (Dmac.events (chainRegs (c.bdRing q) c.regs)) = 0 then
    Chan.setBusy q { c with regs := chainRegs (c.bdRing q) c.regs }
  else { c with regs := chainRegs (c.bdRing q) c.regs }

lemma setupNext_chained {q : ℕ} (hch : v.dmaChaining) (hq : v.nextDmaBd = some q) :
  setupNext v = some (v.onChan (chained q)) := by
  unfold setupNext View.onChan chained
  rw [if_neg (not_not.mpr hch),hq]
  dsimp only
  split
  · rename_i h
    rw [if_pos (show getDmaInterrupt (Dmac.events (chainRegs (v.bdRing q) v.regs)) = 0 from h)]
    rfl
  · rename_i h
    rw [if_neg (show ¬ getDmaInterrupt (Dmac.events (chainRegs (v.bdRing q) v.regs)) = 0 from h)]
    rfl

lemma recheck_chained {q : ℕ} (hc : ChainsTo v.toChan) (hused : v.bdUsed = 2)
  (hq : v.nextDmaBd = some q) : recheck v = some (v.onChan (chained q)) := by
  have hbody : ∀ w : View H, w.toChan = v.toChan → chainSecond w = some (w.onChan (chained q)) := by
    intro w hw
    have hpos : ¬ w.bdUsed ≤ 0 := by rw [hw,hused]; decide
    rw [← hw] at hc hused hq
    unfold chainSecond setupDmac
    rw [if_pos ⟨hc.1,hc.2.1⟩,if_pos hc.2.2,if_pos hused,if_neg (not_not.mpr hc.2.1),if_neg hpos,
      if_neg (not_not.mpr hc.2.2),setupNext_chained hc.1 hq]
  rw [recheck,masked,hbody (v.onShared (maskDmaInterrupt v.channel)) rfl]
  rfl

end Mx27.Dma
