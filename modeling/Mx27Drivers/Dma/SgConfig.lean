/-
# Scatterlists and buffer lists
-/
import Mx27Drivers.Dma.RingRun
import Mx27Drivers.Dma.Recheck

namespace Mx27.Dma

open List Option Function

variable {H : Type}

def Scatter.toBuf (info : DmaInfo) (mode : DmaMode) (sg : Scatter) : RequestBuf :=
  match mode with
  | .read => ⟨info.perAddress, sg.dmaAddress, sg.length⟩
  | .write => ⟨sg.dmaAddress, info.perAddress, sg.length⟩

lemma sgBd_eq_bufBd (info : DmaInfo) (mode : DmaMode) (last : Bool) (sg : Scatter) :
  sgBd info mode last sg.length sg = bufBd mode last (sg.toBuf info mode) := by
  cases mode <;> rfl

def pushBufs (mode : DmaMode) : List RequestBuf → Chan H → Chan H
  | [], c => c
  | b :: bs, c => pushBufs mode bs (c.push (bufBd mode bs.isEmpty b))

lemma pushBufs_regs (mode : DmaMode) : ∀ (bs : List RequestBuf) (c : Chan H), (pushBufs mode bs c).regs = c.regs
  | [], _ => rfl
  | _ :: bs, _ => pushBufs_regs mode bs _

lemma pushBufs_of_lt (mode : DmaMode) : ∀ (bs : List RequestBuf) (c : Chan H), RingWf c →
  c.bdUsed + bs.length ≤ MAX_BD_SIZE → ∀ j < c.bdUsed.toNat,
  (pushBufs mode bs c).bdRing ((c.bdRd + j) % MAX_BD_SIZE) = c.bdRing ((c.bdRd + j) % MAX_BD_SIZE)
  | [], _, _, _, _, _ => rfl
  | b :: bs, c, hwf, hroom, j, hj => by
    rw [length_cons,Nat.cast_add,Nat.cast_one] at hroom
    have hlt : c.bdUsed < MAX_BD_SIZE := by omega
    have hrest := pushBufs_of_lt mode bs (c.push (bufBd mode bs.isEmpty b)) (hwf.push hlt _)
      (by show c.bdUsed + 1 + bs.length ≤ MAX_BD_SIZE; omega) j (by show j < (c.bdUsed + 1).toNat; omega)
    exact hrest.trans (hwf.push_of_lt hlt _ hj)

/-! ### The fills -/

variable [Dmac H]

lemma fillBds_plain (mode : DmaMode) : ∀ (bs : List RequestBuf) (v : View H), RingWf v.toChan →
  v.bdUsed + bs.length ≤ MAX_BD_SIZE → (v.bdUsed = 1 → ¬ ChainsTo v.toChan) →
  fillBds mode bs v = some (v.onChan (pushBufs mode bs))
  | [], _, _, _, _ => rfl
  | b :: bs, v, hwf, hroom, hquiet => by
    rw [length_cons,Nat.cast_add,Nat.cast_one] at hroom
    have hnn := hwf.nonneg
    have hlt : v.bdUsed < MAX_BD_SIZE := by omega
    obtain ⟨v1,hv1⟩ : ∃ v1, v1 = v.onChan (Chan.push (bufBd mode bs.isEmpty b)) := ⟨_, rfl⟩
    have hused : v1.bdUsed = v.bdUsed + 1 := by rw [hv1]; rfl
    -- the first descriptor is the one it was, or the one just put there
    have hhead : 0 < v.bdUsed → v1.bdRing v1.bdRd = v.bdRing v.bdRd := by
      intro hpos
      have := hwf.push_of_lt hlt (bufBd mode bs.isEmpty b) (j := 0) (by omega)
      rw [hwf.index_zero] at this
      rw [hv1]
      exact this
    have hfirst : v.bdUsed = 0 → (v1.bdRing v1.bdRd).state.busy = false := by
      intro hz
      have hwr : v.bdWr = v.bdRd := by
        rw [hwf.wr,hz]
        exact hwf.index_zero
      rw [hv1]
      show (Function.update v.bdRing v.bdWr _ v.bdRd).state.busy = false
      rw [hwr,update_self]
      rfl
    have hcheck : thenCheck recheck v1 = some v1 := by
      unfold thenCheck
      split
      · rfl
      · refine recheck_idle fun hc => hquiet (by omega) ?_
        have hb := hc.1.2.2
        rw [hhead (by omega)] at hb
        rw [hv1] at hc
        exact ⟨hc.1.1,hc.1.2.1,hb⟩
    have hquiet1 : v1.bdUsed = 1 → ¬ ChainsTo v1.toChan := by
      intro h1 hc
      have := hfirst (by omega)
      rw [hc.2.2] at this
      cases this
    have hwf1 : RingWf v1.toChan := by rw [hv1]; exact hwf.push hlt _
    rw [fillBds,← hv1,hcheck]
    simp only [bind_eq_bind,bind_some]
    rw [fillBds_plain mode bs v1 hwf1 (by omega) hquiet1,hv1]
    rfl

lemma fillSg_plain {info : DmaInfo} (mode : DmaMode) : ∀ (sgs : List Scatter) (v : View H), RingWf v.toChan →
  v.dmaInfo = some info → v.bdUsed + sgs.length ≤ MAX_BD_SIZE →
  fillSg mode 0 sgs 0 v = some (v.onChan (pushBufs mode (sgs.map (Scatter.toBuf info mode))))
  | [], _, _, _, _ => rfl
  | sg :: sgs, v, hwf, hinfo, hroom => by
    rw [length_cons,Nat.cast_add,Nat.cast_one] at hroom
    have hnn := hwf.nonneg
    have hlt : v.bdUsed < MAX_BD_SIZE := by omega
    obtain ⟨v1,hv1⟩ : ∃ v1, v1 = v.onChan (Chan.push (bufBd mode sgs.isEmpty (sg.toBuf info mode))) := ⟨_, rfl⟩
    have hused : v1.bdUsed = v.bdUsed + 1 := by rw [hv1]; rfl
    have hcheck : thenCheck recheckSg v1 = some v1 := by
      unfold thenCheck
      split
      · rfl
      · -- the second descriptor is the one just put there
        refine recheckSg_idle fun q hq => ?_
        have hwr : v.bdWr = (v.bdRd + 1) % MAX_BD_SIZE := by
          rw [hwf.wr,show v.bdUsed.toNat = 1 by omega]
        have hqi : q = (v.bdRd + 1) % MAX_BD_SIZE := by
          rw [hv1] at hq
          unfold Chan.nextDmaBd at hq
          split at hq
          · cases hq
          · exact (Option.some.inj hq).symm
        rw [hv1,hqi,← hwr]
        show (Function.update v.bdRing v.bdWr _ v.bdWr).state.busy = false
        rw [update_self]
        rfl
    have hwf1 : RingWf v1.toChan := by rw [hv1]; exact hwf.push hlt _
    have hinfo1 : v1.dmaInfo = some info := by rw [hv1]; exact hinfo
    have hleft : sgLeft 0 0 sg = 0 := rfl
    have hcount : sgCount 0 0 sg = sg.length := rfl
    rw [fillSg,if_pos (Or.inl (le_refl _)),hinfo]
    simp only [bind_eq_bind,bind_some,hleft,hcount,lt_self_iff_false,false_and,decide_false,
      Bool.or_false]
    rw [sgBd_eq_bufBd,← hv1,hcheck,bind_some,fillSg_plain mode sgs v1 hwf1 hinfo1 (by omega),hv1]
    simp only [View.onChan,map_cons,pushBufs,isEmpty_map]

variable {mode : DmaMode}

lemma fillBds_chain {b : RequestBuf} {bs : List RequestBuf} {v v₁ : View H} (hwf : RingWf v.toChan)
  (hroom : v.bdUsed + (b :: bs).length ≤ MAX_BD_SIZE) (hused : v.bdUsed = 1) (hc : ChainsTo v.toChan)
  (hv₁ : v₁ = v.onChan (Chan.push (bufBd mode bs.isEmpty b))) :
  fillBds mode (b :: bs) v =
    some ((v₁.onChan (chained ((v.bdRd + 1) % MAX_BD_SIZE))).onChan (pushBufs mode bs)) := by
  rw [length_cons,Nat.cast_add,Nat.cast_one] at hroom
  have hlt : v.bdUsed < MAX_BD_SIZE := by rw [hused]; decide
  have hwf1 : RingWf v₁.toChan := by rw [hv₁]; exact hwf.push hlt _
  have hused1 : v₁.bdUsed = 2 := by
    rw [hv₁]
    show v.bdUsed + 1 = 2
    omega
  have hc1 : ChainsTo v₁.toChan := by
    have := hwf.push_of_lt hlt (bufBd mode bs.isEmpty b) (j := 0) (by omega)
    rw [hwf.index_zero] at this
    rw [hv₁]
    exact ⟨hc.1,hc.2.1,(congrArg (fun bd => bd.state.busy) this :).trans hc.2.2⟩
  have hrd : v₁.bdRd = v.bdRd := by rw [hv₁]; rfl
  have hq : v₁.nextDmaBd = some ((v.bdRd + 1) % MAX_BD_SIZE) := by
    rw [hwf1.nextDmaBd_eq (by omega),hused1,hrd]
    rfl
  have e := recheck_chained hc1 hused1 hq
  have honly := recheck_only e
  rw [fillBds,← hv₁,thenCheck,if_neg (not_not.mpr hused1),e]
  simp only [bind_eq_bind,bind_some]
  refine fillBds_plain mode bs _ ?_ ?_ fun h1 => ?_
  · refine ⟨?_,?_,?_,?_⟩
    · exact honly.bdUsed ▸ hwf1.nonneg
    · exact honly.bdUsed ▸ hwf1.le
    · exact honly.bdRd ▸ hwf1.rd
    · rw [honly.bdWr,honly.bdRd,honly.bdUsed]
      exact hwf1.wr
  · rw [honly.bdUsed]
    omega
  · rw [honly.bdUsed] at h1
    omega

def Chan.ringAndRegs (c : Chan H) : ℕ × ℕ × ℤ × (ℕ → DmaBd) × H := (c.bdRd, c.bdWr, c.bdUsed, c.bdRing, c.regs)

omit [Dmac H] in
lemma Chan.bdRing_of_ringAndRegs {c c' : Chan H} (h : c.ringAndRegs = c'.ringAndRegs) : c.bdRing = c'.bdRing :=
  congrArg (fun t => t.2.2.2.1) h

omit [Dmac H] in
lemma Chan.regs_of_ringAndRegs {c c' : Chan H} (h : c.ringAndRegs = c'.ringAndRegs) : c.regs = c'.regs :=
  congrArg (fun t => t.2.2.2.2) h

lemma holds_of_chained {b : RequestBuf} {bs : List RequestBuf} {c c₁ : Chan H} (hwf : RingWf c)
  (hroom : c.bdUsed + (b :: bs).length ≤ MAX_BD_SIZE) (hused : c.bdUsed = 1)
  (hc₁ : c₁ = c.push (bufBd mode bs.isEmpty b))
  (he : (pushBufs mode bs c₁).ringAndRegs =
    (pushBufs mode bs (chained ((c.bdRd + 1) % MAX_BD_SIZE) c₁)).ringAndRegs) :
    getDmaInterrupt (Dmac.events (chainRegs (bufBd mode bs.isEmpty b) c.regs)) ≠ 0 ∧
      chainRegs (bufBd mode bs.isEmpty b) c.regs = c.regs := by
  rw [length_cons,Nat.cast_add,Nat.cast_one] at hroom
  have hlt : c.bdUsed < MAX_BD_SIZE := by rw [hused]; decide
  have hwf1 : RingWf c₁ := by rw [hc₁]; exact hwf.push hlt _
  have hwr : c.bdWr = (c.bdRd + 1) % MAX_BD_SIZE := by rw [hwf.wr,hused]; rfl
  have hslot : c₁.bdRing ((c.bdRd + 1) % MAX_BD_SIZE) = bufBd mode bs.isEmpty b := by
    rw [hc₁,← hwr]
    exact update_self ..
  have hregs : c₁.regs = c.regs := by rw [hc₁]; rfl
  have hused1 : c₁.bdUsed = 2 := by
    rw [hc₁]
    show c.bdUsed + 1 = 2
    omega
  have hrd : c₁.bdRd = c.bdRd := by rw [hc₁]; rfl
  unfold chained at he
  rw [hslot,hregs] at he
  generalize chainRegs (bufBd mode bs.isEmpty b) c.regs = h at he ⊢
  split at he
  · -- the slot is `BUSY` after one of the two and not after the other
    have hplain := pushBufs_of_lt mode bs c₁ hwf1 (by omega) 1 (by omega)
    have hbusy : ∀ q, q = (c₁.bdRd + 1) % MAX_BD_SIZE →
        (pushBufs mode bs (Chan.setBusy q { c₁ with regs := h })).bdRing q =
          (Chan.setBusy q { c₁ with regs := h }).bdRing q := by
      rintro q rfl
      exact pushBufs_of_lt mode bs (Chan.setBusy _ { c₁ with regs := h }) ⟨hwf1.nonneg,hwf1.le,hwf1.rd,hwf1.wr⟩
        (by show c₁.bdUsed + bs.length ≤ MAX_BD_SIZE; omega) 1 (by show 1 < c₁.bdUsed.toNat; omega)
    have hset := hbusy ((c.bdRd + 1) % MAX_BD_SIZE) (by rw [hrd])
    rw [hrd,hslot,Chan.bdRing_of_ringAndRegs he] at hplain
    have := congrArg (fun bd => bd.state.busy) (hplain.symm.trans hset)
    rw [Chan.setBusy_self] at this
    cases this
  · rename_i hirq
    have hr := Chan.regs_of_ringAndRegs he
    rw [pushBufs_regs,pushBufs_regs] at hr
    exact ⟨hirq,(hregs.symm.trans hr).symm⟩

lemma chained_of_holds {q : ℕ} {c : Chan H} (hirq : getDmaInterrupt (Dmac.events c.regs) ≠ 0)
  (hregs : chainRegs (c.bdRing q) c.regs = c.regs) : chained q c = c := by
  rw [chained,hregs,if_neg hirq]

/-! ### When the two agree -/

def HoldsChained (b : RequestBuf) (h : Regs) : Prop :=
  h.reg .sourceAddr = b.srcAddr ∧ h.reg .destAddr = b.dstAddr ∧ h.reg .count = b.numOfBytes ∧
    h.reg .ctl ||| (DMA_CTL_ACRPT ||| DMA_CTL_RPT ||| DMA_CTL_CEN) = h.reg .ctl

lemma chainRegs_eq_iff (bd : DmaBd) (h : Regs) : chainRegs bd h = h ↔
  HoldsChained ⟨bd.srcAddr, bd.dstAddr, bd.count⟩ h := by
  have hreg : ∀ r, (chainRegs bd h).reg r = match r with
      | .sourceAddr => bd.srcAddr
      | .destAddr => bd.dstAddr
      | .count => bd.count
      | .ctl => h.reg .ctl ||| (DMA_CTL_ACRPT ||| DMA_CTL_RPT ||| DMA_CTL_CEN)
      | r => h.reg r := by
    intro r
    cases r <;> rfl
  constructor
  · intro he
    rw [he] at hreg
    exact ⟨hreg .sourceAddr,hreg .destAddr,hreg .count,(hreg .ctl).symm⟩
  · rintro ⟨h1,h2,h3,h4⟩
    apply Regs.ext
    · funext r
      rw [hreg]
      cases r
      · exact h1.symm
      · exact h2.symm
      · exact h3.symm
      · exact h4
      all_goals rfl
    · rfl

def ChainMissed (info : DmaInfo) (mode : DmaMode) (sgs : List Scatter) (c : Chan Regs) : Prop :=
  c.lock ∧ c.mode = mode ∧ sgs.length < MAX_BD_SIZE ∧ ChainsTo c ∧ c.bdUsed = 1 ∧
    ∃ sg, sgs.head? = some sg ∧ ¬ (getDmaInterrupt c.regs.events ≠ 0 ∧ HoldsChained (sg.toBuf info mode) c.regs)

section Fill

variable {v : View Regs} {info : DmaInfo} {mode : DmaMode} {sg : Scatter} {sgs : List Scatter}

lemma chained_push (hwf : RingWf v.toChan) (hused : v.bdUsed = 1) {b : RequestBuf} {last : Bool}
  (hirq : getDmaInterrupt v.regs.events ≠ 0) (hholds : HoldsChained b v.regs) :
  chained ((v.bdRd + 1) % MAX_BD_SIZE) (v.toChan.push (bufBd mode last b)) = v.toChan.push (bufBd mode last b) := by
  have hwr : v.bdWr = (v.bdRd + 1) % MAX_BD_SIZE := by rw [hwf.wr,hused]; rfl
  apply chained_of_holds (c := v.toChan.push _) hirq
  rw [← hwr]
  show chainRegs (Function.update v.bdRing v.bdWr (bufBd mode last b) v.bdWr) v.regs = v.regs
  rw [update_self,chainRegs_eq_iff]
  exact hholds

lemma fill_agrees (hwf : RingWf v.toChan) (hinfo : v.dmaInfo = some info)
  (hroom : v.bdUsed + (sg :: sgs).length ≤ MAX_BD_SIZE)
  (h : ChainsTo v.toChan → v.bdUsed = 1 →
    getDmaInterrupt v.regs.events ≠ 0 ∧ HoldsChained (sg.toBuf info mode) v.regs) :
  fillSg mode 0 (sg :: sgs) 0 v = fillBds mode ((sg :: sgs).map (Scatter.toBuf info mode)) v := by
  have hroom' : v.bdUsed + (((sg :: sgs).map (Scatter.toBuf info mode)).length : ℕ) ≤ MAX_BD_SIZE := by
    rwa [length_map]
  rw [fillSg_plain mode (sg :: sgs) v hwf hinfo hroom]
  by_cases hc : v.bdUsed = 1 ∧ ChainsTo v.toChan
  · obtain ⟨hirq,hholds⟩ := h hc.2 hc.1
    rw [map_cons] at hroom' ⊢
    rw [fillBds_chain hwf hroom' hc.1 hc.2 rfl]
    simp only [View.onChan,pushBufs,chained_push hwf hc.1 hirq hholds]
  · rw [fillBds_plain mode _ v hwf hroom' fun h1 h2 => hc ⟨h1,h2⟩]

lemma holds_of_fill_agrees (hwf : RingWf v.toChan) (hinfo : v.dmaInfo = some info)
  (hroom : v.bdUsed + (sg :: sgs).length ≤ MAX_BD_SIZE) (hc : ChainsTo v.toChan) (hused : v.bdUsed = 1)
  (h : (fillSg mode 0 (sg :: sgs) 0 v).map (fun w => w.ringAndRegs) =
    (fillBds mode ((sg :: sgs).map (Scatter.toBuf info mode)) v).map fun w => w.ringAndRegs) :
  getDmaInterrupt v.regs.events ≠ 0 ∧ HoldsChained (sg.toBuf info mode) v.regs := by
  have hroom' : v.bdUsed + (((sg :: sgs).map (Scatter.toBuf info mode)).length : ℕ) ≤ MAX_BD_SIZE := by
    rwa [length_map]
  rw [map_cons] at hroom' h
  rw [fillSg_plain mode (sg :: sgs) v hwf hinfo hroom,fillBds_chain hwf hroom' hused hc rfl] at h
  have hholds := holds_of_chained hwf hroom' hused rfl (Option.some.inj h)
  rw [chainRegs_eq_iff] at hholds
  exact hholds

end Fill

/-! ### The calls -/

def Passes (mode : DmaMode) (c : Chan Regs) : Prop := c.lock ∧ (c.dmaChaining → c.mode = mode)

lemma configured_passes {v : View Regs} (h : Passes mode v.toChan)
  (fill : View Regs → Option (ℤ × View Regs)) : configured mode fill v = fill v := by
  rw [configured,if_neg (not_not.mpr h.1),if_neg fun hm => hm.2 (h.2 hm.1)]

lemma configured_refuses {v : View Regs} (h : ¬ Passes mode v.toChan)
  (fill fill' : View Regs → Option (ℤ × View Regs)) : configured mode fill v = configured mode fill' v := by
  unfold configured
  by_cases hl : v.lock
  · have hm : v.dmaChaining ∧ v.mode ≠ mode := by
      by_contra hm
      exact h ⟨hl,fun hc => not_not.mp fun hn => hm ⟨hc,hn⟩⟩
    rw [if_neg (not_not.mpr hl),if_neg (not_not.mpr hl),if_pos hm,if_pos hm]
  · rw [if_pos hl,if_pos hl]

section Calls

variable {v : View Regs} {info : DmaInfo} {mode : DmaMode} {sg : Scatter} {sgs : List Scatter}

lemma config_agrees (hwf : RingWf v.toChan) (hinfo : v.lock → v.dmaInfo = some info)
  (h : ¬ ChainMissed info mode (sg :: sgs) v.toChan) :
  sgConfig (sg :: sgs) 0 mode v = config ((sg :: sgs).map (Scatter.toBuf info mode)) mode v := by
  unfold sgConfig config
  by_cases hp : Passes mode v.toChan
  · rw [configured_passes hp,configured_passes hp,fillDmaBdBySg,fillDmaBd,length_map]
    split
    · rfl
    · rename_i hroom
      rw [fill_agrees hwf (hinfo hp.1) (not_lt.mp hroom)]
      intro hc hused
      by_contra hn
      exact h ⟨hp.1,hp.2 hc.1,by omega,hc,hused,sg,rfl,hn⟩
  · exact configured_refuses hp _ _

lemma not_missed_of_config (hwf : RingWf v.toChan) (hinfo : v.lock → v.dmaInfo = some info)
  (h : (sgConfig (sg :: sgs) 0 mode v).map (fun r => r.2.ringAndRegs) =
    (config ((sg :: sgs).map (Scatter.toBuf info mode)) mode v).map fun r => r.2.ringAndRegs) :
  ¬ ChainMissed info mode (sg :: sgs) v.toChan := by
  rintro ⟨hl,hm,hlen,hc,hused,sg',hsg,hn⟩
  cases hsg
  have hp : Passes mode v.toChan := ⟨hl,fun _ => hm⟩
  have hroom : v.bdUsed + ((sg :: sgs).length : ℕ) ≤ MAX_BD_SIZE := by
    have : v.bdUsed = 1 := hused
    omega
  rw [sgConfig,config,configured_passes hp,configured_passes hp,fillDmaBdBySg,fillDmaBd,length_map,
    if_neg (not_lt.mpr hroom),if_neg (not_lt.mpr hroom),Option.map_map,Option.map_map] at h
  exact hn (holds_of_fill_agrees hwf (hinfo hl) hroom hc hused h)

end Calls

/-- **When a scatterlist and its buffer list leave the same ring and registers.** -/
theorem sgConfig_agrees_iff {d : Driver Regs} {i : Fin MXC_DMA_CHANNELS} {info : DmaInfo} (hwf : RingWf (d.chan i))
  (hinfo : (d.chan i).lock → (d.chan i).dmaInfo = some info) (mode : DmaMode) (sgs : List Scatter) :
  ((mxcDmaSgConfig i.val (some sgs) 0 mode d).map (fun r => (r.2.chan i).ringAndRegs) =
      (mxcDmaConfig i.val (some (sgs.map (Scatter.toBuf info mode))) mode d).map
        (fun r => (r.2.chan i).ringAndRegs) ↔ ¬ ChainMissed info mode sgs (d.chan i)) ∧
    (¬ ChainMissed info mode sgs (d.chan i) → mxcDmaSgConfig i.val (some sgs) 0 mode d =
      mxcDmaConfig i.val (some (sgs.map (Scatter.toBuf info mode))) mode d) := by
  cases sgs with
  | nil =>
    refine ⟨iff_of_true rfl ?_,fun _ => rfl⟩
    rintro ⟨-,-,-,-,-,sg,h,-⟩
    cases h
  | cons sg sgs =>
    have hagree : ¬ ChainMissed info mode (sg :: sgs) (d.chan i) → mxcDmaSgConfig i.val (some (sg :: sgs)) 0 mode d =
        mxcDmaConfig i.val (some ((sg :: sgs).map (Scatter.toBuf info mode))) mode d := by
      intro h
      have e := config_agrees (v := d.view i) hwf hinfo h
      show onChannel i.val (sgConfig (sg :: sgs) 0 mode) d =
        onChannel i.val (config ((sg :: sgs).map (Scatter.toBuf info mode)) mode) d
      rw [onChannel_val,onChannel_val,e]
    refine ⟨⟨fun h => ?_,fun h => by rw [hagree h]⟩,hagree⟩
    replace h : (onChannel i.val (sgConfig (sg :: sgs) 0 mode) d).map (fun r => (r.2.chan i).ringAndRegs) =
      (onChannel i.val (config ((sg :: sgs).map (Scatter.toBuf info mode)) mode) d).map
        fun r => (r.2.chan i).ringAndRegs := h
    rw [onChannel_val,onChannel_val,Option.map_map,Option.map_map] at h
    apply not_missed_of_config (v := d.view i) hwf hinfo
    simpa [comp_def] using h

def oneBufferDriver : Driver Regs :=
  ((mxcDmaRequest (some hwChainingDmaInfo) 0 freshDriver).bind fun r =>
    (mxcDmaConfig 0 (some [⟨0xA0000000, 0xA0100000, 64⟩]) .read r.2).bind fun r =>
      (mxcDmaEnable 0 r.2).map fun r => r.2).getD freshDriver

/-- An empty ring takes a scatterlist like the buffers it stands for. -/
theorem sgConfig_agrees_fresh : ∃ d, mxcDmaRequest (some hwChainingDmaInfo) 0 freshDriver = some (0, d) ∧
  mxcDmaSgConfig 0 (some [⟨0xA0200000, 32⟩, ⟨0xA0300000, 32⟩]) 0 .read d =
    mxcDmaConfig 0 (some [⟨0, 0xA0200000, 32⟩, ⟨0, 0xA0300000, 32⟩]) .read d := by
  obtain ⟨d,hd⟩ : ∃ d, mxcDmaRequest (some hwChainingDmaInfo) 0 freshDriver = some (0, d) := ⟨_,rfl⟩
  have hok := (request_ok (i := 0) hd).1
  have hinfo : (d.chan 0).dmaInfo = some hwChainingDmaInfo := by
    cases hd
    rfl
  refine ⟨d,hd,(sgConfig_agrees_iff hok.toRingWf (fun _ => hinfo) .read [⟨0xA0200000,32⟩,⟨0xA0300000,32⟩]).2 ?_⟩
  rintro ⟨-,-,-,-,h,-⟩
  cases hd
  cases h

theorem sgConfig_misses_chain :
  (mxcDmaSgConfig 0 (some [⟨0xA0200000, 32⟩]) 0 .read oneBufferDriver).map (fun r => (r.2.chan 0).ringAndRegs) ≠
    (mxcDmaConfig 0 (some [⟨0, 0xA0200000, 32⟩]) .read oneBufferDriver).map fun r => (r.2.chan 0).ringAndRegs := by
  intro h
  have hdest := congrArg (Option.map fun t => t.2.2.2.2.reg .destAddr) h
  exact absurd (show some (0xA0100000 : BitVec 32) = some 0xA0200000 from hdest) (by decide)

end Mx27.Dma
