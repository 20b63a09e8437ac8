/-
# The clock of the DMA controller
-/
import Mx27Drivers.Dma.RingRun

namespace Mx27.Dma

open Option

variable {H : Type}

def Shared.excess (s : Shared) : ℤ := s.clkRefs - if 0 < s.gDmaActived then 1 else 0

def Chan.activeBit (c : Chan H) : ℤ := if c.active then 1 else 0

lemma Chan.activeBit_of_active {c : Chan H} (h : c.active) : c.activeBit = 1 := if_pos h

lemma Chan.activeBit_of_not {c : Chan H} (h : ¬ c.active) : c.activeBit = 0 := if_neg h

@[simp] lemma enableDmaClk_actived (s : Shared) : (enableDmaClk s).gDmaActived = s.gDmaActived := by
  unfold enableDmaClk
  split <;> rfl

@[simp] lemma disableDmaClk_actived (s : Shared) : (disableDmaClk s).gDmaActived = s.gDmaActived := by
  unfold disableDmaClk
  split <;> rfl

lemma enableDmaClk_refs (s : Shared) :
  (enableDmaClk s).clkRefs = s.clkRefs + if s.gDmaActived = 0 then 1 else 0 := by
  unfold enableDmaClk
  split
  · rfl
  · exact (add_zero _).symm

lemma disableDmaClk_refs (s : Shared) :
  (disableDmaClk s).clkRefs = s.clkRefs - if s.gDmaActived = 0 then 1 else 0 := by
  unfold disableDmaClk
  split
  · rfl
  · exact (sub_zero _).symm

structure Counts (δ : ℤ) (v v' : View H) : Prop where
  actived : v'.gDmaActived - v'.activeBit = v.gDmaActived - v.activeBit
  excess : v'.excess = v.excess + δ

lemma Counts.of_refs {δ : ℤ} {v v' : View H} (hact : v'.active = v.active) (hg : v'.gDmaActived = v.gDmaActived)
  (hrefs : v'.clkRefs = v.clkRefs + δ) : Counts δ v v' := by
  constructor
  · rw [hg,Chan.activeBit,Chan.activeBit,hact]
  · rw [Shared.excess,Shared.excess,hg,hrefs]
    ring

lemma Counts.refl (v : View H) : Counts 0 v v := Counts.of_refs rfl rfl (add_zero _).symm

structure Keeps (v v' : View H) : Prop where
  shared : v'.toShared = v.toShared
  active : v'.active = v.active

lemma Keeps.counts {v v' : View H} (h : Keeps v v') : Counts 0 v v' :=
  Counts.of_refs h.active (by rw [h.shared]) (by rw [h.shared,add_zero])

lemma configured_keeps {mode : DmaMode} {fill : View H → Option (View H)} {n : ℕ} {r : ℤ} {v v' : View H}
  (hfill : ∀ w w', fill w = some w' → Keeps w w')
  (h : configured mode (fun v => if v.bdUsed + n > MAX_BD_SIZE then some (-EBUSY, v)
    else (fill v).map fun v => (0, v)) v = some (r, v')) : Keeps v v' := by
  unfold configured at h
  split at h
  · exact (Prod.mk.inj (Option.some.inj h)).2 ▸ ⟨rfl,rfl⟩
  · split at h
    · exact (Prod.mk.inj (Option.some.inj h)).2 ▸ ⟨rfl,rfl⟩
    · dsimp only at h
      split at h
      · exact (Prod.mk.inj (Option.some.inj h)).2 ▸ ⟨rfl,rfl⟩
      · obtain ⟨w,e,h⟩ := map_eq_some_iff.mp h
        exact (Prod.mk.inj h).2 ▸ hfill _ _ e

variable [Dmac H]

lemma fillBds_keeps (mode : DmaMode) : ∀ (bs : List RequestBuf) (v v' : View H), fillBds mode bs v = some v' →
  Keeps v v'
  | [], v, v', h => Option.some.inj h ▸ ⟨rfl, rfl⟩
  | b :: bs, v, v', h => by
    simp only [fillBds,bind_eq_bind,bind_eq_some_iff] at h
    obtain ⟨w,hw,h⟩ := h
    have hcheck := thenCheck_only (fun _ _ => recheck_only) hw
    have hrest := fillBds_keeps mode bs w v' h
    exact ⟨hrest.shared.trans hcheck.shared,hrest.active.trans hcheck.active⟩

lemma fillSg_keeps (mode : DmaMode) (realBytes : ℤ) : ∀ (sgs : List Scatter) (total : ℤ) (v v' : View H),
  fillSg mode realBytes sgs total v = some v' → Keeps v v'
  | [], _, v, v', h => Option.some.inj h ▸ ⟨rfl, rfl⟩
  | sg :: sgs, total, v, v', h => by
    unfold fillSg at h
    split at h
    · simp only [bind_eq_bind,bind_eq_some_iff] at h
      obtain ⟨info,-,w,hw,h⟩ := h
      have hcheck := thenCheck_only (fun _ _ => recheckSg_only) hw
      have hrest := fillSg_keeps mode realBytes sgs _ w v' h
      exact ⟨hrest.shared.trans hcheck.shared,hrest.active.trans hcheck.active⟩
    · exact Option.some.inj h ▸ ⟨rfl,rfl⟩

/-! ### The calls on a channel -/

lemma enable_counts {v v' : View H} {r : ℤ} (hg : 0 ≤ v.gDmaActived) (h : enable v = some (r, v')) :
  Counts 0 v v' := by
  unfold enable at h
  split at h
  · exact (Prod.mk.inj (Option.some.inj h)).2 ▸ Counts.refl v
  · split at h
    · exact (Prod.mk.inj (Option.some.inj h)).2 ▸ Counts.refl v
    · rename_i hact
      simp only [bind_eq_bind,bind_eq_some_iff] at h
      obtain ⟨u,hu,h⟩ := h
      cases h
      generalize hw : (onRegs Dmac.clear _ : View H) = w at hu
      have hwg : w.gDmaActived = v.gDmaActived + 1 := by
        rw [← hw]
        exact congrArg (· + 1) (enableDmaClk_actived v.toShared)
      have hwr : w.clkRefs = v.clkRefs + if v.gDmaActived = 0 then 1 else 0 := by
        rw [← hw]
        exact enableDmaClk_refs v.toShared
      have hwa : w.active := by rw [← hw]; rfl
      rcases setupDmac_cases hu with ⟨hn,-⟩ | ⟨-,-,rfl⟩ | ⟨-,-,hu⟩
      · exact absurd hwa hn
      · -- the ring was empty: the channel is not active again
        refine Counts.of_refs (Bool.eq_false_of_not_eq_true hact).symm ?_ ?_
        · show (disableDmaClk _).gDmaActived = _
          rw [disableDmaClk_actived]
          show w.gDmaActived - 1 = _
          omega
        · show (disableDmaClk _).clkRefs = _
          rw [disableDmaClk_refs]
          show w.clkRefs - (if w.gDmaActived - 1 = 0 then 1 else 0) = _
          rw [hwr,hwg]
          simp
      · have hug : u.gDmaActived = v.gDmaActived + 1 := by rw [hu.shared,hwg]
        have hur : u.clkRefs = v.clkRefs + if v.gDmaActived = 0 then 1 else 0 := by rw [hu.shared,hwr]
        constructor
        · show (disableDmaClk u.toShared).gDmaActived - u.activeBit = _
          rw [disableDmaClk_actived,hug,Chan.activeBit_of_active (hu.active.trans hwa),Chan.activeBit_of_not hact]
          omega
        · show (disableDmaClk u.toShared).excess = v.excess + 0
          rw [Shared.excess,disableDmaClk_actived,disableDmaClk_refs,hug,hur,Shared.excess]
          split_ifs <;> omega

lemma consume_counts {error : Outcome} {v v' : View H} {notify : Bool} (hok : ChanOk v.toChan) (hact : v.active)
  (h : consumeDmaBd error v = some (notify, v')) :
  v'.clkRefs = v.clkRefs ∧ v'.gDmaActived - v'.activeBit = v.gDmaActived - 1 := by
  obtain ⟨c',e,-,-,⟨ring,rd,used,hc⟩,-⟩ := takeBds_spec error hok hact
  have hact' : c'.active := by rw [hc]; exact hact
  unfold consumeDmaBd at h
  dsimp only at h
  rw [e] at h
  split at h
  · cases h
    exact ⟨rfl,sub_zero _⟩
  · rename_i hpos
    obtain ⟨u,hu,h⟩ := map_eq_some_iff.mp h
    cases h
    rcases setupDmac_cases hu with ⟨hn,-⟩ | ⟨-,hle,-⟩ | ⟨-,-,hu⟩
    · exact absurd hact' hn
    · exact absurd hle hpos
    · exact ⟨by rw [hu.shared],by rw [hu.shared,Chan.activeBit_of_active (hu.active.trans hact')]⟩

lemma handler_counts {v v' : View H} {cb : Option (Outcome × BitVec 32)} (hok : ChanOk v.toChan) (hact : v.active)
  (hg : 0 < v.gDmaActived) (h : dmaIrqHandler v = some (cb, v')) : Counts 0 v v' := by
  simp only [dmaIrqHandler,bind_eq_bind,bind_eq_some_iff] at h
  obtain ⟨⟨notify,u⟩,hu,h⟩ := h
  generalize hw : ({ onRegs Dmac.clear v with transBytes := _ } : View H) = w at hu
  have hok' : ChanOk w.toChan := by
    rw [← hw]
    exact ⟨⟨hok.nonneg,hok.le,hok.rd,hok.wr⟩,hok.lock,hok.info,hok.active,hok.busy⟩
  obtain ⟨hr,hug⟩ := consume_counts hok' (by rw [← hw]; exact hact) hu
  have hwg : w.gDmaActived = v.gDmaActived := by rw [← hw]; rfl
  have hwr : w.clkRefs = v.clkRefs := by rw [← hw]; rfl
  have hv' : v'.toShared = disableDmaClk u.toShared ∧ v'.active = u.active := by
    dsimp only at h
    split at h
    · exact (Prod.mk.inj (Option.some.inj h)).2 ▸ ⟨rfl,rfl⟩
    · exact (Prod.mk.inj (Option.some.inj h)).2 ▸ ⟨rfl,rfl⟩
  have hbit : v'.activeBit = u.activeBit := by rw [Chan.activeBit,hv'.2,Chan.activeBit]
  constructor
  · rw [hv'.1,disableDmaClk_actived,hbit,hug,hwg,Chan.activeBit_of_active hact]
  · rw [hv'.1,Shared.excess,disableDmaClk_actived,disableDmaClk_refs,hr,hwr,Shared.excess]
    have hb : u.activeBit = 0 ∨ u.activeBit = 1 := by
      unfold Chan.activeBit
      split
      · exact Or.inr rfl
      · exact Or.inl rfl
    split_ifs <;> omega

def View.keptRef (v : View H) : ℤ := if v.active ∧ v.gDmaActived = 1 then 1 else 0

omit [Dmac H] in
lemma View.keptRef_of_not {v : View H} (h : ¬ v.active) : v.keptRef = 0 := if_neg fun hc => h hc.1

lemma disable_counts {v : View H} (hlock : v.active → v.lock) (hg : v.active → 0 < v.gDmaActived) :
  Counts v.keptRef v (disable v).2 := by
  by_cases hact : v.active
  · have hpos := hg hact
    unfold disable
    rw [if_neg (not_not.mpr (hlock hact)),if_neg (not_not.mpr hact)]
    constructor
    · show (disableDmaClk (enableDmaClk v.toShared)).gDmaActived - 1 - 0 = _
      rw [disableDmaClk_actived,enableDmaClk_actived,Chan.activeBit_of_active hact,sub_zero]
    · show (disableDmaClk (enableDmaClk v.toShared)).clkRefs -
        (if 0 < (disableDmaClk (enableDmaClk v.toShared)).gDmaActived - 1 then 1 else 0) = _
      rw [disableDmaClk_refs,enableDmaClk_refs,disableDmaClk_actived,enableDmaClk_actived,Shared.excess,View.keptRef]
      simp only [hact,true_and]
      split_ifs <;> omega
  · have hsame : (disable v).2 = v := by
      unfold disable
      rw [if_pos hact]
      split <;> rfl
    rw [hsame,View.keptRef_of_not hact]
    exact Counts.refl v

lemma free_counts {v : View H} (hlock : v.active → v.lock) (hg : v.active → 0 < v.gDmaActived) :
  Counts v.keptRef v (free v).2 := by
  obtain ⟨w,hw⟩ : ∃ w : View H, w = if v.active then (disable v).2 else v := ⟨_,rfl⟩
  have hdis : Counts v.keptRef v w := by
    rw [hw]
    split
    · exact disable_counts hlock hg
    · rename_i hact
      rw [View.keptRef_of_not hact]
      exact Counts.refl v
  unfold free
  rw [← hw]
  split
  · -- the clock is enabled and disabled with `g_dma_actived` the same
    constructor
    · show (disableDmaClk (maskDmaInterrupt w.channel (enableDmaClk w.toShared))).gDmaActived - w.activeBit = _
      rw [disableDmaClk_actived]
      show (enableDmaClk w.toShared).gDmaActived - w.activeBit = _
      rw [enableDmaClk_actived,hdis.actived]
    · show (disableDmaClk (maskDmaInterrupt w.channel (enableDmaClk w.toShared))).excess = _
      rw [← hdis.excess,Shared.excess,disableDmaClk_refs,disableDmaClk_actived]
      show (enableDmaClk w.toShared).clkRefs - (if (enableDmaClk w.toShared).gDmaActived = 0 then 1 else 0) -
        (if 0 < (enableDmaClk w.toShared).gDmaActived then 1 else 0) = _
      rw [enableDmaClk_refs,enableDmaClk_actived,Shared.excess,add_sub_cancel_right]
  · rename_i hl
    rw [View.keptRef_of_not fun h => hl (hlock h)]
    exact Counts.refl v

lemma set2D_counts (info : DmaInfo) (s : Shared) :
  (set2D info s).gDmaActived = s.gDmaActived ∧ (set2D info s).clkRefs = s.clkRefs := by
  unfold set2D
  split
  · split
    · exact ⟨rfl,rfl⟩
    · exact ⟨rfl,rfl⟩
  · exact ⟨rfl,rfl⟩

lemma setupDmaChannel_refs (info : DmaInfo) (v : View H) :
  (setupDmaChannel info v).2.gDmaActived = v.gDmaActived ∧
    (setupDmaChannel info v).2.clkRefs = v.clkRefs - if infoOk info ∧ v.gDmaActived = 0 then 1 else 0 := by
  unfold setupDmaChannel
  by_cases hok : infoOk info
  · rw [if_neg (not_not.mpr hok)]
    obtain ⟨hg,hr⟩ := set2D_counts info v.toShared
    refine ⟨(disableDmaClk_actived _).trans hg,(disableDmaClk_refs _).trans ?_⟩
    show (set2D info v.toShared).clkRefs - (if (set2D info v.toShared).gDmaActived = 0 then 1 else 0) = _
    rw [hg,hr]
    simp only [hok,true_and]
  · rw [if_pos hok,if_neg fun h => hok h.1]
    exact ⟨rfl,(sub_zero _).symm⟩

def lostRef (info : DmaInfo) (irq : ℕ) (s : Shared) : ℤ :=
  if irq = 0 ∧ infoOk info ∧ s.gDmaActived = 0 then 1 else 0

lemma initDmaChannel_refs (info : DmaInfo) (irq : ℕ) (v : View H) :
  (initDmaChannel info irq v).2.gDmaActived = v.gDmaActived ∧
    (initDmaChannel info irq v).2.clkRefs = v.clkRefs - lostRef info irq v.toShared := by
  unfold initDmaChannel
  by_cases hirq : irq = 0
  · rw [if_neg (not_not.mpr hirq)]
    dsimp only
    generalize hw : (onRegs (Dmac.writel 0 .ctl) _ : View H) = w
    have hwg : w.gDmaActived = v.gDmaActived := by rw [← hw]; exact enableDmaClk_actived _
    have hwr : w.clkRefs = v.clkRefs + if v.gDmaActived = 0 then 1 else 0 := by
      rw [← hw]
      exact enableDmaClk_refs _
    obtain ⟨hg,hr⟩ := setupDmaChannel_refs info w
    obtain ⟨u,hu⟩ : ∃ u, u = (setupDmaChannel info w).2.toShared := ⟨_,rfl⟩
    have hshared : (if (setupDmaChannel info w).1 ≠ 0 then
        { (setupDmaChannel info w).2 with irqHandlers := (setupDmaChannel info w).2.irqHandlers - 1 }
        else (setupDmaChannel info w).2).toShared = u := by
      rw [hu]
      split <;> rfl
    rw [← hu] at hg hr
    show (disableDmaClk (ite _ _ _ : View H).toShared).gDmaActived = _ ∧
      (disableDmaClk (ite _ _ _ : View H).toShared).clkRefs = _
    rw [hshared,disableDmaClk_actived,disableDmaClk_refs,hg,hr,hwg,hwr,lostRef]
    refine ⟨rfl,?_⟩
    simp only [hirq,true_and]
    split_ifs <;> omega
  · rw [if_pos hirq,lostRef,if_neg fun h => hirq h.1]
    exact ⟨rfl,(sub_zero _).symm⟩

lemma requestOn_counts (info : DmaInfo) (irq : ℕ) {v : View H} (hact : ¬ v.active) :
  Counts (-lostRef info irq v.toShared) v (requestOn info irq v).2 := by
  unfold requestOn
  dsimp only
  generalize hw : (View.onChan Chan.initDmaBd _ : View H) = w
  have hws : w.toShared = v.toShared := by rw [← hw]; rfl
  have hwa : w.active = v.active := by
    rw [← hw,Bool.eq_false_of_not_eq_true hact]
    rfl
  obtain ⟨hg,hr⟩ := initDmaChannel_refs info irq w
  have ha := (initDmaChannel_same info irq w).active
  rw [hws] at hg hr
  rw [sub_eq_add_neg] at hr
  split
  · exact Counts.of_refs (ha.trans hwa) hg hr
  · exact Counts.of_refs (ha.trans hwa) hg hr

/-! ### The driver -/

def activeCount (d : Driver H) : ℤ := (Finset.univ.filter fun i => (d.chan i).active).card

omit [Dmac H] in
lemma activeCount_eq_sum (d : Driver H) : activeCount d = ∑ i, (d.chan i).activeBit :=
  Finset.natCast_card_filter ..

omit [Dmac H] in
lemma activeCount_put (d : Driver H) (i : Fin MXC_DMA_CHANNELS) (v : View H) :
  activeCount (d.put i v) - v.activeBit = activeCount d - (d.chan i).activeBit := by
  rw [activeCount_eq_sum,activeCount_eq_sum,← Finset.add_sum_erase _ _ (Finset.mem_univ i),
    ← Finset.add_sum_erase _ (fun j => (d.chan j).activeBit) (Finset.mem_univ i),Driver.put_chan_self]
  have hrest : ∑ j ∈ Finset.univ.erase i, ((d.put i v).chan j).activeBit =
      ∑ j ∈ Finset.univ.erase i, (d.chan j).activeBit :=
    Finset.sum_congr rfl fun j hj => by rw [d.put_chan_of_ne (Finset.ne_of_mem_erase hj)]
  rw [hrest]
  ring

structure InUse (c : Chan H) : Prop where
  chan : c.lock → ChanOk c
  lock : c.active → c.lock

structure DriverOk (d : Driver H) : Prop where
  chan : ∀ i, InUse (d.chan i)
  actived : d.shared.gDmaActived = activeCount d

def Accounts (δ : ℤ) (call : View H → Option (ℤ × View H)) (v : View H) : Prop :=
  ∃ r v', call v = some (r, v') ∧ Counts δ v v' ∧ InUse v'.toChan

omit [Dmac H] in
lemma InUse.of_idle {c : Chan H} (hl : c.lock = false) (ha : c.active = false) : InUse c :=
  ⟨fun h => absurd (hl.symm.trans h) Bool.false_ne_true, fun h => absurd (ha.symm.trans h) Bool.false_ne_true⟩

omit [Dmac H] in
lemma ChanOk.inUse {c : Chan H} (h : ChanOk c) : InUse c := ⟨fun _ => h, fun _ => h.lock⟩

namespace DriverOk

omit [Dmac H]

variable {d : Driver H}

lemma nonneg (h : DriverOk d) : 0 ≤ d.shared.gDmaActived := h.actived ▸ Int.natCast_nonneg _

lemma pos (h : DriverOk d) {i : Fin MXC_DMA_CHANNELS} (hi : (d.chan i).active) : 0 < d.shared.gDmaActived := by
  rw [h.actived,activeCount,Nat.cast_pos,Finset.card_pos]
  exact ⟨i,Finset.mem_filter.mpr ⟨Finset.mem_univ i,hi⟩⟩

lemma put (h : DriverOk d) {i : Fin MXC_DMA_CHANNELS} {v : View H} {δ : ℤ} (hc : Counts δ (d.view i) v)
  (hv : InUse v.toChan) : DriverOk (d.put i v) := by
  refine ⟨fun j => ?_,?_⟩
  · by_cases hji : j = i
    · rw [hji,Driver.put_chan_self]
      exact hv
    · rw [d.put_chan_of_ne hji]
      exact h.chan j
  · have hput := activeCount_put d i v
    have hact : v.gDmaActived - v.activeBit = d.shared.gDmaActived - (d.chan i).activeBit := hc.actived
    have hg := h.actived
    show v.gDmaActived = activeCount (d.put i v)
    omega

lemma onChannel (h : DriverOk d) {call : View H → Option (ℤ × View H)} (n : ℤ) (δ : Fin MXC_DMA_CHANNELS → ℤ)
  (hcall : ∀ i, Accounts (δ i) call (d.view i)) : ∃ r d', onChannel n call d = some (r, d') ∧ DriverOk d' ∧
    d'.shared.excess = d.shared.excess + (chanOf n).elim 0 δ := by
  unfold Dma.onChannel
  cases chanOf n with
  | none => exact ⟨_,_,rfl,h,(add_zero _).symm⟩
  | some i =>
    obtain ⟨r,v',e,hc,hv⟩ := hcall i
    exact ⟨r,d.put i v',by simp only [e,map_some],h.put hc hv,hc.excess⟩

end DriverOk

section Accounts

variable {v : View H}

lemma config_accounts (buf : List RequestBuf) (mode : DmaMode) (h : InUse v.toChan) :
  Accounts 0 (config buf mode) v := by
  by_cases hl : v.lock
  · obtain ⟨r,v',e,hok,-⟩ := config_spec buf mode (h.chan hl)
    exact ⟨r,v',e,(configured_keeps (fillBds_keeps mode buf) e).counts,hok.inUse⟩
  · exact ⟨-ENODEV,v,if_pos hl,Counts.refl v,h⟩

lemma sgConfig_accounts (sg : List Scatter) (n : ℤ) (mode : DmaMode) (h : InUse v.toChan) :
  Accounts 0 (sgConfig sg n mode) v := by
  by_cases hl : v.lock
  · obtain ⟨info,hinfo⟩ := isSome_iff_exists.mp (h.chan hl).info
    obtain ⟨r,v',e,hok,-⟩ := sgConfig_spec sg n mode (h.chan hl) hinfo
    exact ⟨r,v',e,(configured_keeps (fillSg_keeps mode n sg n) e).counts,hok.inUse⟩
  · exact ⟨-ENODEV,v,if_pos hl,Counts.refl v,h⟩

lemma enable_accounts (h : InUse v.toChan) (hg : 0 ≤ v.gDmaActived) : Accounts 0 enable v := by
  by_cases hl : v.lock
  · obtain ⟨r,v',e,hok,-⟩ := enable_spec (h.chan hl)
    exact ⟨r,v',e,enable_counts hg e,hok.inUse⟩
  · exact ⟨-EINVAL,v,if_pos hl,Counts.refl v,h⟩

lemma disable_accounts (h : InUse v.toChan) (hg : v.active → 0 < v.gDmaActived) :
  Accounts v.keptRef (fun v => some (disable v)) v := by
  refine ⟨(disable v).1,(disable v).2,rfl,disable_counts h.lock hg,?_⟩
  by_cases hl : v.lock
  · exact (disable_spec (h.chan hl)).1.inUse
  · rw [disable,if_pos hl]
    exact h

lemma free_accounts (h : InUse v.toChan) (hg : v.active → 0 < v.gDmaActived) :
  Accounts v.keptRef (fun v => some (free v)) v := by
  refine ⟨(free v).1,(free v).2,rfl,free_counts h.lock hg,?_⟩
  unfold free
  by_cases hl : v.lock
  · rw [if_pos hl]
    have hidle : (if v.active then (disable v).2 else v).active = false := by
      split
      · rename_i hact
        rw [disable,if_neg (not_not.mpr hl),if_neg (not_not.mpr hact)]
        rfl
      · exact Bool.eq_false_of_not_eq_true ‹_›
    exact InUse.of_idle rfl hidle
  · rw [if_neg hl]
    exact h

lemma requestOn_inUse (info : DmaInfo) (irq : ℕ) (hl : v.lock) : InUse (requestOn info irq v).2.toChan := by
  by_cases hirq : irq = 0
  · rw [hirq]
    exact (requestOn_ok info hl).2.1.inUse
  · unfold requestOn
    dsimp only
    generalize hw : (View.onChan Chan.initDmaBd _ : View H) = w
    have hidle : (initDmaChannel info irq w).2.active = false := by
      rw [(initDmaChannel_same info irq w).active,← hw]
      rfl
    rw [if_neg (by rw [initDmaChannel_fst]; omega)]
    exact InUse.of_idle rfl hidle

end Accounts

/-! ### Runs -/

inductive DmaCall (H : Type)
  | request (info : Option DmaInfo) (irq : ℕ)
  | free (channelNum : ℤ)
  | config (channelNum : ℤ) (dmaBuf : Option (List RequestBuf)) (mode : DmaMode)
  | sgConfig (channelNum : ℤ) (sg : Option (List Scatter)) (numOfBytes : ℤ) (mode : DmaMode)
  | enable (channelNum : ℤ)
  | disable (channelNum : ℤ)
  | interrupt (i : Fin MXC_DMA_CHANNELS) (regs : H)

namespace DmaCall

def step (d : Driver H) : DmaCall H → Option (Driver H)
  | .request info irq => (mxcDmaRequest info irq d).map Prod.snd
  | .free n => (mxcDmaFree n d).map Prod.snd
  | .config n dmaBuf mode => (mxcDmaConfig n dmaBuf mode d).map Prod.snd
  | .sgConfig n sg numOfBytes mode => (mxcDmaSgConfig n sg numOfBytes mode d).map Prod.snd
  | .enable n => (mxcDmaEnable n d).map Prod.snd
  | .disable n => (mxcDmaDisable n d).map Prod.snd
  | .interrupt i h => if (d.chan i).active then (dmaInterrupt i h d).map Prod.snd else some d

/-- `get_dma_channel` stops in its `BUG_ON`. -/
def Bugs (d : Driver H) : DmaCall H → Prop
  | .request (some info) _ => getDmaChannel info.dmaChan.toInt d = none
  | _ => False

def Ok (d : Driver H) : DmaCall H → Prop
  | .request (some info) irq =>
    (∃ i, getDmaChannel info.dmaChan.toInt d = some (some i)) → irq = 0 → infoOk info → d.shared.gDmaActived ≠ 0
  | .free n | .disable n => ∀ i, chanOf n = some i → (d.chan i).active → d.shared.gDmaActived ≠ 1
  | _ => True

end DmaCall

/-- `g_dma_actived` is the number of active channels. -/
structure ClockOk (d : Driver H) : Prop where
  actived : d.shared.gDmaActived = activeCount d
  refs : d.shared.clkRefs = if 0 < d.shared.gDmaActived then 1 else 0

omit [Dmac H] in
lemma clockOk_iff {d : Driver H} (h : DriverOk d) : ClockOk d ↔ d.shared.excess = 0 :=
  ⟨fun hc => sub_eq_zero.mpr hc.refs, fun hc => ⟨h.actived, sub_eq_zero.mp hc⟩⟩

def DmaCall.Spec (call : DmaCall H) (d : Driver H) : Prop :=
  ∃ d', call.step d = some d' ∧ DriverOk d' ∧ (d'.shared.excess = d.shared.excess ↔ call.Ok d)

lemma stop_spec {call : DmaCall H} {d : Driver H} {n : ℤ} (h : DriverOk d) {f : View H → Option (ℤ × View H)}
  (hf : ∀ i, Accounts (d.view i).keptRef f (d.view i)) (hstep : call.step d = (onChannel n f d).map Prod.snd)
  (hok : call.Ok d ↔ ∀ i, chanOf n = some i → (d.chan i).active → d.shared.gDmaActived ≠ 1) : call.Spec d := by
  obtain ⟨r,d',e,hd',hx⟩ := h.onChannel n (fun i => (d.view i).keptRef) hf
  refine ⟨d',by rw [hstep,e]; rfl,hd',?_⟩
  rw [hx,add_eq_left,hok]
  cases hn : chanOf n with
  | none => exact iff_of_true rfl fun i hi => by cases hi
  | some i =>
    show (d.view i).keptRef = 0 ↔ _
    unfold View.keptRef
    constructor
    · rintro hz j hj hact hg
      cases hj
      rw [if_pos ⟨hact,hg⟩] at hz
      cases hz
    · intro hall
      exact if_neg fun hc => hall i rfl hc.1 hc.2

lemma plain_spec {call : DmaCall H} {d : Driver H} {n : ℤ} (h : DriverOk d) {f : View H → Option (ℤ × View H)}
  (hf : ∀ i, Accounts 0 f (d.view i)) (hstep : call.step d = (onChannel n f d).map Prod.snd) (hok : call.Ok d) :
  call.Spec d := by
  obtain ⟨r,d',e,hd',hx⟩ := h.onChannel n (fun _ => 0) hf
  refine ⟨d',by rw [hstep,e]; rfl,hd',iff_of_true ?_ hok⟩
  rw [hx]
  cases chanOf n <;> exact add_zero _

lemma idle_spec {call : DmaCall H} {d : Driver H} (h : DriverOk d) (hstep : call.step d = some d) (hok : call.Ok d) :
  call.Spec d := ⟨d, hstep, h, iff_of_true rfl hok⟩

lemma interrupt_spec {d : Driver H} (h : DriverOk d) (i : Fin MXC_DMA_CHANNELS) (regs : H) :
  (DmaCall.interrupt i regs).Spec d := by
  by_cases hact : (d.chan i).active
  · have hok := (h.chan i).chan ((h.chan i).lock hact)
    have hok' : ChanOk (onRegs (fun _ => regs) (d.view i)).toChan :=
      ⟨⟨hok.nonneg,hok.le,hok.rd,hok.wr⟩,hok.lock,hok.info,hok.active,hok.busy⟩
    obtain ⟨cb,v',e,hv,-⟩ := handler_spec hok' hact
    have hcounts := handler_counts hok' hact (h.pos hact) e
    have hc : Counts 0 (d.view i) v' := ⟨hcounts.actived,hcounts.excess⟩
    refine ⟨d.put i v',?_,h.put hc hv.inUse,iff_of_true (hc.excess.trans (add_zero _)) trivial⟩
    rw [DmaCall.step,if_pos hact,dmaInterrupt,e]
    rfl
  · exact idle_spec h (if_neg hact) trivial

omit [Dmac H] in
lemma getDmaChannel_free {idx : ℤ} {d : Driver H} {i : Fin MXC_DMA_CHANNELS}
  (h : getDmaChannel idx d = some (some i)) : ¬ (d.chan i).lock := by
  unfold getDmaChannel at h
  split at h
  · cases h
  · split at h
    · split at h
      · cases h
      · split at h
        · cases h
        · rename_i j _ _
          split at h
          · cases h
          · rename_i hl
            cases h
            exact hl
    · have := List.find?_some (Option.some.inj h)
      rw [Bool.and_eq_true,Bool.not_eq_true'] at this
      rw [this.2]
      decide

lemma request_spec {d : Driver H} (h : DriverOk d) (info : Option DmaInfo) (irq : ℕ) :
  (DmaCall.request info irq).Bugs d ∨ (DmaCall.request info irq).Spec d := by
  cases info with
  | none => exact Or.inr (idle_spec h rfl trivial)
  | some info =>
    cases hch : getDmaChannel info.dmaChan.toInt d with
    | none => exact Or.inl hch
    | some o =>
      refine Or.inr ?_
      cases o with
      | none =>
        refine idle_spec h ?_ fun hc => ?_
        · rw [DmaCall.step,mxcDmaRequest,hch]
          rfl
        · obtain ⟨i,hi⟩ := hc
          cases hch.symm.trans hi
      | some i =>
        have hl := getDmaChannel_free hch
        obtain ⟨v,hv⟩ : ∃ v : View H, v = { d.view i with lock := true } := ⟨_,rfl⟩
        have hact : ¬ v.active := by
          rw [hv]
          exact fun hc => hl ((h.chan i).lock hc)
        have hc := requestOn_counts info irq hact
        have hc' : Counts (-lostRef info irq d.shared) (d.view i) (requestOn info irq v).2 := by
          rw [hv] at hc ⊢
          exact ⟨hc.actived,hc.excess⟩
        refine ⟨d.put i (requestOn info irq v).2,?_,h.put hc' (requestOn_inUse info irq (by rw [hv])),?_⟩
        · rw [DmaCall.step,mxcDmaRequest,hch,hv]
          rfl
        · have hx : (d.put i (requestOn info irq v).2).shared.excess = d.shared.excess + -lostRef info irq d.shared :=
            hc'.excess
          rw [hx,add_eq_left,neg_eq_zero,lostRef]
          constructor
          · rintro hz - hirq hinfo hg
            rw [if_pos ⟨hirq,hinfo,hg⟩] at hz
            cases hz
          · intro hok
            exact if_neg fun hc => hok ⟨i,hch⟩ hc.1 hc.2.1 hc.2.2

lemma dmaCall_step (call : DmaCall H) {d : Driver H} (h : DriverOk d) : call.Bugs d ∨ call.Spec d := by
  have hpos : ∀ i, (d.view i).active → 0 < (d.view i).gDmaActived := fun i hi => h.pos hi
  match call with
  | .request info irq => exact request_spec h info irq
  | .free n => exact Or.inr (stop_spec h (fun i => free_accounts (h.chan i) (hpos i)) rfl Iff.rfl)
  | .disable n => exact Or.inr (stop_spec h (fun i => disable_accounts (h.chan i) (hpos i)) rfl Iff.rfl)
  | .enable n => exact Or.inr (plain_spec h (fun i => enable_accounts (h.chan i) h.nonneg) rfl trivial)
  | .config n none mode => exact Or.inr (idle_spec h rfl trivial)
  | .config n (some []) mode => exact Or.inr (idle_spec h rfl trivial)
  | .config n (some (b :: bs)) mode =>
    exact Or.inr (plain_spec h (fun i => config_accounts (b :: bs) mode (h.chan i)) rfl trivial)
  | .sgConfig n none bytes mode => exact Or.inr (idle_spec h rfl trivial)
  | .sgConfig n (some []) bytes mode => exact Or.inr (idle_spec h rfl trivial)
  | .sgConfig n (some (g :: gs)) bytes mode =>
    by_cases hb : bytes < 0
    · refine Or.inr (idle_spec h ?_ trivial)
      simp only [DmaCall.step,mxcDmaSgConfig,if_pos hb,map_some]
    · refine Or.inr (plain_spec (n := n) h (fun i => sgConfig_accounts (g :: gs) bytes mode (h.chan i)) ?_ trivial)
      simp only [DmaCall.step,mxcDmaSgConfig,if_neg hb]
  | .interrupt i regs => exact Or.inr (interrupt_spec h i regs)

lemma DmaCall.Bugs.step {call : DmaCall H} {d : Driver H} (h : call.Bugs d) : call.step d = none := by
  match call, h with
  | .request (some info) irq, h =>
    rw [DmaCall.step,mxcDmaRequest,show getDmaChannel info.dmaChan.toInt d = none from h]
    rfl

omit [Dmac H] in
lemma DmaCall.Bugs.ok {call : DmaCall H} {d : Driver H} (h : call.Bugs d) : call.Ok d := by
  match call, h with
  | .request (some info) irq, h =>
    rintro ⟨i,hi⟩
    cases (show getDmaChannel info.dmaChan.toInt d = none from h).symm.trans hi

lemma dmaCall_keeps (call : DmaCall H) (d d' : Driver H) (h : DriverOk d) (e : call.step d = some d') :
  DriverOk d' := by
  rcases dmaCall_step call h with hb | ⟨d1,e1,h1,-⟩
  · cases hb.step.symm.trans e
  · exact Option.some.inj (e1.symm.trans e) ▸ h1

omit [Dmac H] in
lemma mxcDmaInit_ok (dynamic : Fin MXC_DMA_CHANNELS → Bool) (s : Shared) (ring : Fin MXC_DMA_CHANNELS → ℕ → DmaBd)
  (regs : Fin MXC_DMA_CHANNELS → H) : DriverOk (mxcDmaInit dynamic s ring regs) := by
  refine ⟨fun i => InUse.of_idle rfl rfl,?_⟩
  rw [activeCount_eq_sum]
  exact (Finset.sum_eq_zero fun i _ => rfl).symm

/-- **When the references on the DMA clock are right.** -/
theorem clock_run (dynamic : Fin MXC_DMA_CHANNELS → Bool) (s : Shared) (ring : Fin MXC_DMA_CHANNELS → ℕ → DmaBd)
  (regs : Fin MXC_DMA_CHANNELS → H) (calls : List (DmaCall H)) :
  Run.AllSteps DmaCall.step (fun d call => call.Bugs d ∨ ∃ d', call.step d = some d')
    (mxcDmaInit dynamic s ring regs) calls ∧
  Run.AllStates DmaCall.step (fun d => d.shared.gDmaActived = activeCount d) (mxcDmaInit dynamic s ring regs) calls ∧
  (Run.AllStates DmaCall.step ClockOk (mxcDmaInit dynamic s ring regs) calls ↔
    Run.AllSteps DmaCall.step DmaCall.Ok (mxcDmaInit dynamic s ring regs) calls) := by
  have h0 := mxcDmaInit_ok dynamic s ring regs
  refine ⟨Run.AllSteps.of_inv dmaCall_keeps (fun call d h => ?_) h0,
    Run.AllStates.of_inv dmaCall_keeps (fun d h => h.actived) h0,
    Run.allStates_iff_of_steps (J := DriverOk) (fun call d h _ hn => ?_) (fun call d d' h hI e => ?_) h0 ?_⟩
  · rcases dmaCall_step call h with hb | ⟨d',e,-⟩
    · exact Or.inl hb
    · exact Or.inr ⟨d',e⟩
  · rcases dmaCall_step call h with hb | ⟨d',e,-⟩
    · exact hb.ok
    · cases hn.symm.trans e
  · rcases dmaCall_step call h with hb | ⟨d1,e1,h1,hiff⟩
    · cases hb.step.symm.trans e
    · obtain rfl := Option.some.inj (e1.symm.trans e)
      refine ⟨h1,(clockOk_iff h1).trans ?_⟩
      rw [← hiff,(clockOk_iff h).mp hI]
  · exact ⟨h0.actived,rfl⟩

/-- The first request gives back a reference it did not take. -/
theorem clock_leaks :
  (∃ d, DmaCall.step freshDriver (.request (some hwChainingDmaInfo) 0) = some d ∧ d.shared.clkRefs = -1 ∧
    d.shared.gDmaActived = 0 ∧ ¬ ClockOk d) ∧
  ∃ d, [DmaCall.request (some hwChainingDmaInfo) 0, .config 0 (some [⟨0x1000, 0x2000, 16⟩]) .read, .enable 0, .disable 0,
      .config 0 (some [⟨0x1000, 0x2000, 16⟩]) .read, .enable 0, .disable 0].foldlM DmaCall.step freshDriver = some d ∧
    d.shared.clkRefs = 1 ∧ d.shared.gDmaActived = 0 ∧ ¬ ClockOk d := by
  refine ⟨⟨_,rfl,rfl,rfl,fun h => ?_⟩,⟨_,rfl,rfl,rfl,fun h => ?_⟩⟩
  · exact absurd (show (-1 : ℤ) = 0 from h.refs) (by decide)
  · exact absurd (show (1 : ℤ) = 0 from h.refs) (by decide)

end Mx27.Dma
