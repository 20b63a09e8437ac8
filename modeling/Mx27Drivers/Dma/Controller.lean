/-
# The controller of a chaining channel

A model of the registers of a channel as the controller uses them.
-/
import Mx27Drivers.Lib.Engine
import Mx27Drivers.Dma.Queue
import Mx27Drivers.Dma.Recheck

namespace Mx27.Dma

open List Option

open Ring Transfer

structure Xfer where
  srcAddr : BitVec 32
  dstAddr : BitVec 32
  count : BitVec 32
  deriving DecidableEq

def Buffer.xfer (b : Buffer) : Xfer := ⟨b.srcAddr, b.dstAddr, b.count⟩

structure Controller extends Engine Xfer where
  reg : ChanReg → BitVec 32
  fuse : Option ℕ

namespace Controller

def cenBit (ctl : BitVec 32) : Bool := ctl.getLsbD 0

def rptBit (ctl : BitVec 32) : Bool := ctl.getLsbD 2

def xfer (h : Controller) : Xfer := ⟨h.reg .sourceAddr, h.reg .destAddr, h.reg .count⟩

def complete (h : Controller) : Controller :=
  if h.current.isSome then
    { h with
      toEngine := h.toEngine.complete
      reg := Function.update h.reg .ctl (h.reg .ctl &&& ~~~DMA_CTL_RPT) }
  else h

def control (cen : Bool) (ctl : BitVec 32) (x : Xfer) (e : Engine Xfer) : Engine Xfer :=
  if cenBit ctl then
    if cen then
      if rptBit ctl then e.chain x else e.unchain
    else if rptBit ctl then (e.start x).chain x
    else e.start x
  else e.stop

def store (value : BitVec 32) (r : ChanReg) (h : Controller) : Controller :=
  match r with
  | .count =>
    { h with
      toEngine := h.toEngine.write ⟨h.reg .sourceAddr, h.reg .destAddr, value⟩
      reg := Function.update h.reg r value }
  | .ctl =>
    { h with
      toEngine := control (cenBit (h.reg .ctl)) value h.xfer h.toEngine
      reg := Function.update h.reg r value }
  | _ => { h with reg := Function.update h.reg r value }

def tick (h : Controller) : Controller :=
  match h.fuse with
  | none => h
  | some 0 => { h with fuse := none }.complete
  | some (n + 1) => { h with fuse := some n }

instance : Dmac Controller where
  readl r h := h.reg r
  writel value r h := (h.store value r).tick
  events h := ⟨h.done, false, false, false, false⟩
  clear h := { h with toEngine := h.toEngine.ack }

def cen (h : Controller) : Bool := cenBit (h.reg .ctl)

variable {h : Controller}

lemma tick_of_none (hf : h.fuse = none) : h.tick = h := by
  unfold tick
  rw [hf]

lemma writel_eq (hf : h.fuse = none) (value : BitVec 32) (r : ChanReg) :
  Dmac.writel value r h = h.store value r := by
  apply tick_of_none
  unfold store
  cases r <;> exact hf

lemma store_fuse (value : BitVec 32) (r : ChanReg) : (h.store value r).fuse = h.fuse := by
  unfold store
  cases r <;> rfl

lemma writeBd_eq (hf : h.fuse = none) (p : DmaBd) :
  (writeBd p h).toEngine = h.toEngine.write p.buffer.xfer ∧ (writeBd p h).xfer = p.buffer.xfer ∧
    (writeBd p h).reg .ctl = h.reg .ctl ∧ (writeBd p h).fuse = none := by
  have hf1 : (h.store p.srcAddr .sourceAddr).fuse = none := (store_fuse ..).trans hf
  have hf2 : ((h.store p.srcAddr .sourceAddr).store p.dstAddr .destAddr).fuse = none := (store_fuse ..).trans hf1
  rw [writeBd,writel_eq hf,writel_eq hf1,writel_eq hf2]
  exact ⟨rfl,rfl,rfl,hf⟩

lemma writeCtl_eq (hf : h.fuse = none) (ctl : BitVec 32) :
  (Dmac.writel ctl .ctl h).toEngine = control h.cen ctl h.xfer h.toEngine ∧
    (Dmac.writel ctl .ctl h).reg .ctl = ctl ∧ (Dmac.writel ctl .ctl h).fuse = none := by
  rw [writel_eq hf]
  exact ⟨rfl,rfl,hf⟩

lemma cenBit_masked (ctl : BitVec 32) :
  cenBit (ctl &&& ~~~(DMA_CTL_ACRPT ||| DMA_CTL_RPT ||| DMA_CTL_CEN)) = false := by
  simp [cenBit,DMA_CTL_ACRPT,DMA_CTL_RPT,DMA_CTL_CEN]

lemma cenBit_started (ctl : BitVec 32) : cenBit (ctl ||| DMA_CTL_CEN) = true := by
  simp [cenBit,DMA_CTL_CEN]

lemma rptBit_started (ctl : BitVec 32) :
  rptBit ((ctl &&& ~~~(DMA_CTL_ACRPT ||| DMA_CTL_RPT ||| DMA_CTL_CEN)) ||| DMA_CTL_CEN) = false := by
  simp [rptBit,DMA_CTL_ACRPT,DMA_CTL_RPT,DMA_CTL_CEN]

lemma cenBit_chained (ctl : BitVec 32) : cenBit (ctl ||| (DMA_CTL_ACRPT ||| DMA_CTL_RPT ||| DMA_CTL_CEN)) = true := by
  simp [cenBit,DMA_CTL_ACRPT,DMA_CTL_RPT,DMA_CTL_CEN]

lemma rptBit_chained (ctl : BitVec 32) : rptBit (ctl ||| (DMA_CTL_ACRPT ||| DMA_CTL_RPT ||| DMA_CTL_CEN)) = true := by
  simp [rptBit,DMA_CTL_ACRPT,DMA_CTL_RPT,DMA_CTL_CEN]

lemma cenBit_last (ctl : BitVec 32) : cenBit (ctl &&& ~~~(DMA_CTL_ACRPT ||| DMA_CTL_RPT)) = cenBit ctl := by
  simp [cenBit,DMA_CTL_ACRPT,DMA_CTL_RPT]

lemma rptBit_last (ctl : BitVec 32) : rptBit (ctl &&& ~~~(DMA_CTL_ACRPT ||| DMA_CTL_RPT)) = false := by
  simp [rptBit,DMA_CTL_ACRPT,DMA_CTL_RPT]

lemma cenBit_complete (ctl : BitVec 32) : cenBit (ctl &&& ~~~DMA_CTL_RPT) = cenBit ctl := by
  simp [cenBit,DMA_CTL_RPT]

end Controller

/-! ### Descriptors in the controller -/

section Ring

variable {H : Type} {c : Chan H}

def BusyFirst (c : Chan H) (k : ℕ) : Prop :=
  ∀ j < c.bdUsed.toNat, (c.bdRing ((c.bdRd + j) % MAX_BD_SIZE)).state.busy = decide (j < k)

lemma BusyFirst.setBusy (hwf : RingWf c) {k : ℕ} (h : BusyFirst c k) (hk : k < c.bdUsed.toNat) :
  BusyFirst (c.setBusy ((c.bdRd + k) % MAX_BD_SIZE)) (k + 1) := by
  intro j hj
  show ((c.setBusy ((c.bdRd + k) % MAX_BD_SIZE)).bdRing ((c.bdRd + j) % MAX_BD_SIZE)).state.busy = _
  by_cases hjk : j = k
  · rw [hjk,Chan.setBusy_self,decide_eq_true (Nat.lt_succ_self k)]
  · have hne : (c.bdRd + j) % MAX_BD_SIZE ≠ (c.bdRd + k) % MAX_BD_SIZE :=
      fun he => hjk (index_inj (hwf.lt_of_active hj) (hwf.lt_of_active hk) he)
    rw [Chan.setBusy_of_ne hne,h j hj,decide_eq_decide]
    omega

lemma queue_setBusy (c : Chan H) (i : ℕ) : (c.setBusy i).queue = c.queue :=
  slots_congr fun _ _ => Chan.setBusy_buffer ..

lemma RingWf.queue_take_one (h : RingWf c) (hpos : 0 < c.bdUsed) :
  c.queue.take 1 = [(c.bdRing c.bdRd).buffer] := by
  rw [h.queue_cons hpos]
  rfl

lemma RingWf.queue_take_two (h : RingWf c) (htwo : 2 ≤ c.bdUsed) :
  c.queue.take 2 = [(c.bdRing c.bdRd).buffer, (c.bdRing ((c.bdRd + 1) % MAX_BD_SIZE)).buffer] := by
  have hn : (c.bdUsed - 1).toNat = (c.bdUsed - 2).toNat + 1 := by omega
  rw [h.queue_cons (by omega),hn,slots_cons,Nat.mod_mod]
  rfl

end Ring

structure Carries (c : Chan Controller) (served : List Xfer) (k : ℕ) : Prop where
  busy : BusyFirst c k
  holds : Holds c.regs.toEngine served ((c.queue.take k).map Buffer.xfer)
  fuse : c.regs.fuse = none
  cen : 0 < k → c.regs.cen

lemma chainRegs_eq {h : Controller} (hf : h.fuse = none) (hc : h.cen) (bd : DmaBd) :
  (chainRegs bd h).toEngine = (h.toEngine.write bd.buffer.xfer).chain bd.buffer.xfer ∧
    (chainRegs bd h).cen ∧ (chainRegs bd h).fuse = none := by
  obtain ⟨he,hx,hctl,hf'⟩ := Controller.writeBd_eq hf bd
  obtain ⟨he',hctl',hf''⟩ := Controller.writeCtl_eq hf' (Dmac.readl .ctl (writeBd bd h) |||
    (DMA_CTL_ACRPT ||| DMA_CTL_RPT ||| DMA_CTL_CEN))
  have hcen : (writeBd bd h).cen := (congrArg Controller.cenBit hctl).trans hc
  refine ⟨?_,?_,hf''⟩
  · rw [chainRegs,he',he,hx,Controller.control,Controller.cenBit_chained,Controller.rptBit_chained,hcen]
    rfl
  · rw [chainRegs,Controller.cen,hctl']
    exact Controller.cenBit_chained _

section Carries

variable {c : Chan Controller} {served : List Xfer}

lemma Carries.chain (h : Carries c served 1) (hwf : RingWf c) (htwo : 2 ≤ c.bdUsed) (hd : c.regs.done = false)
  {q : ℕ} (hq : q = (c.bdRd + 1) % MAX_BD_SIZE) :
  Carries (Chan.setBusy q { c with regs := chainRegs (c.bdRing q) c.regs }) served 2 := by
  subst hq
  obtain ⟨he,hc,hf⟩ := chainRegs_eq h.fuse (h.cen Nat.one_pos) (c.bdRing ((c.bdRd + 1) % MAX_BD_SIZE))
  refine ⟨h.busy.setBusy hwf (by omega),?_,hf,fun _ => hc⟩
  have hholds := h.holds
  rw [hwf.queue_take_one (by omega)] at hholds
  rw [queue_setBusy]
  show Holds (chainRegs (c.bdRing _) c.regs).toEngine served ((c.queue.take 2).map Buffer.xfer)
  rw [he,hwf.queue_take_two htwo]
  exact hholds.chain hd

lemma Carries.one_iff_two (hone : c.bdUsed = 1) : Carries c served 1 ↔ Carries c served 2 := by
  have hq : c.queue.take 1 = c.queue.take 2 := by
    have hlen : c.queue.length = 1 := by rw [length_queue,hone]; rfl
    rw [take_of_length_le hlen.le,take_of_length_le (by omega)]
  have hb : BusyFirst c 1 ↔ BusyFirst c 2 := by
    unfold BusyFirst
    refine forall₂_congr fun j hj => ?_
    rw [show j = 0 by omega]
    exact Iff.rfl
  exact ⟨fun h => ⟨hb.mp h.busy,hq ▸ h.holds,h.fuse,fun _ => h.cen Nat.one_pos⟩,
    fun h => ⟨hb.mpr h.busy,hq ▸ h.holds,h.fuse,fun _ => h.cen Nat.two_pos⟩⟩

lemma Carries.push {k : ℕ} (h : Carries c served k) (hwf : RingWf c) (hlt : c.bdUsed < MAX_BD_SIZE) {bd : DmaBd}
  (hbd : bd.state.busy = false) : Carries (c.push bd) served (min k c.bdUsed.toNat) := by
  have hnn := hwf.nonneg
  refine ⟨fun j hj => ?_,?_,h.fuse,fun hk => h.cen (by omega)⟩
  · replace hj : j < (c.bdUsed + 1).toNat := hj
    show ((c.push bd).bdRing ((c.bdRd + j) % MAX_BD_SIZE)).state.busy = _
    by_cases hje : j = c.bdUsed.toNat
    · show ((Function.update c.bdRing c.bdWr bd) ((c.bdRd + j) % MAX_BD_SIZE)).state.busy = _
      rw [hje,hwf.wr,Function.update_self,hbd]
      exact (decide_eq_false (by omega)).symm
    · rw [hwf.push_of_lt hlt bd (by omega),h.busy j (by omega),decide_eq_decide]
      omega
  · rw [hwf.queue_push hlt,← length_queue,take_append_of_le_length (Nat.min_le_right ..),← take_eq_take_min]
    exact h.holds

lemma Carries.pop {k : ℕ} {t : BitVec 32} (h : Carries c served (k + 1)) (hwf : RingWf c) (hpos : 0 < c.bdUsed)
  (hd : c.regs.done) :
  Carries (Chan.pop { c with transBytes := t, regs := Dmac.clear c.regs })
    (served ++ [(c.bdRing c.bdRd).buffer.xfer]) k := by
  refine ⟨fun j hj => ?_,?_,h.fuse,fun _ => h.cen (Nat.succ_pos k)⟩
  · replace hj : j < (c.bdUsed - 1).toNat := hj
    show (c.bdRing (((c.bdRd + 1) % MAX_BD_SIZE + j) % MAX_BD_SIZE)).state.busy = _
    rw [Nat.mod_add_mod,Nat.add_assoc,Nat.add_comm 1 j,h.busy (j + 1) (by omega),decide_eq_decide]
    omega
  · have hholds := h.holds
    rw [hwf.queue_cons hpos,take_succ_cons,map_cons] at hholds
    exact hholds.ack hd

lemma Carries.complete {k : ℕ} (h : Carries c served k) (hd : c.regs.done = false) :
  Carries { c with regs := c.regs.complete } served k := by
  unfold Controller.complete
  split
  · refine ⟨h.busy,h.holds.complete hd,h.fuse,fun hk => ?_⟩
    exact (Controller.cenBit_complete (c.regs.reg .ctl)).trans (h.cen hk)
  · exact h

def startCtl (h : Controller) : BitVec 32 :=
  (h.reg .ctl &&& ~~~(DMA_CTL_ACRPT ||| DMA_CTL_RPT ||| DMA_CTL_CEN)) ||| DMA_CTL_CEN

def startRegs (bd : DmaBd) (h : Controller) : Controller :=
  Dmac.writel (startCtl h) .ctl
    (writeBd bd (Dmac.writel (h.reg .ctl &&& ~~~(DMA_CTL_ACRPT ||| DMA_CTL_RPT ||| DMA_CTL_CEN)) .ctl h))

lemma startRegs_eq {h : Controller} (hf : h.fuse = none) (bd : DmaBd) :
  (startRegs bd h).toEngine = (h.toEngine.stop.write bd.buffer.xfer).start bd.buffer.xfer ∧
    (startRegs bd h).reg .ctl = startCtl h ∧ (startRegs bd h).fuse = none := by
  unfold startRegs
  obtain ⟨he1,hctl1,hf1⟩ := Controller.writeCtl_eq hf (h.reg .ctl &&& ~~~(DMA_CTL_ACRPT ||| DMA_CTL_RPT ||| DMA_CTL_CEN))
  generalize (Dmac.writel _ .ctl h : Controller) = h1 at he1 hctl1 hf1 ⊢
  obtain ⟨he2,hx2,hctl2,hf2⟩ := Controller.writeBd_eq hf1 bd
  obtain ⟨he3,hctl3,hf3⟩ := Controller.writeCtl_eq hf2 (startCtl h)
  refine ⟨?_,hctl3,hf3⟩
  have hcen : (writeBd bd h1).cen = false := by
    rw [Controller.cen,hctl2,hctl1]
    exact Controller.cenBit_masked _
  have hrpt : Controller.rptBit (startCtl h) = false := Controller.rptBit_started _
  have hstop : h1.toEngine = h.toEngine.stop := by
    rw [he1,Controller.control,Controller.cenBit_masked]
    rfl
  rw [he3,hx2,he2,hcen,hstop,Controller.control,startCtl,Controller.cenBit_started,← startCtl,hrpt]
  rfl

lemma Carries.start (h : Carries c served 0) (hwf : RingWf c) (hpos : 0 < c.bdUsed) :
  Carries (Chan.setBusy c.bdRd { c with regs := startRegs (c.bdRing c.bdRd) c.regs }) served 1 := by
  obtain ⟨he,hctl,hf⟩ := startRegs_eq h.fuse (c.bdRing c.bdRd)
  refine ⟨?_,?_,hf,fun _ => (congrArg Controller.cenBit hctl :).trans (Controller.cenBit_started _)⟩
  · have := BusyFirst.setBusy (c := { c with regs := startRegs (c.bdRing c.bdRd) c.regs })
      ⟨hwf.nonneg,hwf.le,hwf.rd,hwf.wr⟩ h.busy (by show 0 < c.bdUsed.toNat; omega)
    rwa [show ((c.bdRd + 0) % MAX_BD_SIZE) = c.bdRd from hwf.index_zero] at this
  · rw [queue_setBusy]
    show Holds (startRegs (c.bdRing c.bdRd) c.regs).toEngine served ((c.queue.take 1).map Buffer.xfer)
    rw [he,hwf.queue_take_one hpos]
    exact h.holds.start

end Carries

section Setup

variable {v : View Controller} {served : List Xfer}

lemma Carries.not_done {c : Chan Controller} (h : Carries c served 0) : c.regs.done = false :=
  Bool.eq_false_iff.mpr fun hd => h.holds.nonempty hd rfl

lemma chainNext_some (hch : v.dmaChaining) (q : ℕ) (ctrl : BitVec 32) :
  chainNext (some q) ctrl v = { v with
    toChan := Chan.setBusy q { v.toChan with
      regs := Dmac.writel (ctrl ||| (DMA_CTL_ACRPT ||| DMA_CTL_RPT ||| DMA_CTL_CEN)) .ctl
        (writeBd (v.bdRing q) v.regs) } } := if_pos hch

lemma setupFirst_carries (hwf : RingWf v.toChan) (hpos : 0 < v.bdUsed) (hch : v.dmaChaining)
  (hmode : (v.bdRing v.bdRd).mode = v.mode) (h : Carries v.toChan served 0) :
  ∃ v', setupFirst v = some v' ∧ Carries v'.toChan served 2 ∧ v'.mode = v.mode := by
  obtain ⟨c1,hc1⟩ : ∃ c1, c1 = Chan.setBusy v.bdRd { v.toChan with regs := startRegs (v.bdRing v.bdRd) v.regs } :=
    ⟨_,rfl⟩
  have hcar : Carries c1 served 1 := hc1 ▸ h.start hwf hpos
  have hwf1 : RingWf c1 := by
    rw [hc1]
    exact ⟨hwf.nonneg,hwf.le,hwf.rd,hwf.wr⟩
  have hused1 : c1.bdUsed = v.bdUsed := by rw [hc1]; rfl
  have hmode1 : c1.mode = v.mode := by rw [hc1]; rfl
  have hsetup : setupFirst v = some (chainNext v.nextDmaBd (startCtl v.regs) { v with toChan := c1 }) := by
    simp only [setupFirst,modeCtl]
    rw [if_neg fun hne => hne hmode,bind_eq_bind,bind_some,hmode,hc1]
    rfl
  rw [hsetup,hwf.nextDmaBd_eq hpos]
  refine ⟨_,rfl,?_⟩
  split
  · -- there is only one descriptor
    rename_i hone
    exact ⟨(Carries.one_iff_two (hused1.trans hone)).mp hcar,hmode1⟩
  · rename_i htwo
    obtain ⟨he,hctl,hf⟩ := startRegs_eq h.fuse (v.bdRing v.bdRd)
    have hregs : c1.regs = startRegs (v.bdRing v.bdRd) v.regs := by rw [hc1]; rfl
    have hd : c1.regs.done = false := by
      rw [hregs,he]
      exact h.not_done
    have hq : (v.bdRd + 1) % MAX_BD_SIZE = (c1.bdRd + 1) % MAX_BD_SIZE := by rw [hc1]; rfl
    generalize (v.bdRd + 1) % MAX_BD_SIZE = q at hq ⊢
    have hchain := hcar.chain hwf1 (by omega) hd hq
    have hctl1 : Dmac.readl .ctl (writeBd (c1.bdRing q) c1.regs) = startCtl v.regs :=
      (Controller.writeBd_eq hcar.fuse (c1.bdRing q)).2.2.1.trans (by rw [hregs,hctl])
    rw [chainRegs,hctl1] at hchain
    have hch1 : ({ v with toChan := c1 } : View Controller).dmaChaining := by rw [hc1]; exact hch
    rw [chainNext_some hch1]
    exact ⟨hchain,hmode1⟩

lemma setupNext_carries (hwf : RingWf v.toChan) (hpos : 0 < v.bdUsed) (hch : v.dmaChaining)
  (hd : v.regs.done = false) (h : Carries v.toChan served 1) :
  ∃ v', setupNext v = some v' ∧ Carries v'.toChan served 2 ∧ v'.mode = v.mode := by
  by_cases hone : v.bdUsed = 1
  · have hnext : v.nextDmaBd = none := by rw [hwf.nextDmaBd_eq hpos,if_pos hone]
    obtain ⟨he,hctl,hf⟩ := Controller.writeCtl_eq h.fuse (v.regs.reg .ctl &&& ~~~(DMA_CTL_ACRPT ||| DMA_CTL_RPT))
    have hcen := h.cen Nat.one_pos
    have hsetup : setupNext v = some { v with
        regs := Dmac.writel (v.regs.reg .ctl &&& ~~~(DMA_CTL_ACRPT ||| DMA_CTL_RPT)) .ctl v.regs } := by
      unfold setupNext
      rw [if_neg (not_not.mpr hch),hnext]
      rfl
    rw [hsetup]
    generalize (Dmac.writel _ .ctl v.regs : Controller) = h' at he hctl hf
    have hcar : Carries { v.toChan with regs := h' } served 1 := by
      refine ⟨h.busy,?_,hf,fun _ => ?_⟩
      · have hholds := h.holds
        rw [hwf.queue_take_one hpos] at hholds
        show Holds h'.toEngine served ((v.queue.take 1).map Buffer.xfer)
        rw [he,hwf.queue_take_one hpos,Controller.control,Controller.cenBit_last,Controller.rptBit_last,
          show Controller.cenBit (v.regs.reg .ctl) = true from hcen,hcen]
        exact hholds.unchain
      · show Controller.cenBit (h'.reg .ctl) = true
        rw [hctl,Controller.cenBit_last]
        exact hcen
    exact ⟨_,rfl,(Carries.one_iff_two (c := { v.toChan with regs := h' }) hone).mp hcar,rfl⟩
  · have hnext : v.nextDmaBd = some ((v.bdRd + 1) % MAX_BD_SIZE) := by rw [hwf.nextDmaBd_eq hpos,if_neg hone]
    refine ⟨_,setupNext_chained hch hnext,?_⟩
    obtain ⟨he,-,-⟩ := chainRegs_eq h.fuse (h.cen Nat.one_pos) (v.bdRing ((v.bdRd + 1) % MAX_BD_SIZE))
    have hirq : getDmaInterrupt (Dmac.events (chainRegs (v.bdRing ((v.bdRd + 1) % MAX_BD_SIZE)) v.regs)) = 0 := by
      have hdone : (chainRegs (v.bdRing ((v.bdRd + 1) % MAX_BD_SIZE)) v.regs).done = false := by
        rw [he]
        exact hd
      show getDmaInterrupt ⟨Engine.done _,false,false,false,false⟩ = 0
      rw [hdone]
      rfl
    unfold View.onChan chained
    rw [if_pos hirq]
    exact ⟨h.chain hwf (by omega) hd rfl,rfl⟩

lemma setupDmac_carries {k : ℕ} (hwf : RingWf v.toChan) (hact : v.active) (hpos : 0 < v.bdUsed) (hch : v.dmaChaining)
  (hmode : (v.bdRing v.bdRd).mode = v.mode) (h : Carries v.toChan served k)
  (hk : k = 0 ∨ k = 1 ∧ v.regs.done = false) :
  ∃ v', setupDmac v = some v' ∧ OnlyTransfer v v' ∧ Carries v'.toChan served 2 ∧ v'.mode = v.mode := by
  have hhead : (v.bdRing v.bdRd).state.busy = decide (0 < k) := by
    have := h.busy 0 (by omega)
    rwa [hwf.index_zero] at this
  unfold setupDmac
  rw [if_neg (not_not.mpr hact),if_neg (not_le.mpr hpos),hhead]
  rcases hk with rfl | ⟨rfl,hd⟩
  · obtain ⟨v',e,hv',hm⟩ := setupFirst_carries hwf hpos hch hmode h
    exact ⟨v',e,setupFirst_only hact e,hv',hm⟩
  · obtain ⟨v',e,hv',hm⟩ := setupNext_carries hwf hpos hch hd h
    exact ⟨v',e,setupNext_only hact e,hv',hm⟩

end Setup

end Mx27.Dma
