/-
# Configuration calls against completion interrupts

A chaining channel with its controller, and a call of `mxc_dma_config` that is interrupted.
-/
import Mx27Drivers.Dma.Controller
import Mx27Drivers.Dma.RingRun

namespace Mx27.Dma

open List Option BitVec

open Transfer

inductive Pc
  | idle
  | fill (mode : DmaMode) (b : RequestBuf) (bs : List RequestBuf)
  | test (mode : DmaMode) (bs : List RequestBuf)
  | check (mode : DmaMode) (bs : List RequestBuf)

namespace Pc

def next (mode : DmaMode) : List RequestBuf → Pc
  | [] => .idle
  | b :: bs => .fill mode b bs

def left : Pc → List RequestBuf
  | .idle => []
  | .fill _ b bs => b :: bs
  | .test _ bs | .check _ bs => bs

def unchecked : Pc → Bool
  | .test _ _ | .check _ _ => true
  | _ => false

def mode? : Pc → Option DmaMode
  | .idle => none
  | .fill mode _ _ | .test mode _ | .check mode _ => some mode

end Pc

structure Sys where
  view : View Controller
  pc : Pc
  submitted : List Buffer
  served : List Buffer
  callbacks : List ℕ

inductive Act
  | config (buf : List RequestBuf) (mode : DmaMode)
  | produce
  | complete (n : ℕ)
  | interrupt
  | enable

/-- `mxc_dma_config` accepts the buffers. -/
def accepts (buf : List RequestBuf) (mode : DmaMode) (c : Chan Controller) : Prop :=
  c.lock ∧ (c.dmaChaining → c.mode = mode) ∧ c.bdUsed + buf.length ≤ MAX_BD_SIZE

instance (buf : List RequestBuf) (mode : DmaMode) (c : Chan Controller) : Decidable (accepts buf mode c) := by
  unfold accepts
  infer_instance

namespace Sys

def produce (s : Sys) : Option Sys :=
  match s.pc with
  | .idle => some s
  | .fill mode b bs =>
    let bd := bufBd mode bs.isEmpty b
    some { s with view := s.view.onChan (Chan.push bd), pc := .test mode bs, submitted := s.submitted ++ [bd.buffer] }
  | .test mode bs => some { s with pc := if s.view.bdUsed ≠ 2 then Pc.next mode bs else .check mode bs }
  | .check mode bs => (recheck s.view).map fun v => { s with view := v, pc := Pc.next mode bs }

def interrupt (s : Sys) : Option Sys :=
  if s.view.regs.done then
    (dmaIrqHandler s.view).map fun r =>
      { s with
        view := r.2, served := s.served ++ s.view.queue.take 1
        callbacks := if r.1.isSome then s.callbacks ++ [s.served.length] else s.callbacks }
  else some s

def step (s : Sys) : Act → Option Sys
  | .config buf mode =>
    match s.pc with
    | .idle => some (if accepts buf mode s.view.toChan then { s with pc := Pc.next mode buf } else s)
    | _ => some s
  | .produce => s.produce
  | .complete 0 => some { s with view := onRegs Controller.complete s.view }
  | .complete (n + 1) => some { s with view := onRegs (fun h => { h with fuse := some n }) s.view }
  | .interrupt => s.interrupt
  | .enable => (Dma.enable s.view).map fun r => { s with view := r.2 }

end Sys

def lastPlaces (l : List Buffer) : List ℕ := (l.zipIdx.filter fun p => p.1.last).map Prod.snd

lemma lastPlaces_append (l : List Buffer) (b : Buffer) :
  lastPlaces (l ++ [b]) = if b.last then lastPlaces l ++ [l.length] else lastPlaces l := by
  unfold lastPlaces
  rw [zipIdx_append,filter_append,map_append]
  by_cases h : b.last
  · simp [h]
  · simp [h]

structure InOrder (s : Sys) : Prop where
  written : s.view.regs.written <+: s.submitted.map Buffer.xfer
  completed : s.view.regs.completed <+: s.view.regs.written
  served : s.view.regs.completed.length = s.served.length + if s.view.regs.done then 1 else 0
  queue : s.submitted = s.served ++ s.view.queue
  callbacks : s.callbacks = lastPlaces s.served
  runs : s.view.active → s.view.regs.current.isSome ∨ s.view.regs.done

def Act.Ok (s : Sys) : Act → Prop
  | .produce => ∀ mode bs, s.pc = .check mode bs → ChainsTo s.view.toChan → s.view.bdUsed = 2 →
    (s.view.bdRing ((s.view.bdRd + 1) % MAX_BD_SIZE)).state.busy = false ∧ s.view.regs.done = false
  | .complete n => n = 0 ∧ s.view.regs.done = false
  | _ => True

structure ChainInv (s : Sys) : Prop where
  ok : ChanOk s.view.toChan
  chaining : s.view.dmaChaining
  cb : s.view.cbFn
  mode : ∀ b ∈ s.view.queue, b.mode = s.view.mode
  pcMode : ∀ mode, s.pc.mode? = some mode → mode = s.view.mode
  room : s.view.bdUsed + s.pc.left.length ≤ MAX_BD_SIZE
  queue : s.submitted = s.served ++ s.view.queue
  callbacks : s.callbacks = lastPlaces s.served
  carries : (¬ s.view.active ∧ Carries s.view.toChan (s.served.map Buffer.xfer) 0) ∨
    (s.view.active ∧ (Carries s.view.toChan (s.served.map Buffer.xfer) 2 ∨
      s.view.bdUsed = 2 ∧ s.pc.unchecked ∧ Carries s.view.toChan (s.served.map Buffer.xfer) 1))

lemma Carries.holds_of_inv {s : Sys} (h : ChainInv s) :
  ∃ k, Carries s.view.toChan (s.served.map Buffer.xfer) k ∧ (s.view.active → 0 < k) := by
  rcases h.carries with ⟨hn,hc⟩ | ⟨-,hc | ⟨-,-,hc⟩⟩
  · exact ⟨0,hc,fun ha => absurd ha hn⟩
  · exact ⟨2,hc,fun _ => Nat.two_pos⟩
  · exact ⟨1,hc,fun _ => Nat.one_pos⟩

lemma ChainInv.inOrder {s : Sys} (h : ChainInv s) : InOrder s := by
  obtain ⟨k,hc,hk⟩ := Carries.holds_of_inv h
  have hw := hc.holds.written
  refine ⟨?_,hc.holds.completed_written,?_,h.queue,h.callbacks,fun hact => ?_⟩
  · rw [hw,h.queue,map_append,prefix_append_right_inj]
    exact IsPrefix.map Buffer.xfer <| take_prefix ..
  · rw [hc.holds.length_completed,length_map]
  · by_cases hd : s.view.regs.done
    · exact Or.inr hd
    · refine Or.inl ?_
      rw [hc.holds.current,unfinished,if_neg hd]
      have hpos := h.ok.active hact
      rw [h.ok.queue_cons hpos,← Nat.succ_pred_eq_of_pos (hk hact),take_succ_cons]
      rfl

/-! ### The interrupt and `mxc_dma_enable` -/

def Settled (v : View Controller) (served : List Xfer) : Prop :=
  (¬ v.active ∧ Carries v.toChan served 0) ∨ (v.active ∧ Carries v.toChan served 2)

structure SameKind (v v' : View Controller) : Prop where
  chaining : v'.dmaChaining = v.dmaChaining
  cb : v'.cbFn = v.cbFn
  mode : v'.mode = v.mode

lemma SameKind.trans {u v w : View Controller} (h : SameKind u v) (h' : SameKind v w) : SameKind u w :=
  ⟨h'.chaining.trans h.chaining, h'.cb.trans h.cb, h'.mode.trans h.mode⟩

lemma RingWf.popped {H : Type} {c : Chan H} (h : RingWf c) (hpos : 0 < c.bdUsed) : RingWf c.pop := by
  have hle := h.le
  refine ⟨?_,?_,Nat.mod_lt _ (by decide),h.pop hpos⟩
  · show 0 ≤ c.bdUsed - 1
    omega
  · show c.bdUsed - 1 ≤ MAX_BD_SIZE
    omega

section Calls

variable {v : View Controller} {served : List Xfer} {k : ℕ}

lemma setup_settles (hwf : RingWf v.toChan) (hact : v.active) (hpos : 0 < v.bdUsed) (hch : v.dmaChaining)
  (hmode : ∀ b ∈ v.queue, b.mode = v.mode) (h : Carries v.toChan served k) (hk : k ≤ 1) (hd : v.regs.done = false) :
  ∃ v', setupDmac v = some v' ∧ v'.active ∧ Carries v'.toChan served 2 ∧ SameKind v v' := by
  have hhead : (v.bdRing v.bdRd).mode = v.mode := by
    apply hmode (v.bdRing ..).buffer
    rw [hwf.queue_cons hpos]
    exact mem_cons_self
  have hk' : k = 0 ∨ k = 1 ∧ v.regs.done = false := by
    rcases Nat.le_one_iff_eq_zero_or_eq_one.mp hk with h0 | h1
    · exact Or.inl h0
    · exact Or.inr ⟨h1,hd⟩
  obtain ⟨v',e,honly,hc,hm⟩ := setupDmac_carries hwf hact hpos hch hhead h hk'
  exact ⟨v',e,honly.active.trans hact,hc,honly.dmaChaining,(congrArg Chan.cbFn honly.chan :),hm⟩

lemma consume_settles (hwf : RingWf v.toChan) (hact : v.active) (hpos : 0 < v.bdUsed) (hch : v.dmaChaining)
  (hmode : ∀ b ∈ v.queue, b.mode = v.mode) (h : Carries v.toChan.pop served k) (hk : k ≤ 1)
  (hd : v.regs.done = false) :
  ∃ v', consumeDmaBd .done v = some ((v.bdRing v.bdRd).state.last, v') ∧ Settled v' served ∧ SameKind v v' := by
  have htake : takeBds .done .. = ((v.bdRing ..).state.last, v.toChan.pop) := rfl
  unfold consumeDmaBd
  rw [htake]
  dsimp only
  split
  · -- the ring is empty, so nothing is carried
    rename_i hle
    have hz : v.toChan.pop.bdUsed.toNat = 0 := Int.toNat_eq_zero.mpr hle
    have hq : v.toChan.pop.queue = [] := eq_nil_of_length_eq_zero ((length_queue _).trans hz)
    refine ⟨_,rfl,Or.inl ⟨Bool.false_ne_true,fun j hj => ?_,?_,h.fuse,fun h0 => absurd h0 (lt_irrefl 0)⟩,rfl,rfl,rfl⟩
    · exact absurd hj (by show ¬ j < v.toChan.pop.bdUsed.toNat; omega)
    · have hholds := h.holds
      rw [hq,take_nil] at hholds
      exact hholds
  · rename_i hpos'
    have hmode' : ∀ b ∈ v.toChan.pop.queue, b.mode = v.mode := by
      intro b hb
      apply hmode
      rw [hwf.queue_cons hpos]
      exact mem_cons_of_mem _ hb
    obtain ⟨v',e,ha,hc,hs⟩ := setup_settles (v := { v with toChan := v.toChan.pop }) (hwf.popped hpos) hact
      (not_le.mp hpos') hch hmode' h hk hd
    exact ⟨v',by rw [e]; rfl,Or.inr ⟨ha,hc⟩,hs.chaining,hs.cb,hs.mode⟩

lemma handler_chain (hok : ChanOk v.toChan) (hact : v.active) (hch : v.dmaChaining) (hcb : v.cbFn)
  (hmode : ∀ b ∈ v.queue, b.mode = v.mode) (h : Carries v.toChan served (k + 1)) (hk : k ≤ 1) (hd : v.regs.done) :
  ∃ cb v', dmaIrqHandler v = some (cb, v') ∧ cb.isSome = (v.bdRing v.bdRd).state.last ∧
    Settled v' (served ++ [(v.bdRing v.bdRd).buffer.xfer]) ∧ SameKind v v' := by
  have hpos := hok.active hact
  have herr : outcome (getDmaInterrupt (Dmac.events v.regs)) = .done := by
    show outcome (getDmaInterrupt ⟨v.regs.done,false,false,false,false⟩) = .done
    rw [hd]
    rfl
  obtain ⟨w,hw⟩ : ∃ w : View .., w = { onRegs Dmac.clear v with
    transBytes := v.transBytes + Dmac.readl .transferd (Dmac.clear v.regs) } := ⟨_,rfl⟩
  have hpop : Carries w.toChan.pop (served ++ [(v.bdRing v.bdRd).buffer.xfer]) k := by
    rw [hw]
    exact h.pop hok.toRingWf hpos hd
  obtain ⟨u,e,hset,hsame⟩ := consume_settles (by rw [hw]; exact ⟨hok.nonneg,hok.le,hok.rd,hok.wr⟩)
    (by rw [hw]; exact hact) (by rw [hw]; exact hpos) (by rw [hw]; exact hch) (by rw [hw]; exact hmode) hpop hk
    (by rw [hw]; rfl)
  have hkind : SameKind v u := SameKind.trans (by rw [hw]; exact ⟨rfl,rfl,rfl⟩) hsame
  have hlast : (w.bdRing w.bdRd).state.last = (v.bdRing v.bdRd).state.last := by rw [hw]; rfl
  rw [hlast] at e
  have hrun : dmaIrqHandler v = (consumeDmaBd .done w).bind fun r =>
      if r.1 then some (if (r.2.onShared disableDmaClk).cbFn then
          some (.done, (r.2.onShared disableDmaClk).transBytes) else none,
        { r.2.onShared disableDmaClk with transBytes := 0 })
      else some (none, r.2.onShared disableDmaClk) := by
    unfold dmaIrqHandler
    rw [herr,hw]
    rfl
  rw [hrun,e,bind_some]
  have hcb' : (u.onShared disableDmaClk).cbFn := hkind.cb.trans hcb
  cases hl : (v.bdRing ..).state.last with
  | true =>
    refine ⟨_,_,rfl,?_,?_,hkind.chaining,hkind.cb,hkind.mode⟩
    · rw [if_pos hcb']
      rfl
    · rcases hset with ⟨ha,hc⟩ | ⟨ha,hc⟩
      · exact Or.inl ⟨ha,hc.busy,hc.holds,hc.fuse,hc.cen⟩
      · exact Or.inr ⟨ha,hc.busy,hc.holds,hc.fuse,hc.cen⟩
  | false => exact ⟨_,_,rfl,rfl,hset,hkind.chaining,hkind.cb,hkind.mode⟩

lemma Controller.clear_of_not_done {h : Controller} (hd : h.done = false) : Dmac.clear h = h := by
  show ({ h with toEngine := { h.toEngine with done := false } } : Controller) = h
  rw [← hd]

lemma enable_settles (hok : ChanOk v.toChan) (hact : ¬ v.active) (hch : v.dmaChaining)
  (hmode : ∀ b ∈ v.queue, b.mode = v.mode) (h : Carries v.toChan served 0) :
  ∃ v', enable v = some (0, v') ∧ Settled v' served ∧ SameKind v v' := by
  have hd := h.not_done
  unfold enable
  rw [if_neg (not_not.mpr hok.lock),if_neg hact]
  simp only [bind_eq_bind]
  generalize hw : (onRegs .. : View Controller) = w
  have hc : w.toChan = { v.toChan with active := true, transBytes := 0 } := by
    rw [← hw]
    show { v.toChan with active := true, transBytes := 0, regs := Dmac.clear v.regs } = _
    rw [Controller.clear_of_not_done hd]
  have hcar : Carries w.toChan served 0 := by
    rw [hc]
    exact ⟨h.busy,h.holds,h.fuse,h.cen⟩
  have hkind : SameKind v w := ⟨by rw [hc],by rw [hc],by rw [hc]⟩
  by_cases hpos : 0 < v.bdUsed
  · obtain ⟨u,e,ha,hcu,hs⟩ := setup_settles (by rw [hc]; exact ⟨hok.nonneg,hok.le,hok.rd,hok.wr⟩)
      (by rw [hc]) (by rw [hc]; exact hpos) (by rw [hc]; exact hch) (by rw [hc]; exact hmode) hcar (Nat.zero_le 1)
      hcar.not_done
    have hs' := hkind.trans hs
    exact ⟨u.onShared ..,by rw [e]; rfl,Or.inr ⟨ha,hcu⟩,hs'.chaining,hs'.cb,hs'.mode⟩
  · -- the ring is empty: the channel is not active again
    have e : setupDmac w = some { w with active := false, gDmaActived := w.gDmaActived - 1 } := by
      unfold setupDmac
      rw [if_neg (by rw [hc]; exact fun hn => hn rfl),if_pos (by rw [hc]; exact not_lt.mp hpos)]
    rw [e]
    refine ⟨_,rfl,Or.inl ⟨Bool.false_ne_true,?_⟩,hkind.chaining,hkind.cb,hkind.mode⟩
    exact ⟨hcar.busy,hcar.holds,hcar.fuse,hcar.cen⟩

end Calls

/-! ### Steps keep the invariant -/

section Steps

variable {s : Sys}

lemma Pc.next_left (mode : DmaMode) (bs : List RequestBuf) : (Pc.next mode bs).left = bs := by
  cases bs <;> rfl

variable {mode : DmaMode} {bs : List RequestBuf}

lemma Pc.next_mode {m : DmaMode} (h : (Pc.next mode bs).mode? = some m) : m = mode := by
  cases bs with
  | nil => cases h
  | cons b bs => exact (Option.some.inj h).symm

lemma ChainInv.settled (h : ChainInv s) (hpc : s.view.bdUsed = 2 → ¬ s.pc.unchecked) :
  Settled s.view (s.served.map Buffer.xfer) := by
  rcases h.carries with hn | ⟨ha,hc | ⟨hused,hun,-⟩⟩
  · exact Or.inl hn
  · exact Or.inr ⟨ha,hc⟩
  · exact absurd hun (hpc hused)

lemma ChainInv.goto (h : ChainInv s) (hset : Settled s.view (s.served.map Buffer.xfer)) {pc : Pc}
  (hmode : ∀ m, pc.mode? = some m → m = s.view.mode) (hroom : s.view.bdUsed + pc.left.length ≤ MAX_BD_SIZE) :
  ChainInv { s with pc := pc } := by
  refine ⟨h.ok,h.chaining,h.cb,h.mode,hmode,hroom,h.queue,h.callbacks,?_⟩
  rcases hset with hn | ⟨ha,hc⟩
  · exact Or.inl hn
  · exact Or.inr ⟨ha,Or.inl hc⟩

lemma ChainInv.next (h : ChainInv s) (hset : Settled s.view (s.served.map Buffer.xfer))
  (hmode : mode = s.view.mode) (hroom : s.view.bdUsed + bs.length ≤ MAX_BD_SIZE) :
  ChainInv { s with pc := Pc.next mode bs } :=
  h.goto hset (fun _ hm => (Pc.next_mode hm).trans hmode) (by rwa [Pc.next_left])

lemma config_step (h : ChainInv s) (buf : List RequestBuf) (mode : DmaMode) :
  ∃ s', s.step (.config buf mode) = some s' ∧ ChainInv s' := by
  unfold Sys.step
  dsimp only
  split
  · rename_i hpc
    refine ⟨_,rfl,?_⟩
    split
    · rename_i hacc
      exact h.next (h.settled fun _ hun => by rw [hpc] at hun; cases hun) (hacc.2.1 h.chaining).symm hacc.2.2
    · exact h
  · exact ⟨s,rfl,h⟩

lemma fill_step (h : ChainInv s) {b : RequestBuf}
  (hpc : s.pc = .fill mode b bs) {bd : DmaBd} (hbd : bd = bufBd mode bs.isEmpty b) :
  ChainInv { s with
    view := s.view.onChan (Chan.push bd), pc := .test mode bs, submitted := s.submitted ++ [bd.buffer] } := by
  have hset := h.settled fun _ hun => by rw [hpc] at hun; cases hun
  have hm : mode = s.view.mode := h.pcMode mode (by rw [hpc]; rfl)
  have hroom := h.room
  rw [hpc,Pc.left,length_cons,Nat.cast_add,Nat.cast_one] at hroom
  have hlt : s.view.bdUsed < MAX_BD_SIZE := by omega
  have hbusy : bd.state.busy = false := by rw [hbd]; rfl
  have hq : (s.view.toChan.push bd).queue = s.view.queue ++ [bd.buffer] := h.ok.toRingWf.queue_push hlt bd
  refine ⟨h.ok.push hlt hbusy,h.chaining,h.cb,fun b' hb' => ?_,fun m hm' => (Option.some.inj hm').symm.trans hm,?_,
    ?_,h.callbacks,?_⟩
  · replace hb' : b' ∈ (s.view.toChan.push bd).queue := hb'
    rw [hq,mem_append,mem_singleton] at hb'
    rcases hb' with hb' | rfl
    · exact h.mode b' hb'
    · rw [hbd]
      exact hm
  · show s.view.bdUsed + 1 + bs.length ≤ MAX_BD_SIZE
    omega
  · show s.submitted ++ [bd.buffer] = s.served ++ (s.view.toChan.push bd).queue
    rw [hq,h.queue,List.append_assoc]
  · rcases hset with ⟨hn,hc⟩ | ⟨ha,hc⟩
    · refine Or.inl ⟨hn,?_⟩
      have := hc.push h.ok.toRingWf hlt hbusy
      rwa [Nat.zero_min] at this
    · refine Or.inr ⟨ha,?_⟩
      have hpos := h.ok.active ha
      have hp := hc.push h.ok.toRingWf hlt hbusy
      by_cases hone : s.view.bdUsed = 1
      · refine Or.inr ⟨?_,rfl,?_⟩
        · show s.view.bdUsed + 1 = 2
          omega
        · rwa [show min .. = 1 by omega] at hp
      · refine Or.inl ?_
        rwa [show min .. = 2 by omega] at hp

lemma check_step (h : ChainInv s) (hpc : s.pc = .check mode bs)
  (hok : Act.Ok s .produce) :
  ∃ v, recheck s.view = some v ∧ ChainInv { s with view := v, pc := Pc.next mode bs } := by
  have hm : mode = s.view.mode := h.pcMode mode (by rw [hpc]; rfl)
  have hroom := h.room
  rw [hpc,Pc.left] at hroom
  by_cases hent : ChainsTo s.view.toChan ∧ s.view.bdUsed = 2
  · obtain ⟨hc,hused⟩ := hent
    obtain ⟨hsecond,hd⟩ := hok mode bs hpc hc hused
    have hone : Carries s.view.toChan (s.served.map Buffer.xfer) 1 := by
      rcases h.carries with ⟨hn,-⟩ | ⟨-,hc2 | ⟨-,-,hc1⟩⟩
      · exact absurd hc.2.1 hn
      · have := hc2.busy 1 (by omega)
        rw [hsecond] at this
        cases this
      · exact hc1
    have hnext : s.view.nextDmaBd = some ((s.view.bdRd + 1) % MAX_BD_SIZE) := by
      rw [h.ok.nextDmaBd_eq (by omega),if_neg (by omega)]
    have e := recheck_chained hc hused hnext
    obtain ⟨v,ev,hcar,hvm⟩ := setupNext_carries h.ok.toRingWf (by omega) h.chaining hd hone
    obtain rfl := Option.some.inj ((setupNext_chained hc.1 hnext).symm.trans ev)
    have honly := recheck_only e
    refine ⟨_,e,honly.ok h.ok,honly.dmaChaining.trans h.chaining,(congrArg Chan.cbFn honly.chan :).trans h.cb,?_,
      fun m hm' => ((Pc.next_mode hm').trans hm).trans hvm.symm,?_,?_,h.callbacks,?_⟩
    · rw [honly.queue,hvm]
      exact h.mode
    · rw [honly.bdUsed,Pc.next_left]
      exact hroom
    · rw [honly.queue]
      exact h.queue
    · exact Or.inr ⟨honly.active.trans hc.2.1,Or.inl hcar⟩
  · refine ⟨s.view,recheck_idle hent,h.next ?_ hm hroom⟩
    -- a second descriptor that is not in the controller would have been chained
    rcases h.carries with hn | ⟨ha,hc | ⟨hused,-,hc⟩⟩
    · exact Or.inl hn
    · exact Or.inr ⟨ha,hc⟩
    · have hb := hc.busy 0 (by omega)
      rw [h.ok.index_zero] at hb
      exact absurd ⟨⟨h.chaining,ha,hb⟩,hused⟩ hent

lemma produce_step (h : ChainInv s) (hok : Act.Ok s .produce) : ∃ s', s.produce = some s' ∧ ChainInv s' := by
  unfold Sys.produce
  split
  · exact ⟨s,rfl,h⟩
  · rename_i hpc
    exact ⟨_,rfl,fill_step h hpc rfl⟩
  · rename_i mode bs hpc
    have hm : mode = s.view.mode := h.pcMode mode (by rw [hpc]; rfl)
    have hroom := h.room
    rw [hpc,Pc.left] at hroom
    refine ⟨_,rfl,?_⟩
    split
    · rename_i hne
      exact h.next (h.settled fun h2 => absurd h2 hne) hm hroom
    · refine ⟨h.ok,h.chaining,h.cb,h.mode,fun m hm' => (Option.some.inj hm').symm.trans hm,hroom,h.queue,
        h.callbacks,?_⟩
      rcases h.carries with hn | ⟨ha,hc | ⟨hused,-,hc⟩⟩
      · exact Or.inl hn
      · exact Or.inr ⟨ha,Or.inl hc⟩
      · exact Or.inr ⟨ha,Or.inr ⟨hused,rfl,hc⟩⟩
  · rename_i hpc
    obtain ⟨v,e,hv⟩ := check_step h hpc hok
    exact ⟨_,by rw [e]; rfl,hv⟩

lemma complete_step (h : ChainInv s) (hd : s.view.regs.done = false) :
  ChainInv { s with view := onRegs Controller.complete s.view } := by
  refine ⟨⟨⟨h.ok.nonneg,h.ok.le,h.ok.rd,h.ok.wr⟩,h.ok.lock,h.ok.info,h.ok.active,h.ok.busy⟩,h.chaining,h.cb,h.mode,
    h.pcMode,h.room,h.queue,h.callbacks,?_⟩
  rcases h.carries with ⟨hn,hc⟩ | ⟨ha,hc | ⟨hused,hun,hc⟩⟩
  · exact Or.inl ⟨hn,hc.complete hd⟩
  · exact Or.inr ⟨ha,Or.inl (hc.complete hd)⟩
  · exact Or.inr ⟨ha,Or.inr ⟨hused,hun,hc.complete hd⟩⟩

lemma ChainInv.of_settled (h : ChainInv s) {v : View Controller} {served : List Buffer} {callbacks : List ℕ}
  (hok : ChanOk v.toChan) (hkind : SameKind s.view v) (hq : s.submitted = served ++ v.queue)
  (hsub : v.queue <:+ s.view.queue) (hcb : callbacks = lastPlaces served)
  (hset : Settled v (served.map Buffer.xfer)) :
  ChainInv { s with view := v, served := served, callbacks := callbacks } := by
  refine ⟨hok,hkind.chaining.trans h.chaining,hkind.cb.trans h.cb,fun b hb => ?_,
    fun m hm => (h.pcMode m hm).trans hkind.mode.symm,?_,hq,hcb,?_⟩
  · rw [hkind.mode]
    exact h.mode b (hsub.subset hb)
  · have hlen := hsub.length_le
    rw [length_queue,length_queue] at hlen
    have hroom := h.room
    have hnn := h.ok.nonneg
    show v.bdUsed + s.pc.left.length ≤ MAX_BD_SIZE
    omega
  · rcases hset with hn | ⟨ha,hc⟩
    · exact Or.inl hn
    · exact Or.inr ⟨ha,Or.inl hc⟩

lemma interrupt_step (h : ChainInv s) : ∃ s', s.interrupt = some s' ∧ ChainInv s' := by
  unfold Sys.interrupt
  split
  · rename_i hd
    -- an interrupt is raised only on an active channel
    obtain ⟨ha,k,hk,hc⟩ : s.view.active ∧ ∃ k ≤ 1, Carries s.view.toChan (s.served.map ..) (k + 1) := by
      rcases h.carries with ⟨-,hc⟩ | ⟨ha,hc | ⟨-,-,hc⟩⟩
      · rw [hc.not_done] at hd
        cases hd
      · exact ⟨ha,1,le_refl 1,hc⟩
      · exact ⟨ha,0,Nat.zero_le 1,hc⟩
    obtain ⟨cb,v,e,hcb,hset,hkind⟩ := handler_chain h.ok ha h.chaining h.cb h.mode hc hk hd
    obtain ⟨cb',v',e',hok,hq⟩ := handler_spec h.ok ha
    obtain ⟨rfl,rfl⟩ := Prod.mk.inj (Option.some.inj (e'.symm.trans e))
    have hpos := h.ok.active ha
    have htail : v'.queue = s.view.queue.tail := by
      rw [hq]
      show taken (outcome (getDmaInterrupt ⟨s.view.regs.done,false,false,false,false⟩)) _ = _
      rw [hd,h.ok.queue_cons hpos]
      rfl
    refine ⟨_,by rw [e]; rfl,h.of_settled hok hkind ?_ ?_ ?_ ?_⟩
    · rw [htail,List.append_assoc,← drop_one,take_append_drop]
      exact h.queue
    · rw [htail]
      exact tail_suffix _
    · rw [h.ok.queue_take_one hpos,lastPlaces_append,← h.callbacks]
      exact congrArg (fun b : Bool => if b then s.callbacks ++ [s.served.length] else s.callbacks) hcb
    · rw [h.ok.queue_take_one hpos,map_append]
      exact hset
  · exact ⟨s,rfl,h⟩

lemma enable_step (h : ChainInv s) : ∃ s', s.step .enable = some s' ∧ ChainInv s' := by
  show ∃ s', (enable ..).map (fun r => { s with view := r.2 }) = some s' ∧ _
  by_cases ha : s.view.active
  · have e : enable s.view = some (0, s.view) := by
      rw [enable,if_neg (not_not.mpr h.ok.lock),if_pos ha]
    exact ⟨s,by rw [e]; rfl,h⟩
  · have hc : Carries s.view.toChan (s.served.map Buffer.xfer) 0 := by
      rcases h.carries with ⟨-,hc⟩ | ⟨ha',-⟩
      · exact hc
      · exact absurd ha' ha
    obtain ⟨v,e,hset,hkind⟩ := enable_settles h.ok ha h.chaining h.mode hc
    obtain ⟨r,v',e',hok,hq⟩ := enable_spec h.ok
    obtain ⟨-,rfl⟩ := Prod.mk.inj (Option.some.inj (e'.symm.trans e))
    refine ⟨_,by rw [e]; rfl,h.of_settled hok hkind ?_ ?_ h.callbacks hset⟩
    · rw [hq]
      exact h.queue
    · rw [hq]

lemma act_step (a : Act) (h : ChainInv s) (hok : a.Ok s) : ∃ s', s.step a = some s' ∧ ChainInv s' := by
  match a, hok with
  | .config .., _ => exact config_step h ..
  | .produce, hok => exact produce_step h hok
  | .complete 0, hok => exact ⟨_,rfl,complete_step h hok.2⟩
  | .complete (n + 1), hok => exact absurd hok.1 (Nat.succ_ne_zero n)
  | .interrupt, _ => exact interrupt_step h
  | .enable, _ => exact enable_step h

end Steps

/-! ### Runs -/

structure Controller.Fresh (h : Controller) : Prop where
  fuse : h.fuse = none
  written : h.written = []
  completed : h.completed = []

def Sys.start (v : View Controller) : Sys := ⟨v, .idle, [], [], []⟩

lemma Controller.cenBit_setBit (b : Bool) {bit : BitVec 32} (h : cenBit bit = false) (reg : BitVec 32) :
  cenBit (setBit b bit reg) = cenBit reg := by
  unfold cenBit at h ⊢
  unfold setBit
  split
  · rw [getLsbD_or,h,Bool.or_false]
  · rw [getLsbD_and,getLsbD_not,h]
    simp

lemma Controller.cenBit_dmaCtlSet {off : ℕ} (h : 0 < off) (x value : BitVec 32) :
  cenBit (dmaCtlSet off x value) = cenBit x := by
  simp [cenBit,dmaCtlSet,h]

lemma Controller.cenBit_setPorts (info : DmaInfo) (mode : DmaMode) (reg : BitVec 32) :
  cenBit (setPorts info mode reg) = cenBit reg := by
  unfold setPorts dmaCtlSetDsiz dmaCtlSetDmod dmaCtlSetSsiz dmaCtlSetSmod
  cases mode <;>
    rw [cenBit_dmaCtlSet (by decide),cenBit_dmaCtlSet (by decide),cenBit_dmaCtlSet (by decide),
      cenBit_dmaCtlSet (by decide)]

lemma Controller.cenBit_infoCtl (info : DmaInfo) {ctl : BitVec 32} (h : cenBit ctl = false) :
  cenBit (infoCtl info ctl) = false := by
  unfold infoCtl
  rw [cenBit_setPorts,cenBit_setBit _ rfl,cenBit_setBit _ rfl,cenBit_setBit _ rfl,cenBit_last,h]

lemma setupRegs_fresh (info : DmaInfo) {h : Controller} (hf : h.Fresh) :
  Holds (setupRegs info (Dmac.writel 0 .ctl h)).toEngine [] [] ∧
    (setupRegs info (Dmac.writel 0 .ctl h)).fuse = none := by
  obtain ⟨he0,hctl0,hf0⟩ := Controller.writeCtl_eq hf.fuse 0
  generalize (Dmac.writel .. : Controller) = h0 at he0 hctl0 hf0 ⊢
  obtain ⟨h1,hh1⟩ : ∃ h1, h1 = ((h0.store info.burstLength .burstLength).store info.request .requestSource).store
    (infoBusUtilt info) .busUtilt := ⟨_,rfl⟩
  have hf1 : h1.fuse = none := by rw [hh1]; exact hf0
  have hctl1 : h1.reg .ctl = 0 := by rw [hh1]; exact hctl0
  have hregs : setupRegs info h0 = Dmac.clear (Dmac.writel (infoCtl info (h1.reg .ctl)) .ctl h1) := by
    have hfa : (h0.store info.burstLength .burstLength).fuse = none := hf0
    have hfb : ((h0.store info.burstLength .burstLength).store info.request .requestSource).fuse = none := hf0
    unfold setupRegs
    dsimp only
    rw [Controller.writel_eq hf0,Controller.writel_eq hfa,Controller.writel_eq hfb,← hh1]
    rfl
  obtain ⟨he2,-,hf2⟩ := Controller.writeCtl_eq hf1 ..
  rw [hregs]
  refine ⟨?_,hf2⟩
  show Holds (Engine.ack ..) ..
  have hcen : Controller.cenBit (infoCtl info (h1.reg .ctl)) = false := by
    rw [hctl1]
    exact Controller.cenBit_infoCtl info rfl
  have hstop : h0.toEngine = h.toEngine.stop := by
    rw [he0]
    rfl
  have he1 : h1.toEngine = h.toEngine.stop := by
    rw [hh1]
    exact hstop
  rw [he2,Controller.control,if_neg (by rw [hcen]; decide),he1]
  exact ⟨Nat.zero_le 2,hf.written,hf.completed,rfl,rfl,fun hd => absurd hd Bool.false_ne_true⟩

variable {info : DmaInfo} {d₀ d₁ d₂ : Driver Controller} {i : Fin MXC_DMA_CHANNELS}

lemma requestOn_setup (hinfo : infoOk info) (v : View Controller) :
  (requestOn info 0 v).2.dmaChaining = info.dmaChaining ∧ (requestOn info 0 v).2.active = false ∧
    (requestOn info 0 v).2.regs = setupRegs info (Dmac.writel 0 .ctl v.regs) := by
  unfold requestOn initDmaChannel setupDmaChannel
  simp only [hinfo,not_true_eq_false,if_false,ne_eq,if_true]
  exact ⟨rfl,rfl,rfl⟩

lemma start_inv (hinfo : infoOk info)
  (hch : info.dmaChaining) (hf : (d₀.chan i).regs.Fresh)
  (hreq : mxcDmaRequest (some info) 0 d₀ = some ((i.val : ℤ), d₁))
  (hcb : mxcDmaCallbackSet i.val true d₁ = some (0, d₂)) : ChainInv (Sys.start (d₂.view i)) := by
  obtain ⟨hok,hq⟩ := request_ok hreq
  obtain ⟨-,hd1⟩ := request_eq hreq
  obtain ⟨hchain,hact,hregs⟩ := requestOn_setup hinfo ..
  obtain ⟨hholds,hfuse⟩ := setupRegs_fresh info hf
  generalize (requestOn info 0 { d₀.view i with lock := true }).2 = v at hd1 hchain hact hregs
  have hv : d₁.chan i = v.toChan := by rw [hd1,Driver.put_chan_self]
  rw [hv] at hok hq
  have hset : d₂.view i = { d₁.view i with cbFn := true } := by
    rw [mxcDmaCallbackSet,onChannel_val,map_some,Option.some.injEq,Prod.mk.injEq] at hcb
    rw [← hcb.2,Driver.view_put,callbackSet,if_neg,if_neg]
    · show ¬ (d₁.chan i).active
      rw [hv,hact]
      exact Bool.false_ne_true
    · show ¬ ¬ (d₁.chan i).lock
      rw [hv]
      exact not_not.mpr hok.lock
  have hview : (d₂.view i).toChan = { v.toChan with cbFn := true } := by
    rw [hset]
    show { d₁.chan i with cbFn := true } = _
    rw [hv]
  have hused : v.bdUsed = 0 := by
    have hlen := length_queue v.toChan
    rw [hq] at hlen
    have := hok.nonneg
    have : v.bdUsed.toNat = 0 := hlen.symm
    omega
  have hqueue : (d₂.view i).queue = [] := by rw [hview]; exact hq
  refine ⟨?_,?_,?_,fun b hb => ?_,fun m hm => ?_,?_,?_,rfl,Or.inl ⟨?_,?_⟩⟩
  · show ChanOk (d₂.view i).toChan
    rw [hview]
    exact ⟨⟨hok.nonneg,hok.le,hok.rd,hok.wr⟩,hok.lock,hok.info,hok.active,hok.busy⟩
  · show (d₂.view i).dmaChaining
    rw [hview]
    exact hchain.trans hch
  · show (d₂.view i).cbFn
    rw [hview]
  · rw [show (Sys.start (d₂.view i)).view.queue = [] from hqueue] at hb
    cases hb
  · cases hm
  · show (d₂.view i).bdUsed + 0 ≤ MAX_BD_SIZE
    rw [hview]
    rw [hused]
    exact Int.natCast_nonneg _
  · exact hqueue.symm
  · show ¬ (d₂.view i).active
    rw [hview]
    rw [hact]
    exact Bool.false_ne_true
  · show Carries (d₂.view i).toChan ..
    rw [hview]
    refine ⟨fun j hj => ?_,?_,?_,fun h0 => absurd h0 (lt_irrefl 0)⟩
    · exact absurd hj (by rw [hused]; exact Nat.not_lt_zero j)
    · rw [hregs]
      exact hholds
    · rw [hregs]
      exact hfuse

def freshControllers : Driver Controller :=
  mxcDmaInit (fun _ => true) ⟨0, 0, 0, 0, 0, 0, 0, 0, 0, 0⟩ (fun _ _ => ⟨⟨false, false, false⟩, .read, 0, 0, 0⟩)
    fun _ => ⟨⟨none, none, false, [], []⟩, fun _ => 0, none⟩

def chainChannel : View Controller :=
  (((mxcDmaRequest (some hwChainingDmaInfo) 0 freshControllers).bind fun r =>
    mxcDmaCallbackSet 0 true r.2).elim freshControllers Prod.snd).view 0

end Mx27.Dma
