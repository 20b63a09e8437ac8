/-
# The descriptor ring is a queue
-/
import Mx27Drivers.Lib.Ring
import Mx27Drivers.Lib.Run
import Mx27Drivers.Dma.Transfer

namespace Mx27.Dma

open List Option Function

open Ring

variable {H : Type}

def Chan.queue (c : Chan H) : List Buffer :=
  slots MAX_BD_SIZE (fun i => (c.bdRing i).buffer) c.bdRd c.bdUsed.toNat

structure RingWf (c : Chan H) : Prop where
  nonneg : 0 ≤ c.bdUsed
  le : c.bdUsed ≤ MAX_BD_SIZE
  rd : c.bdRd < MAX_BD_SIZE
  wr : c.bdWr = (c.bdRd + c.bdUsed.toNat) % MAX_BD_SIZE

structure ChanOk (c : Chan H) : Prop extends RingWf c where
  lock : c.lock
  info : c.dmaInfo.isSome
  active : c.active → 0 < c.bdUsed
  busy : ∀ j < c.bdUsed.toNat, (c.bdRing ((c.bdRd + j) % MAX_BD_SIZE)).state.busy →
    c.active ∧ (j = 0 ∨ c.dmaChaining)

/-! ### Operations on the ring -/

lemma RingWf.lt_of_active {c : Chan H} (h : RingWf c) {j : ℕ} (hj : j < c.bdUsed.toNat) : j < MAX_BD_SIZE := by
  have := h.le
  omega

lemma RingWf.index_zero {c : Chan H} (h : RingWf c) : (c.bdRd + 0) % MAX_BD_SIZE = c.bdRd :=
  Nat.mod_eq_of_lt h.rd

lemma length_queue (c : Chan H) : c.queue.length = c.bdUsed.toNat := length_slots ..

lemma RingWf.queue_cons {c : Chan H} (h : RingWf c) (hpos : 0 < c.bdUsed) :
  c.queue = (c.bdRing c.bdRd).buffer ::
    slots MAX_BD_SIZE (fun i => (c.bdRing i).buffer) ((c.bdRd + 1) % MAX_BD_SIZE) (c.bdUsed - 1).toNat := by
  have hn : c.bdUsed.toNat = (c.bdUsed - 1).toNat + 1 := by omega
  rw [Chan.queue,hn,slots_cons,Nat.mod_eq_of_lt h.rd]

lemma RingWf.index_ne {c : Chan H} (h : RingWf c) {j : ℕ} (hj : j < (c.bdUsed - 1).toNat) :
  ((c.bdRd + 1) % MAX_BD_SIZE + j) % MAX_BD_SIZE ≠ c.bdRd := by
  intro he
  have hle := h.le
  rw [Nat.mod_add_mod,Nat.add_assoc] at he
  have := index_inj (j := 1 + j) (k := 0) (by omega) (by decide) (he.trans h.index_zero.symm)
  omega

lemma RingWf.pop {c : Chan H} (h : RingWf c) (hpos : 0 < c.bdUsed) :
  c.bdWr = ((c.bdRd + 1) % MAX_BD_SIZE + (c.bdUsed - 1).toNat) % MAX_BD_SIZE := by
  rw [h.wr,Nat.mod_add_mod]
  congr 1
  omega

lemma RingWf.nextDmaBd_eq {c : Chan H} (h : RingWf c) (hpos : 0 < c.bdUsed) :
  c.nextDmaBd = if c.bdUsed = 1 then none else some ((c.bdRd + 1) % MAX_BD_SIZE) := by
  have hle := h.le
  unfold Chan.nextDmaBd
  rw [h.wr]
  by_cases h1 : c.bdUsed = 1
  · rw [if_pos h1,h1]
    exact if_pos rfl
  · rw [if_neg h1,if_neg]
    intro he
    rw [show c.bdUsed.toNat = 1 + (c.bdUsed - 1).toNat by omega,← Nat.add_assoc] at he
    -- the ring would have to be gone through once
    have hz : (c.bdRd + 1 + 0) % MAX_BD_SIZE = (c.bdRd + 1 + (c.bdUsed - 1).toNat) % MAX_BD_SIZE := he
    have := index_inj (by decide) (by omega) hz
    omega

lemma OnlyTransfer.queue {v v' : View H} (h : OnlyTransfer v v') : v'.queue = v.queue := by
  unfold Chan.queue
  rw [h.bdRd,h.bdUsed]
  exact slots_congr fun j _ => h.buffer _

lemma OnlyTransfer.ok {v v' : View H} (h : OnlyTransfer v v') (hok : ChanOk v.toChan) : ChanOk v'.toChan := by
  refine ⟨⟨?_,?_,?_,?_⟩,?_,?_,?_,fun j hj hb => ?_⟩
  · exact h.bdUsed ▸ hok.nonneg
  · exact h.bdUsed ▸ hok.le
  · exact h.bdRd ▸ hok.rd
  · rw [h.bdWr,h.bdRd,h.bdUsed]
    exact hok.wr
  · exact h.lock ▸ hok.lock
  · exact h.dmaInfo ▸ hok.info
  · rw [h.active,h.bdUsed]
    exact hok.active
  · rw [h.bdUsed] at hj
    rw [h.bdRd] at hb
    rw [h.active,h.dmaChaining]
    rcases h.busy _ hb with hb | ⟨hact,he | ⟨hch,-⟩⟩
    · exact hok.busy j hj hb
    · refine ⟨hact,Or.inl (index_inj (hok.lt_of_active hj) (by decide) (he.trans hok.index_zero.symm))⟩
    · exact ⟨hact,Or.inr hch⟩

lemma RingWf.push_of_lt {c : Chan H} (h : RingWf c) (hlt : c.bdUsed < MAX_BD_SIZE) (bd : DmaBd) {j : ℕ}
  (hj : j < c.bdUsed.toNat) :
  (c.push bd).bdRing ((c.bdRd + j) % MAX_BD_SIZE) = c.bdRing ((c.bdRd + j) % MAX_BD_SIZE) := by
  have hnn := h.nonneg
  refine update_of_ne (fun he => ?_) ..
  rw [h.wr] at he
  have := index_inj (h.lt_of_active hj) (by omega) he
  omega

lemma RingWf.push {c : Chan H} (h : RingWf c) (hlt : c.bdUsed < MAX_BD_SIZE) (bd : DmaBd) : RingWf (c.push bd) := by
  have hnn := h.nonneg
  refine ⟨?_,?_,h.rd,?_⟩
  · show 0 ≤ c.bdUsed + 1
    omega
  · show c.bdUsed + 1 ≤ MAX_BD_SIZE
    omega
  · show (c.bdWr + 1) % MAX_BD_SIZE = (c.bdRd + (c.bdUsed + 1).toNat) % MAX_BD_SIZE
    have hn : (c.bdUsed + 1).toNat = c.bdUsed.toNat + 1 := by omega
    rw [h.wr,hn,Nat.mod_add_mod,Nat.add_assoc]

lemma RingWf.queue_push {c : Chan H} (h : RingWf c) (hlt : c.bdUsed < MAX_BD_SIZE) (bd : DmaBd) :
  (c.push bd).queue = c.queue ++ [bd.buffer] := by
  have hnn := h.nonneg
  have hn : (c.bdUsed + 1).toNat = c.bdUsed.toNat + 1 := by omega
  show slots MAX_BD_SIZE (fun i => ((Function.update c.bdRing c.bdWr bd) i).buffer) c.bdRd (c.bdUsed + 1).toNat = _
  rw [hn,h.wr,Chan.queue,← slots_push _ c.bdRd (by omega)]
  congr 1
  funext i
  exact apply_update (fun _ => DmaBd.buffer) c.bdRing _ bd i

lemma ChanOk.push {c : Chan H} (h : ChanOk c) (hlt : c.bdUsed < MAX_BD_SIZE) {bd : DmaBd}
  (hbd : bd.state.busy = false) : ChanOk (c.push bd) := by
  have hnn := h.nonneg
  refine ⟨h.toRingWf.push hlt bd,h.lock,h.info,fun _ => ?_,fun j hj hb => ?_⟩
  · show 0 < c.bdUsed + 1
    omega
  · replace hj : j < (c.bdUsed + 1).toNat := hj
    by_cases hje : j = c.bdUsed.toNat
    · replace hb : ((Function.update c.bdRing c.bdWr bd) ((c.bdRd + j) % MAX_BD_SIZE)).state.busy := hb
      rw [hje,h.wr,update_self,hbd] at hb
      cases hb
    · have hlt' : j < c.bdUsed.toNat := by omega
      have hsame := h.toRingWf.push_of_lt hlt bd hlt'
      exact h.busy j hlt' ((congrArg (fun bd => bd.state.busy) hsame :).symm.trans hb)

/-! ### Configuration calls append -/

def bufQueue (mode : DmaMode) : List RequestBuf → List Buffer
  | [] => []
  | b :: bs => ⟨bs.isEmpty, mode, b.numOfBytes, b.srcAddr, b.dstAddr⟩ :: bufQueue mode bs

def sgQueue (info : DmaInfo) (mode : DmaMode) (realBytes : ℤ) : List Scatter → ℤ → List Buffer
  | [], _ => []
  | sg :: sgs, totalBytes =>
    if realBytes ≤ 0 ∨ 0 < totalBytes then
      let left := sgLeft realBytes totalBytes sg
      (sgBd info mode (sgs.isEmpty || decide (0 < realBytes ∧ left = 0)) (sgCount realBytes totalBytes sg) sg).buffer ::
        sgQueue info mode realBytes sgs left
    else []

variable [Dmac H]

omit [Dmac H] in
lemma masked_returns {body : View H → Option (View H)} {v : View H}
  (h : ∃ w, body (v.onShared (maskDmaInterrupt v.channel)) = some w) : ∃ v', masked body v = some v' := by
  obtain ⟨w,hw⟩ := h
  exact ⟨_,by rw [masked,hw]; rfl⟩

lemma recheck_returns {v : View H} (hinfo : v.dmaInfo.isSome) : ∃ v', recheck v = some v' := by
  apply masked_returns
  unfold chainSecond
  split
  · rename_i hc
    split
    · split
      · exact setupDmac_returns hinfo fun _ _ => hc.1
      · exact ⟨_,rfl⟩
    · exact ⟨_,rfl⟩
  · exact ⟨_,rfl⟩

lemma recheckSg_returns {v : View H} (hinfo : v.dmaInfo.isSome) : ∃ v', recheckSg v = some v' := by
  apply masked_returns
  unfold chainSecondSg
  split
  · rename_i hc
    split
    · split
      · split
        · exact setupDmac_returns hinfo fun _ _ => hc.1
        · exact ⟨_,rfl⟩
      · exact ⟨_,rfl⟩
    · exact ⟨_,rfl⟩
  · exact ⟨_,rfl⟩

omit [Dmac H] in
lemma pushCheck_spec {check : View H → Option (View H)} (hret : ∀ w, w.dmaInfo.isSome → ∃ w', check w = some w')
  (honly : ∀ w w', check w = some w' → OnlyTransfer w w') {v : View H} (hok : ChanOk v.toChan)
  (hlt : v.bdUsed < MAX_BD_SIZE) {bd : DmaBd} (hbd : bd.state.busy = false) :
  ∃ v', thenCheck check (v.onChan (Chan.push bd)) = some v' ∧ ChanOk v'.toChan ∧
    v'.queue = v.queue ++ [bd.buffer] ∧ v'.bdUsed = v.bdUsed + 1 ∧ v'.dmaInfo = v.dmaInfo := by
  have hok' := hok.push hlt hbd
  obtain ⟨v',e⟩ : ∃ v', thenCheck check (v.onChan (Chan.push bd)) = some v' := by
    unfold thenCheck
    split
    · exact ⟨_,rfl⟩
    · exact hret _ hok.info
  have h := thenCheck_only honly e
  exact ⟨v',e,h.ok hok',h.queue.trans (hok.toRingWf.queue_push hlt bd),h.bdUsed,h.dmaInfo⟩

lemma fillBds_spec (mode : DmaMode) : ∀ (bs : List RequestBuf) (v : View H), ChanOk v.toChan →
  v.bdUsed + bs.length ≤ MAX_BD_SIZE →
  ∃ v', fillBds mode bs v = some v' ∧ ChanOk v'.toChan ∧ v'.queue = v.queue ++ bufQueue mode bs
  | [], v, hok, _ => ⟨v, rfl, hok, (append_nil _).symm⟩
  | b :: bs, v, hok, hroom => by
    rw [length_cons,Nat.cast_add,Nat.cast_one] at hroom
    have hbd : (bufBd mode bs.isEmpty b).state.busy = false := rfl
    obtain ⟨v1,e1,hok1,hq1,hu1,-⟩ := pushCheck_spec (fun _ => recheck_returns) (fun _ _ => recheck_only) hok
      (by omega) hbd
    obtain ⟨v2,e2,hok2,hq2⟩ := fillBds_spec mode bs v1 hok1 (by omega)
    refine ⟨v2,?_,hok2,?_⟩
    · simp only [fillBds,e1,bind_eq_bind,bind_some,e2]
    · rw [hq2,hq1,List.append_assoc]
      rfl

lemma fillSg_spec {info : DmaInfo} (mode : DmaMode) (realBytes : ℤ) : ∀ (sgs : List Scatter) (total : ℤ) (v : View H),
  ChanOk v.toChan → v.dmaInfo = some info → v.bdUsed + sgs.length ≤ MAX_BD_SIZE →
  ∃ v', fillSg mode realBytes sgs total v = some v' ∧ ChanOk v'.toChan ∧
    v'.queue = v.queue ++ sgQueue info mode realBytes sgs total
  | [], _, v, hok, _, _ => ⟨v, rfl, hok, (append_nil _).symm⟩
  | sg :: sgs, total, v, hok, hinfo, hroom => by
    rw [length_cons,Nat.cast_add,Nat.cast_one] at hroom
    unfold fillSg sgQueue
    split
    · simp only [hinfo,bind_eq_bind,bind_some]
      generalize hbd : sgBd info mode _ _ sg = bd
      have hbusy : bd.state.busy = false := by
        rw [← hbd]
        cases mode <;> rfl
      obtain ⟨v1,e1,hok1,hq1,hu1,hi1⟩ := pushCheck_spec (fun _ => recheckSg_returns) (fun _ _ => recheckSg_only)
        hok (by omega) hbusy
      obtain ⟨v2,e2,hok2,hq2⟩ := fillSg_spec mode realBytes sgs (sgLeft realBytes total sg) v1 hok1
        (hi1.trans hinfo) (by omega)
      refine ⟨v2,?_,hok2,?_⟩
      · rw [e1,bind_some,e2]
      · rw [hq2,hq1,List.append_assoc]
        rfl
    · exact ⟨v,rfl,hok,(append_nil _).symm⟩

/-! ### Interrupts take from the front -/

def dropRequest : List Buffer → List Buffer
  | [] => []
  | b :: q => if b.last then q else dropRequest q

def taken (error : Outcome) : List Buffer → List Buffer
  | [] => []
  | b :: q => if error = .done ∨ b.last then q else []

omit [Dmac H] in
lemma dropBds_rest (p : ℕ) : ∀ (n : ℕ) (c : Chan H), (c.bdRing p).state.last = false → c.bdUsed = n →
  c.bdRd < MAX_BD_SIZE →
  ∃ ring, dropBds p n c = { c with bdRing := ring, bdRd := (c.bdRd + n) % MAX_BD_SIZE, bdUsed := 0 }
  | 0, c, _, hn, hrd => by
    refine ⟨c.bdRing,?_⟩
    have hz : c.bdUsed = 0 := hn
    rw [show (c.bdRd + 0) % MAX_BD_SIZE = c.bdRd from Nat.mod_eq_of_lt hrd,← hz]
    rfl
  | n + 1, c, hlast, hn, hrd => by
    obtain ⟨ring,e⟩ := dropBds_rest p n (c.pop.setState p ⟨false, false, false⟩) (by simp [Chan.setState])
      (by show c.bdUsed - 1 = n; omega) (Nat.mod_lt _ (by decide))
    refine ⟨ring,?_⟩
    rw [dropBds,if_pos (by omega),hlast,if_neg (by simp),e]
    simp only [Chan.setState,Chan.pop,Nat.mod_add_mod,Nat.add_assoc,Nat.add_comm 1 n]

omit [Dmac H] in
lemma takeBds_spec (error : Outcome) {c : Chan H} (h : ChanOk c) (hact : c.active) :
  ∃ c', (takeBds error c).2 = c' ∧ RingWf c' ∧ c'.queue = taken error c.queue ∧
    (∃ ring rd used, c' = { c with bdRing := ring, bdRd := rd, bdUsed := used }) ∧
    ∀ j < c'.bdUsed.toNat, (c'.bdRing ((c'.bdRd + j) % MAX_BD_SIZE)).state.busy → c.dmaChaining := by
  have hpos := h.active hact
  have hle := h.le
  have hn : c.bdUsed.toNat = (c.bdUsed - 1).toNat + 1 := by omega
  have hbusy : ∀ j < (c.bdUsed - 1).toNat,
      (c.bdRing (((c.bdRd + 1) % MAX_BD_SIZE + j) % MAX_BD_SIZE)).state.busy → c.dmaChaining := by
    intro j hj hb
    rw [Nat.mod_add_mod,Nat.add_assoc] at hb
    exact (h.busy (1 + j) (by omega) hb).2.resolve_left (by omega)
  have hwf : ∀ i st, RingWf (c.pop.setState i st) := fun i st =>
    ⟨by show 0 ≤ c.bdUsed - 1; omega, by show c.bdUsed - 1 ≤ MAX_BD_SIZE; omega, Nat.mod_lt _ (by decide), h.pop hpos⟩
  unfold takeBds
  rw [h.queue_cons hpos,taken]
  by_cases he : error = .done
  · rw [if_neg (not_not.mpr he),if_pos (Or.inl he)]
    exact ⟨_,rfl,⟨(hwf 0 ⟨false,false,false⟩).nonneg,(hwf 0 ⟨false,false,false⟩).le,Nat.mod_lt _ (by decide),
      h.pop hpos⟩, rfl, ⟨_, _, _, rfl⟩, hbusy⟩
  rw [if_pos he]
  dsimp only
  rw [hn,dropBds,if_pos hpos]
  by_cases hl : (c.bdRing c.bdRd).state.last
  · have hb : (c.bdRing c.bdRd).buffer.last = true := hl
    rw [if_pos hl,if_pos (Or.inr hb)]
    refine ⟨_,rfl,hwf _ _,?_,⟨_,_,_,rfl⟩,fun j hj hb => ?_⟩
    · refine slots_congr fun j hj => ?_
      exact congrArg DmaBd.buffer (Chan.setState_of_ne (h.index_ne hj) _ c.pop)
    · have hsame := Chan.setState_of_ne (h.index_ne hj) ⟨false, false, false⟩ c.pop
      exact hbusy j hj ((congrArg (fun bd => bd.state.busy) hsame :).symm.trans hb)
  · -- the loop looks at the cleared descriptor again and again
    have hb : ¬ (c.bdRing c.bdRd).buffer.last = true := hl
    rw [if_neg hl, if_neg (not_or.mpr ⟨he, hb⟩)]
    obtain ⟨ring,e⟩ := dropBds_rest c.bdRd (c.bdUsed - 1).toNat (c.pop.setState c.bdRd ⟨false, false, false⟩)
      (by simp [Chan.setState]) (by show c.bdUsed - 1 = (c.bdUsed - 1).toNat; omega) (Nat.mod_lt _ (by decide))
    rw [e]
    refine ⟨_,rfl,⟨le_refl _,Int.natCast_nonneg _,Nat.mod_lt _ (by decide),?_⟩,rfl,⟨_,_,_,rfl⟩,by simp⟩
    show c.bdWr = ((((c.bdRd + 1) % MAX_BD_SIZE + (c.bdUsed - 1).toNat) % MAX_BD_SIZE) + 0) % MAX_BD_SIZE
    rw [Nat.add_zero,Nat.mod_mod]
    exact h.pop hpos

lemma consume_spec (error : Outcome) {v : View H} (hok : ChanOk v.toChan) (hact : v.active) :
  ∃ notify v', consumeDmaBd error v = some (notify, v') ∧ ChanOk v'.toChan ∧ v'.queue = taken error v.queue := by
  obtain ⟨c',e,hwf,hq,⟨ring,rd,used,hc⟩,hbusy⟩ := takeBds_spec error hok hact
  unfold consumeDmaBd
  dsimp only
  rw [e]
  split
  · rename_i hle
    have hz : c'.bdUsed.toNat = 0 := by omega
    refine ⟨_,_,rfl,?_,hq⟩
    subst hc
    exact ⟨⟨hwf.nonneg,hwf.le,hwf.rd,hwf.wr⟩,hok.lock,hok.info,fun h => absurd h (by simp),
      fun j hj => absurd hj (by rw [hz]; omega)⟩
  · rename_i hpos
    obtain ⟨w,hw⟩ : ∃ w : View H, w = { v with toChan := c' } := ⟨_,rfl⟩
    have hok' : ChanOk w.toChan := by
      rw [hw]
      subst hc
      exact ⟨hwf,hok.lock,hok.info,fun _ => Int.not_le.mp hpos,fun j hj hb => ⟨hact,Or.inr (hbusy j hj hb)⟩⟩
    have hch : w.dmaChaining = v.dmaChaining := by rw [hw,hc]
    have hq' : w.queue = taken error v.queue := by rw [hw]; exact hq
    rw [← hw]
    obtain ⟨v',ev⟩ := setupDmac_returns (v := w) hok'.info fun hu hb =>
      hch.trans (hbusy 0 (by rw [hw] at hu; omega) (by rw [hwf.index_zero]; rw [hw] at hb; exact hb))
    refine ⟨_,v',by rw [ev]; rfl,?_⟩
    have hact' : w.active := by rw [hw,hc]; exact hact
    rcases setupDmac_cases ev with ⟨hn,-⟩ | ⟨-,hle,-⟩ | ⟨-,-,h⟩
    · exact absurd hact' hn
    · rw [hw] at hle
      exact absurd hle hpos
    · exact ⟨h.ok hok',h.queue.trans hq'⟩

lemma handler_spec {v : View H} (hok : ChanOk v.toChan) (hact : v.active) :
  ∃ cb v', dmaIrqHandler v = some (cb, v') ∧ ChanOk v'.toChan ∧
    v'.queue = taken (outcome (getDmaInterrupt (Dmac.events v.regs))) v.queue := by
  obtain ⟨w,hw⟩ : ∃ w : View H, w = { onRegs Dmac.clear v with
    transBytes := v.transBytes + Dmac.readl .transferd (Dmac.clear v.regs) } := ⟨_,rfl⟩
  have hok' : ChanOk w.toChan := by
    rw [hw]
    exact ⟨⟨hok.nonneg,hok.le,hok.rd,hok.wr⟩,hok.lock,hok.info,hok.active,hok.busy⟩
  obtain ⟨notify,v',e,hok1,hq⟩ := consume_spec (outcome (getDmaInterrupt (Dmac.events v.regs))) hok'
    (by rw [hw]; exact hact)
  have hq' : v'.queue = taken (outcome (getDmaInterrupt (Dmac.events v.regs))) v.queue := by
    rw [hq,hw]
    rfl
  unfold dmaIrqHandler
  have e' := hw ▸ e
  simp only [onRegs] at e' ⊢
  simp only [e',bind_eq_bind,bind_some]
  split
  · exact ⟨_,_,rfl,⟨⟨hok1.nonneg,hok1.le,hok1.rd,hok1.wr⟩,hok1.lock,hok1.info,hok1.active,hok1.busy⟩,hq'⟩
  · exact ⟨_,_,rfl,hok1,hq'⟩

/-! ### The calls on a channel -/

lemma config_spec (buf : List RequestBuf) (mode : DmaMode) {v : View H} (hok : ChanOk v.toChan) :
  ∃ r v', config buf mode v = some (r, v') ∧ ChanOk v'.toChan ∧
    v'.queue = if r = 0 then v.queue ++ bufQueue mode buf else v.queue := by
  unfold config configured fillDmaBd
  rw [if_neg (not_not.mpr hok.lock)]
  split
  · exact ⟨_,_,rfl,hok,by rw [if_neg (by decide)]⟩
  · split
    · exact ⟨_,_,rfl,hok,by rw [if_neg (by decide)]⟩
    · obtain ⟨v',e,hok',hq⟩ := fillBds_spec mode buf v hok (by omega)
      exact ⟨0,v',by rw [e]; rfl,hok',by rw [if_pos rfl,hq]⟩

lemma sgConfig_spec (sg : List Scatter) (numOfBytes : ℤ) (mode : DmaMode) {v : View H} (hok : ChanOk v.toChan)
  {info : DmaInfo} (hinfo : v.dmaInfo = some info) :
  ∃ r v', sgConfig sg numOfBytes mode v = some (r, v') ∧ ChanOk v'.toChan ∧
    v'.queue = if r = 0 then v.queue ++ sgQueue info mode numOfBytes sg numOfBytes else v.queue := by
  unfold sgConfig configured fillDmaBdBySg
  rw [if_neg (not_not.mpr hok.lock)]
  split
  · exact ⟨_,_,rfl,hok,by rw [if_neg (by decide)]⟩
  · split
    · exact ⟨_,_,rfl,hok,by rw [if_neg (by decide)]⟩
    · obtain ⟨v',e,hok',hq⟩ := fillSg_spec mode numOfBytes sg numOfBytes v hok hinfo (by omega)
      exact ⟨0,v',by rw [e]; rfl,hok',by rw [if_pos rfl,hq]⟩

lemma enable_spec {v : View H} (hok : ChanOk v.toChan) :
  ∃ r v', enable v = some (r, v') ∧ ChanOk v'.toChan ∧ v'.queue = v.queue := by
  unfold enable
  rw [if_neg (not_not.mpr hok.lock)]
  split
  · exact ⟨_,_,rfl,hok,rfl⟩
  · rename_i hact
    have hidle : ∀ j < v.bdUsed.toNat, ¬ (v.bdRing ((v.bdRd + j) % MAX_BD_SIZE)).state.busy :=
      fun j hj hb => hact (hok.busy j hj hb).1
    simp only [bind_eq_bind]
    generalize hw : (onRegs Dmac.clear _ : View H) = w
    have hc : w.toChan = { v.toChan with active := true, transBytes := 0, regs := w.regs } := by rw [← hw]; rfl
    have hq : w.queue = v.queue := by rw [hc]; rfl
    obtain ⟨v',e⟩ := setupDmac_returns (v := w) (by rw [hc]; exact hok.info) fun hu hb => by
      rw [hc] at hu hb
      refine absurd hb ?_
      have := hidle 0 (by simp only at hu; omega)
      rwa [hok.index_zero] at this
    refine ⟨0,v'.onShared disableDmaClk,by rw [e,bind_some],?_⟩
    rcases setupDmac_cases e with ⟨hn,-⟩ | ⟨-,hle,rfl⟩ | ⟨-,hpos,h⟩
    · rw [hc] at hn
      exact absurd rfl hn
    · refine ⟨?_,hq⟩
      have hz : v.bdUsed.toNat = 0 := by rw [hc] at hle; simp only at hle; omega
      show ChanOk { w.toChan with active := false }
      rw [hc]
      exact ⟨⟨hok.nonneg,hok.le,hok.rd,hok.wr⟩,hok.lock,hok.info,fun h => absurd h (by simp),
        fun j hj => absurd hj (by simp only [hz]; omega)⟩
    · refine ⟨h.ok ?_,h.queue.trans hq⟩
      rw [hc] at hpos ⊢
      exact ⟨⟨hok.nonneg,hok.le,hok.rd,hok.wr⟩,hok.lock,hok.info,fun _ => hpos,
        fun j hj hb => absurd hb (hidle j hj)⟩

lemma disable_spec {v : View H} (hok : ChanOk v.toChan) : ChanOk (disable v).2.toChan ∧
  (disable v).2.queue = if (disable v).1 = 0 then [] else v.queue := by
  unfold disable
  rw [if_neg (not_not.mpr hok.lock)]
  split
  · exact ⟨hok,(if_neg (show ¬ -EINVAL = 0 by decide)).symm⟩
  · refine ⟨⟨⟨le_refl _,Int.natCast_nonneg _,?_,?_⟩,hok.lock,hok.info,
      fun h => absurd h Bool.false_ne_true,?_⟩,rfl⟩
    · show v.bdWr < MAX_BD_SIZE
      rw [hok.wr]
      exact Nat.mod_lt _ (by decide)
    · show v.bdWr = (v.bdWr + 0) % MAX_BD_SIZE
      rw [hok.wr,Nat.add_zero,Nat.mod_mod]
    · intro j hj
      exact absurd hj (Nat.not_lt_zero j)

end Mx27.Dma
