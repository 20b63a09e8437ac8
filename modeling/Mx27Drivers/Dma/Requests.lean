/-
# Requests on a channel

What an error takes from the ring, and what a scatterlist puts there.
-/
import Mx27Drivers.Dma.ClockRefs

namespace Mx27.Dma

open List Option

variable {H : Type}

/-! ### A transfer that fails -/

def IsRequest (r : List Buffer) : Prop := ∃ init b, r = init ++ [b] ∧ b.last = true ∧ ∀ a ∈ init, a.last = false

lemma dropBds_of_ne {p i : ℕ} (hi : i ≠ p) : ∀ (n : ℕ) (c : Chan H), (dropBds p n c).bdRing i = c.bdRing i
  | 0, c => rfl
  | n + 1, c => by
    have hset := Chan.setState_of_ne hi ⟨false, false, false⟩ c.pop
    rw [dropBds]
    split
    · split
      · exact hset
      · exact (dropBds_of_ne hi n _).trans hset
    · rfl

lemma getElem?_queue {c : Chan H} {j : ℕ} {b : Buffer} (h : c.queue[j]? = some b) :
  j < c.bdUsed.toNat ∧ (c.bdRing ((c.bdRd + j) % MAX_BD_SIZE)).buffer = b := by
  obtain ⟨hj,hb⟩ := List.getElem?_eq_some_iff.mp h
  rw [length_queue] at hj
  refine ⟨hj,?_⟩
  simpa [Chan.queue,Ring.slots] using hb

variable [Dmac H]

lemma consume_notify {error : Outcome} {v v' : View H} {notify : Bool} (he : error ≠ .done)
  (h : consumeDmaBd error v = some (notify, v')) : notify = true := by
  have hfst : (takeBds error v.toChan).1 = true := by rw [takeBds,if_pos he]
  unfold consumeDmaBd at h
  dsimp only at h
  split at h
  · exact (Prod.mk.inj (Option.some.inj h)).1.symm.trans hfst
  · obtain ⟨w,-,h⟩ := map_eq_some_iff.mp h
    exact (Prod.mk.inj h).1.symm.trans hfst

/-- **An error drops exactly one request** if the failing descriptor is its last. -/
theorem error_drops_iff {error : Outcome} (he : error ≠ .done) {v : View H} (hok : ChanOk v.toChan) (hact : v.active)
  {r rest : List Buffer} (hr : IsRequest r) (hring : v.queue = r ++ rest) :
  ∃ v', consumeDmaBd error v = some (true, v') ∧
    (v'.queue = rest ∧ (∀ j < r.length, ((takeBds error v.toChan).2.bdRing ((v.bdRd + j) % MAX_BD_SIZE)).state =
      ⟨false, false, false⟩) ↔ r.length = 1) := by
  obtain ⟨notify,v',e,-,hq⟩ := consume_spec error hok hact
  obtain rfl := consume_notify he e
  refine ⟨v',e,?_⟩
  have hpos := hok.active hact
  obtain ⟨init,b,rfl,hb,hinit⟩ := hr
  have htake : (takeBds error v.toChan).2 = dropBds v.bdRd v.bdUsed.toNat v.toChan := by rw [takeBds,if_pos he]
  rw [htake]
  obtain ⟨hj,hlast⟩ := getElem?_queue (c := v.toChan) (j := init.length) (b := b) (by rw [hring]; simp)
  constructor
  · rintro ⟨-,hclear⟩
    by_contra hne
    rw [length_append,length_singleton] at hne
    -- the descriptor with the flag is another one, and keeps it
    have hother : (v.bdRd + init.length) % MAX_BD_SIZE ≠ v.bdRd := fun heq => hne (by
      have := Ring.index_inj (hok.lt_of_active hj) (by decide) (heq.trans hok.index_zero.symm)
      omega)
    have hst := hclear init.length (by simp)
    rw [dropBds_of_ne hother] at hst
    have hflag : (v.bdRing ((v.bdRd + init.length) % MAX_BD_SIZE)).state.last = true := (congrArg Buffer.last hlast).trans hb
    rw [hst] at hflag
    cases hflag
  · intro hone
    obtain rfl : init = [] := eq_nil_of_length_eq_zero (by simpa using hone)
    rw [length_nil,hok.index_zero] at hlast
    have hflag : (v.bdRing v.bdRd).state.last = true := (congrArg Buffer.last hlast).trans hb
    refine ⟨?_,fun j hj => ?_⟩
    · rw [hq,hring]
      exact if_pos (.inr hb)
    · obtain rfl : j = 0 := by simpa using hj
      rw [hok.index_zero,show v.bdUsed.toNat = (v.bdUsed.toNat - 1) + 1 by omega,dropBds,if_pos hpos,if_pos hflag]
      simp [Chan.setState,Chan.pop]

def pending (lasts : List Bool) : View Regs :=
  { freshDriver.view 0 with
    lock := true, dmaInfo := some hwChainingDmaInfo, active := true, bdUsed := lasts.length, bdWr := lasts.length
    bdRing := fun i => bufBd .read (lasts.getD i false) ⟨0x1000, 0x2000, 16⟩ }

/-- Two requests of one buffer. -/
theorem error_drops_first : ∃ v', consumeDmaBd .transferError (pending [true, true]) = some (true, v') ∧
  (v'.queue = [⟨true, .read, 16, 0x1000, 0x2000⟩] ∧ (∀ j < 1, ((takeBds .transferError (pending [true, true]).toChan).2.bdRing
    ((0 + j) % MAX_BD_SIZE)).state = ⟨false, false, false⟩) ↔ 1 = 1) :=
  error_drops_iff (v := pending [true, true]) (r := [⟨true, .read, 16, 0x1000, 0x2000⟩]) (by decide)
    ⟨⟨by decide, by decide, by decide, by decide⟩, rfl, rfl, fun _ => by decide, fun _ _ hb => Bool.noConfusion hb⟩ rfl
    ⟨[], _, rfl, rfl, by simp⟩ rfl

/-- A request of two buffers, and one behind it. -/
theorem error_empties_ring : ∃ v', consumeDmaBd .transferError (pending [false, true, true]) = some (true, v') ∧
  v'.queue = [] := ⟨_, rfl, rfl⟩

/-! ### Requesting a channel -/

lemma initDmaChannel_irqHandlers (info : DmaInfo) (irq : ℕ) (v : View H) :
  (initDmaChannel info irq v).2.irqHandlers = v.irqHandlers + if irq = 0 ∧ infoOk info then 1 else 0 := by
  unfold initDmaChannel setupDmaChannel
  by_cases hirq : irq = 0
  · cases infoOk info <;> simp [hirq,View.onShared,onRegs]
  · simp [hirq,View.onShared]

def AllOrNothing (info : Option DmaInfo) (d d' : Driver H) (ret : ℤ) : Prop :=
  (0 ≤ ret → ∃ i x, ret = (i : Fin MXC_DMA_CHANNELS).val ∧ (d'.chan i).lock = true ∧
    (d'.chan i).irqHandlers = (d.chan i).irqHandlers + 1 ∧ info = some x ∧ infoOk x = true) ∧
  (ret < 0 → ∀ i, (d'.chan i).lock = (d.chan i).lock ∧ (d'.chan i).irqHandlers = (d.chan i).irqHandlers)

/-- **A request for a channel is all or nothing** if its parameters are accepted. -/
theorem request_atomic_iff {info : Option DmaInfo} {irq : ℕ} {d d' : Driver H} {ret : ℤ}
  (h : mxcDmaRequest info irq d = some (ret, d')) :
  AllOrNothing info d d' ret ↔
    ∀ x i, info = some x → irq = 0 → getDmaChannel x.dmaChan.toInt d = some (some i) → infoOk x = true := by
  cases info with
  | none =>
    cases h
    exact iff_of_true ⟨fun h => absurd h (by decide),fun _ _ => ⟨rfl,rfl⟩⟩ fun _ _ h => by cases h
  | some x =>
    obtain ⟨o,ho,h⟩ := map_eq_some_iff.mp h
    cases o with
    | none =>
      cases h
      refine iff_of_true ⟨fun h => absurd h (by decide),fun _ _ => ⟨rfl,rfl⟩⟩ fun y i hy _ hi => ?_
      cases hy
      cases ho.symm.trans hi
    | some i =>
      obtain ⟨hret,hd⟩ := Prod.mk.inj h
      rw [requestOn] at hret hd
      generalize hw : (View.onChan Chan.initDmaBd _ : View H) = w at hret hd
      have hlock : w.lock = true := by rw [← hw]; rfl
      have hwirq : w.irqHandlers = (d.chan i).irqHandlers := by rw [← hw]; rfl
      have hfst := initDmaChannel_fst x irq w
      have hsame := (initDmaChannel_same x irq w).lock
      have hirqs := initDmaChannel_irqHandlers x irq w
      generalize initDmaChannel x irq w = r at hret hd hfst hsame hirqs
      by_cases hirq : irq = 0
      · have h0 : r.1 = 0 := by rw [hfst,hirq]; rfl
        dsimp only at hret hd
        rw [if_pos h0] at hret hd
        rw [if_pos rfl] at hret
        rw [hirq,hwirq] at hirqs
        subst hret hd
        constructor
        · rintro ⟨hget,-⟩ y j hy - -
          obtain ⟨k,z,-,-,-,hz,hzok⟩ := hget (Int.natCast_nonneg _)
          obtain rfl := Option.some.inj (hy.symm.trans hz)
          exact hzok
        · intro hokx
          have hx := hokx x i rfl hirq ho
          refine ⟨fun _ => ⟨i,x,rfl,?_,?_,rfl,hx⟩,fun hneg => absurd hneg (by omega)⟩
          · rw [Driver.put_chan_self]
            exact hsame.trans hlock
          · rw [Driver.put_chan_self]
            exact hirqs.trans (by rw [if_pos ⟨rfl,hx⟩])
      · have h0 : r.1 ≠ 0 := by omega
        dsimp only at hret hd
        rw [if_neg h0] at hret hd
        rw [if_neg h0] at hret
        subst hret hd
        refine iff_of_true ⟨fun h => absurd h (by omega),fun _ j => ?_⟩ fun _ _ _ h => absurd h hirq
        by_cases hj : j = i
        · subst hj
          rw [Driver.put_chan_self]
          exact ⟨(Bool.eq_false_of_not_eq_true (getDmaChannel_free ho)).symm,hirqs.trans (by rw [if_neg fun h => hirq h.1,hwirq]; rfl)⟩
        · rw [Driver.put_chan_of_ne _ hj]
          exact ⟨rfl,rfl⟩

/-- A request that is refused the interrupt. -/
theorem request_refused : ∃ ret d', mxcDmaRequest (some hwChainingDmaInfo) 16 freshDriver = some (ret, d') ∧
  AllOrNothing (some hwChainingDmaInfo) freshDriver d' ret := by
  refine ⟨_,_,rfl,(request_atomic_iff rfl).mpr fun x _ _ h => ?_⟩
  exact absurd h (by decide)

/-- A source type that the controller does not have. -/
theorem request_unchecked : ∃ d', mxcDmaRequest (some { hwChainingDmaInfo with sourceType := 4 }) 0 freshDriver =
  some (0, d') ∧ (d'.chan 0).irqHandlers = 0 := ⟨_, rfl, rfl⟩

/-! ### What a scatterlist puts into the ring -/

def Buffer.memAddr (b : Buffer) : BitVec 32 :=
  match b.mode with
  | .read => b.dstAddr
  | .write => b.srcAddr

omit [Dmac H]

lemma sgCount_toNat {real total : ℤ} (hreal : 0 < real) (h0 : 0 ≤ total) (hmax : total < 2 ^ 31) (sg : Scatter) :
  ((sgCount real total sg).toNat : ℤ) = min (sg.length.toNat : ℤ) total := by
  rw [sgCount,if_pos hreal]
  split
  · rw [BitVec.toNat_ofInt]
    omega
  · omega

lemma sgLeft_eq {real total : ℤ} (hreal : 0 < real) (h0 : 0 ≤ total) (hmax : total < 2 ^ 31) (sg : Scatter) :
  sgLeft real total sg = total - min (sg.length.toNat : ℤ) total := by
  rw [sgLeft,if_pos hreal,sgCount_toNat hreal h0 hmax]

section Scattered

variable (info : DmaInfo) (mode : DmaMode) (real : ℤ)

lemma sgQueue_memAddr : ∀ (sgs : List Scatter) (total : ℤ),
  (sgQueue info mode real sgs total).map Buffer.memAddr <+: sgs.map Scatter.dmaAddress
  | [], _ => nil_prefix
  | sg :: sgs, total => by
    rw [sgQueue]
    split
    · rw [map_cons,map_cons,cons_prefix_cons]
      exact ⟨by cases mode <;> rfl,sgQueue_memAddr sgs _⟩
    · exact nil_prefix

lemma sgQueue_all (hreal : ¬ 0 < real) : ∀ (sgs : List Scatter) (total : ℤ),
  (sgQueue info mode real sgs total).map Buffer.count = sgs.map Scatter.length
  | [], _ => rfl
  | sg :: sgs, total => by
    rw [sgQueue,if_pos (Or.inl (by omega)),map_cons,map_cons,sgQueue_all hreal sgs]
    refine congrArg (· :: _) ?_
    rw [sgCount,if_neg hreal]
    cases mode <;> rfl

lemma sgQueue_sum (hreal : 0 < real) : ∀ (sgs : List Scatter) (total : ℤ), 0 ≤ total → total < 2 ^ 31 →
  ((((sgQueue info mode real sgs total).map (·.count.toNat)).sum : ℕ) : ℤ) =
    min total ((sgs.map (·.length.toNat)).sum : ℕ)
  | [], total, h0, _ => by simpa [sgQueue] using h0
  | sg :: sgs, total, h0, hmax => by
    rw [sgQueue]
    have hl := sgLeft_eq hreal h0 hmax sg
    have hc : (sgBd info mode (sgs.isEmpty || decide (0 < real ∧ sgLeft real total sg = 0)) (sgCount real total sg) sg).buffer.count
        = sgCount real total sg := by cases mode <;> rfl
    have hcn := sgCount_toNat hreal h0 hmax sg
    split
    · dsimp only
      have ih := sgQueue_sum hreal sgs (sgLeft real total sg) (by omega) (by omega)
      rw [map_cons,map_cons,sum_cons,sum_cons,hc]
      omega
    · simp only [map_nil,sum_nil]
      omega

lemma sgQueue_counts (hreal : 0 < real) : ∀ (sgs : List Scatter) (total : ℤ), 0 ≤ total → total < 2 ^ 31 →
  (sgQueue info mode real sgs total).dropLast.map Buffer.count <+: sgs.map Scatter.length
  | [], _, _, _ => nil_prefix
  | sg :: sgs, total, h0, hmax => by
    rw [sgQueue]
    have hl := sgLeft_eq hreal h0 hmax sg
    split
    · have ih := sgQueue_counts hreal sgs (sgLeft real total sg) (by omega) (by omega)
      dsimp only
      cases hrest : sgQueue info mode real sgs (sgLeft real total sg) with
      | nil => exact nil_prefix
      | cons b bs =>
        rw [hrest] at ih
        rw [dropLast_cons_cons,map_cons,map_cons,cons_prefix_cons]
        refine ⟨?_,ih⟩
        -- another entry follows only if something is left
        have hleft : 0 < sgLeft real total sg := by
          by_contra hno
          cases sgs with
          | nil => cases hrest
          | cons s ss =>
            rw [sgQueue,if_neg (by omega)] at hrest
            cases hrest
        have hcount : sgCount real total sg = sg.length := by rw [sgCount,if_pos hreal,if_neg (by omega)]
        rw [hcount]
        cases mode <;> rfl
    · exact nil_prefix

lemma sgQueue_isRequest : ∀ (sgs : List Scatter) (total : ℤ), sgs ≠ [] → 0 ≤ total → total < 2 ^ 31 →
  (0 < real → 0 < total) → IsRequest (sgQueue info mode real sgs total)
  | [], _, h, _, _, _ => absurd rfl h
  | sg :: sgs, total, _, h0, hmax, hpos => by
    rw [sgQueue,if_pos (by omega)]
    dsimp only
    generalize hb : (sgBd info mode _ (sgCount real total sg) sg).buffer = b
    have hlast : b.last = (sgs.isEmpty || decide (0 < real ∧ sgLeft real total sg = 0)) := by
      rw [← hb]
      cases mode <;> rfl
    have hleft : 0 ≤ sgLeft real total sg ∧ sgLeft real total sg ≤ total := by
      by_cases hreal : 0 < real
      · have := sgLeft_eq hreal h0 hmax sg
        omega
      · rw [sgLeft,if_neg hreal]
        omega
    by_cases hend : b.last = true
    · have hnil : sgQueue info mode real sgs (sgLeft real total sg) = [] := by
        cases sgs with
        | nil => rfl
        | cons s ss =>
          have : 0 < real ∧ sgLeft real total sg = 0 := by simpa using hlast.symm.trans hend
          rw [sgQueue,if_neg (by omega)]
      exact ⟨[],b,by rw [hnil]; rfl,hend,by simp⟩
    · have hno := Bool.eq_false_of_not_eq_true hend
      obtain ⟨hne,hmore⟩ := Bool.or_eq_false_iff.mp (hlast.symm.trans hno)
      have hmore := of_decide_eq_false hmore
      obtain ⟨init,z,e,hz,hinit⟩ := sgQueue_isRequest sgs (sgLeft real total sg) (by simpa using hne) hleft.1
        (by omega) (by omega)
      refine ⟨b :: init,z,by rw [e]; rfl,hz,?_⟩
      intro a ha
      rcases mem_cons.mp ha with rfl | ha
      · exact hno
      · exact hinit a ha

end Scattered

/-- **A scatterlist is neither cut short nor sent twice**. -/
theorem sg_conserves [Dmac H] {info : DmaInfo} (mode : DmaMode) {v : View H} (hok : ChanOk v.toChan)
  (hinfo : v.dmaInfo = some info) {sg : List Scatter} (hroom : v.bdUsed + sg.length ≤ MAX_BD_SIZE)
  {numOfBytes : ℤ} (hnum : 0 ≤ numOfBytes) (hint : numOfBytes < 2 ^ 31) :
  ∃ v' bds, fillDmaBdBySg sg numOfBytes mode v = some (0, v') ∧ v'.queue = v.queue ++ bds ∧ (sg ≠ [] → IsRequest bds) ∧
    bds.map Buffer.memAddr <+: sg.map Scatter.dmaAddress ∧ bds.dropLast.map Buffer.count <+: sg.map Scatter.length ∧
    (bds.map (·.count.toNat)).sum = if 0 < numOfBytes then min numOfBytes.toNat (sg.map (·.length.toNat)).sum
      else (sg.map (·.length.toNat)).sum := by
  obtain ⟨v',e,-,hq⟩ := fillSg_spec mode numOfBytes sg numOfBytes v hok hinfo hroom
  refine ⟨v',_,by rw [fillDmaBdBySg,if_neg (by omega),e]; rfl,hq,
    fun hne => sgQueue_isRequest info mode numOfBytes sg numOfBytes hne hnum hint id,
    sgQueue_memAddr info mode numOfBytes sg numOfBytes,?_⟩
  by_cases hreal : 0 < numOfBytes
  · rw [if_pos hreal]
    have := sgQueue_sum info mode numOfBytes hreal sg numOfBytes hnum hint
    exact ⟨sgQueue_counts info mode numOfBytes hreal sg numOfBytes hnum hint,by omega⟩
  · rw [if_neg hreal]
    have hall := sgQueue_all info mode numOfBytes hreal sg numOfBytes
    refine ⟨?_,?_⟩
    · rw [← hall,map_dropLast]
      exact dropLast_prefix _
    · have := congrArg (fun l => (l.map BitVec.toNat).sum) hall
      rw [List.map_map,List.map_map] at this
      exact this

/-- Twenty bytes of two pages. -/
theorem sg_conserves_twenty : ∃ v' bds,
  fillDmaBdBySg [⟨0x1000, 16⟩, ⟨0x3000, 16⟩] 20 .read (pending [true]) = some (0, v') ∧
  v'.queue = (pending [true]).queue ++ bds ∧ (bds.map (·.count.toNat)).sum = 20 := by
  obtain ⟨v',bds,e,hq,-,-,-,hsum⟩ := sg_conserves .read (v := pending [true])
    ⟨⟨by decide,by decide,by decide,by decide⟩,rfl,rfl,fun _ => by decide,fun _ _ hb => Bool.noConfusion hb⟩ rfl
    (show 1 + (([⟨0x1000,16⟩,⟨0x3000,16⟩] : List Scatter).length : ℤ) ≤ MAX_BD_SIZE by decide)
    (show (0 : ℤ) ≤ 20 by decide) (by decide)
  exact ⟨v',bds,e,hq,hsum⟩

end Mx27.Dma
