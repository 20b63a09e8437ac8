/-
# Runs of calls on a channel
-/
import Mx27Drivers.Dma.Queue

namespace Mx27.Dma

open Option

variable {H : Type}

lemma chanOf_val (i : Fin MXC_DMA_CHANNELS) : chanOf (i.val : ℤ) = some i := by
  have hi := i.isLt
  unfold chanOf
  rw [dif_pos (by omega)]
  simp

lemma onChannel_val (i : Fin MXC_DMA_CHANNELS) (call : View H → Option (ℤ × View H)) (d : Driver H) :
  onChannel i.val call d = (call (d.view i)).map fun r => (r.1, d.put i r.2) := by
  unfold onChannel
  rw [chanOf_val]

variable [Dmac H]

/-! ### A requested channel -/

structure SameRing (v v' : View H) : Prop where
  active : v'.active = v.active
  lock : v'.lock = v.lock
  bdRd : v'.bdRd = v.bdRd
  bdWr : v'.bdWr = v.bdWr
  bdUsed : v'.bdUsed = v.bdUsed

lemma setupDmaChannel_same (info : DmaInfo) (v : View H) : SameRing v (setupDmaChannel info v).2 := by
  unfold setupDmaChannel
  split
  · exact ⟨rfl,rfl,rfl,rfl,rfl⟩
  · exact ⟨rfl,rfl,rfl,rfl,rfl⟩

lemma initDmaChannel_same (info : DmaInfo) (irq : ℕ) (v : View H) : SameRing v (initDmaChannel info irq v).2 := by
  unfold initDmaChannel
  split
  · exact ⟨rfl,rfl,rfl,rfl,rfl⟩
  · dsimp only
    generalize hw : (onRegs (Dmac.writel 0 .ctl) _ : View H) = w
    have h := setupDmaChannel_same info w
    have hwv : SameRing v w := by
      rw [← hw]
      exact ⟨rfl,rfl,rfl,rfl,rfl⟩
    have h' : SameRing v (setupDmaChannel info w).2 := ⟨h.active.trans hwv.active,h.lock.trans hwv.lock,
      h.bdRd.trans hwv.bdRd,h.bdWr.trans hwv.bdWr,h.bdUsed.trans hwv.bdUsed⟩
    split
    · exact ⟨h'.active,h'.lock,h'.bdRd,h'.bdWr,h'.bdUsed⟩
    · exact ⟨h'.active,h'.lock,h'.bdRd,h'.bdWr,h'.bdUsed⟩

lemma initDmaChannel_fst (info : DmaInfo) (irq : ℕ) (v : View H) : (initDmaChannel info irq v).1 = -irq := by
  unfold initDmaChannel
  split
  · rfl
  · rename_i h
    rw [not_not.mp h]
    rfl

lemma requestOn_ok (info : DmaInfo) {v : View H} (hlock : v.lock) :
  (requestOn info 0 v).1 = 0 ∧ ChanOk (requestOn info 0 v).2.toChan ∧ (requestOn info 0 v).2.queue = [] := by
  unfold requestOn
  dsimp only
  generalize hw : (View.onChan Chan.initDmaBd _ : View H) = w
  have h := initDmaChannel_same info 0 w
  have hz : (initDmaChannel info 0 w).1 = 0 := initDmaChannel_fst info 0 w
  have hused : (initDmaChannel info 0 w).2.bdUsed = 0 := h.bdUsed.trans (by rw [← hw]; rfl)
  have hrd : (initDmaChannel info 0 w).2.bdRd = 0 := h.bdRd.trans (by rw [← hw]; rfl)
  have hwr : (initDmaChannel info 0 w).2.bdWr = 0 := h.bdWr.trans (by rw [← hw]; rfl)
  have hact : (initDmaChannel info 0 w).2.active = false := h.active.trans (by rw [← hw]; rfl)
  have hl : (initDmaChannel info 0 w).2.lock = true := h.lock.trans (by rw [← hw]; exact hlock)
  rw [if_pos hz]
  refine ⟨rfl,⟨⟨?_,?_,?_,?_⟩,hl,rfl,?_,?_⟩,?_⟩
  · show 0 ≤ (initDmaChannel info 0 w).2.bdUsed
    rw [hused]
  · show (initDmaChannel info 0 w).2.bdUsed ≤ MAX_BD_SIZE
    rw [hused]
    exact Int.natCast_nonneg _
  · show (initDmaChannel info 0 w).2.bdRd < MAX_BD_SIZE
    rw [hrd]
    decide
  · show (initDmaChannel info 0 w).2.bdWr = ((initDmaChannel info 0 w).2.bdRd +
      (initDmaChannel info 0 w).2.bdUsed.toNat) % MAX_BD_SIZE
    rw [hused,hrd,hwr]
    rfl
  · intro h
    rw [show (initDmaChannel info 0 w).2.active = true from h] at hact
    cases hact
  · intro j hj
    rw [show (initDmaChannel info 0 w).2.bdUsed = 0 from hused] at hj
    exact absurd hj (Nat.not_lt_zero j)
  · show Ring.slots _ _ _ (initDmaChannel info 0 w).2.bdUsed.toNat = []
    rw [hused]
    rfl

variable {i : Fin MXC_DMA_CHANNELS} {d d' : Driver H}

lemma request_eq {info : DmaInfo} {irq : ℕ}
  (h : mxcDmaRequest (some info) irq d = some ((i.val : ℤ), d')) :
  irq = 0 ∧ d' = d.put i (requestOn info 0 { d.view i with lock := true }).2 := by
  simp only [mxcDmaRequest,map_eq_some_iff] at h
  obtain ⟨o,-,h⟩ := h
  cases o with
  | none =>
    have := congrArg Prod.fst h
    simp only [ENODEV] at this
    omega
  | some k =>
    by_cases hirq : irq = 0
    · subst hirq
      obtain ⟨hz,-⟩ := requestOn_ok info (v := { d.view k with lock := true }) rfl
      simp only [hz,if_true,Prod.mk.injEq,Nat.cast_inj] at h
      obtain ⟨hk,rfl⟩ := h
      obtain rfl : k = i := Fin.ext hk
      exact ⟨rfl,rfl⟩
    · have hneg : ¬ -(irq : ℤ) = 0 := by omega
      have := congrArg Prod.fst h
      simp only [requestOn,initDmaChannel_fst,if_neg hneg] at this
      omega

lemma request_ok {info : DmaInfo} {irq : ℕ}
  (h : mxcDmaRequest (some info) irq d = some ((i.val : ℤ), d')) :
  ChanOk (d'.chan i) ∧ (d'.chan i).queue = [] := by
  obtain ⟨-,rfl⟩ := request_eq h
  rw [Driver.put_chan_self]
  exact (requestOn_ok info rfl).2

/-! ### Runs -/

inductive RingCall (H : Type)
  | config (dmaBuf : Option (List RequestBuf)) (mode : DmaMode)
  | sgConfig (sg : Option (List Scatter)) (numOfBytes : ℤ) (mode : DmaMode)
  | enable
  | disable
  | interrupt (regs : H)

def outcomeOf (h : H) : Outcome := outcome (getDmaInterrupt (Dmac.events h))

def completed (error : Outcome) (q : List Buffer) : List Buffer :=
  if error = .done then q.tail else dropRequest q

def RingCall.step (i : Fin MXC_DMA_CHANNELS) (s : Driver H × List Buffer) :
  RingCall H → Option (Driver H × List Buffer)
  | .config dmaBuf mode => (mxcDmaConfig i.val dmaBuf mode s.1).map fun r =>
      (r.2, if r.1 = 0 then s.2 ++ bufQueue mode (dmaBuf.getD []) else s.2)
  | .sgConfig sg numOfBytes mode => (mxcDmaSgConfig i.val sg numOfBytes mode s.1).map fun r =>
      (r.2, if r.1 = 0 then
        s.2 ++ ((s.1.chan i).dmaInfo.elim [] fun info => sgQueue info mode numOfBytes (sg.getD []) numOfBytes)
        else s.2)
  | .enable => (mxcDmaEnable i.val s.1).map fun r => (r.2, s.2)
  | .disable => (mxcDmaDisable i.val s.1).map fun r => (r.2, if r.1 = 0 then [] else s.2)
  | .interrupt h =>
    if (s.1.chan i).active then (dmaInterrupt i h s.1).map fun r => (r.2, completed (outcomeOf h) s.2) else some s

def AtRequestEnd : List Buffer → Prop
  | [] => True
  | b :: q => b.last ∨ dropRequest q = []

def RingCall.Ok (i : Fin MXC_DMA_CHANNELS) (s : Driver H × List Buffer) : RingCall H → Prop
  | .interrupt h => (s.1.chan i).active → outcomeOf h ≠ .done → AtRequestEnd s.2
  | _ => True

structure RingOk (i : Fin MXC_DMA_CHANNELS) (s : Driver H × List Buffer) : Prop where
  nonneg : 0 ≤ (s.1.chan i).bdUsed
  le : (s.1.chan i).bdUsed ≤ MAX_BD_SIZE
  wr : ((s.1.chan i).bdWr : ℤ) = ((s.1.chan i).bdRd + (s.1.chan i).bdUsed) % MAX_BD_SIZE
  holds : (s.1.chan i).queue = s.2
  busy : ∀ dmaBuf mode d', mxcDmaConfig i.val dmaBuf mode s.1 = some (-EBUSY, d') → d' = s.1
  busySg : ∀ sg n mode d', mxcDmaSgConfig i.val sg n mode s.1 = some (-EBUSY, d') → d' = s.1

omit [Dmac H] in
lemma onChannel_busy {call : View H → Option (ℤ × View H)}
  (hcall : ∀ v v', call v = some (-EBUSY, v') → v' = v) (h : onChannel i.val call d = some (-EBUSY, d')) :
  d' = d := by
  rw [onChannel_val,map_eq_some_iff] at h
  obtain ⟨⟨r,v⟩,e,h⟩ := h
  cases h
  rw [hcall _ _ e,Driver.put_view]

omit [Dmac H] in
lemma configured_busy {mode : DmaMode} {n : ℕ} {fill : View H → Option (View H)} {v v' : View H}
  (h : configured mode (fun v => if v.bdUsed + n > MAX_BD_SIZE then some (-EBUSY, v)
    else (fill v).map fun v => (0, v)) v = some (-EBUSY, v')) : v' = v := by
  unfold configured at h
  split at h
  · exact (Prod.mk.inj (Option.some.inj h)).2.symm
  · split at h
    · exact (Prod.mk.inj (Option.some.inj h)).2.symm
    · dsimp only at h
      split at h
      · exact (Prod.mk.inj (Option.some.inj h)).2.symm
      · obtain ⟨w,-,h⟩ := map_eq_some_iff.mp h
        have := (Prod.mk.inj h).1
        simp [EBUSY] at this

lemma config_busy {dmaBuf : Option (List RequestBuf)} {mode : DmaMode}
  (h : mxcDmaConfig i.val dmaBuf mode d = some (-EBUSY, d')) : d' = d := by
  unfold mxcDmaConfig at h
  split at h
  · exact (Prod.mk.inj (Option.some.inj h)).2.symm
  · exact (Prod.mk.inj (Option.some.inj h)).2.symm
  · exact onChannel_busy (fun _ _ => configured_busy) h

lemma sgConfig_busy {sg : Option (List Scatter)} {n : ℤ} {mode : DmaMode} (h : mxcDmaSgConfig i.val sg n mode d = some (-EBUSY, d')) : d' = d := by
  unfold mxcDmaSgConfig at h
  split at h
  · exact (Prod.mk.inj (Option.some.inj h)).2.symm
  · exact (Prod.mk.inj (Option.some.inj h)).2.symm
  · split at h
    · exact (Prod.mk.inj (Option.some.inj h)).2.symm
    · exact onChannel_busy (fun _ _ => configured_busy) h

lemma ringOk_iff {s : Driver H × List Buffer} (hok : ChanOk (s.1.chan i)) :
  RingOk i s ↔ (s.1.chan i).queue = s.2 := by
  refine ⟨fun h => h.holds,fun h => ⟨hok.nonneg,hok.le,?_,h,fun _ _ _ => config_busy,fun _ _ _ _ => sgConfig_busy⟩⟩
  have hnn := hok.nonneg
  rw [hok.wr]
  push_cast
  rw [Int.toNat_of_nonneg hnn]

lemma taken_eq_completed (error : Outcome) (q : List Buffer) :
  taken error q = completed error q ↔ (error ≠ .done → AtRequestEnd q) := by
  unfold completed
  cases q with
  | nil => simp [taken,dropRequest,AtRequestEnd]
  | cons b q =>
    by_cases he : error = .done
    · simp [taken,he]
    · by_cases hl : b.last
      · simp [taken,dropRequest,AtRequestEnd,he,hl]
      · simp [taken,dropRequest,AtRequestEnd,he,hl]

lemma ringCall_step (call : RingCall H) {s : Driver H × List Buffer}
  (hok : ChanOk (s.1.chan i)) : ∃ s', call.step i s = some s' ∧ ChanOk (s'.1.chan i) ∧
    ((s.1.chan i).queue = s.2 → ((s'.1.chan i).queue = s'.2 ↔ call.Ok i s)) := by
  obtain ⟨d,q⟩ := s
  have hok' : ChanOk (d.view i).toChan := hok
  match call with
  | .config none mode => exact ⟨(d, q),rfl,hok,fun h => iff_of_true h trivial⟩
  | .config (some []) mode => exact ⟨(d, q),rfl,hok,fun h => iff_of_true h trivial⟩
  | .config (some (b :: bs)) mode =>
    obtain ⟨r,v',e,hv,hq⟩ := config_spec (b :: bs) mode hok'
    refine ⟨(d.put i v',if r = 0 then q ++ bufQueue mode (b :: bs) else q),?_,?_,fun h => iff_of_true ?_ trivial⟩
    · simp only [RingCall.step,mxcDmaConfig,onChannel_val,e,map_some,getD_some]
    · rwa [Driver.put_chan_self]
    · rw [Driver.put_chan_self,hq]
      exact congrArg (fun l => if r = 0 then l ++ bufQueue mode (b :: bs) else l) h
  | .sgConfig none n mode => exact ⟨(d, q),rfl,hok,fun h => iff_of_true h trivial⟩
  | .sgConfig (some []) n mode => exact ⟨(d, q),rfl,hok,fun h => iff_of_true h trivial⟩
  | .sgConfig (some (g :: gs)) n mode =>
    by_cases hn : n < 0
    · refine ⟨(d,q),?_,hok,fun h => iff_of_true h trivial⟩
      simp only [RingCall.step,mxcDmaSgConfig,if_pos hn,map_some,EINVAL,if_neg (show ¬ (-22 : ℤ) = 0 by decide)]
    · obtain ⟨info,hinfo⟩ := isSome_iff_exists.mp hok.info
      obtain ⟨r,v',e,hv,hq⟩ := sgConfig_spec (g :: gs) n mode hok' hinfo
      refine ⟨(d.put i v',if r = 0 then q ++ sgQueue info mode n (g :: gs) n else q),?_,?_,
        fun h => iff_of_true ?_ trivial⟩
      · have hinfo' : (d.chan i).dmaInfo = some info := hinfo
        simp only [RingCall.step,mxcDmaSgConfig,if_neg hn,onChannel_val,e,map_some,getD_some,hinfo',
          elim_some]
      · rwa [Driver.put_chan_self]
      · rw [Driver.put_chan_self,hq]
        exact congrArg (fun l => if r = 0 then l ++ sgQueue info mode n (g :: gs) n else l) h
  | .enable =>
    obtain ⟨r,v',e,hv,hq⟩ := enable_spec hok'
    refine ⟨(d.put i v',q),?_,?_,fun h => iff_of_true ?_ trivial⟩
    · simp only [RingCall.step,mxcDmaEnable,onChannel_val,e,map_some]
    · rwa [Driver.put_chan_self]
    · rw [Driver.put_chan_self,hq]
      exact h
  | .disable =>
    obtain ⟨hv,hq⟩ := disable_spec hok'
    refine ⟨(d.put i (disable (d.view i)).2,if (disable (d.view i)).1 = 0 then [] else q),?_,?_,
      fun h => iff_of_true ?_ trivial⟩
    · simp only [RingCall.step,mxcDmaDisable,onChannel_val,map_some]
    · rwa [Driver.put_chan_self]
    · rw [Driver.put_chan_self,hq]
      exact congrArg (fun l => if (disable (d.view i)).1 = 0 then [] else l) h
  | .interrupt h =>
    by_cases hact : (d.chan i).active
    · have hv : ChanOk (onRegs (fun _ => h) (d.view i)).toChan :=
        ⟨⟨hok.nonneg,hok.le,hok.rd,hok.wr⟩,hok.lock,hok.info,hok.active,hok.busy⟩
      obtain ⟨cb,v',e,hv',hq⟩ := handler_spec hv hact
      refine ⟨(d.put i v',completed (outcomeOf h) q),?_,?_,fun hh => ?_⟩
      · simp only [RingCall.step,if_pos hact,dmaInterrupt,e,map_some]
      · rwa [Driver.put_chan_self]
      · rw [Driver.put_chan_self,hq]
        have hq0 : (onRegs (fun _ => h) (d.view i)).queue = q := hh
        rw [hq0]
        refine (taken_eq_completed (outcomeOf h) q).trans ?_
        exact ⟨fun hc _ => hc,fun hc => hc hact⟩
    · refine ⟨(d,q),?_,hok,fun hh => iff_of_true hh fun hc => absurd hc hact⟩
      simp only [RingCall.step,if_neg hact]

/-- **When the ring holds the buffers not completed.** -/
theorem ring_run {info : DmaInfo} {irq : ℕ} {d₀ d : Driver H} {i : Fin MXC_DMA_CHANNELS}
  (hreq : mxcDmaRequest (some info) irq d₀ = some ((i.val : ℤ), d)) (calls : List (RingCall H)) :
  (∃ s, calls.foldlM (RingCall.step i) (d, []) = some s) ∧
  (Run.AllStates (RingCall.step i) (RingOk i) (d, []) calls ↔
    Run.AllSteps (RingCall.step i) (RingCall.Ok i) (d, []) calls) := by
  obtain ⟨hok,hq⟩ := request_ok hreq
  constructor
  · obtain ⟨s,e,-⟩ := Run.foldlM_total (fun _ s => ChanOk (s.1.chan i))
      (fun call _ s h => (ringCall_step call h).imp fun _ h => ⟨h.1,h.2.1⟩) calls (d, []) hok
    exact ⟨s,e⟩
  · refine Run.allStates_iff (J := fun s => ChanOk (s.1.chan i)) (fun call s hJ hI => ?_) hok ((ringOk_iff hok).mpr hq)
    obtain ⟨s',e,hJ',hiff⟩ := ringCall_step call hJ
    exact ⟨s',e,hJ',(ringOk_iff hJ').trans (hiff hI.holds)⟩

def errorRegs : Regs := { zeroRegs with events := ⟨false, false, false, true, false⟩ }

/-- An error in a request of one buffer leaves the request behind it. -/
theorem ring_run_error : ∃ d, mxcDmaRequest (some hwChainingDmaInfo) 0 freshDriver = some (0, d) ∧
  Run.AllStates (RingCall.step 0) (RingOk 0) (d, [])
    [.config (some [⟨0x1000, 0x2000, 16⟩]) .read, .config (some [⟨0x3000, 0x4000, 32⟩]) .read, .enable,
      .interrupt errorRegs] := by
  obtain ⟨d,hd⟩ : ∃ d, mxcDmaRequest (some hwChainingDmaInfo) 0 freshDriver = some (0, d) := ⟨_,rfl⟩
  refine ⟨d,hd,(ring_run (i := 0) hd _).2.mpr ?_⟩
  cases hd
  refine ⟨trivial,fun s1 e1 => ⟨trivial,fun s2 e2 => ⟨trivial,fun s3 e3 => ⟨fun _ _ => ?_,fun _ _ => trivial⟩⟩⟩⟩
  cases e1
  cases e2
  cases e3
  exact Or.inl rfl

/-- An error in the first of two buffers of a request. -/
theorem ring_loses_request : ∃ d s, mxcDmaRequest (some hwChainingDmaInfo) 0 freshDriver = some (0, d) ∧
  [RingCall.config (some [⟨0x1000, 0x2000, 16⟩, ⟨0x1010, 0x2010, 16⟩]) .read,
    .config (some [⟨0x3000, 0x4000, 32⟩]) .read, .enable, .interrupt errorRegs].foldlM (RingCall.step 0) (d, []) =
    some s ∧
  s.2 = [⟨true, .read, 32, 0x3000, 0x4000⟩] ∧ (s.1.chan 0).queue = [] ∧ ¬ RingOk 0 s := by
  refine ⟨_,_,rfl,rfl,rfl,rfl,fun h => ?_⟩
  have := h.holds
  cases this

end Mx27.Dma
