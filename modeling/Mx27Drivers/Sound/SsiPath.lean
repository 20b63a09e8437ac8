/-
# The SSI path of a prepared stream

Opening the first stream configures the SSI, which enables the DMA requests of both directions.
-/
import Mx27Drivers.Sound.Periods

namespace Mx27.Sound

open Option Function

open Bits (Covers)

structure Ssi.Path (x : Ssi) (d : Dir) : Prop where
  enable : Covers x.scr SSI_ENABLE
  dma : Covers x.sier d.dmaEnable
  fifo : Covers x.sier d.fifoEnable
  direction : Covers x.scr d.sectionEnable

def PathOk (c : Codec) : Event → Prop
  | .opens d _ => (c.stream d).opened = false → c.ssiRef = 0 ∨ Covers c.ssi.sier d.dmaEnable
  | _ => True

instance (c : Codec) (e : Event) : Decidable (PathOk c e) :=
  match e with
  | .opens d _ => @instDecidableForall ((c.stream d).opened = false) _ _ _
  | .prepare .. | .start .. | .stop .. | .callback .. | .close .. => isTrue trivial

/-! ### Register bits -/

section Bits

variable {mask data reg g : BitVec 32} {x : Ssi}

lemma covers_keep (h : Covers reg g) (hd : g &&& mask = 0) : Covers (setRegisterBits mask data reg) g :=
  (h.clear hd).or data

lemma covers_set (mask reg g : BitVec 32) : Covers (setRegisterBits mask g reg) g := Bits.covers_or_self _ g

lemma control_sets (bit : BitVec 32) (x : Ssi) : Covers (x.control bit true).scr bit := covers_set bit x.scr bit

lemma control_keeps (h : Covers x.scr g) (bit : BitVec 32) (state : Bool) (hd : g &&& bit = 0) :
  Covers (x.control bit state).scr g := covers_keep h hd

lemma generalConfig_dma (x : Ssi) (d : Dir) : Covers x.generalConfig.sier d.dmaEnable := by
  cases d with
  | playback => exact covers_keep (covers_keep (covers_keep (covers_set _ _ _) (by decide)) (by decide)) (by decide)
  | capture => exact covers_keep (covers_set _ _ _) (by decide)

lemma generalConfig_enable (x : Ssi) : Covers x.generalConfig.scr SSI_ENABLE := control_sets SSI_ENABLE _

lemma config_sier (d : Dir) (h : Covers x.sier g) : Covers (x.config d).sier g := covers_keep h (by simp)

lemma config_fifo (d : Dir) (x : Ssi) : Covers (x.config d).sier d.fifoEnable := covers_set _ _ _

lemma config_section (d : Dir) (x : Ssi) : Covers (x.config d).scr d.sectionEnable := control_sets _ _

lemma enable_section (d : Dir) : SSI_ENABLE &&& d.sectionEnable = 0 := by cases d <;> decide

lemma section_enable (d : Dir) : d.sectionEnable &&& SSI_ENABLE = 0 := by cases d <;> decide

lemma section_other {d d' : Dir} (hd : d' ≠ d) : d'.sectionEnable &&& d.sectionEnable = 0 := by
  cases d <;> cases d' <;> first | decide | exact absurd rfl hd

lemma config_other {d d' : Dir} (hd : d' ≠ d) (h : Covers x.scr d'.sectionEnable) :
  Covers (x.config d).scr d'.sectionEnable := control_keeps h _ true (section_other hd)

lemma config_enable (d : Dir) (h : Covers x.scr SSI_ENABLE) : Covers (x.config d).scr SSI_ENABLE :=
  control_keeps h _ true (enable_section d)

lemma close_other {d d' : Dir} (hd : d' ≠ d) :
  (Covers x.sier d'.dmaEnable → Covers (x.close d).sier d'.dmaEnable) ∧
  (Covers x.sier d'.fifoEnable → Covers (x.close d).sier d'.fifoEnable) ∧
  (Covers x.scr d'.sectionEnable → Covers (x.close d).scr d'.sectionEnable) := by
  refine ⟨fun h => covers_keep (covers_keep h ?_) ?_,fun h => covers_keep (covers_keep h ?_) ?_,
    fun h => control_keeps h _ false (section_other hd)⟩
  all_goals cases d <;> cases d' <;> first | decide | exact absurd rfl hd

lemma close_enable (d : Dir) (h : Covers x.scr SSI_ENABLE) : Covers (x.close d).scr SSI_ENABLE :=
  control_keeps h _ false (enable_section d)

lemma dmaSsi_sier (d : Dir) (fault active : Bool) (x : Ssi) : (Codec.dmaSsi d fault active x).sier = x.sier := by
  unfold Codec.dmaSsi
  cases active <;> cases fault <;> rfl

lemma dmaSsi_enable (d : Dir) (fault active : Bool) (h : Covers x.scr SSI_ENABLE) :
  Covers (Codec.dmaSsi d fault active x).scr SSI_ENABLE := by
  unfold Codec.dmaSsi
  cases active with
  | false => exact h
  | true =>
    refine control_keeps ?_ _ true (enable_section d)
    cases fault with
    | false => exact h
    | true => exact control_sets SSI_ENABLE _

lemma dmaSsi_section (d d' : Dir) (fault active : Bool) (h : Covers x.scr d'.sectionEnable) :
  Covers (Codec.dmaSsi d fault active x).scr d'.sectionEnable := by
  unfold Codec.dmaSsi
  cases active with
  | false => exact h
  | true =>
    by_cases hd : d' = d
    · subst hd
      exact control_sets _ _
    · refine control_keeps ?_ _ true (section_other hd)
      cases fault with
      | false => exact h
      | true =>
        refine control_keeps (control_keeps (control_keeps h _ false ?_) _ false (section_other hd)) _ true ?_
        · exact section_enable d'
        · exact section_enable d'

end Bits

/-! ### The streams that are open -/

/-- `ssi_ref` counts the streams that are open. -/
def RefCounts (c : Codec) : Prop :=
  c.ssiRef = (if (c.stream .playback).opened then 1 else 0) + if (c.stream .capture).opened then 1 else 0

section Ref

variable {c : Codec} {d : Dir}

lemma RefCounts.pos (h : RefCounts c) (hd : (c.stream d).opened = true) : 0 < c.ssiRef := by
  rw [h]
  cases d <;> simp [hd]

lemma RefCounts.last (h : RefCounts c) (hd : (c.stream d).opened = true) (hlast : c.ssiRef - 1 = 0) {d' : Dir}
  (hne : d' ≠ d) : (c.stream d').opened = false := by
  have h : c.ssiRef = _ := h
  cases d <;> cases d' <;> simp_all

lemma close_stream_other {d' : Dir} (hd : d' ≠ d) : (c.codecClose d).stream d' = c.stream d' :=
  update_of_ne hd _ _

lemma close_stream_self (c : Codec) (d : Dir) :
  (c.codecClose d).stream d = { c.stream d with opened := false, prepared := false } := update_self ..

lemma prepare_stream (d : Dir) (rate : ℕ) (c : Codec) : (c.codecPrepare d rate).stream =
  Function.update c.stream d { c.stream d with
    prepared := true, period := 0, periods := 0, rate := adjustSpeed rate
    dma := { (c.stream d).dma with requests := [], completed := 0 } } := (streamConfig_stream d _ _).1

lemma prepare_opened (d d' : Dir) (rate : ℕ) (c : Codec) :
  ((c.codecPrepare d rate).stream d').opened = (c.stream d').opened := by
  rw [prepare_stream]
  by_cases hd : d' = d
  · subst hd
    simp
  · simp [hd]

lemma refCounts_open (ok : Bool) (h : RefCounts c) : RefCounts (c.codecOpen d ok) := by
  unfold Codec.codecOpen
  split
  · exact h
  rename_i hopen
  have hclosed : (c.stream d).opened = false := by
    cases ho : (c.stream d).opened with
    | false => rfl
    | true => simp [ho] at hopen
  show c.ssiRef + 1 = _
  rw [h]
  cases d <;> simp [hclosed] <;> omega

lemma refCounts_close (h : RefCounts c) (hopen : (c.stream d).opened = true) : RefCounts (c.codecClose d) := by
  show c.ssiRef - 1 = _
  rw [h]
  cases d with
  | playback =>
    rw [close_stream_self,close_stream_other (show Dir.capture ≠ .playback by decide),hopen]
    simp
  | capture =>
    rw [close_stream_self,close_stream_other (show Dir.playback ≠ .capture by decide),hopen]
    simp

lemma refCounts_prepare (rate : ℕ) (h : RefCounts c) : RefCounts (c.codecPrepare d rate) := by
  unfold RefCounts
  rw [prepare_opened,prepare_opened]
  exact (streamConfig_stream d _ _).2.2.trans h

lemma refCounts_set {s : Stream} (ssi : Ssi) (h : RefCounts c) (hs : s.opened = (c.stream d).opened) :
  RefCounts { c.setStream d s with ssi := ssi } := by
  show c.ssiRef = _
  rw [h]
  cases d <;> simp [Codec.setStream,hs]

end Ref

/-! ### The invariant -/

structure Routed (c : Codec) : Prop where
  ref : RefCounts c
  enable : 0 < c.ssiRef → Covers c.ssi.scr SSI_ENABLE
  dma : ∀ d, (c.stream d).opened = true → Covers c.ssi.sier d.dmaEnable
  path : ∀ d, (c.stream d).opened = true → (c.stream d).prepared = true →
    Covers c.ssi.sier d.fifoEnable ∧ Covers c.ssi.scr d.sectionEnable

section Routed

variable {c c' : Codec} {e : Event} {rt : Dir → Runtime}

lemma Routed.paths (h : Routed c) (d : Dir) (ho : (c.stream d).opened = true) (hp : (c.stream d).prepared = true) :
  c.ssi.Path d :=
  ⟨h.enable (h.ref.pos ho), h.dma d ho, (h.path d ho hp).1, (h.path d ho hp).2⟩

lemma routed_open {d : Dir} {ok : Bool} (h : Routed c)
  (hok : (c.stream d).opened = false → c.ssiRef = 0 ∨ Covers c.ssi.sier d.dmaEnable) : Routed (c.codecOpen d ok) := by
  have href := refCounts_open (d := d) ok h.ref
  unfold Codec.codecOpen at href ⊢
  split at href
  · rename_i hopen
    rw [if_pos hopen]
    exact h
  rename_i hopen
  rw [if_neg hopen]
  have hclosed : (c.stream d).opened = false := by
    cases ho : (c.stream d).opened with
    | false => rfl
    | true => simp [ho] at hopen
  have hstream : ∀ d', d' ≠ d → Function.update c.stream d { c.stream d with opened := true, prepared := false } d' =
      c.stream d' := fun d' hd => update_of_ne hd _ _
  refine ⟨href,fun _ => ?_,fun d' ho => ?_,fun d' ho hp => ?_⟩
  · show Covers (if c.ssiRef + 1 = 1 then c.ssi.generalConfig else c.ssi).scr SSI_ENABLE
    split
    · exact generalConfig_enable _
    · exact h.enable (by omega)
  · show Covers (if c.ssiRef + 1 = 1 then c.ssi.generalConfig else c.ssi).sier d'.dmaEnable
    split
    · exact generalConfig_dma _ d'
    · rename_i href
      by_cases hd : d' = d
      · subst hd
        exact (hok hclosed).resolve_left (by omega)
      · dsimp only at ho
        rw [hstream d' hd] at ho
        exact h.dma d' ho
  · -- the stream that is opened is not prepared, and the other one is not open when the SSI is configured
    dsimp only at ho hp ⊢
    by_cases hd : d' = d
    · subst hd
      rw [update_self] at hp
      cases hp
    · rw [hstream d' hd] at ho hp
      have hpos := h.ref.pos ho
      rw [if_neg (by omega)]
      exact h.path d' ho hp

lemma routed_close {d : Dir} (h : Routed c) (hopen : (c.stream d).opened = true) : Routed (c.codecClose d) := by
  have hne : ∀ d', ((c.codecClose d).stream d').opened = true → d' ≠ d := by
    rintro d' ho rfl
    rw [close_stream_self] at ho
    cases ho
  refine ⟨refCounts_close h.ref hopen,fun hpos => ?_,fun d' ho => ?_,fun d' ho hp => ?_⟩
  · have hpos : 0 < c.ssiRef - 1 := hpos
    exact close_enable d (h.enable (by omega))
  · have hd := hne d' ho
    rw [close_stream_other hd] at ho
    exact (close_other hd).1 (h.dma d' ho)
  · have hd := hne d' ho
    rw [close_stream_other hd] at ho hp
    obtain ⟨hfifo,hsection⟩ := h.path d' ho hp
    exact ⟨(close_other hd).2.1 hfifo,(close_other hd).2.2 hsection⟩

lemma routed_prepare {d : Dir} (rate : ℕ) (h : Routed c) (hopen : (c.stream d).opened = true) :
  Routed (c.codecPrepare d rate) := by
  have hssi : (c.codecPrepare d rate).ssi = c.ssi.config d := (streamConfig_stream d _ _).2.1
  refine ⟨refCounts_prepare rate h.ref,fun hpos => ?_,fun d' ho => ?_,fun d' ho hp => ?_⟩
  · rw [hssi]
    exact config_enable d (h.enable (h.ref.pos hopen))
  · rw [prepare_opened] at ho
    rw [hssi]
    exact config_sier d (h.dma d' ho)
  · rw [hssi]
    by_cases hd : d' = d
    · subst hd
      exact ⟨config_fifo d' _,config_section d' _⟩
    · rw [prepare_stream,update_of_ne hd] at ho hp
      obtain ⟨hfifo,hsection⟩ := h.path d' ho hp
      exact ⟨config_sier d hfifo,config_other hd hsection⟩

lemma routed_transfer {d : Dir} {s : Stream} (fault active : Bool) (h : Routed c)
  (hs : s.opened = (c.stream d).opened ∧ s.prepared = (c.stream d).prepared) :
  Routed { c.setStream d s with ssi := Codec.dmaSsi d fault active c.ssi } := by
  have hstream : ∀ d', ((c.setStream d s).stream d').opened = (c.stream d').opened ∧
      ((c.setStream d s).stream d').prepared = (c.stream d').prepared := by
    intro d'
    by_cases hd : d' = d
    · subst hd
      simpa [Codec.setStream] using hs
    · simp [Codec.setStream,hd]
  refine ⟨refCounts_set _ h.ref hs.1,fun hpos => dmaSsi_enable d fault active (h.enable hpos),fun d' ho => ?_,
    fun d' ho hp => ?_⟩
  · rw [(hstream d').1] at ho
    rw [dmaSsi_sier]
    exact h.dma d' ho
  · rw [(hstream d').1] at ho
    rw [(hstream d').2] at hp
    obtain ⟨hfifo,hsection⟩ := h.path d' ho hp
    rw [dmaSsi_sier]
    exact ⟨hfifo,dmaSsi_section d d' fault active hsection⟩

lemma dmaFunc_kept (rt : Runtime) (s : Stream) :
  (s.dmaFunc rt).opened = s.opened ∧ (s.dmaFunc rt).prepared = s.prepared ∧ (s.dmaFunc rt).rate = s.rate ∧
    (s.dmaFunc rt).active = s.active := by
  unfold Stream.dmaFunc
  split
  · exact ⟨rfl,rfl,rfl,rfl⟩
  · split <;> exact ⟨rfl,rfl,rfl,rfl⟩

lemma callback_kept (rt : Runtime) (stops : Bool) (s : Stream) :
  (s.audioDmaCallback rt stops).opened = s.opened ∧ (s.audioDmaCallback rt stops).prepared = s.prepared ∧
    (s.audioDmaCallback rt stops).rate = s.rate ∧
    ((s.audioDmaCallback rt stops).active = true → s.active = true) := by
  unfold Stream.audioDmaCallback
  dsimp only
  split
  · obtain ⟨ho,hp,hr,ha⟩ := dmaFunc_kept rt (Stream.audioStopDma rt { s with
      periods := (s.periods + 1) % rt.periods
      dma := { s.dma with
        completed := s.dma.completed + 1
        unmaps := rt.addr s.periods :: s.dma.unmaps
        inFlight := s.dma.inFlight.tail } })
    exact ⟨ho,hp,hr,fun e => by cases ha.symm.trans e⟩
  · obtain ⟨ho,hp,hr,ha⟩ := dmaFunc_kept rt { s with
      periods := (s.periods + 1) % rt.periods
      dma := { s.dma with
        completed := s.dma.completed + 1
        unmaps := rt.addr s.periods :: s.dma.unmaps
        inFlight := s.dma.inFlight.tail } }
    exact ⟨ho,hp,hr,fun e => ha ▸ e⟩

lemma routed_step (h : Routed c) (hok : PathOk c e) (hstep : step rt c e = some c') : Routed c' := by
  cases e with
  | opens d ok =>
    cases hstep
    exact routed_open h hok
  | prepare d rate =>
    obtain ⟨⟨ho,-⟩,hstep⟩ := ite_none_right_eq_some.mp hstep
    cases hstep
    exact routed_prepare rate h ho
  | start d fault =>
    obtain ⟨-,hstep⟩ := ite_none_right_eq_some.mp hstep
    cases hstep
    obtain ⟨ho,hp,-⟩ := dmaFunc_kept (rt d) { c.stream d with active := true }
    exact routed_transfer fault true h ⟨ho,hp⟩
  | stop d =>
    obtain ⟨-,hstep⟩ := ite_none_right_eq_some.mp hstep
    cases hstep
    exact routed_transfer false false h ⟨rfl,rfl⟩
  | callback d stops fault =>
    obtain ⟨-,hstep⟩ := ite_none_right_eq_some.mp hstep
    cases hstep
    obtain ⟨ho,hp,-⟩ := callback_kept (rt d) stops (c.stream d)
    exact routed_transfer fault _ h ⟨ho,hp⟩
  | close d =>
    obtain ⟨ho,hstep⟩ := ite_none_right_eq_some.mp hstep
    cases hstep
    exact routed_close h ho

end Routed

/-- **A prepared stream has its SSI path enabled**. -/
theorem ssi_path_run (rt : Dir → Runtime) (ssi : Ssi) (divider : ℕ) (l : List Event)
  (h : Run.AllSteps (step rt) PathOk (start ssi divider) l) :
  Run.AllStates (step rt) (fun c => ∀ d, (c.stream d).opened = true → (c.stream d).prepared = true → c.ssi.Path d)
    (start ssi divider) l := by
  refine h.keeps (J := Routed) (fun e c c' hJ hok hstep => routed_step hJ hok hstep) (fun c hJ => hJ.paths) ?_
  refine ⟨rfl,fun hpos => ?_,fun d ho => ?_,fun d ho => ?_⟩
  · cases hpos
  · cases ho
  · cases ho

def bothRun : List Event :=
  [.opens .playback true, .opens .capture true, .prepare .playback 16000, .prepare .capture 16000,
    .close .playback, .close .capture, .opens .capture true, .prepare .capture 8000]

theorem ssi_path_both : Run.AllSteps (step fun _ => twoPeriods) PathOk (start ⟨0, 0⟩ 0xff) bothRun ∧
  Run.AllStates (step fun _ => twoPeriods)
    (fun c => ∀ d, (c.stream d).opened = true → (c.stream d).prepared = true → c.ssi.Path d) (start ⟨0, 0⟩ 0xff)
    bothRun := by
  have h : Run.AllSteps (step fun _ => twoPeriods) PathOk (start ⟨0,0⟩ 0xff) bothRun := by decide +kernel
  exact ⟨h,ssi_path_run (fun _ => twoPeriods) ⟨0,0⟩ 0xff bothRun h⟩

def reopenRun : List Event :=
  [.opens .playback true, .opens .capture true, .close .playback, .opens .playback true, .prepare .playback 48000]

/-- **A stream is opened again and prepared, and has no DMA requests.** -/
theorem reopened_without_dma : ∃ c, reopenRun.foldlM (step fun _ => twoPeriods) (start ⟨0, 0⟩ 0xff) = some c ∧
  (c.stream .playback).opened = true ∧ (c.stream .playback).prepared = true ∧ ¬c.ssi.Path .playback := by
  have h : (reopenRun.foldlM (step fun _ => twoPeriods) (start ⟨0,0⟩ 0xff)).map (fun c =>
      ((c.stream .playback).opened, (c.stream .playback).prepared, decide (Covers c.ssi.sier Dir.playback.dmaEnable))) =
      some (true, true, false) := by decide +kernel
  obtain ⟨c,hc,he⟩ := map_eq_some_iff.mp h
  simp only [Prod.mk.injEq] at he
  exact ⟨c,hc,he.1,he.2.1,fun hpath => of_decide_eq_false he.2.2 hpath.dma⟩

end Mx27.Sound
