/-
# The clock that both streams share

`cx20707_i2s_config` sets the divider of the codec for the rate of the stream that is prepared.
-/
import Mx27Drivers.Sound.SsiPath

namespace Mx27.Sound

open Option Function

def InTune (c : Codec) (d : Dir) : Prop :=
  (c.stream d).active = true → c.divider = clkDiv.getD (clkDivider (c.stream d).rate).toNat 0

def ClockOk (c : Codec) : Event → Prop
  | .prepare d rate => (c.stream d.other).opened = true → (c.stream d.other).prepared = true →
      (c.stream d.other).rate = rate
  | .start d _ => (c.stream d).prepared = true
  | .close d => (c.stream d).active = false
  | _ => True

instance (c : Codec) (e : Event) : Decidable (ClockOk c e) :=
  match e with
  | .prepare d rate =>
    @instDecidableForall ((c.stream d.other).opened = true) _ _
      (@instDecidableForall ((c.stream d.other).prepared = true) ((c.stream d.other).rate = rate) _ _)
  | .start d _ => instDecidableEqBool (c.stream d).prepared true
  | .close d => instDecidableEqBool (c.stream d).active false
  | .opens .. | .stop .. | .callback .. => isTrue trivial

lemma Dir.eq_other {d d' : Dir} (h : d' ≠ d) : d' = d.other := by
  cases d <;> cases d' <;> first | rfl | exact absurd rfl h

lemma adjustSpeed_rates (d : Dir) : ∀ rate ∈ rates d, adjustSpeed rate = rate := by
  cases d <;> decide

lemma clkDivider_rates (d : Dir) : ∀ rate ∈ rates d, 0 ≤ clkDivider rate := by
  cases d <;> decide

lemma clkDivider_capture : ∀ rate ∈ rates .capture, clkDivider rate = 0 ∨ clkDivider rate = 2 := by decide

/-- `rate_idx` names the divider that was written, unless it is -1. -/
def Written (c : Codec) : Prop := 0 ≤ c.rateIdx → c.divider = clkDiv.getD c.rateIdx.toNat 0

lemma i2sConfig_tunes {c : Codec} (idx : ℤ) (h : Written c) :
  Written (c.i2sConfig idx) ∧ (c.i2sConfig idx).rateIdx = idx := by
  unfold Codec.i2sConfig
  split
  · exact ⟨fun _ => rfl,rfl⟩
  · rename_i hsame
    exact ⟨h,(not_not.mp hsame).symm⟩

lemma streamConfig_tunes {c : Codec} {d : Dir} {rate : ℕ} (h : Written c) (hrate : rate ∈ rates d) :
  Written (c.streamConfig d rate) ∧ (c.streamConfig d rate).rateIdx = clkDivider rate := by
  have hpos := clkDivider_rates d rate hrate
  unfold Codec.streamConfig
  cases d with
  | playback =>
    dsimp only
    rw [if_neg (not_lt.mpr hpos)]
    exact i2sConfig_tunes _ h
  | capture =>
    have hidx := clkDivider_capture rate hrate
    dsimp only
    rw [if_neg (by omega)]
    exact i2sConfig_tunes _ h

/-! ### The invariant -/

structure Tuned (c : Codec) : Prop where
  ref : RefCounts c
  written : Written c
  idx : ∀ d, (c.stream d).opened = true → (c.stream d).prepared = true →
    c.rateIdx = clkDivider (c.stream d).rate ∧ 0 ≤ c.rateIdx
  active : ∀ d, (c.stream d).active = true → (c.stream d).opened = true ∧ (c.stream d).prepared = true

section Tuned

variable {c c' : Codec} {e : Event} {rt : Dir → Runtime} {d : Dir}

lemma Tuned.inTune (h : Tuned c) (d : Dir) : InTune c d := by
  intro hactive
  obtain ⟨ho,hp⟩ := h.active d hactive
  obtain ⟨hidx,hpos⟩ := h.idx d ho hp
  rw [h.written hpos,hidx]

lemma tuned_open (ok : Bool) (h : Tuned c) : Tuned (c.codecOpen d ok) := by
  have href := refCounts_open (d := d) ok h.ref
  unfold Codec.codecOpen at href ⊢
  split at href
  · rename_i hopen
    rw [if_pos hopen]
    exact h
  rename_i hopen
  rw [if_neg hopen]
  have hidle : (c.stream d).active = false := by
    by_contra hactive
    have ho := (h.active d (by simpa using hactive)).1
    simp [ho] at hopen
  refine ⟨href,h.written,fun d' ho hp => ?_,fun d' ha => ?_⟩ <;> dsimp only at * <;> by_cases hd : d' = d
  · subst hd
    rw [update_self] at hp
    cases hp
  · rw [update_of_ne hd] at ho hp ⊢
    exact h.idx d' ho hp
  · subst hd
    rw [update_self] at ha
    cases hidle.symm.trans ha
  · rw [update_of_ne hd] at ha ⊢
    exact h.active d' ha

lemma tuned_prepare {rate : ℕ} (h : Tuned c) (hopen : (c.stream d).opened = true) (hrate : rate ∈ rates d)
  (hok : (c.stream d.other).opened = true → (c.stream d.other).prepared = true → (c.stream d.other).rate = rate) :
  Tuned (c.codecPrepare d rate) := by
  have hadjust := adjustSpeed_rates d rate hrate
  have hwritten : Written { c with
      stream := Function.update c.stream d { c.stream d with
        prepared := true, period := 0, periods := 0, rate := adjustSpeed rate
        dma := { (c.stream d).dma with requests := [], completed := 0 } }
      ssi := c.ssi.config d } := h.written
  have hmem : adjustSpeed rate ∈ rates d := by rwa [hadjust]
  obtain ⟨hw,hidx⟩ := streamConfig_tunes hwritten hmem
  have hpos : 0 ≤ clkDivider (adjustSpeed rate) := clkDivider_rates d _ hmem
  have hidx : (c.codecPrepare d rate).rateIdx = clkDivider (adjustSpeed rate) := hidx
  refine ⟨refCounts_prepare rate h.ref,hw,fun d' ho hp => ?_,fun d' ha => ?_⟩
  · refine ⟨?_,hidx ▸ hpos⟩
    rw [hidx]
    rw [prepare_stream] at ho hp ⊢
    by_cases hd : d' = d
    · subst hd
      rw [update_self]
    · rw [update_of_ne hd] at ho hp ⊢
      obtain rfl := Dir.eq_other hd
      rw [hok ho hp,hadjust]
  · rw [prepare_stream] at ha ⊢
    by_cases hd : d' = d
    · subst hd
      rw [update_self]
      exact ⟨hopen,rfl⟩
    · rw [update_of_ne hd] at ha ⊢
      exact h.active d' ha

lemma tuned_close (h : Tuned c) (hopen : (c.stream d).opened = true) (hidle : (c.stream d).active = false) :
  Tuned (c.codecClose d) := by
  have hidx : (c.codecClose d).rateIdx = if c.ssiRef - 1 = 0 then -1 else c.rateIdx := rfl
  refine ⟨refCounts_close h.ref hopen,fun hpos => ?_,fun d' ho hp => ?_,fun d' ha => ?_⟩
  · rw [hidx] at hpos ⊢
    by_cases hlast : c.ssiRef - 1 = 0
    · rw [if_pos hlast] at hpos
      exact absurd hpos (by decide)
    · rw [if_neg hlast] at hpos ⊢
      exact h.written hpos
  · have hd : d' ≠ d := by
      rintro rfl
      rw [close_stream_self] at ho
      cases ho
    rw [close_stream_other hd] at ho hp ⊢
    rw [hidx,if_neg fun hlast => ?_]
    · exact h.idx d' ho hp
    · cases (h.ref.last hopen hlast hd).symm.trans ho
  · by_cases hd : d' = d
    · subst hd
      rw [close_stream_self] at ha
      cases hidle.symm.trans ha
    · rw [close_stream_other hd] at ha ⊢
      exact h.active d' ha

lemma tuned_set {s : Stream} (ssi : Ssi) (h : Tuned c) (ho : s.opened = (c.stream d).opened)
  (hp : s.prepared = (c.stream d).prepared) (hr : s.rate = (c.stream d).rate)
  (ha : s.active = true → s.opened = true ∧ s.prepared = true) : Tuned { c.setStream d s with ssi := ssi } := by
  have hself : (c.setStream d s).stream d = s := update_self ..
  have hother : ∀ d', d' ≠ d → (c.setStream d s).stream d' = c.stream d' := fun d' hd => update_of_ne hd _ _
  refine ⟨refCounts_set ssi h.ref ho,h.written,fun d' ho' hp' => ?_,fun d' ha' => ?_⟩ <;> dsimp only at * <;>
    by_cases hd : d' = d
  · subst hd
    rw [hself] at ho' hp' ⊢
    rw [hr]
    exact h.idx d' (ho ▸ ho') (hp ▸ hp')
  · rw [hother d' hd] at ho' hp' ⊢
    exact h.idx d' ho' hp'
  · subst hd
    rw [hself] at ha' ⊢
    exact ha ha'
  · rw [hother d' hd] at ha' ⊢
    exact h.active d' ha'

lemma tuned_step (h : Tuned c) (hok : ClockOk c e) (hstep : step rt c e = some c') : Tuned c' := by
  cases e with
  | opens d ok =>
    cases hstep
    exact tuned_open ok h
  | prepare d rate =>
    obtain ⟨⟨ho,hrate⟩,hstep⟩ := ite_none_right_eq_some.mp hstep
    cases hstep
    exact tuned_prepare h ho hrate hok
  | start d fault =>
    obtain ⟨hopen,hstep⟩ := ite_none_right_eq_some.mp hstep
    cases hstep
    obtain ⟨ho,hp,hr,-⟩ := dmaFunc_kept (rt d) { c.stream d with active := true }
    exact tuned_set _ h ho hp hr fun _ => ⟨ho.trans hopen,hp.trans hok⟩
  | stop d =>
    obtain ⟨-,hstep⟩ := ite_none_right_eq_some.mp hstep
    cases hstep
    exact tuned_set c.ssi h rfl rfl rfl fun ha => by cases ha
  | callback d stops fault =>
    obtain ⟨-,hstep⟩ := ite_none_right_eq_some.mp hstep
    cases hstep
    obtain ⟨ho,hp,hr,ha⟩ := callback_kept (rt d) stops (c.stream d)
    refine tuned_set _ h ho hp hr fun hactive => ?_
    obtain ⟨hopen,hprepared⟩ := h.active d (ha hactive)
    exact ⟨ho.trans hopen,hp.trans hprepared⟩
  | close d =>
    obtain ⟨ho,hstep⟩ := ite_none_right_eq_some.mp hstep
    cases hstep
    exact tuned_close h ho hok

end Tuned

/-- **An active stream has the clock of its rate**. -/
theorem shared_clock_run (rt : Dir → Runtime) (ssi : Ssi) (divider : ℕ) (l : List Event)
  (h : Run.AllSteps (step rt) ClockOk (start ssi divider) l) :
  Run.AllStates (step rt) (fun c => ∀ d, InTune c d) (start ssi divider) l := by
  refine h.keeps (J := Tuned) (fun e c c' hJ hok hstep => tuned_step hJ hok hstep) (fun c hJ => hJ.inTune) ?_
  refine ⟨rfl,fun hpos => ?_,fun d ho => ?_,fun d ha => ?_⟩
  · exact absurd hpos (show ¬(0 : ℤ) ≤ -1 by decide)
  · cases ho
  · cases ha

def tunedRun : List Event :=
  [.opens .playback true, .prepare .playback 16000, .start .playback false, .opens .capture true,
    .prepare .capture 16000, .start .capture false, .stop .capture, .close .capture, .stop .playback,
    .prepare .playback 44100, .start .playback false]

theorem clock_both :
  ((tunedRun.foldlM (step fun _ => twoPeriods) (start ⟨0, 0⟩ 0xff)).map Codec.divider) = some 0xb ∧
  Run.AllSteps (step fun _ => twoPeriods) ClockOk (start ⟨0, 0⟩ 0xff) tunedRun ∧
  Run.AllStates (step fun _ => twoPeriods) (fun c => ∀ d, InTune c d) (start ⟨0, 0⟩ 0xff) tunedRun := by
  have h : Run.AllSteps (step fun _ => twoPeriods) ClockOk (start ⟨0,0⟩ 0xff) tunedRun := by decide +kernel
  exact ⟨by decide +kernel,h,shared_clock_run (fun _ => twoPeriods) ⟨0,0⟩ 0xff tunedRun h⟩

def captureRun : List Event :=
  [.opens .playback true, .prepare .playback 44100, .start .playback false, .opens .capture true,
    .prepare .capture 8000]

/-- **A stream loses its rate** when the other one is prepared. -/
theorem capture_retunes : ∃ c, captureRun.foldlM (step fun _ => twoPeriods) (start ⟨0, 0⟩ 0xff) = some c ∧
  (c.stream .playback).active = true ∧ (c.stream .playback).rate = 44100 ∧ ¬InTune c .playback := by
  have h : (captureRun.foldlM (step fun _ => twoPeriods) (start ⟨0,0⟩ 0xff)).map (fun c =>
      ((c.stream .playback).active, (c.stream .playback).rate, c.divider)) = some (true, 44100, 0x7) := by
    decide +kernel
  obtain ⟨c,hc,he⟩ := map_eq_some_iff.mp h
  simp only [Prod.mk.injEq] at he
  obtain ⟨hactive,hrate,hdivider⟩ := he
  refine ⟨c,hc,hactive,hrate,fun htune => ?_⟩
  have htune := htune hactive
  rw [hrate,hdivider] at htune
  exact absurd htune (by decide)

end Mx27.Sound
