/-
# The periods of a stream

While a stream is active one period is under way.
-/
import Mx27Drivers.Sound.Codec

namespace Mx27.Sound

open List Option Function

structure Accounted (rt : Runtime) (s : Stream) : Prop where
  one : s.active = true → s.dma.inFlight.length = 1
  requests : s.dma.requests =
    (List.range s.dma.requests.length).map fun k => (rt.addr (k % rt.periods), rt.periodBytes)
  pointer : s.pointer rt = s.dma.completed % rt.periods * rt.periodSize ∧ s.pointer rt < rt.bufferSize
  matched : ∀ a, s.dma.maps.count a = s.dma.unmaps.count a + s.dma.inFlight.count a

def PeriodOk (c : Codec) : Event → Prop
  | .prepare d _ => (c.stream d).active = false
  | .start d _ => (c.stream d).active = false
  | .stop d => (c.stream d).active = true
  | .callback _ stops _ => stops = false
  | .close d => (c.stream d).active = false
  | .opens _ _ => True

instance (c : Codec) (e : Event) : Decidable (PeriodOk c e) := by
  cases e <;> unfold PeriodOk <;> infer_instance

def Stream.issued (s : Stream) : ℕ := s.dma.completed + if s.active then 1 else 0

structure Counted (rt : Runtime) (s : Stream) : Prop where
  requests : s.dma.requests = (List.range s.issued).map fun k => (rt.addr (k % rt.periods), rt.periodBytes)
  period : s.period = s.issued % rt.periods
  periods : s.periods = s.dma.completed % rt.periods
  inFlight : s.dma.inFlight = if s.active then [rt.addr (s.dma.completed % rt.periods)] else []
  idle : s.active = false → s.dma.completed = 0
  matched : ∀ a, s.dma.maps.count a = s.dma.unmaps.count a + s.dma.inFlight.count a

section Counted

variable {rt : Runtime} {s : Stream}

lemma Counted.accounted (h : Counted rt s) : Accounted rt s := by
  have hlt : s.dma.completed % rt.periods < rt.periods := Nat.mod_lt _ rt.periods_pos
  have hpos : rt.periodSize * (s.dma.completed % rt.periods) < rt.periods * rt.periodSize := by
    rw [Nat.mul_comm]
    exact Nat.mul_lt_mul_of_pos_right hlt rt.size_pos
  have hpointer : s.pointer rt = s.dma.completed % rt.periods * rt.periodSize := by
    unfold Stream.pointer Runtime.bufferSize
    dsimp only
    rw [h.periods,if_neg (not_le.mpr hpos),Nat.mul_comm]
  refine ⟨fun hactive => ?_,?_,⟨hpointer,?_⟩,h.matched⟩
  · rw [h.inFlight,if_pos hactive]
    rfl
  · have hlength : s.dma.requests.length = s.issued := by
      rw [h.requests]
      simp
    rw [hlength]
    exact h.requests
  · rw [hpointer,Nat.mul_comm]
    exact hpos

lemma Counted.congr {t : Stream} (h : Counted rt s) (hactive : t.active = s.active) (hperiod : t.period = s.period)
  (hperiods : t.periods = s.periods) (hdma : t.dma = s.dma) : Counted rt t := by
  have hissued : t.issued = s.issued := by rw [Stream.issued,Stream.issued,hdma,hactive]
  refine ⟨?_,?_,?_,?_,?_,?_⟩
  · rw [hdma,hissued]
    exact h.requests
  · rw [hperiod,hissued]
    exact h.period
  · rw [hperiods,hdma]
    exact h.periods
  · rw [hdma,hactive]
    exact h.inFlight
  · rw [hdma,hactive]
    exact h.idle
  · rw [hdma]
    exact h.matched

lemma Counted.anew (h : Counted rt s) (hidle : s.active = false) (prepared : Bool) (rate : ℕ) :
  Counted rt { s with
    prepared := prepared, period := 0, periods := 0, rate := rate
    dma := { s.dma with requests := [], completed := 0 } } := by
  have hflight := h.inFlight
  rw [hidle] at hflight
  refine ⟨?_,?_,?_,?_,fun _ => rfl,h.matched⟩
  · simp [Stream.issued,hidle]
  · simp [Stream.issued,hidle]
  · simp
  · rw [hidle]
    exact hflight

lemma counted_request (hactive : s.active = true) (hflight : s.dma.inFlight = [])
  (hrequests : s.dma.requests =
    (List.range s.dma.completed).map fun k => (rt.addr (k % rt.periods), rt.periodBytes))
  (hperiod : s.period = s.dma.completed % rt.periods) (hperiods : s.periods = s.dma.completed % rt.periods)
  (hmatched : ∀ a, s.dma.maps.count a = s.dma.unmaps.count a) : Counted rt (s.dmaFunc rt) := by
  have hsize : ¬DMA_BUF_SIZE < rt.periodBytes := not_lt.mpr rt.fits
  unfold Stream.dmaFunc
  rw [hactive,Bool.not_true,if_neg (by decide),if_neg hsize]
  refine ⟨?_,?_,hperiods,?_,fun hidle => ?_,fun a => ?_⟩
  · show s.dma.requests ++ [(rt.addr s.period, rt.periodBytes)] = _
    rw [hrequests,hperiod]
    simp [Stream.issued,range_succ]
  · show (s.period + 1) % rt.periods = _
    rw [hperiod,Nat.mod_add_mod]
    simp [Stream.issued]
  · show s.dma.inFlight ++ [rt.addr s.period] = _
    rw [hflight,hperiod]
    simp
  · cases hidle
  · show (rt.addr s.period :: s.dma.maps).count a = s.dma.unmaps.count a + (s.dma.inFlight ++ [rt.addr s.period]).count a
    rw [hflight,nil_append,count_cons,count_cons,count_nil,hmatched,Nat.zero_add]

lemma counted_start (h : Counted rt s) (hidle : s.active = false) : Counted rt ({ s with active := true }.dmaFunc rt) := by
  have hzero := h.idle hidle
  have hissued : s.issued = s.dma.completed := by simp [Stream.issued,hidle]
  have hflight := h.inFlight
  rw [hidle] at hflight
  refine counted_request rfl hflight ?_ ?_ h.periods fun a => ?_
  · show s.dma.requests = _
    rw [h.requests,hissued]
  · show s.period = _
    rw [h.period,hissued]
  · have hmatched := h.matched a
    rw [hflight] at hmatched
    exact hmatched

lemma counted_stop (h : Counted rt s) (hactive : s.active = true) : Counted rt (s.audioStopDma rt) := by
  have hflight := h.inFlight
  rw [hactive,if_pos rfl,← h.periods] at hflight
  refine ⟨rfl,?_,?_,rfl,fun _ => rfl,fun a => ?_⟩
  · simp [Stream.audioStopDma,Stream.issued]
  · simp [Stream.audioStopDma]
  · have hmatched := h.matched a
    rw [hflight] at hmatched
    show s.dma.maps.count a = (rt.addr s.periods :: s.dma.unmaps).count a + ([] : List ℕ).count a
    rw [hmatched,count_cons,count_cons,count_nil,Nat.zero_add,Nat.add_zero]

lemma counted_callback (h : Counted rt s) (hflight : s.dma.inFlight ≠ []) :
  Counted rt (s.audioDmaCallback rt false) := by
  have hactive : s.active = true := by
    by_contra hidle
    rw [h.inFlight,if_neg hidle] at hflight
    exact hflight rfl
  have hin := h.inFlight
  rw [hactive,if_pos rfl,← h.periods] at hin
  have hissued : s.issued = s.dma.completed + 1 := by simp [Stream.issued,hactive]
  unfold Stream.audioDmaCallback
  dsimp only
  rw [Bool.and_false,if_neg (by decide)]
  refine counted_request hactive ?_ ?_ ?_ ?_ fun a => ?_
  · show s.dma.inFlight.tail = []
    rw [hin]
    rfl
  · show s.dma.requests = _
    rw [h.requests,hissued]
  · show s.period = _
    rw [h.period,hissued]
  · show (s.periods + 1) % rt.periods = (s.dma.completed + 1) % rt.periods
    rw [h.periods,Nat.mod_add_mod]
  · have hmatched := h.matched a
    rw [hin] at hmatched
    show s.dma.maps.count a = (rt.addr s.periods :: s.dma.unmaps).count a
    rw [hmatched,count_cons,count_cons,count_nil,Nat.zero_add]

end Counted

section Steps

variable {rt : Dir → Runtime} {c c' : Codec} {e : Event}

lemma counted_update {d : Dir} {s : Stream} (h : ∀ d, Counted (rt d) (c.stream d)) (hs : Counted (rt d) s)
  (hc : c'.stream = Function.update c.stream d s) : ∀ d, Counted (rt d) (c'.stream d) := by
  intro d'
  rw [hc]
  by_cases hd : d' = d
  · subst hd
    rwa [update_self]
  · rw [update_of_ne hd]
    exact h d'

lemma i2sConfig_stream (idx : ℤ) (c : Codec) : (c.i2sConfig idx).stream = c.stream ∧ (c.i2sConfig idx).ssi = c.ssi ∧
  (c.i2sConfig idx).ssiRef = c.ssiRef := by
  unfold Codec.i2sConfig
  split <;> exact ⟨rfl,rfl,rfl⟩

lemma streamConfig_stream (d : Dir) (rate : ℕ) (c : Codec) : (c.streamConfig d rate).stream = c.stream ∧
  (c.streamConfig d rate).ssi = c.ssi ∧ (c.streamConfig d rate).ssiRef = c.ssiRef := by
  have hconfig := i2sConfig_stream (clkDivider rate) c
  unfold Codec.streamConfig
  cases d with
  | playback | capture =>
    dsimp only
    split
    · exact ⟨rfl,rfl,rfl⟩
    · exact hconfig

lemma counted_step (h : ∀ d, Counted (rt d) (c.stream d)) (hok : PeriodOk c e) (hstep : step rt c e = some c') :
  ∀ d, Counted (rt d) (c'.stream d) := by
  cases e with
  | opens d ok =>
    cases hstep
    unfold Codec.codecOpen
    split
    · exact h
    · exact counted_update (s := { c.stream d with opened := true, prepared := false }) h
        ((h d).congr rfl rfl rfl rfl) rfl
  | prepare d rate =>
    obtain ⟨-,hstep⟩ := ite_none_right_eq_some.mp hstep
    cases hstep
    exact counted_update h ((h d).anew hok true (adjustSpeed rate)) (streamConfig_stream d _ _).1
  | start d fault =>
    obtain ⟨-,hstep⟩ := ite_none_right_eq_some.mp hstep
    cases hstep
    exact counted_update h (counted_start (h d) hok) rfl
  | stop d =>
    obtain ⟨-,hstep⟩ := ite_none_right_eq_some.mp hstep
    cases hstep
    exact counted_update h (counted_stop (h d) hok) rfl
  | callback d stops fault =>
    obtain ⟨⟨-,hflight⟩,hstep⟩ := ite_none_right_eq_some.mp hstep
    cases hstep
    obtain rfl : stops = false := hok
    exact counted_update h (counted_callback (h d) hflight) rfl
  | close d =>
    obtain ⟨-,hstep⟩ := ite_none_right_eq_some.mp hstep
    cases hstep
    exact counted_update (s := { c.stream d with opened := false, prepared := false }) h
      ((h d).congr rfl rfl rfl rfl) rfl

end Steps

/-- **The periods are accounted for** in every run in which streams are stopped while they
are active, and not in a callback. -/
theorem periods_run (rt : Dir → Runtime) (ssi : Ssi) (divider : ℕ) (l : List Event)
  (h : Run.AllSteps (step rt) PeriodOk (start ssi divider) l) :
  Run.AllStates (step rt) (fun c => ∀ d, Accounted (rt d) (c.stream d)) (start ssi divider) l := by
  refine h.keeps (J := fun c => ∀ d, Counted (rt d) (c.stream d)) (fun e c c' hJ hok hstep => counted_step hJ hok hstep)
    (fun c hJ d => (hJ d).accounted) fun d => ?_
  exact ⟨rfl,(Nat.zero_mod _).symm,(Nat.zero_mod _).symm,rfl,fun _ => rfl,fun _ => rfl⟩

def twoPeriods : Runtime := ⟨0x1000, 2, 32, 4, by decide, by decide, by decide⟩

def pcmRun : List Event :=
  [.opens .playback true, .prepare .playback 48000, .start .playback false, .callback .playback false false,
    .callback .playback false false, .stop .playback, .prepare .playback 48000, .start .playback false]

theorem periods_playback :
  ((pcmRun.foldlM (step fun _ => twoPeriods) (start ⟨0, 0⟩ 0xff)).map fun c => (c.stream .playback).dma) =
    some ⟨[(0x1000, 128)], 0, [0x1000, 0x1000, 0x1080, 0x1000], [0x1000, 0x1080, 0x1000], [0x1000]⟩ ∧
  Run.AllStates (step fun _ => twoPeriods) (fun c => ∀ d, Accounted twoPeriods (c.stream d)) (start ⟨0, 0⟩ 0xff)
    pcmRun :=
  ⟨by decide +kernel, periods_run (fun _ => twoPeriods) ⟨0, 0⟩ 0xff pcmRun (by decide +kernel)⟩

/-- **A stream is stopped in the callback of its first transfer**. -/
theorem stop_in_callback : ¬Run.AllStates (step fun _ => twoPeriods) (fun c => ∀ d, Accounted twoPeriods (c.stream d))
  (start ⟨0, 0⟩ 0xff)
  [.opens .playback true, .prepare .playback 48000, .start .playback false, .callback .playback true false] := by
  rintro ⟨-,h⟩
  obtain ⟨-,h⟩ := h _ rfl
  obtain ⟨-,h⟩ := h _ rfl
  obtain ⟨-,h⟩ := h _ rfl
  exact absurd ((h _ rfl .playback).matched 0x1080) (by decide)

end Mx27.Sound
