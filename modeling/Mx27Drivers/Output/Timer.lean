/-
# The output timer is set exactly while the stream is on

Three places decide that the next frame is scheduled.
-/
import Mx27Drivers.Output.Driver

namespace Mx27.Output

structure Scheduled (s : Vout) : Prop where
  timer : s.timer = true ↔ s.state = .on
  ready : s.state = .on → s.readyQ.entries ≠ []
  paused : s.state = .paused → s.readyQ.entries ≠ [] → s.ppBusy = true

structure InStep (s : Vout) : Prop extends Scheduled s where
  slot : s.state ≠ .off → (s.ipuBuf.isSome = true ↔ s.ppBusy = true)
  idle : s.state = .off → s.ppBusy = false
  whole : s.state ≠ .stopping

section Handlers

variable {s : Vout}

lemma InStep.of_off (hoff : s.state = .off) (htimer : s.timer = false) (hidle : s.ppBusy = false) : InStep s where
  timer := by simp [hoff,htimer]
  ready h := by simp [hoff] at h
  paused h := by simp [hoff] at h
  slot h := absurd hoff h
  idle _ := hidle
  whole := by simp [hoff]

lemma InStep.timer_false (h : InStep s) (hstate : s.state ≠ .on) : s.timer = false := by
  by_contra hne
  exact hstate (h.timer.mp (by simpa using hne))

lemma inStep_timerHandler (h : InStep s) (hpending : s.timer = true) :
  InStep (timerHandler { s with timer := false }).1 := by
  have hon := h.timer.mp hpending
  have hslot := h.slot (by simp [hon])
  obtain ⟨hbusy,e⟩ | ⟨-,he,-⟩ | ⟨i,q,-,he,e⟩ :=
    timerHandler_cases (s := { s with timer := false }) (by simp [hon]) (by simp [hon])
  · rw [e]
    exact ⟨⟨by simp,by simp,fun _ _ => hslot.mp hbusy⟩,fun _ => hslot,by simp,by simp⟩
  · exact absurd he (h.ready hon)
  · rw [e]
    by_cases hq : q.entries = []
    · simp only [hq,ne_eq,not_true_eq_false,if_false]
      exact ⟨⟨by simp,by simp,fun _ _ => rfl⟩,fun _ => by simp,by simp,by simp⟩
    · simp only [hq,ne_eq,not_false_eq_true,if_true]
      exact ⟨⟨by simp [hon],fun _ => hq,fun hp => by simp [hon] at hp⟩,fun _ => by simp,fun hp => by simp [hon] at hp,
        by simp [hon]⟩

lemma lastBufDone_keeps (s : Vout) : (lastBufDone s).1.state = s.state ∧ (lastBufDone s).1.timer = s.timer ∧
  (lastBufDone s).1.readyQ = s.readyQ ∧ (lastBufDone s).1.ipuBuf = none ∧ (lastBufDone s).1.ppBusy = s.ppBusy := by
  obtain ⟨hnone,e⟩ | ⟨i,q,-,-,e⟩ | ⟨i,-,-,e⟩ := lastBufDone_cases s
  · rw [e]
    exact ⟨rfl,rfl,rfl,hnone,rfl⟩
  · rw [e]
    exact ⟨rfl,rfl,rfl,rfl,rfl⟩
  · rw [e]
    exact ⟨rfl,rfl,rfl,rfl,rfl⟩

lemma inStep_ppInIrqHandler (h : InStep s) (hbusy : s.ppBusy = true) :
  InStep (ppInIrqHandler { s with ppBusy := false }).1 := by
  have hoff : s.state ≠ .off := by
    intro hoff
    rw [h.idle hoff] at hbusy
    cases hbusy
  obtain ⟨hstate,htimer,hready,hslot,hfree⟩ := lastBufDone_keeps { s with ppBusy := false }
  rw [ppInIrqHandler_eq (s := { s with ppBusy := false }) hoff h.whole]
  by_cases hresume : s.state = .paused ∧ s.readyQ.entries ≠ []
  · rw [if_pos hresume]
    refine ⟨⟨by simp,fun _ => ?_,by simp⟩,fun _ => by simp [hslot,hfree],by simp,by simp⟩
    show (lastBufDone { s with ppBusy := false }).1.readyQ.entries ≠ []
    rw [hready]
    exact hresume.2
  · rw [if_neg hresume]
    refine ⟨⟨by rw [htimer,hstate]; exact h.timer,by rw [hstate,hready]; exact h.ready,?_⟩,
      fun _ => by simp [hslot,hfree],fun _ => hfree,by rw [hstate]; exact h.whole⟩
    rw [hstate,hready]
    exact fun hp hq => absurd ⟨hp,hq⟩ hresume

lemma inStep_streamon (h : InStep s) (a : Answers) :
  InStep (streamon a s).1 ∧ (streamon a s).2.timerBug = false := by
  unfold streamon
  split
  · exact ⟨h,rfl⟩
  · rename_i hoff
    rw [not_not] at hoff
    have htimer := h.timer_false (by simp [hoff])
    have hidle := h.idle hoff
    split
    · exact ⟨h,rfl⟩
    · rename_i hsize
      split
      · have hne : s.readyQ.entries ≠ [] := by
          intro he
          have hz := length_entries s.readyQ
          rw [he,List.length_nil] at hz
          omega
        exact ⟨⟨⟨by simp,fun _ => hne,by simp⟩,fun _ => by simp [hidle],by simp,by simp⟩,htimer⟩
      · exact ⟨InStep.of_off hoff htimer hidle,rfl⟩

lemma inStep_streamoff (h : InStep s) : InStep (streamoff s) := by
  unfold streamoff
  split
  · exact h
  · exact InStep.of_off rfl rfl rfl

lemma inStep_qbuf (h : InStep s) (index : ℕ) : InStep (qbuf index s).1 ∧ (qbuf index s).2.timerBug = false := by
  -- `ready_q` is not empty afterwards, whether it was full or not
  obtain ⟨q,eff,e,hne,hbug⟩ : ∃ q eff, enqueueReady index s = ({ s with readyQ := q }, eff) ∧ q.entries ≠ [] ∧
      eff.timerBug = false := by
    obtain ⟨q,he,e⟩ | ⟨hfull,e⟩ := enqueueReady_cases index s
    · exact ⟨q,_,e,by simp [he],rfl⟩
    · refine ⟨s.readyQ,_,e,fun hnil => ?_,rfl⟩
      rw [hnil] at hfull
      cases hfull
  unfold qbuf
  split
  · exact ⟨h,rfl⟩
  · rw [e]
    by_cases hpaused : s.state = .paused
    · rw [if_pos hpaused]
      exact ⟨⟨⟨by simp,fun _ => hne,by simp⟩,fun _ => h.slot (by simp [hpaused]),by simp,by simp⟩,
        h.timer_false (by simp [hpaused])⟩
    · rw [if_neg hpaused]
      exact ⟨⟨⟨h.timer,fun _ => hne,fun hp => absurd hp hpaused⟩,h.slot,h.idle,h.whole⟩,hbug⟩

lemma inStep_dropBuffers (h : InStep s) (hoff : s.state = .off) : InStep (dropBuffers s) := by
  obtain ⟨hstate,htimer,hbusy,-⟩ := dropBuffers_keeps s
  exact InStep.of_off (hstate.trans hoff) (htimer.trans (h.timer_false (by simp [hoff]))) (hbusy.trans (h.idle hoff))

lemma inStep_reqbufs (h : InStep s) (count : ℕ) (alloc : ℕ → Option ℕ) : InStep (reqbufs count alloc s) := by
  unfold reqbufs
  split
  · exact inStep_dropBuffers (inStep_streamoff h) (streamoff_state s)
  · split
    · exact h
    · rename_i hoff
      rw [not_not] at hoff
      have hdrop := inStep_dropBuffers h hoff
      have hoff' := (dropBuffers_keeps s).1.trans hoff
      obtain ⟨hstate,htimer,hbusy⟩ := makeBuffers_keeps (frameNum count) alloc (dropBuffers s)
      exact InStep.of_off (hstate.trans hoff') (htimer.trans (hdrop.timer_false (by simp [hoff'])))
        (hbusy.trans (hdrop.idle hoff'))

lemma inStep_vclose (h : InStep s) : InStep (vclose s) := by
  unfold vclose
  split
  · refine InStep.of_off (streamoff_state _) ?_ ?_
    · show (streamoff { s with openCount := 0, ppBusy := false }).timer = false
      unfold streamoff
      split
      · rename_i hoff
        exact h.timer_false (by rw [show s.state = .off from hoff]; simp)
      · rfl
    · show (streamoff { s with openCount := 0, ppBusy := false }).ppBusy = false
      unfold streamoff
      split <;> rfl
  · exact ⟨⟨h.timer,h.ready,h.paused⟩,h.slot,h.idle,h.whole⟩

lemma inStep_act (h : InStep s) (e : Event) : InStep (act s e).1 ∧ (act s e).2.timerBug = false := by
  cases e with
  | «open» =>
    refine ⟨?_,rfl⟩
    show InStep (vopen s)
    simp only [vopen]
    split
    · exact InStep.of_off rfl rfl rfl
    · exact ⟨⟨h.timer,h.ready,h.paused⟩,h.slot,h.idle,h.whole⟩
  | timer =>
    simp only [act]
    split
    · refine ⟨inStep_timerHandler h ‹_›,?_⟩
      have hon := h.timer.mp ‹_›
      obtain ⟨-,e⟩ | ⟨-,-,e⟩ | ⟨i,q,-,-,e⟩ :=
        timerHandler_cases (s := { s with timer := false }) (by simp [hon]) (by simp [hon])
      all_goals rw [e]
    · exact ⟨h,rfl⟩
  | pp =>
    simp only [act]
    split
    · refine ⟨inStep_ppInIrqHandler h ‹_›,?_⟩
      unfold ppInIrqHandler
      split
      · rfl
      · obtain ⟨-,e⟩ | ⟨i,q,-,-,e⟩ | ⟨i,-,-,e⟩ := lastBufDone_cases { s with ppBusy := false }
        all_goals simp only [e]
    · exact ⟨h,rfl⟩
  | close =>
    simp only [act]
    split
    · exact ⟨h,rfl⟩
    · exact ⟨inStep_vclose h,rfl⟩
  | sFmt width height bytesperline =>
    simp only [act]
    split
    · exact ⟨h,rfl⟩
    · refine ⟨?_,rfl⟩
      unfold sFmt
      split
      · exact h
      · exact ⟨⟨h.timer,h.ready,h.paused⟩,h.slot,h.idle,h.whole⟩
  | reqbufs count alloc =>
    simp only [act]
    split
    · exact ⟨h,rfl⟩
    · exact ⟨inStep_reqbufs h count alloc,rfl⟩
  | qbuf index =>
    simp only [act]
    split
    · exact ⟨h,rfl⟩
    · exact inStep_qbuf h index
  | dqbuf =>
    simp only [act]
    split
    · exact ⟨h,rfl⟩
    · obtain ⟨-,e⟩ | ⟨i,q,-,e⟩ := dqbuf_cases s
      · rw [e]
        exact ⟨h,rfl⟩
      · rw [e]
        exact ⟨⟨⟨h.timer,h.ready,h.paused⟩,h.slot,h.idle,h.whole⟩,rfl⟩
  | streamon a =>
    simp only [act]
    split
    · exact ⟨h,rfl⟩
    · exact inStep_streamon h a
  | streamoff =>
    simp only [act]
    split
    · exact ⟨h,rfl⟩
    · exact ⟨inStep_streamoff h,rfl⟩

end Handlers

/-- **Video output neither stalls nor sets its timer twice**, whatever happens. -/
theorem timer_run (l : List Event) :
  Run.AllStates step Scheduled probe l ∧ Run.AllSteps step (fun s e => (act s e).2.timerBug = false) probe l := by
  have hstep : ∀ (e : Event) (s s' : Vout), InStep s → step s e = some s' → InStep s' := by
    intro e s s' h he
    obtain rfl := Option.some.inj he
    exact (inStep_act h e).1
  have hprobe : InStep probe := InStep.of_off rfl rfl rfl
  exact ⟨Run.AllStates.of_inv hstep (fun s h => h.toScheduled) hprobe,
    Run.AllSteps.of_inv hstep (fun e s h => (inStep_act h e).2) hprobe⟩

end Mx27.Output
