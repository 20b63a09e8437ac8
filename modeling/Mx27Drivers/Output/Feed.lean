/-
# What the post-processor is fed with
-/
import Mx27Drivers.Output.Timer

namespace Mx27.Output

open List Option

def frameBytes (dim : ℕ × ℕ) : ℕ := dim.1 * dim.2 * 3 / 2

def Feeds (s : Vout) (e : Event) : Prop :=
  ∀ a, (act s e).2.ppPtr = some a →
    ∃ i, (act s e).1.buf i = some a ∧ frameBytes (act s e).1.ppDim ≤ (act s e).1.queueBufSize

def StartsFed (s : Vout) : Event → Prop
  | .streamon a =>
    s.openCount ≠ 0 → s.state = .off → s.readyQ.entries ≠ [] → a = ⟨true, true⟩ →
      (∀ i ∈ s.readyQ.entries, (s.buf i).isSome = true) ∧ frameBytes (s.v2f.width, s.v2f.height) ≤ s.queueBufSize
  | _ => True

instance (s : Vout) : DecidablePred (StartsFed s)
  | .streamon a =>
    inferInstanceAs (Decidable (s.openCount ≠ 0 → s.state = .off → s.readyQ.entries ≠ [] → a = ⟨true, true⟩ →
      (∀ i ∈ s.readyQ.entries, (s.buf i).isSome = true) ∧ frameBytes (s.v2f.width, s.v2f.height) ≤ s.queueBufSize))
  | .open | .close | .sFmt _ _ _ | .reqbufs _ _ | .qbuf _ | .dqbuf | .streamoff | .timer | .pp => isTrue trivial

structure Tidy (s : Vout) : Prop where
  beyond : ∀ i, s.bufferCnt ≤ i → s.buf i = none
  together : (∀ i < s.bufferCnt, (s.buf i).isSome = true) ∨ ∀ i, s.buf i = none

section Buffers

variable {s : Vout}

lemma Tidy.of_none (h : ∀ i, s.buf i = none) : Tidy s := ⟨fun i _ => h i, Or.inr h⟩

lemma Tidy.freeBuffers (h : Tidy s) (i : ℕ) : (freeBuffers s).buf i = none := by
  show (if i < s.bufferCnt then none else s.buf i) = none
  split
  · rfl
  · exact h.beyond i (by omega)

lemma Tidy.dropBuffers (h : Tidy s) (i : ℕ) : (dropBuffers s).buf i = none := by
  unfold Output.dropBuffers
  split
  · exact h.freeBuffers i
  · rename_i hnone
    rcases h.together with hall | hall
    · refine h.beyond i ?_
      by_contra hlt
      exact hnone (hall 0 (by omega))
    · exact hall i

lemma tidy_makeBuffers (n : ℕ) (alloc : ℕ → Option ℕ) (h : ∀ i, s.buf i = none) : Tidy (makeBuffers n alloc s) := by
  have hbuf : (makeBuffers n alloc s).buf = (mxcAllocateBuffers alloc n s.buf).1 ∧
      (makeBuffers n alloc s).bufferCnt = n := by
    simp only [makeBuffers]
    split <;> exact ⟨rfl,rfl⟩
  unfold mxcAllocateBuffers at hbuf
  cases hfind : (List.range n).find? fun i => (alloc i).isNone with
  | some k =>
    rw [hfind] at hbuf
    refine Tidy.of_none fun i => ?_
    rw [hbuf.1]
    show (if i ≤ k then none else s.buf i) = none
    rw [h i,ite_self]
  | none =>
    rw [hfind] at hbuf
    refine ⟨fun i hi => ?_,Or.inl fun i hi => ?_⟩
    · rw [hbuf.1]
      rw [hbuf.2] at hi
      show (if i < n then alloc i else s.buf i) = none
      rw [if_neg (by omega),h i]
    · rw [hbuf.1]
      rw [hbuf.2] at hi
      show (if i < n then alloc i else s.buf i).isSome = true
      rw [if_pos hi]
      have := find?_eq_none.mp hfind i (mem_range.mpr hi)
      simpa [isSome_iff_ne_none] using this

end Buffers

/-! ### The invariant -/

structure Fed (s : Vout) : Prop where
  inStep : InStep s
  tidy : Tidy s
  ready : s.state ≠ .off → ∀ i ∈ s.readyQ.entries, (s.buf i).isSome = true
  live : s.state ≠ .off → ∀ i < s.bufferCnt, (s.buf i).isSome = true
  room : s.state ≠ .off → frameBytes s.ppDim ≤ s.queueBufSize

section Invariant

variable {s : Vout}

lemma Fed.of_off (h : InStep s) (ht : Tidy s) (hoff : s.state = .off) : Fed s :=
  ⟨h, ht, fun hne => absurd hoff hne, fun hne => absurd hoff hne, fun hne => absurd hoff hne⟩

lemma Fed.next {s' : Vout} (h : Fed s) (hin : InStep s') (hbuf : s'.buf = s.buf) (hcnt : s'.bufferCnt = s.bufferCnt)
  (hsize : s'.queueBufSize = s.queueBufSize) (hdim : s'.ppDim = s.ppDim)
  (hstate : s'.state ≠ .off → s.state ≠ .off) (hready : ∀ i ∈ s'.readyQ.entries, i ∈ s.readyQ.entries) : Fed s' where
  inStep := hin
  tidy := ⟨by rw [hcnt,hbuf]; exact h.tidy.beyond, by rw [hcnt,hbuf]; exact h.tidy.together⟩
  ready hne i hi := by rw [hbuf]; exact h.ready (hstate hne) i (hready i hi)
  live hne := by rw [hcnt,hbuf]; exact h.live (hstate hne)
  room hne := by rw [hdim,hsize]; exact h.room (hstate hne)

lemma fed_streamoff (h : Fed s) : Fed (streamoff s) := by
  refine Fed.of_off (inStep_streamoff h.inStep) ?_ (streamoff_state s)
  unfold streamoff
  split <;> exact ⟨h.tidy.beyond,h.tidy.together⟩

lemma fed_reqbufs (h : Fed s) (count : ℕ) (alloc : ℕ → Option ℕ) : Fed (reqbufs count alloc s) := by
  have hin := inStep_reqbufs h.inStep count alloc
  unfold reqbufs at hin ⊢
  split at hin
  · rw [if_pos ‹_›]
    exact Fed.of_off hin (Tidy.of_none (fed_streamoff h).tidy.dropBuffers)
      ((dropBuffers_keeps _).1.trans (streamoff_state s))
  · rw [if_neg ‹_›]
    split at hin
    · rw [if_pos ‹_›]
      exact h
    · rename_i hoff
      rw [if_neg hoff]
      rw [not_not] at hoff
      refine Fed.of_off hin (tidy_makeBuffers _ alloc h.tidy.dropBuffers) ?_
      exact (makeBuffers_keeps _ _ _).1.trans ((dropBuffers_keeps s).1.trans hoff)

lemma fed_qbuf (h : Fed s) (index : ℕ) : Fed (qbuf index s).1 := by
  have hin := (inStep_qbuf h.inStep index).1
  by_cases hcnt : s.bufferCnt ≤ index
  · unfold qbuf
    rw [if_pos hcnt]
    exact h
  · obtain ⟨q,eff,e,hq⟩ : ∃ q eff, enqueueReady index s = ({ s with readyQ := q }, eff) ∧
        ∀ i ∈ q.entries, i ∈ s.readyQ.entries ∨ i = index := by
      obtain ⟨q,he,e⟩ | ⟨-,e⟩ := enqueueReady_cases index s
      · exact ⟨q,_,e,fun i hi => by simpa [he] using hi⟩
      · exact ⟨s.readyQ,_,e,fun i hi => Or.inl hi⟩
    have hready : s.state ≠ .off → ∀ i ∈ q.entries, (s.buf i).isSome = true := by
      intro hne i hi
      rcases hq i hi with hi | rfl
      · exact h.ready hne i hi
      · exact h.live hne i (by omega)
    unfold qbuf at hin ⊢
    rw [if_neg hcnt,e] at hin ⊢
    by_cases hpaused : s.state = .paused
    · rw [if_pos hpaused] at hin ⊢
      have hne : s.state ≠ .off := by simp [hpaused]
      exact ⟨hin,⟨h.tidy.beyond,h.tidy.together⟩,fun _ => hready hne,fun _ => h.live hne,fun _ => h.room hne⟩
    · rw [if_neg hpaused] at hin ⊢
      exact ⟨hin,⟨h.tidy.beyond,h.tidy.together⟩,hready,h.live,h.room⟩

lemma fed_streamon (h : Fed s) (hopen : s.openCount ≠ 0) (a : Answers) (hok : StartsFed s (.streamon a)) :
  Fed (streamon a s).1 := by
  have hin := (inStep_streamon h.inStep a).1
  unfold streamon at hin ⊢
  split at hin
  · rw [if_pos ‹_›]
    exact h
  · rename_i hoff
    rw [if_neg hoff]
    rw [not_not] at hoff
    split at hin
    · rw [if_pos ‹_›]
      exact h
    · rename_i hsize
      rw [if_neg hsize]
      split at hin
      · rename_i hans
        rw [if_pos hans]
        have hne : s.readyQ.entries ≠ [] := by
          intro he
          have hz := length_entries s.readyQ
          rw [he,length_nil] at hz
          omega
        obtain ⟨hd,hp⟩ : a.display = true ∧ a.ppCfg = true := by simpa using hans
        obtain ⟨hready,hroom⟩ := hok hopen hoff hne (by cases a; simp_all)
        -- a ready buffer is allocated, so all are
        have hlive : ∀ i < s.bufferCnt, (s.buf i).isSome = true := by
          obtain ⟨i,l,he⟩ := exists_cons_of_ne_nil hne
          have hi := hready i (by simp [he])
          rcases h.tidy.together with hall | hall
          · exact hall
          · rw [hall i] at hi
            cases hi
        exact ⟨hin,⟨h.tidy.beyond,h.tidy.together⟩,fun _ => hready,fun _ => hlive,fun _ => hroom⟩
      · rw [if_neg ‹_›]
        exact Fed.of_off hin ⟨h.tidy.beyond,h.tidy.together⟩ hoff

lemma fed_vclose (h : Fed s) : Fed (vclose s) := by
  have hin := inStep_vclose h.inStep
  unfold vclose at hin ⊢
  split at hin
  · rw [if_pos ‹_›]
    have htidy : Tidy (streamoff { s with openCount := 0, ppBusy := false }) := by
      unfold streamoff
      split <;> exact ⟨h.tidy.beyond,h.tidy.together⟩
    exact Fed.of_off hin (Tidy.of_none htidy.freeBuffers) (streamoff_state _)
  · rw [if_neg ‹_›]
    exact ⟨hin,⟨h.tidy.beyond,h.tidy.together⟩,h.ready,h.live,h.room⟩

lemma lastBufDone_buffers (s : Vout) : (lastBufDone s).1.buf = s.buf ∧ (lastBufDone s).1.bufferCnt = s.bufferCnt ∧
  (lastBufDone s).1.queueBufSize = s.queueBufSize ∧ (lastBufDone s).1.ppDim = s.ppDim := by
  obtain ⟨-,e⟩ | ⟨i,q,-,-,e⟩ | ⟨i,-,-,e⟩ := lastBufDone_cases s
  all_goals rw [e]; exact ⟨rfl,rfl,rfl,rfl⟩

lemma fed_pp (h : Fed s) (hbusy : s.ppBusy = true) : Fed (ppInIrqHandler { s with ppBusy := false }).1 := by
  have hin := inStep_ppInIrqHandler h.inStep hbusy
  have hoff : s.state ≠ .off := by
    intro hoff
    rw [h.inStep.idle hoff] at hbusy
    cases hbusy
  obtain ⟨hbuf,hcnt,hsize,hdim⟩ := lastBufDone_buffers { s with ppBusy := false }
  have hready := (lastBufDone_keeps { s with ppBusy := false }).2.2.1
  rw [ppInIrqHandler_eq (s := { s with ppBusy := false }) hoff h.inStep.whole] at hin ⊢
  split at hin
  · rw [if_pos ‹_›]
    exact h.next hin hbuf hcnt hsize hdim (fun _ => hoff) fun i hi => by
      rwa [show ({ (lastBufDone { s with ppBusy := false }).1 with state := .on, timer := true } : Vout).readyQ =
        s.readyQ from hready] at hi
  · rw [if_neg ‹_›]
    exact h.next hin hbuf hcnt hsize hdim (fun _ => hoff) fun i hi => by rwa [hready] at hi

lemma fed_timer (h : Fed s) (hpending : s.timer = true) :
  Fed (timerHandler { s with timer := false }).1 ∧
    ∀ a, (timerHandler { s with timer := false }).2.ppPtr = some a →
      ∃ i, (timerHandler { s with timer := false }).1.buf i = some a ∧
        frameBytes (timerHandler { s with timer := false }).1.ppDim ≤
          (timerHandler { s with timer := false }).1.queueBufSize := by
  have hin := inStep_timerHandler h.inStep hpending
  have hon := h.inStep.timer.mp hpending
  have hoff : s.state ≠ .off := by simp [hon]
  obtain ⟨-,e⟩ | ⟨-,-,e⟩ | ⟨i,q,-,he,e⟩ :=
    timerHandler_cases (s := { s with timer := false }) hoff (by simp [hon])
  · rw [e] at hin ⊢
    exact ⟨h.next hin rfl rfl rfl rfl (fun _ => hoff) fun i hi => hi,fun a ha => by cases ha⟩
  · rw [e] at hin ⊢
    exact ⟨h.next hin rfl rfl rfl rfl (fun _ => hoff) fun i hi => hi,fun a ha => by cases ha⟩
  · have he' : s.readyQ.entries = i :: q.entries := he
    have hmem : ∀ j ∈ q.entries, j ∈ s.readyQ.entries := fun j hj => by simp [he',hj]
    obtain ⟨b,hb⟩ := isSome_iff_exists.mp (h.ready hoff i (by simp [he']))
    rw [e] at hin ⊢
    split at hin
    · rw [if_pos ‹_›]
      refine ⟨h.next hin rfl rfl rfl rfl (fun _ => hoff) hmem,fun a ha => ⟨i,?_,h.room hoff⟩⟩
      simpa [hb] using ha
    · rw [if_neg ‹_›]
      refine ⟨h.next hin rfl rfl rfl rfl (fun _ => hoff) hmem,fun a ha => ⟨i,?_,h.room hoff⟩⟩
      simpa [hb] using ha

lemma fed_act (h : Fed s) (e : Event) (hok : StartsFed s e) : Fed (act s e).1 := by
  have hin := (inStep_act h.inStep e).1
  cases e with
  | «open» =>
    refine h.next hin ?_ ?_ ?_ ?_ ?_ ?_
    all_goals simp only [act,vopen]
    all_goals split <;> simp
  | timer =>
    simp only [act]
    split
    · exact (fed_timer h ‹_›).1
    · exact h
  | pp =>
    simp only [act]
    split
    · exact fed_pp h ‹_›
    · exact h
  | close =>
    simp only [act]
    split
    · exact h
    · exact fed_vclose h
  | sFmt width height bytesperline =>
    refine h.next hin ?_ ?_ ?_ ?_ ?_ ?_
    all_goals simp only [act,sFmt]
    all_goals split <;> [skip; split] <;> simp
  | reqbufs count alloc =>
    simp only [act]
    split
    · exact h
    · exact fed_reqbufs h count alloc
  | qbuf index =>
    simp only [act]
    split
    · exact h
    · exact fed_qbuf h index
  | dqbuf =>
    simp only [act] at hin ⊢
    split
    · exact h
    · rw [if_neg ‹_›] at hin
      obtain ⟨-,e⟩ | ⟨i,q,-,e⟩ := dqbuf_cases s
      · rw [e]
        exact h
      · rw [e] at hin ⊢
        exact h.next hin rfl rfl rfl rfl (fun hne => hne) fun i hi => hi
  | streamon a =>
    simp only [act]
    split
    · exact h
    · exact fed_streamon h ‹_› a hok
  | streamoff =>
    simp only [act]
    split
    · exact h
    · exact fed_streamoff h

lemma feeds_act (h : Fed s) (e : Event) : Feeds s e := by
  intro a ha
  by_cases he : e = .timer
  · subst he
    simp only [act] at ha ⊢
    split at ha
    · rw [if_pos ‹_›]
      exact (fed_timer h ‹_›).2 a ha
    · cases ha
  · have hnone : (act s e).2.ppPtr = none := by
      cases e with
      | timer => exact absurd rfl he
      | «open» => rfl
      | pp =>
        simp only [act,ppInIrqHandler]
        split
        · split
          · rfl
          · obtain ⟨-,e⟩ | ⟨i,q,-,-,e⟩ | ⟨i,-,-,e⟩ := lastBufDone_cases { s with ppBusy := false }
            all_goals simp only [e]
        · rfl
      | qbuf index =>
        have hq : (enqueueReady index s).2.ppPtr = none := by
          obtain ⟨q,-,e⟩ | ⟨-,e⟩ := enqueueReady_cases index s
          all_goals rw [e]
        simp only [act,qbuf]
        split
        · rfl
        · split
          · rfl
          · split
            · exact hq
            · exact hq
      | dqbuf =>
        simp only [act]
        split
        · rfl
        · obtain ⟨-,e⟩ | ⟨i,q,-,e⟩ := dqbuf_cases s
          all_goals rw [e]
      | streamon b =>
        simp only [act,streamon]
        split
        · rfl
        · split
          · rfl
          · split
            · rfl
            · split <;> rfl
      | close | sFmt | reqbufs | streamoff =>
        simp only [act]
        split <;> rfl
    rw [hnone] at ha
    cases ha

end Invariant

/-- **If every stream that starts finds its ready buffers allocated and large enough, the PP reads
from allocated buffers only**. -/
theorem feed_run {l : List Event} (h : Run.AllSteps step StartsFed probe l) : Run.AllSteps step Feeds probe l := by
  have hprobe : Fed probe := Fed.of_off (InStep.of_off rfl rfl rfl) (Tidy.of_none fun _ => rfl) rfl
  refine h.entails (J := Fed) (fun e s s' hs hok he => ?_) (fun e s hs _ => feeds_act hs e) hprobe
  obtain rfl := Option.some.inj he
  exact fed_act hs e hok

def qvgaStream : List Event :=
  [.open, .sFmt 320 240 320, .reqbufs 2 fun i => some (0xA4000000 + 0x20000 * i), .qbuf 0, .qbuf 1,
    .streamon ⟨true, true⟩, .timer, .pp, .timer, .dqbuf, .pp, .streamoff, .close]

/-- Both frames of the stream are read from their buffers. -/
theorem feed_qvgaStream : Run.AllSteps step StartsFed probe qvgaStream ∧ Run.AllSteps step Feeds probe qvgaStream :=
  have h : Run.AllSteps step StartsFed probe qvgaStream := by decide
  ⟨h, feed_run h⟩

theorem stale_buffer_fed : ¬ Run.AllSteps step Feeds probe
  [.open, .sFmt 320 240 320, .reqbufs 2 fun i => some (0xA4000000 + 0x20000 * i), .qbuf 0, .reqbufs 0 fun _ => none,
    .streamon ⟨true, true⟩, .timer] := by
  intro h
  obtain ⟨-,h⟩ := h
  have h := (h _ rfl).2 _ rfl
  have h := (h.2 _ rfl).2 _ rfl
  have h := (h.2 _ rfl).2 _ rfl
  obtain ⟨i,hi,-⟩ := h.1 0 rfl
  have hnone : ∀ j : ℕ, (if j < 2 then none else if j < 2 then some (0xA4000000 + 0x20000 * j) else none) = none := by
    intro j
    split <;> rfl
  cases (hnone i).symm.trans hi

end Mx27.Output
