/-
# Each output buffer has one owner, if the application keeps to it
-/
import Mx27Drivers.Output.Timer

namespace Mx27.Output

open List Option

def held (s : Vout) : List ℕ := s.doneQ.entries ++ s.ipuBuf.toList ++ s.readyQ.entries

def Single (s : Vout) : Prop := ∀ i, (held s).count i ≤ 1

def Unqueued (s : Vout) : Event → Prop
  | .qbuf index => index < s.bufferCnt → index ∉ held s
  | _ => True

instance (s : Vout) : DecidablePred (Unqueued s)
  | .qbuf index => inferInstanceAs (Decidable (index < s.bufferCnt → index ∉ held s))
  | .open | .close | .sFmt _ _ _ | .reqbufs _ _ | .dqbuf | .streamon _ | .streamoff | .timer | .pp => isTrue trivial

def OfStream : Event → Prop
  | .qbuf _ | .dqbuf | .streamon _ | .streamoff | .timer | .pp => True
  | .open | .close | .sFmt _ _ _ | .reqbufs _ _ => False

instance : DecidablePred OfStream
  | .qbuf _ | .dqbuf | .streamon _ | .streamoff | .timer | .pp => isTrue trivial
  | .open | .close | .sFmt _ _ _ | .reqbufs _ _ => isFalse id

def pipeline (s : Vout) : List ℕ :=
  s.doneQ.entries ++ (if s.state = .off then none else s.ipuBuf).toList ++ s.readyQ.entries

def acceptedIn (s : Vout) (l : List Event) : List ℕ := Mealy.seen act (fun o => o.accepted.toList) s l

def returnedIn (s : Vout) (l : List Event) : List ℕ := Mealy.seen act (fun o => o.returned.toList) s l

/-- Nothing gets lost, doubled or out of order on its way from `VIDIOC_QBUF` to `VIDIOC_DQBUF`. -/
structure Returns (s : Vout) (l : List Event) : Prop where
  fifo : pipeline s ++ acceptedIn s l = returnedIn s l ++ pipeline (Mealy.after act s l)
  rounds : s.state ≠ .off → ∀ rounds : List (List Event), l = rounds.flatten →
    (∀ r ∈ rounds, [.timer, .pp, .dqbuf].Sublist r) → (pipeline s).length ≤ rounds.length →
      pipeline s <+: returnedIn s l

/-! ### The invariant -/

structure Owned (s : Vout) : Prop where
  inStep : InStep s
  opened : s.openCount ≠ 0
  count : s.bufferCnt ≤ MAX_FRAME_NUM
  known : ∀ i ∈ pipeline s, i < s.bufferCnt
  single : (held s).Nodup
  done : s.state = .off → s.doneQ.entries = []

section Step

variable {s : Vout}

lemma pipeline_of_running (h : s.state ≠ .off) : pipeline s = held s := by
  unfold pipeline held
  rw [if_neg h]

lemma pipeline_sublist (s : Vout) : (pipeline s).Sublist (held s) := by
  unfold pipeline held
  split
  · exact (List.Sublist.refl _).append (nil_sublist _) |>.append (List.Sublist.refl _)
  · exact List.Sublist.refl _

lemma single_iff (s : Vout) : Single s ↔ (held s).Nodup := nodup_iff_count_le_one.symm

lemma length_le_of_nodup {l : List ℕ} {n : ℕ} (hl : l.Nodup) (h : ∀ i ∈ l, i < n) : l.length ≤ n := by
  have hsub : l ⊆ List.range n := fun i hi => mem_range.mpr (h i hi)
  simpa using (hl.subperm hsub).length_le

lemma Owned.length_le (h : Owned s) : (pipeline s).length ≤ MAX_FRAME_NUM :=
  (length_le_of_nodup (h.single.sublist (pipeline_sublist s)) h.known).trans h.count

structure Passes (s : Vout) (r : Vout × Effects) : Prop where
  owned : Owned r.1
  fits : r.2.refused = false
  fifo : pipeline s ++ r.2.accepted.toList = r.2.returned.toList ++ pipeline r.1

variable {s' : Vout} {index : ℕ} {e : Event}

lemma Owned.moved (h : Owned s) (hin : InStep s') (hopen : s'.openCount = s.openCount)
  (hcnt : s'.bufferCnt = s.bufferCnt) (hpipe : pipeline s' = pipeline s) (hheld : (held s').Sublist (held s))
  (hdone : s'.state = .off → s'.doneQ.entries = []) : Passes s (s', {}) where
  owned := ⟨hin, hopen ▸ h.opened, hcnt ▸ h.count, by rw [hpipe,hcnt]; exact h.known, h.single.sublist hheld, hdone⟩
  fits := rfl
  fifo := by simp [hpipe]

lemma Owned.passed (h : Owned s) (hin : InStep s') (hopen : s'.openCount = s.openCount)
  (hcnt : s'.bufferCnt = s.bufferCnt) (hoff : s.state ≠ .off) (hoff' : s'.state ≠ .off)
  (hheld : held s' = held s) : Passes s (s', {}) := by
  refine h.moved hin hopen hcnt ?_ (by rw [hheld]) (fun h => absurd h hoff')
  rw [pipeline_of_running hoff,pipeline_of_running hoff',hheld]

lemma Owned.stays (h : Owned s) : Passes s (s, {}) := ⟨h, rfl, by simp⟩

lemma passes_timer (h : Owned s) (hpending : s.timer = true) :
  Passes s ((timerHandler { s with timer := false }).1, {}) := by
  have hin := inStep_timerHandler h.inStep hpending
  have hon := h.inStep.timer.mp hpending
  have hoff : s.state ≠ .off := by simp [hon]
  obtain ⟨-,e⟩ | ⟨-,he,-⟩ | ⟨i,q,hslot,he,e⟩ :=
    timerHandler_cases (s := { s with timer := false }) hoff (by simp [hon])
  · rw [e] at hin ⊢
    exact h.passed hin rfl rfl hoff (by simp) rfl
  · exact absurd he (h.inStep.ready hon)
  · have hslot' : s.ipuBuf = none := hslot
    have he' : s.readyQ.entries = i :: q.entries := he
    rw [e] at hin ⊢
    split at hin
    · rw [if_pos ‹_›]
      exact h.passed hin rfl rfl hoff hoff (by simp [held,hslot',he'])
    · rw [if_neg ‹_›]
      exact h.passed hin rfl rfl hoff (by simp) (by simp [held,hslot',he'])

lemma lastBufDone_owned (h : Owned s) (hoff : s.state ≠ .off) (hslot : s.ipuBuf.isSome = true) :
  ∃ q i, s.ipuBuf = some i ∧ q.entries = s.doneQ.entries ++ [i] ∧
    lastBufDone { s with ppBusy := false } = ({ s with ppBusy := false, doneQ := q, ipuBuf := none }, {}) := by
  obtain ⟨hnone,-⟩ | ⟨i,q,hi,hq,e⟩ | ⟨i,hi,hfull,-⟩ := lastBufDone_cases { s with ppBusy := false }
  · rw [show s.ipuBuf = none from hnone] at hslot
    cases hslot
  · exact ⟨q,i,hi,hq,e⟩
  · have hlen := h.length_le
    rw [pipeline_of_running hoff,held,show s.ipuBuf = some i from hi] at hlen
    simp only [length_append,toList_some,length_singleton,
      show s.doneQ.entries.length = MAX_FRAME_NUM from hfull] at hlen
    omega

lemma passes_pp (h : Owned s) (hbusy : s.ppBusy = true) :
  Passes s (ppInIrqHandler { s with ppBusy := false }) ∧
    (ppInIrqHandler { s with ppBusy := false }).1.doneQ.entries ≠ [] := by
  have hin := inStep_ppInIrqHandler h.inStep hbusy
  have hoff : s.state ≠ .off := by
    intro hoff
    rw [h.inStep.idle hoff] at hbusy
    cases hbusy
  obtain ⟨q,i,hi,hq,e⟩ := lastBufDone_owned h hoff ((h.inStep.slot hoff).mpr hbusy)
  rw [ppInIrqHandler_eq (s := { s with ppBusy := false }) hoff h.inStep.whole,e] at hin ⊢
  split at hin
  · rw [if_pos ‹_›]
    exact ⟨h.passed hin rfl rfl hoff (by simp) (by simp [held,hi,hq]),by simp [hq]⟩
  · rw [if_neg ‹_›]
    exact ⟨h.passed hin rfl rfl hoff hoff (by simp [held,hi,hq]),by simp [hq]⟩

lemma enqueueReady_owned (h : Owned s) (hlt : index < s.bufferCnt) (hnew : index ∉ held s) :
  ∃ q, q.entries = s.readyQ.entries ++ [index] ∧
    enqueueReady index s = ({ s with readyQ := q }, { accepted := some index }) := by
  obtain ⟨q,hq,e⟩ | ⟨hfull,-⟩ := enqueueReady_cases index s
  · exact ⟨q,hq,e⟩
  · exfalso
    -- with the buffer, there would be more indices than buffers
    have hsub : s.readyQ.entries.Sublist (pipeline s) := sublist_append_right _ _
    have hnodup : (index :: s.readyQ.entries).Nodup :=
      nodup_cons.mpr ⟨fun hi => hnew ((hsub.trans (pipeline_sublist s)).subset hi),
        h.single.sublist (hsub.trans (pipeline_sublist s))⟩
    have hlen := length_le_of_nodup (n := s.bufferCnt) hnodup fun i hi => by
      rcases mem_cons.mp hi with rfl | hi
      · exact hlt
      · exact h.known i (hsub.subset hi)
    rw [length_cons,hfull] at hlen
    have := h.count
    omega

lemma Owned.queued (h : Owned s) (hlt : index < s.bufferCnt) (hnew : index ∉ held s)
  (hin : InStep s') (hopen : s'.openCount = s.openCount) (hcnt : s'.bufferCnt = s.bufferCnt)
  (hdone : s'.doneQ = s.doneQ) (hslot : s'.ipuBuf = s.ipuBuf) (hoff : s'.state = .off ↔ s.state = .off)
  (hready : s'.readyQ.entries = s.readyQ.entries ++ [index]) {eff : Effects} (hacc : eff.accepted = some index)
  (hret : eff.returned = none) (hfit : eff.refused = false) : Passes s (s', eff) := by
  have hpipe : pipeline s' = pipeline s ++ [index] := by simp [pipeline,hdone,hslot,hoff,hready]
  have hheld : held s' = held s ++ [index] := by simp [held,hdone,hslot,hready]
  refine ⟨⟨hin,hopen ▸ h.opened,hcnt ▸ h.count,?_,?_,?_⟩,hfit,by simp [hacc,hret,hpipe]⟩
  · rw [hpipe,hcnt]
    intro i hi
    rcases mem_append.mp hi with hi | hi
    · exact h.known i hi
    · exact mem_singleton.mp hi ▸ hlt
  · rw [hheld]
    exact h.single.append (nodup_singleton _) (by simpa using hnew)
  · rw [hdone]
    exact fun hp => h.done (hoff.mp hp)

lemma passes_qbuf (h : Owned s) (index : ℕ) (hok : Unqueued s (.qbuf index)) : Passes s (qbuf index s) := by
  have hin := (inStep_qbuf h.inStep index).1
  by_cases hlt : s.bufferCnt ≤ index
  · unfold qbuf
    rw [if_pos hlt]
    exact h.stays
  · have hnew := hok (by omega)
    obtain ⟨q,hq,e⟩ := enqueueReady_owned h (by omega) hnew
    unfold qbuf at hin ⊢
    rw [if_neg hlt,e] at hin ⊢
    by_cases hpaused : s.state = .paused
    · rw [if_pos hpaused] at hin ⊢
      exact h.queued (by omega) hnew hin rfl rfl rfl rfl (by simp [hpaused]) hq rfl rfl rfl
    · rw [if_neg hpaused] at hin ⊢
      exact h.queued (by omega) hnew hin rfl rfl rfl rfl Iff.rfl hq rfl rfl rfl

lemma passes_dqbuf (h : Owned s) : Passes s (dqbuf s) := by
  obtain ⟨-,e⟩ | ⟨i,q,he,e⟩ := dqbuf_cases s
  · rw [e]
    exact h.stays
  · rw [e]
    have hpipe : pipeline s = i :: pipeline { s with doneQ := q } := by simp [pipeline,he]
    have hheld : held s = i :: held { s with doneQ := q } := by simp [held,he]
    refine ⟨⟨?_,h.opened,h.count,fun j hj => ?_,?_,fun hoff => ?_⟩,rfl,by simp [hpipe]⟩
    · exact ⟨⟨h.inStep.timer,h.inStep.ready,h.inStep.paused⟩,h.inStep.slot,h.inStep.idle,h.inStep.whole⟩
    · exact h.known j (by rw [hpipe]; exact mem_cons_of_mem i hj)
    · have := h.single
      rw [hheld] at this
      exact this.of_cons
    · have := h.done hoff
      rw [he] at this
      cases this

lemma passes_streamon (h : Owned s) (a : Answers) : Passes s ((streamon a s).1, {}) := by
  have hin := (inStep_streamon h.inStep a).1
  unfold streamon at hin ⊢
  split at hin
  · rw [if_pos ‹_›]
    exact h.stays
  · rename_i hoff
    rw [if_neg hoff]
    rw [not_not] at hoff
    have hdrop : (s.doneQ.entries ++ (none : Option ℕ).toList ++ s.readyQ.entries).Sublist (held s) :=
      ((List.Sublist.refl _).append (nil_sublist _)).append (List.Sublist.refl _)
    split at hin
    · rw [if_pos ‹_›]
      exact h.stays
    · rw [if_neg ‹_›]
      split at hin
      · rw [if_pos ‹_›]
        exact h.moved hin rfl rfl (by simp [pipeline,hoff]) hdrop (fun hp => by cases hp)
      · rw [if_neg ‹_›]
        exact h.moved hin rfl rfl (by simp [pipeline,hoff]) hdrop h.done

lemma owned_streamoff (h : Owned s) : Owned (streamoff s) := by
  have hin := inStep_streamoff h.inStep
  unfold streamoff at hin ⊢
  split at hin
  · rw [if_pos ‹_›]
    exact h
  · rw [if_neg ‹_›]
    refine ⟨hin,h.opened,h.count,fun i hi => ?_,?_,fun _ => rfl⟩
    · simp [pipeline] at hi
    · have hslot : s.ipuBuf.toList.Sublist (held s) :=
        (sublist_append_right _ _).trans (sublist_append_left _ _)
      simpa [held] using h.single.sublist hslot

lemma passes_act (h : Owned s) (he : OfStream e) (hne : e ≠ .streamoff) (hok : Unqueued s e) :
  Passes s (act s e) := by
  have hopen := h.opened
  cases e with
  | timer =>
    simp only [act]
    split
    · obtain ⟨howned,-,hfifo⟩ := passes_timer h ‹_›
      have heff : (timerHandler { s with timer := false }).2.refused = false ∧
          (timerHandler { s with timer := false }).2.accepted = none ∧
          (timerHandler { s with timer := false }).2.returned = none := by
        have hon := h.inStep.timer.mp ‹_›
        obtain ⟨-,e⟩ | ⟨-,-,e⟩ | ⟨i,q,-,-,e⟩ :=
          timerHandler_cases (s := { s with timer := false }) (by simp [hon]) (by simp [hon])
        all_goals rw [e]; exact ⟨rfl,rfl,rfl⟩
      exact ⟨howned,heff.1,by rw [heff.2.1,heff.2.2]; exact hfifo⟩
    · exact h.stays
  | pp =>
    simp only [act]
    split
    · exact (passes_pp h ‹_›).1
    · exact h.stays
  | qbuf index =>
    simp only [act,if_neg hopen]
    exact passes_qbuf h index hok
  | dqbuf =>
    simp only [act,if_neg hopen]
    exact passes_dqbuf h
  | streamon a =>
    simp only [act,if_neg hopen]
    obtain ⟨howned,-,hfifo⟩ := passes_streamon h a
    have heff : (streamon a s).2.refused = false ∧ (streamon a s).2.accepted = none ∧
        (streamon a s).2.returned = none := by
      unfold streamon
      split
      · exact ⟨rfl,rfl,rfl⟩
      · split
        · exact ⟨rfl,rfl,rfl⟩
        · split <;> exact ⟨rfl,rfl,rfl⟩
    exact ⟨howned,heff.1,by rw [heff.2.1,heff.2.2]; exact hfifo⟩
  | streamoff => exact absurd rfl hne
  | «open» | close | sFmt | reqbufs => exact absurd he id

lemma owned_act (h : Owned s) (he : OfStream e) (hok : Unqueued s e) :
  Owned (act s e).1 ∧ (act s e).2.refused = false := by
  by_cases hne : e = .streamoff
  · subst hne
    simp only [act,if_neg h.opened]
    exact ⟨owned_streamoff h,trivial⟩
  · exact ⟨(passes_act h he hne hok).owned,(passes_act h he hne hok).fits⟩

lemma not_single_of_held (hopen : s.openCount ≠ 0) (hlt : index < s.bufferCnt) (hheld : index ∈ held s) :
  ¬ (Single (act s (.qbuf index)).1 ∧ (act s (.qbuf index)).2.refused = false) := by
  rintro ⟨hsingle,hfit⟩
  simp only [act,if_neg hopen,qbuf,if_neg (not_le.mpr hlt)] at hsingle hfit
  obtain ⟨q,hq,e⟩ | ⟨-,e⟩ := enqueueReady_cases index s
  · -- the count of the index goes up from at least one
    have htwice : ∀ s' : Vout, Single s' → s'.doneQ = s.doneQ → s'.ipuBuf = s.ipuBuf → s'.readyQ = q → False := by
      intro s' hsingle hd hs hr
      have hcount := hsingle index
      rw [held,hd,hs,hr,hq,← List.append_assoc,count_append,← held] at hcount
      have := count_pos_iff.mpr hheld
      simp only [count_singleton_self] at hcount
      omega
    rw [e] at hsingle
    split at hsingle
    · exact htwice _ hsingle rfl rfl rfl
    · exact htwice _ hsingle rfl rfl rfl
  · rw [e] at hfit
    split at hfit <;> cases hfit

/-! ### Progress -/

def need (s : Vout) : List Event :=
  if s.doneQ.entries ≠ [] then [.dqbuf] else if s.ppBusy then [.pp, .dqbuf] else [.timer, .pp, .dqbuf]

lemma need_of_done (h : s.doneQ.entries ≠ []) : need s = [.dqbuf] := by rw [need,if_pos h]

lemma need_of_busy (h : s.doneQ.entries = []) (hb : s.ppBusy = true) : need s = [.pp, .dqbuf] := by
  rw [need,if_neg (by simpa using h),if_pos hb]

lemma need_of_idle (h : s.doneQ.entries = []) (hb : ¬ s.ppBusy = true) : need s = [.timer, .pp, .dqbuf] := by
  rw [need,if_neg (by simpa using h),if_neg hb]

lemma need_cases (s : Vout) : (s.doneQ.entries ≠ [] ∧ need s = [.dqbuf]) ∨
  (s.doneQ.entries = [] ∧ s.ppBusy = true ∧ need s = [.pp, .dqbuf]) ∨
  (s.doneQ.entries = [] ∧ ¬ s.ppBusy = true ∧ need s = [.timer, .pp, .dqbuf]) := by
  by_cases hd : s.doneQ.entries = []
  · by_cases hb : s.ppBusy = true
    · exact Or.inr (Or.inl ⟨hd,hb,need_of_busy hd hb⟩)
    · exact Or.inr (Or.inr ⟨hd,hb,need_of_idle hd hb⟩)
  · exact Or.inl ⟨hd,need_of_done hd⟩

lemma need_sublist (s : Vout) : (need s).Sublist [.timer, .pp, .dqbuf] := by
  obtain ⟨-,e⟩ | ⟨-,-,e⟩ | ⟨-,-,e⟩ := need_cases s
  · rw [e]
    exact ((List.Sublist.refl _).cons _).cons _
  · rw [e]
    exact (List.Sublist.refl _).cons _
  · rw [e]

lemma need_ne_nil (s : Vout) : need s ≠ [] := by
  obtain ⟨-,e⟩ | ⟨-,-,e⟩ | ⟨-,-,e⟩ := need_cases s
  all_goals simp [e]

lemma need_kept (hdone : s'.doneQ = s.doneQ) (hbusy : s'.ppBusy = s.ppBusy)
  (hhead : (need s).head? ≠ some e) {l : List Event} (hl : (need s).Sublist (e :: l)) : (need s').Sublist l := by
  rw [show need s' = need s by rw [need,need,hdone,hbusy]]
  exact Mealy.sublist_of_head_ne hl hhead

lemma Owned.pending (h : Owned s) (hoff : s.state ≠ .off) (hpipe : pipeline s ≠ []) (hdone : s.doneQ.entries = [])
  (hidle : ¬ s.ppBusy = true) : s.timer = true := by
  have hslot : s.ipuBuf = none := by
    have := (not_congr (h.inStep.slot hoff)).mpr hidle
    simpa using this
  have hready : s.readyQ.entries ≠ [] := by
    intro he
    apply hpipe
    simp [pipeline_of_running hoff,held,hdone,hslot,he]
  refine h.inStep.timer.mpr ?_
  cases hs : s.state with
  | off => exact absurd hs hoff
  | on => rfl
  | paused => exact absurd (h.inStep.paused hs hready) hidle
  | stopping => exact absurd hs h.inStep.whole

lemma timerHandler_busy (h : Owned s) (hpending : s.timer = true) :
  (timerHandler { s with timer := false }).1.state ≠ .off ∧
    (timerHandler { s with timer := false }).1.doneQ = s.doneQ ∧
    (timerHandler { s with timer := false }).1.ppBusy = true := by
  have hon := h.inStep.timer.mp hpending
  have hoff : s.state ≠ .off := by simp [hon]
  obtain ⟨hslot,e⟩ | ⟨-,he,-⟩ | ⟨i,q,-,-,e⟩ :=
    timerHandler_cases (s := { s with timer := false }) hoff (by simp [hon])
  · rw [e]
    exact ⟨by simp,rfl,(h.inStep.slot hoff).mp hslot⟩
  · exact absurd he (h.inStep.ready hon)
  · rw [e]
    split
    · exact ⟨hoff,rfl,rfl⟩
    · exact ⟨by simp,rfl,rfl⟩

lemma running_act (h : Owned s) (hoff : s.state ≠ .off) (he : OfStream e) (hne : e ≠ .streamoff) :
  (act s e).1.state ≠ .off := by
  have hopen := h.opened
  cases e with
  | streamoff => exact absurd rfl hne
  | «open» | close | sFmt | reqbufs => exact absurd he id
  | dqbuf =>
    simp only [act,if_neg hopen]
    obtain ⟨-,e⟩ | ⟨i,q,-,e⟩ := dqbuf_cases s
    all_goals rw [e]; exact hoff
  | streamon a =>
    simp only [act,if_neg hopen,streamon,if_pos hoff]
    exact hoff
  | qbuf index =>
    simp only [act,if_neg hopen,qbuf]
    split
    · exact hoff
    · obtain ⟨q,-,e⟩ | ⟨-,e⟩ := enqueueReady_cases index s
      all_goals rw [e]; split <;> [simp; exact hoff]
  | timer =>
    simp only [act]
    split
    · exact (timerHandler_busy h ‹_›).1
    · exact hoff
  | pp =>
    simp only [act]
    split
    · rw [ppInIrqHandler_eq (s := { s with ppBusy := false }) hoff h.inStep.whole]
      split
      · simp
      · rw [(lastBufDone_keeps { s with ppBusy := false }).1]
        exact hoff
    · exact hoff

lemma need_act (h : Owned s) (hoff : s.state ≠ .off) (hpipe : pipeline s ≠ []) (he : OfStream e)
  (hne : e ≠ .streamoff) (hret : (act s e).2.returned = none) {l : List Event} (hl : (need s).Sublist (e :: l)) :
  (need (act s e).1).Sublist l := by
  have hopen := h.opened
  cases e with
  | streamoff => exact absurd rfl hne
  | «open» | close | sFmt | reqbufs => exact absurd he id
  | dqbuf =>
    simp only [act,if_neg hopen] at hret ⊢
    obtain ⟨hd,e⟩ | ⟨i,q,-,e⟩ := dqbuf_cases s
    · rw [e]
      refine need_kept rfl rfl ?_ hl
      obtain ⟨hd',-⟩ | ⟨-,-,en⟩ | ⟨-,-,en⟩ := need_cases s
      · exact absurd hd hd'
      · simp [en]
      · simp [en]
    · rw [e] at hret
      cases hret
  | streamon a =>
    simp only [act,if_neg hopen,streamon,if_pos hoff]
    refine need_kept rfl rfl ?_ hl
    obtain ⟨-,en⟩ | ⟨-,-,en⟩ | ⟨-,-,en⟩ := need_cases s
    all_goals simp [en]
  | qbuf index =>
    have hhead : (need s).head? ≠ some (.qbuf index) := by
      obtain ⟨-,en⟩ | ⟨-,-,en⟩ | ⟨-,-,en⟩ := need_cases s
      all_goals simp [en]
    have hkeep : (act s (.qbuf index)).1.doneQ = s.doneQ ∧ (act s (.qbuf index)).1.ppBusy = s.ppBusy := by
      simp only [act,if_neg hopen,qbuf]
      split
      · exact ⟨rfl,rfl⟩
      · obtain ⟨q,-,e⟩ | ⟨-,e⟩ := enqueueReady_cases index s
        all_goals rw [e]; split <;> exact ⟨rfl,rfl⟩
    exact need_kept hkeep.1 hkeep.2 hhead hl
  | timer =>
    by_cases hpending : s.timer = true
    · obtain ⟨-,hdone,hbusy⟩ := timerHandler_busy h hpending
      simp only [act,if_pos hpending]
      obtain ⟨hd,en⟩ | ⟨hd,hb,en⟩ | ⟨hd,-,en⟩ := need_cases s
      · rw [need_of_done (by rwa [hdone])]
        rw [en] at hl
        simpa using hl
      · exact need_kept hdone (hbusy.trans hb.symm) (by simp [en]) hl
      · rw [need_of_busy (by rwa [hdone]) hbusy]
        rw [en] at hl
        exact hl.tail
    · simp only [act,if_neg hpending]
      refine need_kept rfl rfl ?_ hl
      obtain ⟨-,en⟩ | ⟨-,-,en⟩ | ⟨hd,hb,-⟩ := need_cases s
      · simp [en]
      · simp [en]
      · exact absurd (h.pending hoff hpipe hd hb) hpending
  | pp =>
    by_cases hbusy : s.ppBusy = true
    · simp only [act,if_pos hbusy]
      rw [need_of_done (passes_pp h hbusy).2]
      obtain ⟨-,en⟩ | ⟨-,-,en⟩ | ⟨-,hb,-⟩ := need_cases s
      · rw [en] at hl
        simpa using hl
      · rw [en] at hl
        exact hl.tail
      · exact absurd hbusy hb
    · simp only [act,if_neg hbusy]
      refine need_kept rfl rfl ?_ hl
      obtain ⟨-,en⟩ | ⟨-,hb,-⟩ | ⟨-,-,en⟩ := need_cases s
      · simp [en]
      · exact absurd hb hbusy
      · simp [en]

end Step

/-! ### Whole runs -/

lemma returns_run {s : Vout} (h : Owned s) {l : List Event} (hl : ∀ e ∈ l, OfStream e ∧ e ≠ .streamoff)
  (hok : Run.AllSteps step Unqueued s l) : Returns s l := by
  have hok := hok.and_labels hl
  refine ⟨Mealy.seen_fifo _ _ (J := Owned) (fun s e h he => (passes_act h he.2.1 he.2.2 he.1).owned)
    (fun s e h he => (passes_act h he.2.1 he.2.2 he.1).fifo) l hok h,?_⟩
  rintro hoff rounds rfl hr hlen
  -- while the stream runs, a round takes a buffer out
  have hJ : ∀ s e, Owned s ∧ s.state ≠ .off → Unqueued s e ∧ OfStream e ∧ e ≠ .streamoff →
      Owned (act s e).1 ∧ (act s e).1.state ≠ .off := fun s e h he =>
    ⟨(passes_act h.1 he.2.1 he.2.2 he.1).owned,running_act h.1 h.2 he.2.1 he.2.2⟩
  have hfifo : ∀ s e, Owned s ∧ s.state ≠ .off → Unqueued s e ∧ OfStream e ∧ e ≠ .streamoff →
      pipeline s ++ (act s e).2.accepted.toList = (act s e).2.returned.toList ++ pipeline (act s e).1 := fun s e h he =>
    (passes_act h.1 he.2.1 he.2.2 he.1).fifo
  refine Mealy.rounds_prefix (fun o => o.accepted.toList) (fun o => o.returned.toList) hJ hfifo (fun s r hs hokr hround hpipe => ?_) hok ⟨h,hoff⟩ hr hlen
  refine Mealy.seen_of_need (fun o => o.accepted.toList) (fun o => o.returned.toList) hJ hfifo need_ne_nil (fun s e l hs he hpipe hret hsub => ?_) r hokr hs hpipe
    ((need_sublist s).trans hround)
  exact need_act hs.1 hs.2 hpipe he.2.1 he.2.2 (by simpa using hret) hsub

lemma owned_reqbufs {s : Vout} (h : InStep s) (hopen : s.openCount ≠ 0) (hoff : s.state = .off) {count : ℕ}
  {alloc : ℕ → Option ℕ} (hcount : count ≠ 0) (halloc : ∀ i < frameNum count, (alloc i).isSome = true) :
  Owned (act s (.reqbufs count alloc)).1 := by
  have hin := (inStep_act h (.reqbufs count alloc)).1
  have hall : ((List.range (frameNum count)).find? fun i => (alloc i).isNone) = none := by
    rw [find?_eq_none]
    intro i hi
    simpa [isSome_iff_ne_none] using halloc i (mem_range.mp hi)
  have hframe : frameNum count ≤ MAX_FRAME_NUM := by
    unfold frameNum
    split
    · decide
    · split <;> omega
  have hkeep : (dropBuffers s).openCount = s.openCount ∧ (dropBuffers s).ipuBuf = s.ipuBuf := by
    unfold dropBuffers
    split <;> exact ⟨rfl,rfl⟩
  simp only [act,if_neg hopen,reqbufs,if_neg hcount,hoff,ne_eq,not_true_eq_false,if_false,makeBuffers,
    mxcAllocateBuffers,hall,if_true] at hin ⊢
  refine ⟨hin,by rw [hkeep.1]; exact hopen,hframe,fun i hi => ?_,?_,fun _ => rfl⟩
  · simp [pipeline,(dropBuffers_keeps s).1,hoff] at hi
  · simp only [held,reset_entries,nil_append,append_nil,hkeep.2]
    cases s.ipuBuf <;> simp

lemma inStep_after (l : List Event) : InStep (Mealy.after act probe l) :=
  Mealy.after_inv (J := InStep) (fun _ e h _ => (inStep_act h e).1) l
    Run.AllSteps.always (InStep.of_off rfl rfl rfl)

/-- **Each buffer has one owner exactly in the runs in which none is queued that has one.** -/
theorem owners_run (l₀ : List Event) (count : ℕ) (alloc : ℕ → Option ℕ) (hopen : (Mealy.after act probe l₀).openCount ≠ 0)
  (hoff : (Mealy.after act probe l₀).state = .off) (hcount : count ≠ 0)
  (halloc : ∀ i < frameNum count, (alloc i).isSome = true) {l : List Event} (hl : ∀ e ∈ l, OfStream e) :
  (Run.AllSteps step (fun s e => Single (act s e).1 ∧ (act s e).2.refused = false)
      (act (Mealy.after act probe l₀) (.reqbufs count alloc)).1 l ↔
    Run.AllSteps step Unqueued (act (Mealy.after act probe l₀) (.reqbufs count alloc)).1 l) ∧
  (Run.AllSteps step Unqueued (act (Mealy.after act probe l₀) (.reqbufs count alloc)).1 l → ∀ l₁ l₂, l = l₁ ++ l₂ →
    (∀ e ∈ l₂, e ≠ .streamoff) → Returns (Mealy.after act (act (Mealy.after act probe l₀) (.reqbufs count alloc)).1 l₁) l₂) := by
  have hstart := owned_reqbufs (inStep_after l₀) hopen hoff hcount halloc
  refine ⟨Run.allSteps_iff (J := Owned) (Q := OfStream) (fun e s h he => ⟨fun hP => ?_,fun hok => ?_⟩)
    (fun e s s' h he hok hs' => ?_) hl hstart,?_⟩
  · cases e with
    | qbuf index => exact fun hlt hheld => not_single_of_held h.opened hlt hheld hP
    | dqbuf | streamon | streamoff | timer | pp => trivial
    | «open» | close | sFmt | reqbufs => exact absurd he id
  · obtain ⟨howned,hfit⟩ := owned_act h he hok
    exact ⟨(single_iff _).mpr howned.single,hfit⟩
  · obtain rfl := Option.some.inj hs'
    exact (owned_act h he hok).1
  · rintro hok l₁ l₂ rfl hbreak
    obtain ⟨hok1,hok2⟩ := Mealy.allSteps_append l₁ hok
    have howned := Mealy.after_inv (J := Owned) (fun s e h he => (owned_act h he.2 he.1).1) l₁
      (hok1.and_labels fun e he => hl e (mem_append_left l₂ he)) hstart
    exact returns_run howned (fun e he => ⟨hl e (mem_append_right l₁ he),hbreak e he⟩) hok2

def twoBuffers : Vout := (act (Mealy.after act probe [.open, .sFmt 320 240 320]) (.reqbufs 2 fun i => some (0x20000 * (i + 1)))).1

/-- Two buffers go around; buffer 0 is queued only once the slot is cleared. -/
theorem owners_twoBuffers :
  Run.AllSteps step (fun s e => Single (act s e).1 ∧ (act s e).2.refused = false) twoBuffers
    [.qbuf 1, .streamon ⟨true, true⟩, .qbuf 0, .timer, .pp, .dqbuf, .timer, .qbuf 1, .pp, .dqbuf] ∧
  Returns (Mealy.after act twoBuffers [.qbuf 1, .streamon ⟨true, true⟩, .qbuf 0])
    [.timer, .pp, .dqbuf, .timer, .qbuf 1, .pp, .dqbuf] := by
  have h := owners_run [.open,.sFmt 320 240 320] 2 (fun i => some (0x20000 * (i + 1)))
    (l := [.qbuf 1,.streamon ⟨true,true⟩,.qbuf 0,.timer,.pp,.dqbuf,.timer,.qbuf 1,.pp,.dqbuf])
    (by decide) rfl (by decide) (fun _ _ => rfl) (by decide)
  have hok : Run.AllSteps step Unqueued twoBuffers
      [.qbuf 1,.streamon ⟨true,true⟩,.qbuf 0,.timer,.pp,.dqbuf,.timer,.qbuf 1,.pp,.dqbuf] := by decide
  exact ⟨h.1.mpr hok,h.2 hok [.qbuf 1,.streamon ⟨true,true⟩,.qbuf 0] _ rfl (by simp)⟩

/-- **A buffer can be queued twice**: `VIDIOC_QBUF` accepts it again. -/
theorem queued_twice : ¬ Run.AllSteps step (fun s e => Single (act s e).1 ∧ (act s e).2.refused = false) twoBuffers
  [.qbuf 1, .qbuf 1] := by
  intro h
  have hsingle := (h.2 _ rfl).1.1 1
  exact absurd hsingle (by decide)

end Mx27.Output
