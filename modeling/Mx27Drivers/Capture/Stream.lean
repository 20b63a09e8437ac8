/-
# Frames and buffers of a running stream

Two invariants of the driver, kept by everything that happens while a stream runs.
-/
import Mx27Drivers.Capture.Camera

namespace Mx27.Capture

open List Option Function

open DoubleBuffer

def State.count (s : State) (i : ℕ) : ℕ := s.workingQ.count i + s.readyQ.count i + s.doneQ.count i + s.undiQ.count i

def Frame.flagged (f : Frame) : Bool := f.queued || f.done

structure Listed (s : State) : Prop where
  one : ∀ i, (s.frame i).queued = true → (s.frame i).done = false
  count_le : ∀ i, s.count i ≤ (s.frame i).flagged.toNat
  queued : ∀ i, i ∈ s.workingQ ∨ i ∈ s.readyQ → (s.frame i).queued = true

def Balanced (s s' : State) : Prop :=
  ∀ i, s'.count i + (s.frame i).flagged.toNat = s.count i + (s'.frame i).flagged.toNat

lemma Balanced.refl (s : State) : Balanced s s := fun _ => rfl

lemma Balanced.count_le {s s' : State} (h : Balanced s s') (hs : ∀ i, s.count i ≤ (s.frame i).flagged.toNat) (i : ℕ) :
  s'.count i ≤ (s'.frame i).flagged.toNat := by
  have := h i
  have := hs i
  omega

structure Ringed (s : State) (old live : List ℕ) : Prop where
  working : s.workingQ = old ++ live
  holds : Holds s.prp.buf s.pingPong (live.map s.dest)
  skip : 0 < s.skipFrame → s.readyQ = [] ∧ live.length ≤ 1
  selected : s.selected = true
  pix : s.cfg.ch2Pix ≠ .unused

structure SameSession (s s' : State) : Prop where
  frame : ∀ i, (s'.frame i).paddress = (s.frame i).paddress ∧ (s'.frame i).length = (s.frame i).length ∧
    (s'.frame i).allocated = (s.frame i).allocated
  image : s'.cfg.image = s.cfg.image
  prp : s'.prp.image = s.prp.image ∧ s'.prp.ch2en = s.prp.ch2en
  selected : s'.selected = s.selected
  openCount : s'.openCount = s.openCount
  captureOn : s'.captureOn = s.captureOn
  minor : s'.devMinor = s.devMinor ∧ s'.imageSz = s.imageSz

namespace SameSession

variable {s s' s'' : State}

lemma refl (s : State) : SameSession s s := ⟨fun _ => ⟨rfl, rfl, rfl⟩, rfl, ⟨rfl, rfl⟩, rfl, rfl, rfl, ⟨rfl, rfl⟩⟩

lemma trans (h : SameSession s s') (h' : SameSession s' s'') : SameSession s s'' where
  frame i := ⟨(h'.frame i).1.trans (h.frame i).1, (h'.frame i).2.1.trans (h.frame i).2.1,
    (h'.frame i).2.2.trans (h.frame i).2.2⟩
  image := h'.image.trans h.image
  prp := ⟨h'.prp.1.trans h.prp.1, h'.prp.2.trans h.prp.2⟩
  selected := h'.selected.trans h.selected
  openCount := h'.openCount.trans h.openCount
  captureOn := h'.captureOn.trans h.captureOn
  minor := ⟨h'.minor.1.trans h.minor.1, h'.minor.2.trans h.minor.2⟩

lemma offset (h : SameSession s s') : s'.offset = s.offset := by
  simp only [State.offset,h.minor]

lemma dest (h : SameSession s s') : s'.dest = s.dest := by
  funext i
  simp only [State.dest,State.eba,h.image,h.offset,(h.frame i).1]

lemma pix (h : SameSession s s') : s'.cfg.ch2Pix = s.cfg.ch2Pix := congrArg Image.pix h.image

lemma setFrame (s : State) (i : ℕ) {f : Frame} (ha : f.paddress = (s.frame i).paddress)
  (hl : f.length = (s.frame i).length) (hv : f.allocated = (s.frame i).allocated) :
  SameSession s (s.setFrame i f) where
  frame j := by
    by_cases h : j = i
    · subst h
      simp [ha,hl,hv]
    · rw [setFrame_other f h]
      exact ⟨rfl,rfl,rfl⟩
  image := rfl
  prp := ⟨rfl,rfl⟩
  selected := rfl
  openCount := rfl
  captureOn := rfl
  minor := ⟨rfl,rfl⟩

end SameSession

section Refill

variable {s : State} {i : ℕ} {old live : List ℕ}

def State.refilled (s : State) : State :=
  match s.readyQ with
  | [] => { s with skipFrame := s.skipFrame + 1 }
  | i :: q => s.armedReady i q

lemma refill_eq (hsel : s.selected = true) (hpix : s.cfg.ch2Pix ≠ .unused) : refill s = some s.refilled := by
  unfold refill State.refilled
  cases hq : s.readyQ with
  | nil => rfl
  | cons i q => exact armReady_cons hsel hpix hq

lemma refilled_same (s : State) : SameSession s s.refilled := by
  unfold State.refilled
  cases s.readyQ with
  | nil => exact ⟨fun _ => ⟨rfl,rfl,rfl⟩,rfl,⟨rfl,rfl⟩,rfl,rfl,rfl,⟨rfl,rfl⟩⟩
  | cons i q => exact ⟨fun _ => ⟨rfl,rfl,rfl⟩,armed_image,⟨rfl,rfl⟩,rfl,rfl,rfl,⟨rfl,rfl⟩⟩

lemma refilled_lists (s : State) : s.refilled.workingQ = s.workingQ ++ s.readyQ.head?.toList ∧
  s.refilled.readyQ = s.readyQ.tail ∧ s.refilled.doneQ = s.doneQ ∧ s.refilled.undiQ = s.undiQ ∧
  s.refilled.frame = s.frame ∧ s.refilled.encCounter = s.encCounter ∧ s.refilled.scheduled = s.scheduled := by
  unfold State.refilled
  cases hq : s.readyQ with
  | nil => simp [hq]
  | cons i q => exact ⟨rfl,rfl,rfl,rfl,rfl,rfl,rfl⟩

lemma Ringed.refilled (h : Ringed s old live) (hlive : live.length ≤ 1) :
  Ringed s.refilled old (live ++ s.readyQ.head?.toList) := by
  have hsame := refilled_same s
  refine ⟨?_,?_,?_,hsame.selected.trans h.selected,hsame.pix ▸ h.pix⟩
  · rw [(refilled_lists s).1,h.working,List.append_assoc]
  · rw [hsame.dest]
    unfold State.refilled
    cases hq : s.readyQ with
    | nil => simpa using h.holds
    | cons i q =>
      rw [head?_cons,toList_some,map_append,map_singleton]
      exact h.holds.arm _ (by simpa using hlive)
  · unfold State.refilled
    cases hq : s.readyQ with
    | nil => exact fun _ => ⟨rfl,by simpa using hlive⟩
    | cons i q => exact fun hs => absurd (h.skip hs).1 (by simp [hq])

end Refill

/-! ### A filled frame -/

section Interrupt

variable {s : State} {i : ℕ} {old live : List ℕ}

def State.passed (s : State) (j : ℕ) : State :=
  if s.devMinor then { s with workingQ := s.workingQ.tail, undiQ := s.undiQ ++ [j], scheduled := true }
  else { s with workingQ := s.workingQ.tail, doneQ := s.doneQ ++ [j], encCounter := s.encCounter + 1 }

def State.completed (s : State) (j : ℕ) : State :=
  ((s.setFrame j { s.frame j with queued := false, done := true }).refilled).passed j

variable {w : List ℕ} {j : ℕ}

lemma cameraCallback_cons (hsel : s.selected = true) (hpix : s.cfg.ch2Pix ≠ .unused)
  (hw : s.workingQ = j :: w) (hq : (s.frame j).queued = true) : cameraCallback s = some (s.completed j) := by
  have hrefill := refill_eq (s := s.setFrame j { s.frame j with queued := false, done := true }) hsel hpix
  simp only [cameraCallback,hw,hq,if_true,hrefill,bind_eq_bind,bind_some,State.completed,
    State.passed]
  split <;> rfl

lemma passed_same (s : State) (j : ℕ) : SameSession s (s.passed j) := by
  unfold State.passed
  split
  · exact ⟨fun _ => ⟨rfl,rfl,rfl⟩,rfl,⟨rfl,rfl⟩,rfl,rfl,rfl,⟨rfl,rfl⟩⟩
  · exact ⟨fun _ => ⟨rfl,rfl,rfl⟩,rfl,⟨rfl,rfl⟩,rfl,rfl,rfl,⟨rfl,rfl⟩⟩

lemma passed_lists (s : State) (j : ℕ) : (s.passed j).workingQ = s.workingQ.tail ∧ (s.passed j).readyQ = s.readyQ ∧
  (s.passed j).doneQ = s.doneQ ++ (if s.devMinor then [] else [j]) ∧
  (s.passed j).undiQ = s.undiQ ++ (if s.devMinor then [j] else []) ∧ (s.passed j).frame = s.frame := by
  unfold State.passed
  split <;> simp [*]

lemma completed_same (s : State) (j : ℕ) : SameSession s (s.completed j) := by
  have hset := SameSession.setFrame s j (f := { s.frame j with queued := false, done := true }) rfl rfl rfl
  exact (hset.trans (refilled_same _)).trans (passed_same _ j)

lemma completed_frame (s : State) (j : ℕ) :
  (s.completed j).frame = Function.update s.frame j { s.frame j with queued := false, done := true } := by
  unfold State.completed
  rw [(passed_lists _ _).2.2.2.2,(refilled_lists _).2.2.2.2.1]
  rfl

lemma completed_lists (s : State) (j : ℕ) :
  (s.completed j).workingQ = (s.workingQ ++ s.readyQ.head?.toList).tail ∧ (s.completed j).readyQ = s.readyQ.tail ∧
  (s.completed j).doneQ = s.doneQ ++ (if s.devMinor then [] else [j]) ∧
  (s.completed j).undiQ = s.undiQ ++ (if s.devMinor then [j] else []) := by
  have hminor := ((SameSession.setFrame s j (f := { s.frame j with queued := false, done := true }) rfl rfl rfl).trans
    (refilled_same _)).minor.1
  have hl := refilled_lists (s.setFrame j { s.frame j with queued := false, done := true })
  have hp := passed_lists (s.setFrame j { s.frame j with queued := false, done := true }).refilled j
  unfold State.completed
  rw [hp.1,hp.2.1,hp.2.2.1,hp.2.2.2.1,hl.1,hl.2.1,hl.2.2.1,hl.2.2.2.1,hminor]
  exact ⟨rfl,rfl,rfl,rfl⟩

lemma completed_counters (s : State) (j : ℕ) :
  (s.completed j).encCounter = s.encCounter + (if s.devMinor then 0 else 1) ∧
  (s.completed j).scheduled = (s.devMinor || s.scheduled) := by
  have hminor := ((SameSession.setFrame s j (f := { s.frame j with queued := false, done := true }) rfl rfl rfl).trans
    (refilled_same _)).minor.1
  obtain ⟨-,-,-,-,-,he,hs⟩ := refilled_lists (s.setFrame j { s.frame j with queued := false, done := true })
  unfold State.completed State.passed
  rw [hminor]
  cases s.devMinor with
  | true => exact ⟨he,rfl⟩
  | false => exact ⟨congrArg (· + 1) he,hs⟩

lemma Listed.head_ne (h : Listed s) (hw : s.workingQ = j :: w) (hi : i ∈ w ∨ i ∈ s.readyQ) :
  i ≠ j := by
  rintro rfl
  have hpos : 0 < w.count i + s.readyQ.count i := by
    rcases hi with hi | hi
    · have := count_pos_iff.mpr hi
      omega
    · have := count_pos_iff.mpr hi
      omega
  have hone := h.count_le i
  simp only [State.count,hw,count_cons_self] at hone
  have : (s.frame i).flagged.toNat ≤ 1 := Bool.toNat_le _
  omega

lemma balanced_completed (h : Listed s) (hw : s.workingQ = j :: w) :
  Balanced s (s.completed j) := by
  have hj : (s.frame j).queued = true := h.queued j (by simp [hw])
  obtain ⟨lw,lr,ld,lu⟩ := completed_lists s j
  intro i
  have hcount : (s.completed j).count i = s.count i := by
    unfold State.count
    rw [lw,lr,ld,lu,hw]
    cases hr : s.readyQ <;> cases s.devMinor <;> simp [count_cons,count_append] <;> omega
  rw [hcount,completed_frame]
  by_cases e : i = j
  · subst e
    simp [Frame.flagged,hj]
  · simp [e]

lemma Listed.completed (h : Listed s) (hw : s.workingQ = j :: w) : Listed (s.completed j) := by
  obtain ⟨lw,lr,-,-⟩ := completed_lists s j
  refine ⟨fun i => ?_,(balanced_completed h hw).count_le h.count_le,fun i hi => ?_⟩
  · rw [completed_frame]
    by_cases e : i = j
    · simp [e]
    · simpa [e] using h.one i
  · have hmem : i ∈ w ∨ i ∈ s.readyQ := by
      rw [lw,lr,hw] at hi
      revert hi
      cases s.readyQ <;> simp <;> tauto
    rw [completed_frame,update_of_ne (h.head_ne hw hmem)]
    exact h.queued i (by rw [hw]; rcases hmem with hi | hi <;> simp [hi])

lemma mem_completed (h : i ∈ (s.completed j).workingQ ∨ i ∈ (s.completed j).readyQ) :
  i ∈ s.workingQ ∨ i ∈ s.readyQ := by
  obtain ⟨lw,lr,-,-⟩ := completed_lists s j
  rw [lw,lr] at h
  rcases h with h | h
  · rcases mem_append.mp (mem_of_mem_tail h) with h | h
    · exact Or.inl h
    · exact Or.inr (mem_of_mem_head? (by simpa using h))
  · exact Or.inr (mem_of_mem_tail h)

lemma Ringed.setFrame (h : Ringed s old live) {f : Frame} (ha : f.paddress = (s.frame i).paddress)
  (hl : f.length = (s.frame i).length) (hv : f.allocated = (s.frame i).allocated) :
  Ringed (s.setFrame i f) old live :=
  ⟨h.working, by rw [(SameSession.setFrame s i ha hl hv).dest]; exact h.holds, h.skip, h.selected, h.pix⟩

lemma Ringed.passed {j k : ℕ} (h : Ringed s (k :: old) live) : Ringed (s.passed j) old live := by
  have hsame := passed_same s j
  refine ⟨by rw [(passed_lists s j).1,h.working]; rfl,?_,?_,hsame.selected.trans h.selected,hsame.pix ▸ h.pix⟩
  · rw [hsame.dest]
    have hbuf : (s.passed j).prp = s.prp ∧ (s.passed j).pingPong = s.pingPong := by
      unfold State.passed
      split <;> exact ⟨rfl,rfl⟩
    rw [hbuf.1,hbuf.2]
    exact h.holds
  · have hskip : (s.passed j).skipFrame = s.skipFrame := by
      unfold State.passed
      split <;> rfl
    rw [hskip,(passed_lists s j).2.1]
    exact h.skip

def State.filled (s : State) (b : Slots Dest) : State := { s with prp := { s.prp with buf := b } }

lemma frameInterrupt_spec (h : Ringed s old live) (hl : Listed s) (hen : s.prp.ch2en = true)
  (hon : s.captureOn = true) :
  (live = [] ∧ s.prp.fill = none ∧ frameInterrupt s = some s) ∨
  ∃ i l j b, live = i :: l ∧ (old ++ [i]).head? = some j ∧ s.prp.fill = some (s.dest i, { s.prp with buf := b }) ∧
    frameInterrupt s = some ((s.filled b).completed j) ∧
    Ringed ((s.filled b).completed j) (old ++ [i]).tail
      (l ++ s.readyQ.head?.toList) ∧
    Listed ((s.filled b).completed j) ∧
    Balanced s ((s.filled b).completed j) := by
  cases live with
  | nil =>
    have hnone : s.prp.fill = none := by
      have hslot := h.holds.1
      simp [Prp.fill,hen,Slots.fill,hslot]
    exact Or.inl ⟨rfl,hnone,by simp only [frameInterrupt,hnone]⟩
  | cons i l =>
    obtain ⟨b,hb,hholds⟩ := Holds.fill (q := l.map s.dest) h.holds
    have hfill : s.prp.fill = some (s.dest i, { s.prp with buf := b }) := by
      simp [Prp.fill,hen,hb]
    obtain ⟨j,w,hjw⟩ : ∃ j w, old ++ [i] = j :: w := by cases old <;> simp
    have hw : s.workingQ = j :: (w ++ l) := by
      rw [h.working,← List.cons_append,← hjw]
      simp
    -- the buffer is filled, and its frame has not yet left `working_q`
    have hfilled : Ringed (s.filled b) (j :: w) l :=
      ⟨hw,hholds,fun hs => ⟨(h.skip hs).1,by have := (h.skip hs).2; simp at this; simp [this]⟩,h.selected,h.pix⟩
    have hlen : l.length ≤ 1 := by
      have := h.holds.length_le
      simp at this
      omega
    have hl1 : Listed (s.filled b) := ⟨hl.one,hl.count_le,hl.queued⟩
    refine Or.inr ⟨i,l,j,b,rfl,by simp [hjw],hfill,?_,?_,hl1.completed hw,balanced_completed hl1 hw⟩
    · have hisr : frameInterrupt s = cameraCallback (s.filled b) := by
        unfold frameInterrupt
        rw [hfill]
        exact if_pos hon
      rw [hisr]
      exact cameraCallback_cons (s := s.filled b) h.selected h.pix hw (hl.queued j (by simp [hw]))
    · rw [hjw,tail_cons]
      have hset := hfilled.setFrame (i := j) (f := { s.frame j with queued := false, done := true }) rfl rfl rfl
      exact (hset.refilled hlen).passed

end Interrupt

/-! ### Queueing and taking frames -/

section Requests

variable {s : State} {i : ℕ} {old live : List ℕ}

def State.enqueued (s : State) (i : ℕ) : State :=
  let s₁ := s.setFrame i { s.frame i with queued := true }
  if 0 < s.skipFrame then { ({ s₁ with workingQ := s₁.workingQ ++ [i] } : State).armed i with skipFrame := 0 }
  else { s₁ with readyQ := s₁.readyQ ++ [i] }

lemma qbuf_free (hi : i < FRAME_NUM) (hf : (s.frame i).Free)
  (h : 0 < s.skipFrame → s.selected = true ∧ s.cfg.ch2Pix ≠ .unused) : qbuf i s = some (s.enqueued i) := by
  simp only [qbuf,hi,hf,if_true,State.enqueued]
  by_cases hs : 0 < s.skipFrame
  · rw [if_pos hs,if_pos hs,encUpdateEba_eq (by exact (h hs).1) (by exact (h hs).2)]
    rfl
  · rw [if_neg hs,if_neg hs]

lemma qbuf_flagged (hi : i < FRAME_NUM) (hf : ¬ (s.frame i).Free) :
  qbuf i s = some (if (s.frame i).done ∧ ¬ (s.frame i).queued then
    s.setFrame i { s.frame i with done := false, queued := true } else s) := by
  simp only [qbuf,hi,hf,if_true,if_false]
  cases (s.frame i).queued <;> cases (s.frame i).done <;> simp

lemma enqueued_same (s : State) (i : ℕ) : SameSession s (s.enqueued i) := by
  have hset := SameSession.setFrame s i (f := { s.frame i with queued := true }) rfl rfl rfl
  unfold State.enqueued
  split
  · exact hset.trans ⟨fun _ => ⟨rfl,rfl,rfl⟩,armed_image,⟨rfl,rfl⟩,rfl,rfl,rfl,⟨rfl,rfl⟩⟩
  · exact hset.trans ⟨fun _ => ⟨rfl,rfl,rfl⟩,rfl,⟨rfl,rfl⟩,rfl,rfl,rfl,⟨rfl,rfl⟩⟩

lemma enqueued_frame (s : State) (i : ℕ) :
  (s.enqueued i).frame = Function.update s.frame i { s.frame i with queued := true } := by
  unfold State.enqueued
  split <;> rfl

lemma enqueued_lists (s : State) (i : ℕ) :
  (s.enqueued i).workingQ = s.workingQ ++ (if 0 < s.skipFrame then [i] else []) ∧
  (s.enqueued i).readyQ = s.readyQ ++ (if 0 < s.skipFrame then [] else [i]) ∧
  (s.enqueued i).doneQ = s.doneQ ∧ (s.enqueued i).undiQ = s.undiQ ∧
  (s.enqueued i).encCounter = s.encCounter ∧ (s.enqueued i).scheduled = s.scheduled := by
  unfold State.enqueued
  split
  · exact ⟨rfl,(append_nil _).symm,rfl,rfl,rfl,rfl⟩
  · exact ⟨(append_nil _).symm,rfl,rfl,rfl,rfl,rfl⟩

lemma enqueued_skip (s : State) (i : ℕ) : (s.enqueued i).skipFrame = 0 := by
  unfold State.enqueued
  split
  · rfl
  · exact Nat.eq_zero_of_not_pos ‹_›

lemma balanced_enqueued (hf : (s.frame i).Free) : Balanced s (s.enqueued i) := by
  obtain ⟨lw,lr,ld,lu,-⟩ := enqueued_lists s i
  intro j
  unfold State.count
  rw [lw,lr,ld,lu,enqueued_frame]
  by_cases e : j = i
  · subst e
    by_cases hs : 0 < s.skipFrame <;> simp [hs,Frame.flagged,hf.2.1,hf.2.2,count_append] <;> omega
  · by_cases hs : 0 < s.skipFrame <;> simp [hs,e,count_append,Ne.symm e]

lemma Listed.enqueued (h : Listed s) (hf : (s.frame i).Free) : Listed (s.enqueued i) := by
  obtain ⟨lw,lr,-⟩ := enqueued_lists s i
  refine ⟨fun j => ?_,(balanced_enqueued hf).count_le h.count_le,fun j hj => ?_⟩
  · rw [enqueued_frame]
    by_cases e : j = i
    · simp [e,hf.2.2]
    · simpa [e] using h.one j
  · rw [enqueued_frame]
    by_cases e : j = i
    · simp [e]
    · rw [update_of_ne e]
      rw [lw,lr] at hj
      refine h.queued j ?_
      by_cases hs : 0 < s.skipFrame <;> simpa [hs,e] using hj

lemma Ringed.enqueued (h : Ringed s old live) :
  Ringed (s.enqueued i) old (live ++ if 0 < s.skipFrame then [i] else []) := by
  have hsame := enqueued_same s i
  refine ⟨?_,?_,?_,hsame.selected.trans h.selected,hsame.pix ▸ h.pix⟩
  · rw [(enqueued_lists s i).1,h.working,List.append_assoc]
  · rw [hsame.dest]
    by_cases hs : 0 < s.skipFrame
    · have hset := SameSession.setFrame s i (f := { s.frame i with queued := true }) rfl rfl rfl
      simp only [State.enqueued,hs,if_true,map_append,map_singleton]
      rw [← hset.dest]
      exact Holds.arm _ (hset.dest ▸ h.holds) (by have := (h.skip hs).2; simpa using this)
    · simp only [State.enqueued,hs,if_false,append_nil]
      exact h.holds
  · rw [enqueued_skip]
    omega

lemma Listed.reflag (h : Listed s) {f : Frame} (hone : f.queued = true → f.done = false)
  (hflag : f.flagged = (s.frame i).flagged) (hq : (s.frame i).queued = true → f.queued = true) :
  Listed (s.setFrame i f) ∧ Balanced s (s.setFrame i f) := by
  have hbal : Balanced s (s.setFrame i f) := by
    intro j
    by_cases e : j = i
    · subst e
      rw [setFrame_same,hflag]
      rfl
    · rw [setFrame_other f e]
      rfl
  refine ⟨⟨fun j => ?_,hbal.count_le h.count_le,fun j hj => ?_⟩,hbal⟩
  · by_cases e : j = i
    · subst e
      rw [setFrame_same]
      exact hone
    · rw [setFrame_other f e]
      exact h.one j
  · have hj' := h.queued j hj
    by_cases e : j = i
    · subst e
      rw [setFrame_same]
      exact hq hj'
    · rwa [setFrame_other f e]

lemma qbuf_spec (hl : Listed s) (hi : i < FRAME_NUM)
  (hskip : 0 < s.skipFrame → s.selected = true ∧ s.cfg.ch2Pix ≠ .unused) :
  ∃ s', qbuf i s = some s' ∧ SameSession s s' ∧ Listed s' ∧ Balanced s s' ∧ s'.doneQ = s.doneQ ∧
    s'.undiQ = s.undiQ ∧ s'.encCounter = s.encCounter ∧ s'.skipFrame ≤ s.skipFrame ∧
    (∀ j, j ∈ s'.workingQ ∨ j ∈ s'.readyQ → j = i ∧ (s.frame i).Free ∨ j ∈ s.workingQ ∨ j ∈ s.readyQ) ∧
    ∀ old live, Ringed s old live → ∃ l, Ringed s' old (live ++ l) := by
  by_cases hf : (s.frame i).Free
  · obtain ⟨lw,lr,ld,lu,le,lt⟩ := enqueued_lists s i
    refine ⟨_,qbuf_free hi hf hskip,enqueued_same s i,hl.enqueued hf,balanced_enqueued hf,ld,lu,le,
      (enqueued_skip s i).trans_le (Nat.zero_le _),fun j => ?_,fun old live h => ⟨_,h.enqueued⟩⟩
    rw [lw,lr]
    by_cases hs : 0 < s.skipFrame <;> simp [hs,hf] <;> tauto
  · rw [qbuf_flagged hi hf]
    split
    · rename_i hdone
      obtain ⟨hlist,hbal⟩ := hl.reflag (i := i) (f := { s.frame i with done := false, queued := true }) (fun _ => rfl)
        (by simp [Frame.flagged,hdone.1]) (fun _ => rfl)
      exact ⟨_,rfl,SameSession.setFrame s i rfl rfl rfl,hlist,hbal,rfl,rfl,rfl,le_rfl,fun j hj => Or.inr hj,
        fun old live h => ⟨[],by rw [append_nil]; exact h.setFrame rfl rfl rfl⟩⟩
    · exact ⟨s,rfl,.refl s,hl,.refl s,rfl,rfl,rfl,le_rfl,fun j hj => Or.inr hj,
        fun old live h => ⟨[],by rwa [append_nil]⟩⟩

lemma Listed.dequeued (h : Listed s) {q : List ℕ} {n : ℕ} (hd : s.doneQ = i :: q) {f : Frame}
  (hf : f.flagged = false) :
  Listed (({ s with encCounter := n, doneQ := q } : State).setFrame i f) ∧
    Balanced s (({ s with encCounter := n, doneQ := q } : State).setFrame i f) := by
  have hcount : s.count i ≤ 1 := (h.count_le i).trans (Bool.toNat_le _)
  simp only [State.count,hd,count_cons_self] at hcount
  have hflag : (s.frame i).flagged = true := by
    have := h.count_le i
    by_contra hne
    rw [Bool.not_eq_true] at hne
    simp [hne,State.count,hd] at this
  have hbal : Balanced s (({ s with encCounter := n, doneQ := q } : State).setFrame i f) := by
    intro j
    by_cases e : j = i
    · subst e
      rw [setFrame_same,hflag,hf]
      simp only [State.count,State.setFrame,hd,count_cons_self]
      simp
      omega
    · rw [setFrame_other f e]
      simp [State.count,State.setFrame,hd,count_cons,Ne.symm e]
  obtain ⟨hq,hdone⟩ : f.queued = false ∧ f.done = false := by simpa [Frame.flagged] using hf
  refine ⟨⟨fun j => ?_,hbal.count_le h.count_le,fun j hj => ?_⟩,hbal⟩
  · by_cases e : j = i
    · subst e
      simp [hq]
    · rw [setFrame_other f e]
      exact h.one j
  · have hne : j ≠ i := by
      rintro rfl
      rcases hj with hj | hj
      · have := count_pos_iff.mpr hj
        simp only [State.setFrame] at this
        omega
      · have := count_pos_iff.mpr hj
        simp only [State.setFrame] at this
        omega
    rw [setFrame_other f hne]
    exact h.queued j hj

lemma mxcV4lDqueue_spec (hl : Listed s) (hd : s.encCounter ≠ 0 → s.doneQ ≠ []) :
  ∃ s', mxcV4lDqueue s = some s' ∧ SameSession s s' ∧ Listed s' ∧ Balanced s s' ∧ s'.workingQ = s.workingQ ∧
    s'.readyQ = s.readyQ ∧ s'.undiQ = s.undiQ ∧ s'.scheduled = s.scheduled ∧ s'.skipFrame = s.skipFrame ∧
    (s.encCounter = s.doneQ.length → s'.encCounter = s'.doneQ.length) ∧
    ∀ old live, Ringed s old live → Ringed s' old live := by
  by_cases hz : s.encCounter = 0
  · exact ⟨s,by simp [mxcV4lDqueue,hz],.refl s,hl,.refl s,rfl,rfl,rfl,rfl,rfl,id,fun _ _ h => h⟩
  · obtain ⟨i,q,hq⟩ := exists_cons_of_ne_nil (hd hz)
    have hflag : (s.frame i).flagged.toNat = 1 := by
      have := hl.count_le i
      simp only [State.count,hq,count_cons_self] at this
      have := Bool.toNat_le (s.frame i).flagged
      omega
    -- either flag of the frame is its only one
    obtain ⟨f,hf,ha,hlen,hv,he⟩ : ∃ f : Frame, f.flagged = false ∧ f.paddress = (s.frame i).paddress ∧
        f.length = (s.frame i).length ∧ f.allocated = (s.frame i).allocated ∧
        mxcV4lDqueue s =
          some (({ s with encCounter := s.encCounter - 1, doneQ := q } : State).setFrame i f) := by
      have hone := hl.one i
      cases hdone : (s.frame i).done with
      | true =>
        have hqueued : (s.frame i).queued = false := by
          by_contra hne
          simp [hone (by simpa using hne)] at hdone
        refine ⟨{ s.frame i with done := false },by simp [Frame.flagged,hqueued],rfl,rfl,rfl,?_⟩
        simp [mxcV4lDqueue,hz,hq,hdone]
      | false =>
        have hqueued : (s.frame i).queued = true := by
          by_contra hne
          simp [Frame.flagged,hdone,hne] at hflag
        refine ⟨{ s.frame i with queued := false },by simp [Frame.flagged,hdone],rfl,rfl,rfl,?_⟩
        simp [mxcV4lDqueue,hz,hq,hdone,hqueued]
    obtain ⟨hlist,hbal⟩ := hl.dequeued (n := s.encCounter - 1) hq hf
    have hset := SameSession.setFrame ({ s with encCounter := s.encCounter - 1, doneQ := q } : State) i ha hlen hv
    refine ⟨_,he,⟨hset.frame,hset.image,hset.prp,hset.selected,hset.openCount,hset.captureOn,hset.minor⟩,hlist,
      hbal,rfl,rfl,rfl,rfl,rfl,fun hc => ?_,fun old live h => ?_⟩
    · simp [State.setFrame,hc,hq]
    · have h1 : Ringed ({ s with encCounter := s.encCounter - 1, doneQ := q } : State) old live :=
        ⟨h.working,h.holds,h.skip,h.selected,h.pix⟩
      exact h1.setFrame ha hlen hv

lemma runTasklet_cases (s : State) : (s.scheduled = false ∧ runTasklet s = s) ∨
  (s.scheduled = true ∧ s.undiQ = [] ∧ runTasklet s = { s with scheduled := false }) ∨
  ∃ i q, s.scheduled = true ∧ s.undiQ = i :: q ∧
    runTasklet s =
      { s with scheduled := false, undiQ := q, doneQ := s.doneQ ++ [i], encCounter := s.encCounter + 1 } := by
  cases hs : s.scheduled with
  | false => exact Or.inl ⟨rfl,by simp [runTasklet,hs]⟩
  | true =>
    right
    cases hu : s.undiQ with
    | nil => exact Or.inl ⟨rfl,rfl,by simp [runTasklet,deinterlace,hs,hu]⟩
    | cons i q => exact Or.inr ⟨i,q,rfl,rfl,by simp [runTasklet,deinterlace,hs,hu]⟩

lemma runTasklet_spec (hl : Listed s) :
  SameSession s (runTasklet s) ∧ Listed (runTasklet s) ∧ (runTasklet s).workingQ = s.workingQ ∧
    (runTasklet s).readyQ = s.readyQ ∧ (runTasklet s).skipFrame = s.skipFrame ∧
    ∀ old live, Ringed s old live → Ringed (runTasklet s) old live := by
  obtain ⟨-,e⟩ | ⟨-,-,e⟩ | ⟨i,q,-,hu,e⟩ := runTasklet_cases s
  · rw [e]
    exact ⟨.refl s,hl,rfl,rfl,rfl,fun _ _ h => h⟩
  · rw [e]
    exact ⟨⟨fun _ => ⟨rfl,rfl,rfl⟩,rfl,⟨rfl,rfl⟩,rfl,rfl,rfl,⟨rfl,rfl⟩⟩,⟨hl.one,hl.count_le,hl.queued⟩,
      rfl,rfl,rfl,fun _ _ h => ⟨h.working,h.holds,h.skip,h.selected,h.pix⟩⟩
  · have hcount : ∀ j, s.workingQ.count j + s.readyQ.count j + (s.doneQ ++ [i]).count j + q.count j = s.count j := by
      intro j
      simp only [State.count,hu,count_append,count_cons,count_nil]
      omega
    rw [e]
    exact ⟨⟨fun _ => ⟨rfl,rfl,rfl⟩,rfl,⟨rfl,rfl⟩,rfl,rfl,rfl,⟨rfl,rfl⟩⟩,
      ⟨hl.one,fun j => (hcount j).trans_le (hl.count_le j),hl.queued⟩,rfl,rfl,rfl,
      fun _ _ h => ⟨h.working,h.holds,h.skip,h.selected,h.pix⟩⟩

end Requests

lemma mxcAllocateFrameBuf_frame (alloc : ℕ → Option ℕ) : ∀ (l : List ℕ) (s : State),
  ∃ frame : ℕ → Frame, mxcAllocateFrameBuf alloc l s = { s with frame := frame } ∧
    ((∀ i, (s.frame i).Free) → ∀ i, (frame i).Free) ∧
    ∀ i, (frame i).allocated = true → i ∈ l ∨ (s.frame i).allocated = true
  | [], s => ⟨s.frame, rfl, id, fun _ h => Or.inr h⟩
  | k :: l, s => by
    unfold mxcAllocateFrameBuf
    cases alloc k with
    | none => exact ⟨_, rfl, fun h i => h i, fun i hi => by simp at hi⟩
    | some a =>
      obtain ⟨frame,he,hfree,halloc⟩ :=
        mxcAllocateFrameBuf_frame alloc l (s.setFrame k ⟨a, bufferLength s, true, true, false, false⟩)
      refine ⟨frame,he,fun h => hfree fun i => ?_,fun i hi => ?_⟩
      · by_cases e : i = k
        · subst e
          simp [Frame.Free]
        · rw [setFrame_other _ e]
          exact h i
      · by_cases e : i = k
        · exact Or.inl (by simp [e])
        · rcases halloc i hi with h | h
          · exact Or.inl (mem_cons_of_mem k h)
          · rw [setFrame_other _ e] at h
            exact Or.inr h

lemma runTasklet_session (s : State) : (runTasklet s).devMinor = s.devMinor ∧ (runTasklet s).selected = s.selected ∧
  (runTasklet s).openCount = s.openCount ∧ (runTasklet s).prp = s.prp ∧ (runTasklet s).captureOn = s.captureOn := by
  obtain ⟨-,e⟩ | ⟨-,-,e⟩ | ⟨i,q,-,-,e⟩ := runTasklet_cases s
  all_goals rw [e]; exact ⟨rfl,rfl,rfl,rfl,rfl⟩

lemma mxcStreamoff_session (s : State) : (mxcStreamoff s).devMinor = s.devMinor ∧
  (mxcStreamoff s).selected = s.selected ∧ (mxcStreamoff s).openCount = s.openCount ∧
  (mxcStreamoff s).prp.ch2en = (s.prp.ch2en && !s.selected) := by
  unfold mxcStreamoff
  cases hsel : s.selected <;> cases hm : s.devMinor <;>
    simp [hsel,hm,mxcFreeFrames,runTasklet_session,prphwDisable]

section Start

variable {s : State} {i j : ℕ} {q : List ℕ}

def State.programmed (s : State) : Cfg := (prpV4l2Cfg s.v2f.pixelformat s.v2f.width s.v2f.height s.cfg).align

lemma programmed_pix (s : State) : s.programmed.ch2Pix ≠ .unused := by
  unfold State.programmed prpV4l2Cfg
  cases s.v2f.pixelformat <;> simp [Cfg.align]

def State.enabled (s : State) : State :=
  { s with
    cfg := s.programmed
    prp := ⟨true, s.programmed.image,
      (((prphwReset s.prp).buf.arm false (s.programmed.image.dest s.programmed.ch2Ptr)).arm true
        (s.programmed.image.dest s.programmed.second))⟩
    pingPong := false }

lemma encEnable_ok (s : State) :
  encEnable ⟨true, true⟩ s = ({ s.enabled with pingPong := s.pingPong }, true) := by
  have hpix := programmed_pix s
  unfold State.programmed at hpix
  simp only [encEnable,if_true,prphwCh2Cfg,hpix,if_false,prphwEnable,State.enabled,State.programmed]

def State.started (s : State) (i j : ℕ) (q : List ℕ) : State :=
  let s₂ := (s.enabled.armedReady i (j :: q)).armedReady j q
  { s₂ with scheduled := if s₂.devMinor then false else s₂.scheduled }

lemma mxcStreamon_two (hsel : s.selected = true) (hq : s.readyQ = i :: j :: q) :
  mxcStreamon ⟨true, true⟩ s = some (s.started i j q) := by
  have hpix : s.enabled.cfg.ch2Pix ≠ .unused := programmed_pix s
  have h1 := armReady_cons (s := s.enabled) hsel hpix hq
  have h2 := armReady_cons (s := s.enabled.armedReady i (j :: q)) hsel hpix rfl
  have hok := encEnable_ok s
  unfold mxcStreamon
  rw [if_neg (by simp [hq]),if_neg (by simp [hsel]),hok,if_neg (by simp)]
  show (armReady s.enabled).bind _ = _
  rw [h1]
  show (armReady _).bind _ = _
  rw [h2]
  rfl

lemma started_same (s : State) (i j : ℕ) (q : List ℕ) : SameSession s.enabled (s.started i j q) :=
  ⟨fun _ => ⟨rfl, rfl, rfl⟩, rfl, ⟨rfl, rfl⟩, rfl, rfl, rfl, ⟨rfl, rfl⟩⟩

lemma ringed_started (hsel : s.selected = true) (hskip : s.skipFrame = 0) :
  Ringed (s.started i j q) s.workingQ [i, j] := by
  refine ⟨by simp [State.started,State.armedReady,State.armed,State.enabled],?_,?_,hsel,programmed_pix s⟩
  · rw [(started_same s i j q).dest]
    exact Holds.rearm s.enabled.prp.buf (s.enabled.dest i) (s.enabled.dest j)
  · intro hs
    exact absurd hs (by simp [State.started,State.armedReady,State.armed,State.enabled,hskip])

lemma Listed.started (h : Listed s) (hq : s.readyQ = i :: j :: q) :
  Listed (s.started i j q) ∧ Balanced s (s.started i j q) := by
  have hcount : ∀ k, (s.started i j q).count k = s.count k := by
    intro k
    simp only [State.count,State.started,State.armedReady,State.armed,State.enabled,hq,count_append,
      count_cons,count_nil]
    omega
  refine ⟨⟨h.one,fun k => (hcount k).trans_le (h.count_le k),fun k hk => h.queued k ?_⟩,fun k => ?_⟩
  · simp only [State.started,State.armedReady,State.armed,State.enabled,mem_append,mem_singleton] at hk
    rw [hq]
    simp only [mem_cons]
    tauto
  · exact congrArg (· + (s.frame k).flagged.toNat) (hcount k)

end Start

end Mx27.Capture
