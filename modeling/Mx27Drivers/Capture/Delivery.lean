/-
# Frames of the progressive camera are delivered once, filled and in order
-/
import Mx27Drivers.Capture.Stream

namespace Mx27.Capture

open List

structure Fresh (s : State) : Prop where
  minor : s.devMinor = false
  selected : s.selected = true
  lists : s.workingQ = [] ∧ s.readyQ = [] ∧ s.doneQ = [] ∧ s.undiQ = []
  counters : s.skipFrame = 0 ∧ s.encCounter = 0
  free : ∀ i, (s.frame i).Free
  bound : ∀ i, (s.frame i).allocated = true → i < FRAME_NUM

lemma fresh_reqbufs {s : State} (hminor : s.devMinor = false) (hsel : s.selected = true) (count : ℕ)
  (alloc : ℕ → Option ℕ) : Fresh (reqbufs count alloc s) := by
  obtain ⟨frame,he,hfree,halloc⟩ := mxcAllocateFrameBuf_frame alloc (List.range (min count FRAME_NUM))
    (mxcFreeFrameBuf (mxcStreamoff s))
  unfold reqbufs
  rw [he]
  refine ⟨(mxcStreamoff_session s).1.trans hminor,(mxcStreamoff_session s).2.1.trans hsel,⟨rfl,rfl,rfl,rfl⟩,⟨rfl,rfl⟩,
    hfree fun i => ⟨rfl,rfl,rfl⟩,fun i hi => ?_⟩
  rcases halloc i hi with h | h
  · have := mem_range.mp h
    omega
  · cases h

/-! ### The invariant -/

def Streaming (s : State) : Event → Prop
  | .frame => True
  | .qbuf i => (s.frame i).allocated = true
  | .dqbuf => True
  | _ => False

def State.places (s : State) (i : ℕ) : ℕ :=
  (!(s.frame i).flagged).toNat + s.readyQ.count i + s.workingQ.count i + s.doneQ.count i

structure Delivers (s : State) : Prop where
  place : ∀ i, (s.frame i).allocated = true → s.places i = 1
  counter : s.encCounter = s.doneQ.length
  order : s.prp.buf.pending = s.workingQ.map s.dest

def MovesFilled (s : State) (e : Event) : Prop :=
  ∃ s', step s e = some s' ∧
    (e = .frame →
      match s.prp.fill with
      | none => s'.doneQ = s.doneQ
      | some (d, _) => ∃ i, s'.doneQ = s.doneQ ++ [i] ∧ s.dest i = d)

structure Delivery (s : State) : Prop where
  listed : Listed s
  tight : ∀ i, s.count i = (s.frame i).flagged.toNat
  ringed : Ringed s [] s.workingQ
  counter : s.encCounter = s.doneQ.length
  undi : s.undiQ = []
  minor : s.devMinor = false
  on : s.prp.ch2en = true ∧ s.captureOn = true
  bound : ∀ i, (s.frame i).allocated = true → i < FRAME_NUM

section

variable {s s' : State}

lemma Delivery.delivers (h : Delivery s) : Delivers s := by
  refine ⟨fun i _ => ?_,h.counter,h.ringed.holds.pending⟩
  have hcount := h.tight i
  simp only [State.count,h.undi,count_nil] at hcount
  unfold State.places
  cases hf : (s.frame i).flagged <;> simp [hf] at hcount ⊢ <;> omega

lemma Balanced.tight (h : Balanced s s') (hs : ∀ i, s.count i = (s.frame i).flagged.toNat) (i : ℕ) :
  s'.count i = (s'.frame i).flagged.toNat := by
  have := h i
  have := hs i
  omega

lemma Ringed.all_armed {old live : List ℕ} (h : Ringed s old live) (hold : old = []) : Ringed s [] s.workingQ := by
  subst hold
  rwa [show s.workingQ = live from h.working]

lemma Delivery.next (h : Delivery s) (hsame : SameSession s s') (hl : Listed s') (hbal : Balanced s s')
  {live : List ℕ} (hring : Ringed s' [] live) (hc : s'.encCounter = s'.doneQ.length) (hu : s'.undiQ = []) :
  Delivery s' where
  listed := hl
  tight := hbal.tight h.tight
  ringed := hring.all_armed rfl
  counter := hc
  undi := hu
  minor := hsame.minor.1.trans h.minor
  on := ⟨hsame.prp.2.trans h.on.1, hsame.captureOn.trans h.on.2⟩
  bound i hi := h.bound i ((hsame.frame i).2.2 ▸ hi)

lemma delivery_frame (h : Delivery s) : ∃ s', step s .frame = some s' ∧ Delivery s' ∧
  match s.prp.fill with
  | none => s'.doneQ = s.doneQ
  | some (d, _) => ∃ i, s'.doneQ = s.doneQ ++ [i] ∧ s.dest i = d := by
  obtain ⟨-,hfill,he⟩ | ⟨i,l,j,b,hlive,hj,hfill,he,hring,hl,hbal⟩ :=
    frameInterrupt_spec h.ringed h.listed h.on.1 h.on.2
  · exact ⟨s,he,h,by rw [hfill]⟩
  · obtain rfl : i = j := by simpa using hj
    have hsame : SameSession s ((s.filled b).completed i) := by
      have := completed_same (s.filled b) i
      exact ⟨this.frame,this.image,this.prp,this.selected,this.openCount,this.captureOn,this.minor⟩
    obtain ⟨-,-,ld,lu⟩ := completed_lists (s.filled b) i
    have hminor : (s.filled b).devMinor = false := h.minor
    simp only [hminor,Bool.false_eq_true,if_false,append_nil] at ld lu
    refine ⟨_,he,h.next hsame hl hbal hring ?_ (lu.trans h.undi),?_⟩
    · rw [(completed_counters _ _).1,ld,hminor]
      exact congrArg (· + 1) h.counter |>.trans (by simp [State.filled])
    · rw [hfill]
      exact ⟨i,ld,rfl⟩

lemma delivery_step (h : Delivery s) {e : Event} (he : Streaming s e) :
  ∃ s', step s e = some s' ∧ Delivery s' ∧ MovesFilled s e := by
  cases e with
  | frame =>
    obtain ⟨s',hs,hd,hm⟩ := delivery_frame h
    exact ⟨s',hs,hd,s',hs,fun _ => hm⟩
  | qbuf i =>
    obtain ⟨s',hs,hsame,hl,hbal,hdone,hundi,henc,-,-,hring⟩ :=
      qbuf_spec h.listed (h.bound i he) fun _ => ⟨h.ringed.selected,h.ringed.pix⟩
    obtain ⟨l,hr⟩ := hring [] _ h.ringed
    refine ⟨s',hs,h.next hsame hl hbal hr ?_ (hundi.trans h.undi),s',hs,fun e => by cases e⟩
    rw [henc,hdone,h.counter]
  | dqbuf =>
    have hd : s.encCounter ≠ 0 → s.doneQ ≠ [] := by
      intro hz hnil
      rw [h.counter,hnil] at hz
      exact hz rfl
    obtain ⟨s',hs,hsame,hl,hbal,-,-,hundi,-,-,hc,hring⟩ := mxcV4lDqueue_spec h.listed hd
    exact ⟨s',hs,h.next hsame hl hbal (hring [] _ h.ringed) (hc h.counter) (hundi.trans h.undi),s',hs,
      fun e => by cases e⟩
  | «open» | sFmt | reqbufs | streamon | streamoff | close | tasklet => exact he.elim

end

/-! ### The start -/

section Start

variable {s : State}

structure Waiting (pre : List ℕ) (s : State) : Prop where
  listed : Listed s
  tight : ∀ i, s.count i = (s.frame i).flagged.toNat
  empty : s.workingQ = [] ∧ s.doneQ = [] ∧ s.undiQ = []
  ready : ∀ i ∈ pre, i ∈ s.readyQ
  counters : s.skipFrame = 0 ∧ s.encCounter = 0
  minor : s.devMinor = false
  selected : s.selected = true
  frame : ∀ i, (s.frame i).mapped = true ∧ ((s.frame i).allocated = true → i < FRAME_NUM)

lemma Fresh.waiting (h : Fresh s) : Waiting [] s := by
  have hflag : ∀ i, (s.frame i).flagged = false := fun i => by simp [Frame.flagged,(h.free i).2.1,(h.free i).2.2]
  have hcount : ∀ i, s.count i = 0 := fun i => by simp [State.count,h.lists]
  refine ⟨⟨fun i hq => ?_,fun i => by simp [hcount],fun i hi => ?_⟩,fun i => by simp [hcount,hflag],
    ⟨h.lists.1,h.lists.2.2⟩,by simp,h.counters,h.minor,h.selected,fun i => ⟨(h.free i).1,h.bound i⟩⟩
  · exact (h.free i).2.2
  · simp [h.lists] at hi

lemma Waiting.qbuf {pre : List ℕ} (h : Waiting pre s) {i : ℕ} (hi : (s.frame i).allocated = true) :
  ∃ s', step s (.qbuf i) = some s' ∧ Waiting (pre ++ [i]) s' ∧
    ∀ j, (s'.frame j).allocated = (s.frame j).allocated := by
  have hlt := (h.frame i).2 hi
  by_cases hf : (s.frame i).Free
  · obtain ⟨lw,lr,ld,lu,le,-⟩ := enqueued_lists s i
    have hskip : ¬ 0 < s.skipFrame := by simp [h.counters.1]
    have hsame := enqueued_same s i
    simp only [hskip,if_false,append_nil] at lw lr
    refine ⟨_,qbuf_free hlt hf fun hs => absurd hs hskip,⟨h.listed.enqueued hf,(balanced_enqueued hf).tight h.tight,
      ⟨lw.trans h.empty.1,ld.trans h.empty.2.1,lu.trans h.empty.2.2⟩,fun j hj => ?_,⟨?_,le.trans h.counters.2⟩,
      hsame.minor.1.trans h.minor,hsame.selected.trans h.selected,fun j => ⟨?_,fun hj => ?_⟩⟩,
      fun j => (hsame.frame j).2.2⟩
    · rw [lr]
      rcases mem_append.mp hj with hj | hj
      · exact mem_append_left _ (h.ready j hj)
      · exact mem_append_right _ hj
    · simp only [State.enqueued,hskip,if_false]
      exact h.counters.1
    · rw [enqueued_frame]
      by_cases e : j = i
      · subst e
        simpa using (h.frame j).1
      · rw [Function.update_of_ne e]
        exact (h.frame j).1
    · exact (h.frame j).2 ((hsame.frame j).2.2 ▸ hj)
  · -- it has a flag, so it is in a list, and only `ready_q` has frames
    have hready : i ∈ s.readyQ := by
      have hflag : (s.frame i).flagged = true := by
        by_contra hne
        refine hf ⟨(h.frame i).1,?_⟩
        simpa [Frame.flagged] using hne
      have hc := h.tight i
      simp only [State.count,h.empty,hflag,count_nil,Bool.toNat_true] at hc
      exact count_pos_iff.mp (by omega)
    have hq := h.listed.queued i (Or.inr hready)
    refine ⟨s,?_,⟨h.listed,h.tight,h.empty,fun j hj => ?_,h.counters,h.minor,h.selected,h.frame⟩,fun _ => rfl⟩
    · show Capture.qbuf i s = some s
      rw [qbuf_flagged hlt hf,if_neg (by simp [hq])]
    · rcases mem_append.mp hj with hj | hj
      · exact h.ready j hj
      · rwa [mem_singleton.mp hj]

lemma Waiting.qbufs : ∀ {qs pre : List ℕ} {s : State}, Waiting pre s → (∀ i ∈ qs, (s.frame i).allocated = true) →
  ∃ s', (qs.map Event.qbuf).foldlM step s = some s' ∧ Waiting (pre ++ qs) s'
  | [], pre, s, h, _ => ⟨s, rfl, by rwa [append_nil]⟩
  | i :: qs, pre, s, h, halloc => by
    obtain ⟨s1,e1,h1,ha⟩ := h.qbuf (halloc i mem_cons_self)
    obtain ⟨s2,e2,h2⟩ := Waiting.qbufs h1 fun j hj => (ha j).trans (halloc j (mem_cons_of_mem i hj))
    refine ⟨s2,?_,by simpa using h2⟩
    rw [map_cons,foldlM_cons,e1]
    exact e2

lemma two_of_mem {l : List ℕ} {i j : ℕ} (hi : i ∈ l) (hj : j ∈ l) (hne : i ≠ j) : ∃ a b q, l = a :: b :: q := by
  match l with
  | [] => cases hi
  | [a] => exact absurd ((mem_singleton.mp hi).trans (mem_singleton.mp hj).symm) hne
  | a :: b :: q => exact ⟨a,b,q,rfl⟩

lemma Waiting.streamon {pre : List ℕ} (h : Waiting pre s) {i j : ℕ} (hi : i ∈ pre) (hj : j ∈ pre) (hne : i ≠ j) :
  ∃ s', step s (.streamon ⟨true, true⟩) = some s' ∧ Delivery s' := by
  obtain ⟨a,b,q,hq⟩ := two_of_mem (h.ready i hi) (h.ready j hj) hne
  have hlisted : Listed { s with captureOn := true } := ⟨h.listed.one,h.listed.count_le,h.listed.queued⟩
  obtain ⟨hl,hbal⟩ := hlisted.started hq
  have hring := ringed_started (s := { s with captureOn := true }) (i := a) (j := b) (q := q) h.selected h.counters.1
  refine ⟨_,mxcStreamon_two (s := { s with captureOn := true }) h.selected hq,⟨hl,hbal.tight h.tight,
    hring.all_armed h.empty.1,?_,h.empty.2.2,h.minor,⟨rfl,rfl⟩,fun k => (h.frame k).2⟩⟩
  exact h.counters.2.trans (by simp [State.started,State.armedReady,State.armed,State.enabled,h.empty])

end Start

def threeBuffers : State := reqbufs 3 (fun i => some (0xa0100000 + 0x40000 * i)) (mxcV4lOpen false .opened initCameraStruct)

end Mx27.Capture
