/-
# The accelerator and the queue agree

The entry that is marked as on the accelerator should be the one the accelerator works on.
-/
import Mx27Drivers.Sahara.System

namespace Mx27.Sahara

open List

structure Agree (s : State) : Prop where
  unique : (s.queue.filter fun e => e.status = .onSahara).length ≤ 1
  held : ∀ e ∈ s.queue, e.status = .onSahara → s.dar = some e.id ∨ ∃ r, s.intr = some (e.id, r)
  moving : (∃ e ∈ s.queue, e.status = .pending) → s.dar = none → s.intr = none → s.scheduled = false →
    s.bottom = .idle → ∃ e ∈ s.queue, e.status = .onSahara

def ResetDue (s : State) : Prop :=
  (s.resetFlag = true ∧ s.scheduled = true) ∨ s.bottom = .reset ∨ s.bottom = .prime

structure Tied (s : State) (l : Line) : Prop where
  queue : s.queue = l.toQueue
  served : l.running.map Entry.id = s.dar.or (s.intr.map Prod.fst)
  once : s.dar = none ∨ s.intr = none
  kind : ∀ r ∈ s.intr, r.2.1 = .done1 ∨ r.2.1 = .error1 ∨ r.2.1 = .fault
  moving : l.waiting ≠ [] → l.running ≠ none ∨ ResetDue s

section
variable (l : Line)

lemma Line.mem_toQueue {e : Entry} : e ∈ l.toQueue ↔ e ∈ l.settled ∨ e ∈ l.running ∨ e ∈ l.waiting := by
  simp only [Line.toQueue,mem_append,Option.mem_toList,Option.mem_def,or_assoc]

lemma Line.filter_on : l.toQueue.filter (fun e => e.status = .onSahara) = l.running.toList := by
  have hs : l.settled.filter (fun e => e.status = .onSahara) = [] := by
    rw [filter_eq_nil_iff]
    intro e he
    rcases l.settled_status e he with h | h <;> simp [h]
  have hw : l.waiting.filter (fun e => e.status = .onSahara) = [] := by
    rw [filter_eq_nil_iff]
    intro e he
    simp [l.waiting_status e he]
  have hr : l.running.toList.filter (fun e => e.status = .onSahara) = l.running.toList := by
    rw [filter_eq_self]
    intro e he
    simp [l.running_status e (Option.mem_toList.mp he)]
  rw [Line.toQueue,filter_append,filter_append,hs,hw,hr,nil_append,append_nil]

lemma Line.on_iff {e : Entry} : e ∈ l.toQueue ∧ e.status = .onSahara ↔ e ∈ l.running := by
  have h : e ∈ l.toQueue.filter (fun e => e.status = .onSahara) ↔ e ∈ l.running := by
    rw [l.filter_on,Option.mem_toList,Option.mem_def]
  rw [← h,mem_filter,decide_eq_true_iff]

lemma Line.head_off {e : Entry} {q : List Entry} (h : l.toQueue = e :: q) (hoff : e.status = .offSahara) :
  ∃ l' : Line, l'.toQueue = q ∧ l.settled = e :: l'.settled ∧ l'.running = l.running ∧ l'.waiting = l.waiting := by
  cases hs : l.settled with
  | nil =>
    exfalso
    have hm : e ∈ l.running ∨ e ∈ l.waiting := by
      have := l.mem_toQueue.mp (h ▸ mem_cons_self)
      rw [hs] at this
      exact this.resolve_left not_mem_nil
    rcases hm with hm | hm
    · rw [l.running_status e hm] at hoff
      cases hoff
    · rw [l.waiting_status e hm] at hoff
      cases hoff
  | cons a rest =>
    rw [Line.toQueue,hs,List.cons_append,List.cons_append,List.cons.injEq] at h
    obtain ⟨rfl,hq⟩ := h
    refine ⟨⟨rest,l.running,l.waiting,fun e he => l.settled_status e ?_,l.running_status,l.waiting_status⟩,
      hq,rfl,rfl,rfl⟩
    rw [hs]
    exact mem_cons_of_mem a he

lemma Line.dispatch_busy {l : Line} (h : l.running ≠ none) (dar : Option ℕ) : l.dispatch dar = (l, dar) :=
  if_neg fun hc => h hc.1

lemma Line.dispatch_free {l : Line} (h : l.running = none) :
  l.dispatch none = (l.next, l.waiting.head?.map Entry.id) := if_pos ⟨h, rfl⟩

lemma Line.next_served : l.next.running.map Entry.id = l.waiting.head?.map Entry.id := by
  rw [Line.next,Option.map_map]
  rfl

lemma Line.next_moving (h : l.next.waiting ≠ []) : l.next.running ≠ none := by
  intro hn
  have : l.waiting = [] := by simpa [Line.next] using hn
  exact h (by simp [Line.next,this])

end

/-! ### The tie -/

section
variable {s s' : State} {l : Line}

lemma Tied.agree (h : Tied s l) : Agree s := by
  have hidle : s.dar = none → s.intr = none → l.running = none := by
    intro hd hi
    have := h.served
    rw [hd,hi] at this
    exact Option.map_eq_none_iff.mp this
  refine ⟨?_,?_,?_⟩
  · rw [h.queue,l.filter_on]
    cases l.running <;> simp
  · intro e he hon
    have hr : l.running = some e := l.on_iff.mp ⟨h.queue ▸ he,hon⟩
    have hserved := h.served
    rw [hr,Option.map_some] at hserved
    cases hd : s.dar with
    | some i =>
      left
      rw [hd,Option.some_or] at hserved
      exact hserved.symm
    | none =>
      right
      rw [hd,Option.none_or] at hserved
      obtain ⟨r,hi,hr'⟩ := Option.map_eq_some_iff.mp hserved.symm
      exact ⟨r.2,by rw [hi,← hr']⟩
  · rintro ⟨e,he,hp⟩ hd hi hsch hb
    exfalso
    have hw : e ∈ l.waiting := by
      rcases l.mem_toQueue.mp (h.queue ▸ he) with hm | hm | hm
      · rcases l.settled_status e hm with hst | hst <;> rw [hst] at hp <;> cases hp
      · rw [l.running_status e hm] at hp
        cases hp
      · exact hm
    rcases h.moving (ne_nil_of_mem hw) with hr | ⟨-,hs⟩ | hb' | hb'
    · exact hr (hidle hd hi)
    · rw [hsch] at hs
      cases hs
    · rw [hb] at hb'
      cases hb'
    · rw [hb] at hb'
      cases hb'

lemma Tied.frame (h : Tied s l) (hq : s'.queue = s.queue) (hd : s'.dar = s.dar) (hi : s'.intr = s.intr)
  (hdue : ResetDue s → ResetDue s') : Tied s' l :=
  ⟨hq.trans h.queue, by rw [hd,hi]; exact h.served, by rw [hd,hi]; exact h.once, by rw [hi]; exact h.kind,
    fun hw => (h.moving hw).imp id hdue⟩

variable {q : List Entry} {dar : Option ℕ}

lemma Tied.dispatched (hr : l.running = none) (hd : s.dar = none)
  (hq : Line.view (l.dispatch s.dar) = (q, dar)) (hs' : s'.queue = q)
  (hd' : s'.dar = dar) (hi' : s'.intr = none) : ∃ l', Tied s' l' := by
  rw [hd,Line.dispatch_free hr,Line.view,Prod.mk.injEq] at hq
  refine ⟨l.next,hs'.trans hq.1.symm,?_,.inr hi',by simp [hi'],fun hw => .inl (l.next_moving hw)⟩
  rw [hd',hi',← hq.2,l.next_served,Option.map_none,Option.or_none]

lemma tied_append (hn : Numbered s) (h : Tied s l) {e : Entry} (he : e ∈ s.prepared)
  (hq : sahQueueManagerAppendEntry e s.queue s.dar = (q, dar)) (hs' : s'.queue = q)
  (hd' : s'.dar = dar) (hi' : s'.intr = s.intr) (hdue : ResetDue s → ResetDue s') : ∃ l', Tied s' l' := by
  have hid : ∀ a ∈ l.waiting, a.id ≠ e.id :=
    fun a ha => hn.elsewhere_ne (by simp [State.elsewhere,he]) (h.queue ▸ l.mem_toQueue.mpr (.inr (.inr ha)))
  rw [h.queue,append_toQueue l hid] at hq
  by_cases hr : l.running = none
  · have hserved := h.served
    rw [hr,Option.map_none,eq_comm,Option.or_eq_none_iff,Option.map_eq_none_iff] at hserved
    by_cases hw : l.waiting = []
    · rw [if_pos hw] at hq
      exact Tied.dispatched (l := l.enqueue e) hr hserved.1 hq hs' hd' (hi'.trans hserved.2)
    · rw [if_neg hw,Prod.mk.injEq] at hq
      refine ⟨l.enqueue e,hs'.trans hq.1.symm,?_,.inr (hi'.trans hserved.2),by rw [hi']; exact h.kind,fun _ => ?_⟩
      · rw [hd',← hq.2,hi']
        exact h.served
      · exact (h.moving hw).imp id hdue
  · have hbusy : (if l.waiting = [] then Line.view ((l.enqueue e).dispatch s.dar) else ((l.enqueue e).toQueue, s.dar)) =
        ((l.enqueue e).toQueue, s.dar) := by
      split
      · rw [Line.dispatch_busy (l := l.enqueue e) hr,Line.view]
      · rfl
    rw [hbusy,Prod.mk.injEq] at hq
    refine ⟨l.enqueue e,hs'.trans hq.1.symm,?_,?_,by rw [hi']; exact h.kind,fun _ => .inl hr⟩
    · rw [hd',← hq.2,hi']
      exact h.served
    · rw [hd',← hq.2,hi']
      exact h.once

lemma tied_interrupt (h : Tied s l) {i : ℕ} {st : ExecStatus} {regs : HwRegs} (hi : s.intr = some (i, st, regs))
  {b : Bool} (hq : sahHandleInterrupt st regs s.queue s.dar = (b, q, dar))
  (hs' : s'.queue = q) (hd' : s'.dar = dar) (hi' : s'.intr = none) (hf' : s'.resetFlag = b)
  (hsch' : s'.scheduled = true) : ∃ l', Tied s' l' := by
  have hd : s.dar = none := h.once.resolve_right (by rw [hi]; exact Option.some_ne_none _)
  rw [h.queue] at hq
  have hdone : st = .done1 ∨ st = .error1 → ∃ l', Tied s' l' := by
    intro hst
    rw [handle_done_toQueue l hst,Prod.mk.injEq] at hq
    exact Tied.dispatched rfl hd hq.2 hs' hd' hi'
  rcases h.kind _ hi with hst | hst | hst
  · exact hdone (.inl hst)
  · exact hdone (.inr hst)
  · obtain rfl : st = .fault := hst
    rw [handle_fault_toQueue,Prod.mk.injEq,Prod.mk.injEq] at hq
    refine ⟨l.settle Entry.faulted,hs'.trans hq.2.1.symm,?_,.inr hi',by simp [hi'],fun _ => ?_⟩
    · rw [hd',← hq.2.2,hd,hi']
      rfl
    · exact .inr (.inl ⟨by rw [hf',← hq.1],hsch'⟩)

lemma tied_prime (h : Tied s l) (hq : primeNext s.queue s.dar = (q, dar))
  (hs' : s'.queue = q) (hd' : s'.dar = dar) (hi' : s'.intr = s.intr) : ∃ l', Tied s' l' := by
  rw [h.queue,primeNext_toQueue] at hq
  by_cases hr : l.running = none
  · have hserved := h.served
    rw [hr,Option.map_none,eq_comm,Option.or_eq_none_iff,Option.map_eq_none_iff] at hserved
    exact Tied.dispatched hr hserved.1 hq hs' hd' (hi'.trans hserved.2)
  · rw [Line.dispatch_busy hr,Line.view,Prod.mk.injEq] at hq
    refine ⟨l,hs'.trans hq.1.symm,?_,?_,by rw [hi']; exact h.kind,fun _ => .inl hr⟩
    · rw [hd',← hq.2,hi']
      exact h.served
    · rw [hd',← hq.2,hi']
      exact h.once

lemma tied_signal (hn : Numbered s) (h : Tied s l) {e : Entry} (he : e ∈ s.queue) (hp : e.status = .pending)
  (hs' : s'.queue = s.queue.filter fun a => a.id ≠ e.id) (hd' : s'.dar = s.dar) (hi' : s'.intr = s.intr)
  (hdue : ResetDue s → ResetDue s') : ∃ l', Tied s' l' := by
  have hrun : (l.without e.id).running = l.running := by
    cases hr : l.running with
    | none => simp [Line.without,hr]
    | some a =>
      have ha : a ∈ s.queue := h.queue ▸ l.mem_toQueue.mpr (.inr (.inl hr))
      have hne : a.id ≠ e.id := by
        intro hid
        have hon := l.running_status a hr
        rw [inj_on_of_nodup_map hn.queue_nodup ha he hid,hp] at hon
        cases hon
      simp [Line.without,hr,Option.filter,hne]
  refine ⟨l.without e.id,?_,?_,by rw [hd',hi']; exact h.once,by rw [hi']; exact h.kind,fun hw => ?_⟩
  · rw [hs',h.queue,without_toQueue]
  · rw [hrun,hd',hi']
    exact h.served
  · rw [hrun]
    refine (h.moving fun hnil => hw ?_).imp id hdue
    simp [Line.without,hnil]

end

def ResetIdle (s : State) (a : Event) : Prop :=
  a = .bottom → s.bottom = .reset → ∀ e ∈ s.queue, e.status ≠ .onSahara

lemma moves_tied {s s' : State} {l : Line} {a : Event} (hn : Numbered s) (h : Tied s l) (hm : Moves s a s')
  (hok : ResetIdle s a) : ∃ l', Tied s' l' := by
  cases hm with
  | register | deregister | prepare | wake | wakeReset | getResults => exact ⟨l,h.frame rfl rfl rfl id⟩
  | append he hq => exact tied_append hn h he hq rfl rfl rfl id
  | @finish i st regs hi hst =>
    have hintr : s.intr = none := h.once.resolve_left (by rw [hi]; exact Option.some_ne_none _)
    refine ⟨l,h.queue,?_,.inl rfl,?_,h.moving⟩
    · rw [h.served,hi,hintr]
      rfl
    · intro r hr
      rw [← Option.some.inj hr]
      exact hst
  | interrupt hi hq => exact tied_interrupt h hi hq rfl rfl rfl rfl rfl
  | start hsch hb =>
    refine ⟨l,h.queue,h.served,h.once,h.kind,fun hw => (h.moving hw).imp id ?_⟩
    rintro (⟨hf,-⟩ | hb' | hb')
    · exact .inr (.inl (by rw [State.startBottom,if_pos hf]))
    · rw [hb] at hb'
      cases hb'
    · rw [hb] at hb'
      cases hb'
  | reset hb =>
    have hr : l.running = none := by
      cases hr : l.running with
      | none => rfl
      | some e =>
        have he := l.on_iff.mpr hr
        exact absurd he.2 (hok rfl hb e (h.queue ▸ he.1))
    exact ⟨l,h.queue,by rw [hr]; rfl,.inl rfl,by simp,fun _ => .inr (.inr (.inr rfl))⟩
  | prime hb hq => exact tied_prime h hq rfl rfl rfl
  | @take e q hb hq hoff =>
    obtain ⟨l',hl',-,hrun,hwait⟩ := l.head_off (h.queue ▸ hq) hoff
    refine ⟨l',hl'.symm,by rw [hrun]; exact h.served,h.once,h.kind,fun hw => ?_⟩
    rw [hwait] at hw
    rw [hrun]
    refine (h.moving hw).imp id ?_
    rintro (hf | hb' | hb')
    · exact .inl hf
    · rw [hb] at hb'
      cases hb'
    · rw [hb] at hb'
      cases hb'
  | rest | reply | deliver => exact ⟨l,h.frame rfl rfl rfl (by rintro (hf | hb' | hb') <;> simp_all [ResetDue])⟩
  | signal he hbl hp => exact tied_signal hn h he hp rfl rfl rfl id
  | hwReset =>
    refine ⟨l.cleared,?_,rfl,.inl rfl,by simp,fun hw => absurd rfl hw⟩
    rw [cleared_toQueue,h.queue]

lemma reset_disagrees {s s' : State} {a : Event} (h : step s a = some s') (hok : ¬ ResetIdle s a) : ¬ Agree s' := by
  simp only [ResetIdle,Classical.not_imp,not_forall,not_not] at hok
  obtain ⟨rfl,hb,e,he,hon⟩ := hok
  have hs' : s' = { s with dar := none, intr := none, bottom := .prime } := by
    rw [step,State.bottomStep,hb] at h
    exact (Option.some.inj h).symm
  rw [hs']
  intro hag
  rcases hag.held e he hon with hd | ⟨r,hi⟩
  · cases hd
  · cases hi

lemma init_tied : Tied State.init Line.empty := ⟨rfl, rfl, .inl rfl, by simp [State.init], fun hw => absurd rfl hw⟩

/-- **When the queue and the accelerator agree.** -/
theorem agree_run_iff (evs : List Event) :
  Run.AllStates step Agree State.init evs ↔ Run.AllSteps step ResetIdle State.init evs := by
  refine Run.allStates_iff_of_steps (J := fun s => Numbered s ∧ (Agree s → ∃ l, Tied s l)) ?_ ?_
    ⟨init_numbered,fun _ => ⟨_,init_tied⟩⟩ init_tied.agree
  · rintro a s - - hnone ha hb
    rw [ha,step,State.bottomStep,hb] at hnone
    cases hnone
  · rintro a s s' ⟨hn,htied⟩ hag hstep
    obtain ⟨l,hl⟩ := htied hag
    by_cases hok : ResetIdle s a
    · obtain ⟨l',hl'⟩ := moves_tied hn hl (step_moves hstep) hok
      exact ⟨⟨step_numbered hn hstep,fun _ => ⟨l',hl'⟩⟩,iff_of_true hl'.agree hok⟩
    · have hdis := reset_disagrees hstep hok
      exact ⟨⟨step_numbered hn hstep,fun h => absurd h hdis⟩,iff_of_false hdis hok⟩

/-- A fault, and a submission before the bottom half. -/
theorem submission_lost_in_reset :
  ∃ s, [Event.register, .prepare 0 false, .append 1, .finish .fault zeroRegs, .interrupt, .prepare 0 false, .append 2,
      .start, .bottom].foldlM step State.init = some s ∧ s.dar = none ∧ s.intr = none ∧
    s.queue.map Entry.status = [.offSahara, .onSahara] ∧ ¬ Agree s := by
  refine ⟨_,rfl,rfl,rfl,rfl,fun h => ?_⟩
  rcases h.held _ (mem_of_getElem? (i := 1) rfl) rfl with hd | ⟨r,hi⟩
  · cases hd
  · cases hi

end Mx27.Sahara
