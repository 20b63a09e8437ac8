/-
# Freed requests and freed users

The descriptors of a request are freed when its caller returns, if it is a blocking one.
-/
import Mx27Drivers.Sahara.System

namespace Mx27.Sahara

open List

structure Owned (s : State) : Prop where
  request : ∀ e ∈ s.queue ++ s.results, e.id ∉ s.freed
  user : ∀ e ∈ s.queue ++ s.results, e.user ∈ s.users

def Settled (s : State) : Event → Prop
  | .hwReset => ∀ e ∈ s.queue, e.blocking = false
  | .deregister u => ∀ e ∈ s.submitted ++ s.prepared, e.user = u → e.id ∈ s.freed ∨ ∃ d ∈ s.done, d.id = e.id
  | _ => True

instance (s : State) : (a : Event) → Decidable (Settled s a)
  | .hwReset => inferInstanceAs (Decidable (∀ e ∈ s.queue, e.blocking = false))
  | .deregister u =>
    inferInstanceAs (Decidable (∀ e ∈ s.submitted ++ s.prepared, e.user = u → e.id ∈ s.freed ∨ ∃ d ∈ s.done, d.id = e.id))
  | .register | .prepare _ _ | .append _ | .finish _ _ | .interrupt | .start | .bottom | .signal _ | .wake _
  | .getResults _ => isTrue trivial

namespace State

def live (s : State) : List Entry := s.prepared ++ s.queue ++ s.bottom.entry.toList ++ s.results

def requests (s : State) : List (ℕ × ℕ × Bool) := (s.submitted ++ s.prepared).map Entry.core

end State

def Right (s : State) (c : ℕ × ℕ × Bool) : Prop := c.1 ∉ s.freed ∧ c.2.1 ∈ s.users ∧ c ∈ s.requests

structure Held (s : State) : Prop where
  live : ∀ e ∈ s.live, Right s e.core
  old : ∀ i ∈ s.freed, i < s.count
  waits : ∀ e ∈ s.queue, e.blocking = true → e.status ≠ .reset

section
variable {s s' : State} {a : Event}

lemma State.mem_live {e : Entry} :
  e ∈ s.live ↔ e ∈ s.prepared ∨ e ∈ s.queue ∨ e ∈ s.bottom.entry ∨ e ∈ s.results := by
  simp only [State.live,mem_append,Option.mem_toList,Option.mem_def,or_assoc]

lemma Held.owned (h : Held s) : Owned s := by
  have hlive : ∀ e ∈ s.queue ++ s.results, e ∈ s.live := by
    intro e he
    rcases mem_append.mp he with he | he
    · exact State.mem_live.mpr (.inr (.inl he))
    · exact State.mem_live.mpr (.inr (.inr (.inr he)))
  exact ⟨fun e he => (h.live e (hlive e he)).1,fun e he => (h.live e (hlive e he)).2.1⟩

/-! ### Where requests come from -/

lemma mem_core_of_kept {q q' : List Entry} (h : Kept q q') {e : Entry} (he : e ∈ q') : ∃ d ∈ q, d.core = e.core := by
  obtain ⟨d,hd,hf⟩ := h.mem e he
  exact ⟨d,hd,hf.core.symm⟩

lemma moves_live (hm : Moves s a s') {e : Entry} (he : e ∈ s'.live) :
  (∃ d ∈ s.live, d.core = e.core) ∨ ∃ u b, a = .prepare u b ∧ u ∈ s.users ∧ e = s.newEntry u b := by
  have hsame : e ∈ s.live → (∃ d ∈ s.live, d.core = e.core) ∨ ∃ u b, a = .prepare u b ∧ u ∈ s.users ∧ e = s.newEntry u b :=
    fun h => .inl ⟨e,h,rfl⟩
  simp only [State.mem_live] at he hsame ⊢
  cases hm with
  | register | deregister | finish | wake | wakeReset => exact hsame he
  | @prepare u b hu =>
    rcases he with he | he
    · rcases mem_append.mp he with he | he
      · exact hsame (.inl he)
      · exact .inr ⟨u,b,rfl,hu,mem_singleton.mp he⟩
    · exact hsame (.inr he)
  | @append r q dar hr hq =>
    rcases he with he | he | he
    · exact hsame (.inl (mem_of_mem_filter he))
    · have hk := append_kept s.dar r s.queue
      rw [hq] at hk
      obtain ⟨d,hd,hcore⟩ := mem_core_of_kept hk he
      rcases mem_append.mp hd with hd | hd
      · exact .inl ⟨d,.inr (.inl hd),hcore⟩
      · rw [mem_singleton.mp hd] at hcore
        exact .inl ⟨r,.inl hr,hcore⟩
    · exact hsame (.inr (.inr he))
  | @interrupt i st regs b q dar hi hq =>
    rcases he with he | he | he
    · exact hsame (.inl he)
    · have hk := handle_kept s.dar st regs s.queue
      rw [hq] at hk
      obtain ⟨d,hd,hcore⟩ := mem_core_of_kept hk he
      exact .inl ⟨d,.inr (.inl hd),hcore⟩
    · exact hsame (.inr (.inr he))
  | start hsch hb =>
    have hnone : s.startBottom.bottom.entry = none := by
      rw [State.startBottom]
      split <;> rfl
    rw [hnone] at he
    rcases he with he | he | he | he
    · exact hsame (.inl he)
    · exact hsame (.inr (.inl he))
    · cases he
    · exact hsame (.inr (.inr (.inr he)))
  | prime hb hq =>
    rcases he with he | he | he | he
    · exact hsame (.inl he)
    · have hk := primeNext_kept s.dar s.queue
      rw [hq] at hk
      obtain ⟨d,hd,hcore⟩ := mem_core_of_kept hk he
      exact .inl ⟨d,.inr (.inl hd),hcore⟩
    · cases he
    · exact hsame (.inr (.inr (.inr he)))
  | reset hb | rest hb hoff | reply hb he' hbl =>
    rcases he with he | he | he | he
    · exact hsame (.inl he)
    · exact hsame (.inr (.inl he))
    · cases he
    · exact hsame (.inr (.inr (.inr he)))
  | @take d q hb hq hoff =>
    rcases he with he | he | he | he
    · exact hsame (.inl he)
    · exact hsame (.inr (.inl (hq ▸ mem_cons_of_mem d he)))
    · rw [← Option.some.inj he] at hsame ⊢
      exact hsame (.inr (.inl (hq ▸ mem_cons_self)))
    · exact hsame (.inr (.inr (.inr he)))
  | @deliver d d' hb hd' hbl =>
    rcases he with he | he | he | he
    · exact hsame (.inl he)
    · exact hsame (.inr (.inl he))
    · cases he
    · rcases mem_append.mp he with he | he
      · exact hsame (.inr (.inr (.inr he)))
      · rw [mem_singleton.mp he]
        exact .inl ⟨d,.inr (.inr (.inl (by rw [hb]; rfl))),(processed_core hd').symm⟩
  | signal hd hbl hp =>
    rcases he with he | he | he
    · exact hsame (.inl he)
    · exact hsame (.inr (.inl (mem_of_mem_filter he)))
    · exact hsame (.inr (.inr he))
  | getResults hu hd =>
    rcases he with he | he | he | he
    · exact hsame (.inl he)
    · exact hsame (.inr (.inl he))
    · exact hsame (.inr (.inr (.inl he)))
    · exact hsame (.inr (.inr (.inr (mem_of_mem_filter he))))
  | hwReset =>
    rcases he with he | he | he
    · exact hsame (.inl he)
    · obtain ⟨d,hd,rfl⟩ := List.mem_map.mp he
      exact .inl ⟨d,.inr (.inl hd),rfl⟩
    · exact hsame (.inr (.inr he))

lemma moves_requests (hn : Numbered s) (hm : Moves s a s') : ∀ c ∈ s.requests, c ∈ s'.requests := by
  intro c hc
  obtain ⟨r,hr,rfl⟩ := List.mem_map.mp hc
  cases hm with
  | prepare hu =>
    apply List.mem_map_of_mem
    rw [← List.append_assoc]
    exact mem_append_left _ hr
  | @append e q dar he hq =>
    apply List.mem_map_of_mem
    rcases mem_append.mp hr with hr | hr
    · exact mem_append_left _ (mem_append_left _ hr)
    · by_cases hid : r.id = e.id
      · have hnodup : (s.prepared.map Entry.id).Nodup := by
          apply hn.nodup
          intro n
          simp only [State.ids,State.entries,map_append,count_append]
          omega
        rw [inj_on_of_nodup_map hnodup hr he hid]
        exact mem_append_left _ (mem_append_right _ mem_cons_self)
      · exact mem_append_right _ (mem_filter.mpr ⟨hr,by simpa using hid⟩)
  | _ => exact hc

/-! ### One step -/

lemma waits_of_kept {q q' : List Entry} (hk : Kept q q') (h : ∀ e ∈ q, e.blocking = true → e.status ≠ .reset) :
  ∀ e ∈ q', e.blocking = true → e.status ≠ .reset := by
  intro e he hbl hst
  obtain ⟨d,hd,hf⟩ := hk.mem e he
  have hdbl : d.blocking = e.blocking := congrArg (fun c => c.2.2) hf.core.symm
  exact h d hd (hdbl.trans hbl) (hf.reset hst)

lemma moves_waits (h : Held s) (hm : Moves s a s') (hok : Settled s a) :
  ∀ e ∈ s'.queue, e.blocking = true → e.status ≠ .reset := by
  cases hm with
  | @append r q dar hr hq =>
    have hk := append_kept s.dar r s.queue
    rw [hq] at hk
    refine waits_of_kept hk fun e he hbl => ?_
    rcases mem_append.mp he with he | he
    · exact h.waits e he hbl
    · rw [mem_singleton.mp he]
      exact show QueueStatus.pending ≠ .reset by decide
  | @interrupt i st regs b q dar hi hq =>
    have hk := handle_kept s.dar st regs s.queue
    rw [hq] at hk
    exact waits_of_kept hk h.waits
  | prime hb hq =>
    have hk := primeNext_kept s.dar s.queue
    rw [hq] at hk
    exact waits_of_kept hk h.waits
  | @take d q hb hq hoff => exact fun e he => h.waits e (hq ▸ mem_cons_of_mem d he)
  | signal hd hbl hp => exact fun e he => h.waits e (mem_of_mem_filter he)
  | hwReset =>
    intro e he hbl
    obtain ⟨d,hd,rfl⟩ := List.mem_map.mp he
    have hno : d.blocking = false := hok d hd
    rw [show (d.withStatus .reset).blocking = d.blocking from rfl,hno] at hbl
    cases hbl
  | _ => exact h.waits

lemma moves_freed (hn : Numbered s) (h : Held s) (hm : Moves s a s') {i : ℕ} (hi : i ∈ s'.freed) :
  i < s'.count ∧ ∀ e ∈ s'.live, e.id ≠ i := by
  have hold : i ∈ s.freed → i < s'.count ∧ ∀ e ∈ s'.live, e.id ≠ i := by
    intro hi
    have hlt := h.old i hi
    refine ⟨hlt.trans_le (moves_count hm),fun e he hid => ?_⟩
    rcases moves_live hm he with ⟨d,hd,hcore⟩ | ⟨u,b,-,-,rfl⟩
    · have hdid : d.id = i := (congrArg Prod.fst hcore).trans hid
      exact (h.live d hd).1 (show d.id ∈ s.freed from hdid ▸ hi)
    · exact hlt.ne' hid
  cases hm with
  | @wake d hd =>
    rcases mem_cons.mp hi with rfl | hi
    · refine ⟨hn.lt (by simp [State.entries,hd]),fun e he => hn.apart (l := s.done) (fun n => ?_) hd he⟩
      simp only [State.ids,State.entries,State.live,map_append,count_append]
      omega
    · exact hold hi
  | wakeReset he hbl hr hf => exact absurd hr (h.waits _ he hbl)
  | @getResults u d hu hd =>
    rcases mem_cons.mp hi with rfl | hi
    · have hres : d ∈ s.results := mem_of_mem_filter (mem_of_head? hd)
      refine ⟨hn.lt (by simp [State.entries,hres]),fun e he => ?_⟩
      rcases mem_append.mp he with he | he
      · refine hn.apart (l := s.results) (fun n => ?_) hres he
        simp only [State.ids,State.entries,map_append,count_append]
        omega
      · simpa using (mem_filter.mp he).2
    · exact hold hi
  | _ => exact hold hi

lemma no_live_of_settled (hn : Numbered s) (h : Held s) {u : ℕ} (hok : Settled s (.deregister u)) {e : Entry}
  (he : e ∈ s.live) : e.user ≠ u := by
  intro heu
  obtain ⟨hfree,-,hreq⟩ := h.live e he
  obtain ⟨r,hr,hcore⟩ := List.mem_map.mp hreq
  have hid : r.id = e.id := congrArg Prod.fst hcore
  have hru : r.user = u := (congrArg (fun c => c.2.1) hcore).trans heu
  rcases hok r hr hru with hf | ⟨d,hd,hdid⟩
  · exact hfree (show e.id ∈ s.freed from hid ▸ hf)
  · refine hn.apart (l := s.done) (fun n => ?_) hd he (hid ▸ hdid.symm)
    simp only [State.ids,State.entries,State.live,map_append,count_append]
    omega

lemma moves_users (hm : Moves s a s') {u : ℕ} (hu : u ∈ s.users) : u ∈ s'.users ∨ a = .deregister u := by
  cases hm with
  | register => exact .inl (mem_cons_of_mem _ hu)
  | @deregister v hv =>
    by_cases h : u = v
    · exact .inr (by rw [h])
    · exact .inl (mem_filter.mpr ⟨hu,by simpa using h⟩)
  | _ => exact .inl hu

lemma moves_held (hn : Numbered s) (h : Held s) (hm : Moves s a s') (hok : Settled s a) : Held s' := by
  refine ⟨fun e he => ⟨fun hf => (moves_freed hn h hm hf).2 e he rfl,?_⟩,fun i hi => (moves_freed hn h hm hi).1,
    moves_waits h hm hok⟩
  rcases moves_live hm he with ⟨d,hd,hcore⟩ | ⟨u,b,rfl,hu,rfl⟩
  · obtain ⟨-,husers,hreq⟩ := h.live d hd
    rw [← hcore]
    refine ⟨(moves_users hm husers).resolve_right ?_,moves_requests hn hm _ hreq⟩
    rintro rfl
    exact no_live_of_settled hn h hok hd rfl
  · cases hm with
    | prepare _ => exact ⟨hu,List.mem_map_of_mem (by simp)⟩

end

/-- **Nothing freed is queued**. -/
theorem owned_run (evs : List Event) (h : Run.AllSteps step Settled State.init evs) :
  Run.AllStates step Owned State.init evs := by
  refine h.keeps (J := fun s => Numbered s ∧ Held s) ?_ (fun s hs => hs.2.owned) ⟨init_numbered,?_⟩
  · rintro a s s' ⟨hn,hh⟩ hok hstep
    exact ⟨step_numbered hn hstep,moves_held hn hh (step_moves hstep) hok⟩
  · constructor <;> simp [State.init,State.live,Bottom.entry]

/-- A blocking request that comes back, then a reset, then the end of the user. -/
theorem owned_run_returned : (∃ s, [Event.register, .prepare 0 true, .append 1, .finish .done1 zeroRegs, .interrupt, .start,
  .bottom, .bottom, .bottom, .wake 1, .hwReset, .deregister 0].foldlM step State.init = some s ∧ s.freed = [1] ∧
  s.users = []) ∧
  Run.AllStates step Owned State.init [.register, .prepare 0 true, .append 1, .finish .done1 zeroRegs, .interrupt, .start,
    .bottom, .bottom, .bottom, .wake 1, .hwReset, .deregister 0] := by
  refine ⟨⟨_,rfl,rfl,rfl⟩,owned_run _ ?_⟩
  decide +kernel

/-- A blocking request is freed and stays in the queue after a reset. -/
theorem freed_stays_queued :
  (∃ s, [Event.register, .prepare 0 true, .append 1, .hwReset, .wake 1].foldlM step State.init = some s ∧
    s.freed = [1] ∧ s.queue.map Entry.id = [1] ∧ ¬ Owned s) ∧
  ∃ s, [Event.register, .prepare 0 false, .append 1, .deregister 0].foldlM step State.init = some s ∧
    s.users = [] ∧ s.queue.map Entry.user = [0] ∧ ¬ Owned s := by
  refine ⟨⟨_,rfl,rfl,rfl,fun h => ?_⟩,⟨_,rfl,rfl,rfl,fun h => ?_⟩⟩
  · exact h.request _ mem_cons_self mem_cons_self
  · exact not_mem_nil (h.user _ mem_cons_self)

end Mx27.Sahara
