/-
# Requests complete in order
-/
import Mx27Drivers.Sahara.Dispatch

namespace Mx27.Sahara

open List Option

def Pooled (u : ℕ) (e : Entry) : Bool := e.user = u ∧ e.blocking = false

def ReportedAs (s : State) (e : Entry) (good : Prop) : Prop :=
  ∃ st, (∀ st', (e.id, st') ∈ s.reports ↔ st' = st) ∧ (good ↔ st = .done1)

/-- The queue is in order, the pools and what is still in the queue are the
submissions of each user in order, the codes are those of the accelerator, and the
bottom half, left alone, ends with every finished request delivered. -/
structure Ordered (s : State) : Prop where
  shape : ∃ off on pending, s.queue = off ++ on ++ pending ∧ (∀ e ∈ off, e.status = .offSahara) ∧ on.length ≤ 1 ∧
    (∀ e ∈ on, e.status = .onSahara) ∧ ∀ e ∈ pending, e.status = .pending
  inOrder : ∃ past, s.submitted.map Entry.id = past ++ (s.bottom.entry.toList ++ s.queue).map Entry.id
  distinct : (s.submitted.map Entry.id).Nodup
  pools : ∀ u, (s.pool u ++ (s.bottom.entry.toList ++ s.queue).filter (Pooled u)).map Entry.id =
    (s.submitted.filter (Pooled u)).map Entry.id
  codes : ∀ e ∈ s.results, ReportedAs s e (e.result = .ok)
  ends : ∃ (evs : List Event) (s' : State), (∀ a ∈ evs, a = .start ∨ a = .bottom) ∧ evs.foldlM step s = some s' ∧ s'.bottom = .idle ∧
    s'.scheduled = false ∧ s'.submitted = s.submitted ∧ ∀ e ∈ s'.queue, e.status ≠ .offSahara

def Event.Plain : Event → Prop
  | .register | .prepare _ _ | .append _ | .interrupt | .start | .bottom | .wake _ => True
  | .finish st regs => st = .done1 ∨ st = .error1 ∧ regs.errorStatus ≠ 0
  | .deregister _ | .signal _ | .getResults _ | .hwReset => False

def Event.Convertible : Event → Prop
  | .finish .error1 regs => ¬ TwoChaErrors regs.errorStatus
  | _ => True

def Filed (s : State) : Prop :=
  ∃ past : List (ℕ × ℕ × Bool),
    s.submitted.map Entry.core = past ++ (s.bottom.entry.toList ++ s.queue).map Entry.core ∧
    s.results.map Entry.core = past.filter fun c => c.2.2 = false

section
variable {s s' : State} {a : Event}

lemma Filed.frame (h : Filed s) (hsub : s'.submitted = s.submitted) (hres : s'.results = s.results)
  (hb : s'.bottom.entry = s.bottom.entry) (hq : s'.queue.map Entry.core = s.queue.map Entry.core) : Filed s' := by
  obtain ⟨past,h1,h2⟩ := h
  refine ⟨past,?_,by rw [hres,h2]⟩
  rw [hsub,h1,map_append,map_append,hb,hq]

lemma moves_filed (h : Filed s) (hm : Moves s a s') (hp : a.Plain) : Filed s' := by
  cases hm with
  | register | prepare | finish | wake | wakeReset => exact h.frame rfl rfl rfl rfl
  | deregister | signal | getResults | hwReset => exact hp.elim
  | @append e q dar he hq =>
    obtain ⟨past,h1,h2⟩ := h
    have hcore := append_core s.dar e s.queue
    rw [hq] at hcore
    refine ⟨past,?_,h2⟩
    simp only [map_append,h1,hcore,map_cons,map_nil,List.append_assoc]
  | @interrupt i st regs b q dar hi hq =>
    have hcore := (handle_kept s.dar st regs s.queue).core
    rw [hq] at hcore
    exact h.frame rfl rfl rfl hcore
  | start hsch hb =>
    refine h.frame rfl rfl ?_ rfl
    rw [hb,State.startBottom]
    split <;> rfl
  | reset hb => exact h.frame rfl rfl (by rw [hb]; rfl) rfl
  | prime hb hq =>
    have hcore := (primeNext_kept s.dar s.queue).core
    rw [hq] at hcore
    exact h.frame rfl rfl (by rw [hb]; rfl) hcore
  | take hb hq hoff =>
    obtain ⟨past,h1,h2⟩ := h
    refine ⟨past,?_,h2⟩
    rw [h1,hb,hq]
    rfl
  | rest hb hoff => exact h.frame rfl rfl (by rw [hb]; rfl) rfl
  | @reply e e' hb he' hbl =>
    obtain ⟨past,h1,h2⟩ := h
    have hcore := processed_core he'
    refine ⟨past ++ [e.core],?_,?_⟩
    · rw [h1,hb,List.append_assoc]
      rfl
    · have : e.core.2.2 = true := by rw [← hcore]; exact hbl
      rw [filter_append,h2]
      simp [this]
  | @deliver e e' hb he' hbl =>
    obtain ⟨past,h1,h2⟩ := h
    have hcore := processed_core he'
    refine ⟨past ++ [e.core],?_,?_⟩
    · rw [h1,hb,List.append_assoc]
      rfl
    · have : e.core.2.2 = false := by rw [← hcore]; exact hbl
      rw [map_append,h2,filter_append,map_singleton,hcore]
      simp [this]

end

section
variable (l : Line)

lemma Line.dispatch_mem {dar : Option ℕ} {e : Entry} (h : e ∈ (l.dispatch dar).1.toQueue)
  (hon : e.status ≠ .onSahara) : e ∈ l.toQueue := by
  rw [Line.dispatch] at h
  split at h
  · rcases l.next.mem_toQueue.mp h with hm | hm | hm
    · exact l.mem_toQueue.mpr (.inl hm)
    · exact absurd (l.next.running_status e hm) hon
    · exact l.mem_toQueue.mpr (.inr (.inr (mem_of_mem_tail hm)))
  · exact h

lemma Line.dispatch_dar {dar : Option ℕ} {i : ℕ} (h : i ∈ (l.dispatch dar).2) :
  i ∈ dar ∨ ∃ e ∈ l.waiting, e.id = i := by
  rw [Line.dispatch] at h
  split at h
  · obtain ⟨e,he,rfl⟩ := map_eq_some_iff.mp h
    exact .inr ⟨e,mem_of_head? he,rfl⟩
  · exact .inl h

lemma Line.settle_mem {f : Entry → Entry} {e : Entry} (h : e ∈ (l.settle f).toQueue) :
  e ∈ l.toQueue ∨ ∃ a ∈ l.running, e = (f a).withStatus .offSahara := by
  rcases (l.settle f).mem_toQueue.mp h with hm | hm | hm
  · rcases mem_append.mp hm with hm | hm
    · exact .inl (l.mem_toQueue.mpr (.inl hm))
    · obtain ⟨a,ha,rfl⟩ := map_eq_some_iff.mp (mem_toList.mp hm)
      exact .inr ⟨a,ha,rfl⟩
  · cases hm
  · exact .inl (l.mem_toQueue.mpr (.inr (.inr hm)))

lemma Line.enqueue_mem {a e : Entry} (h : e ∈ (l.enqueue a).toQueue) : e ∈ l.toQueue ∨ e = a.withStatus .pending := by
  rw [enqueue_toQueue] at h
  exact (mem_append.mp h).imp id mem_singleton.mp

end

def Told (s : State) (e : Entry) : Prop := ReportedAs s e (e.errorStatus = 0) ∧ ¬ TwoChaErrors e.errorStatus

def Fresh (s : State) (i : ℕ) : Prop := ∀ st, (i, st) ∉ s.reports

structure Calm (s : State) : Prop where
  flag : s.resetFlag = false
  phase : s.bottom ≠ .reset ∧ s.bottom ≠ .prime
  noReset : ∀ e ∈ s.queue, e.status ≠ .reset
  coming : (∃ e ∈ s.queue, e.status = .offSahara) → s.scheduled = true ∨ s.bottom ≠ .idle
  intr : ∀ r ∈ s.intr, (r.2.1 = .done1 ∨ r.2.1 = .error1 ∧ r.2.2.errorStatus ≠ 0 ∧ ¬ TwoChaErrors r.2.2.errorStatus) ∧
    ∀ st', (r.1, st') ∈ s.reports ↔ st' = r.2.1
  off : ∀ e ∈ s.queue, e.status = .offSahara → Told s e
  delivering : ∀ e ∈ s.bottom.entry, Told s e
  codes : ∀ e ∈ s.results, ReportedAs s e (e.result = .ok)
  waiting : ∀ e ∈ s.queue, e.status = .pending → Fresh s e.id
  prepared : ∀ e ∈ s.prepared, Fresh s e.id
  dar : ∀ i ∈ s.dar, Fresh s i
  bound : ∀ p ∈ s.reports, p.1 < s.count

section
variable {s s' : State} {l : Line}

lemma ReportedAs.of_reports {e e' : Entry} {good good' : Prop} (h : ReportedAs s e good) (hr : s'.reports = s.reports)
  (hid : e'.id = e.id) (hgood : good' ↔ good) : ReportedAs s' e' good' := by
  obtain ⟨st,h1,h2⟩ := h
  exact ⟨st,by rw [hr,hid]; exact h1,hgood.trans h2⟩

lemma ReportedAs.report {e : Entry} {good : Prop} (h : ReportedAs s e good) {i : ℕ} {st : ExecStatus}
  (hr : s'.reports = s.reports ++ [(i, st)]) (hne : e.id ≠ i) : ReportedAs s' e good := by
  obtain ⟨st0,h1,h2⟩ := h
  refine ⟨st0,fun st' => ?_,h2⟩
  rw [hr,mem_append,h1,mem_singleton,Prod.mk.injEq]
  exact or_iff_left fun h => hne h.1

lemma Fresh.report {i j : ℕ} (h : Fresh s j) {st : ExecStatus} (hr : s'.reports = s.reports ++ [(i, st)])
  (hne : j ≠ i) : Fresh s' j := by
  intro st' hm
  rw [hr,mem_append,mem_singleton,Prod.mk.injEq] at hm
  rcases hm with hm | hm
  · exact h st' hm
  · exact hne hm.1

lemma Tied.ne_served (hn : Numbered s) (h : Tied s l) {i : ℕ} (hd : s.dar = some i) {e : Entry}
  (he : e ∈ s.elsewhere ∨ e ∈ s.queue ∧ e.status ≠ .onSahara) : e.id ≠ i := by
  obtain ⟨r,hr,rfl⟩ : ∃ r, l.running = some r ∧ r.id = i := by
    have := h.served
    rw [hd,some_or] at this
    exact map_eq_some_iff.mp this
  obtain ⟨hrq,hron⟩ : r ∈ s.queue ∧ r.status = .onSahara := by
    rw [h.queue]
    exact l.on_iff.mpr hr
  rcases he with he | ⟨he,hon⟩
  · exact (hn.elsewhere_ne he hrq).symm
  · intro hei
    rw [inj_on_of_nodup_map hn.queue_nodup he hrq hei] at hon
    exact hon hron

end

/-! ### One step -/

section
variable {s s' : State} {l : Line} {a : Event}

lemma Calm.frame (h : Calm s) (hr : s'.reports = s.reports) (hf : s'.resetFlag = false)
  (hph : s'.bottom ≠ .reset ∧ s'.bottom ≠ .prime)
  (hq : ∀ e ∈ s'.queue, e.status ≠ .onSahara → e ∈ s.queue ∨ e.status = .pending ∧ Fresh s e.id ∨
    e.status = .offSahara ∧ Told s e)
  (hcoming : (∃ e ∈ s'.queue, e.status = .offSahara) → s'.scheduled = true ∨ s'.bottom ≠ .idle)
  (hi : ∀ r ∈ s'.intr, r ∈ s.intr) (hb : ∀ e ∈ s'.bottom.entry, Told s e)
  (hres : ∀ e ∈ s'.results, e ∈ s.results ∨ ReportedAs s e (e.result = .ok))
  (hp : ∀ e ∈ s'.prepared, e ∈ s.prepared ∨ e.id = s.count) (hd : ∀ i ∈ s'.dar, Fresh s i)
  (hcount : s.count ≤ s'.count) : Calm s' where
  flag := hf
  phase := hph
  noReset e he hst := by
    rcases hq e he (by rw [hst]; decide) with hm | ⟨hm,-⟩ | ⟨hm,-⟩
    · exact h.noReset e hm hst
    · rw [hst] at hm
      cases hm
    · rw [hst] at hm
      cases hm
  coming := hcoming
  intr r hm := by
    rw [hr]
    exact h.intr r (hi r hm)
  off e he hst := by
    have htold : Told s e := by
      rcases hq e he (by rw [hst]; decide) with hm | ⟨hm,-⟩ | ⟨-,hm⟩
      · exact h.off e hm hst
      · rw [hst] at hm
        cases hm
      · exact hm
    exact ⟨htold.1.of_reports hr rfl Iff.rfl,htold.2⟩
  delivering e he := ⟨(hb e he).1.of_reports hr rfl Iff.rfl,(hb e he).2⟩
  codes e he := ((hres e he).elim (h.codes e) id).of_reports hr rfl Iff.rfl
  waiting e he hst st := by
    rw [hr]
    rcases hq e he (by rw [hst]; decide) with hm | ⟨-,hm⟩ | ⟨hm,-⟩
    · exact h.waiting e hm hst st
    · exact hm st
    · rw [hst] at hm
      cases hm
  prepared e he st := by
    rw [hr]
    rcases hp e he with he | he
    · exact h.prepared e he st
    · intro hm
      exact absurd (h.bound _ hm) (by rw [he]; exact lt_irrefl _)
  dar i hi st := by
    rw [hr]
    exact hd i hi st
  bound p hp := (h.bound p (hr ▸ hp)).trans_le hcount

lemma mem_of_pending {e : Entry} (he : e ∈ l.waiting) (hq : s.queue = l.toQueue) : e ∈ s.queue ∧ e.status = .pending :=
  ⟨hq ▸ l.mem_toQueue.mpr (.inr (.inr he)), l.waiting_status e he⟩

lemma calm_append (hn : Numbered s) (ht : Tied s l) (h : Calm s) {e : Entry} (he : e ∈ s.prepared) {q : List Entry}
  {dar : Option ℕ} (hq : sahQueueManagerAppendEntry e s.queue s.dar = (q, dar)) :
  (∀ a ∈ q, a.status ≠ .onSahara → a ∈ s.queue ∨ a.status = .pending ∧ Fresh s a.id) ∧ ∀ i ∈ dar, Fresh s i := by
  have hid : ∀ a ∈ l.waiting, a.id ≠ e.id :=
    fun a ha => hn.elsewhere_ne (by simp [State.elsewhere,he]) (mem_of_pending ha ht.queue).1
  have hmem : ∀ a ∈ (l.enqueue e).toQueue, a ∈ s.queue ∨ a.status = .pending ∧ Fresh s a.id := by
    intro a ha
    rcases l.enqueue_mem ha with ha | rfl
    · exact .inl (ht.queue ▸ ha)
    · exact .inr ⟨rfl,h.prepared e he⟩
  rw [ht.queue,append_toQueue l hid] at hq
  split at hq
  · rw [Line.view,Prod.mk.injEq] at hq
    refine ⟨fun a ha hon => hmem a ((l.enqueue e).dispatch_mem (hq.1 ▸ ha) hon),fun i hi => ?_⟩
    rcases (l.enqueue e).dispatch_dar (hq.2 ▸ hi) with hi | ⟨a,ha,rfl⟩
    · exact h.dar i hi
    · rcases hmem a ((l.enqueue e).mem_toQueue.mpr (.inr (.inr ha))) with hm | hm
      · exact h.waiting a hm ((l.enqueue e).waiting_status a ha)
      · exact hm.2
  · rw [Prod.mk.injEq] at hq
    exact ⟨fun a ha _ => hmem a (hq.1 ▸ ha),fun i hi => h.dar i (hq.2 ▸ hi)⟩

lemma calm_interrupt (ht : Tied s l) (h : Calm s) {i : ℕ} {st : ExecStatus} {regs : HwRegs}
  (hi : s.intr = some (i, st, regs)) {b : Bool} {q : List Entry} {dar : Option ℕ}
  (hq : sahHandleInterrupt st regs s.queue s.dar = (b, q, dar)) :
  b = false ∧ (∀ e ∈ q, e.status ≠ .onSahara → e ∈ s.queue ∨ e.status = .offSahara ∧ Told s e) ∧
    ∀ i ∈ dar, Fresh s i := by
  obtain ⟨hst,hreported⟩ := h.intr _ hi
  have hd : s.dar = none := ht.once.resolve_right (by rw [hi]; exact some_ne_none _)
  have hst' : st = .done1 ∨ st = .error1 := hst.imp id And.left
  rw [ht.queue,handle_done_toQueue l hst',Prod.mk.injEq,Line.view,Prod.mk.injEq] at hq
  refine ⟨hq.1.symm,fun e he hon => ?_,fun j hj => ?_⟩
  · rcases l.settle_mem (Line.dispatch_mem _ (hq.2.1 ▸ he) hon) with hm | ⟨r,hr,rfl⟩
    · exact .inl (ht.queue ▸ hm)
    · right
      have hid : r.id = i := by
        have := ht.served
        rw [hr,hd,hi] at this
        exact Option.some.inj this
      have hcore : ((r.finish st regs).withStatus .offSahara).id = i :=
        (congrArg Prod.fst (finish_follows ..).core).trans hid
      refine ⟨rfl,⟨st,fun st' => by rw [hcore]; exact hreported st',?_⟩,?_⟩
      · rcases hst with hst | ⟨hst,hne,-⟩
        · obtain rfl : st = .done1 := hst
          exact iff_of_true rfl rfl
        · obtain rfl : st = .error1 := hst
          exact iff_of_false hne (by decide)
      · rcases hst with hst | ⟨hst,-,hconv⟩
        · obtain rfl : st = .done1 := hst
          exact show ¬ TwoChaErrors 0 by decide
        · obtain rfl : st = .error1 := hst
          exact hconv
  · rcases Line.dispatch_dar _ (hq.2.2 ▸ hj) with hj | ⟨e,he,rfl⟩
    · rw [hd] at hj
      cases hj
    · have hw := mem_of_pending (l := l) he ht.queue
      exact h.waiting e hw.1 hw.2

lemma no_off_of_head (ht : Tied s l) (h : Calm s) (hhead : ∀ e ∈ s.queue.head?, e.status ≠ .offSahara) :
  ∀ e ∈ s.queue, e.status ≠ .offSahara := by
  have hs : l.settled = [] := by
    cases hs : l.settled with
    | nil => rfl
    | cons a rest =>
      exfalso
      have ha : a ∈ l.settled := by rw [hs]; exact mem_cons_self
      have hmem : a ∈ s.queue := ht.queue ▸ l.mem_toQueue.mpr (.inl ha)
      refine hhead a ?_ ((l.settled_status a ha).resolve_right (h.noReset a hmem))
      rw [ht.queue,Line.toQueue,hs]
      rfl
  intro e he hoff
  rcases l.mem_toQueue.mp (ht.queue ▸ he) with hm | hm | hm
  · rw [hs] at hm
    cases hm
  · rw [l.running_status e hm] at hoff
    cases hoff
  · rw [l.waiting_status e hm] at hoff
    cases hoff

lemma calm_finish (hn : Numbered s) (ht : Tied s l) (h : Calm s) {i : ℕ} {st : ExecStatus} {regs : HwRegs}
  (hi : s.dar = some i)
  (hst : st = .done1 ∨ st = .error1 ∧ regs.errorStatus ≠ 0 ∧ ¬ TwoChaErrors regs.errorStatus) :
  Calm { s with dar := none, intr := some (i, st, regs), reports := s.reports ++ [(i, st)] } := by
  have hne := fun {e : Entry} => ht.ne_served hn hi (e := e)
  have hprep : ∀ e ∈ s.prepared, e.id ≠ i := fun e he => hne (.inl (by simp [State.elsewhere,he]))
  have hbot : ∀ e ∈ s.bottom.entry, e.id ≠ i :=
    fun e he => hne (.inl (by simp [State.elsewhere,mem_def.mp he]))
  have hres : ∀ e ∈ s.results, e.id ≠ i := fun e he => hne (.inl (by simp [State.elsewhere,he]))
  refine ⟨h.flag,h.phase,h.noReset,h.coming,?_,?_,?_,?_,?_,?_,by simp,?_⟩
  · intro r hr
    rw [← Option.some.inj hr]
    refine ⟨hst,fun st' => ?_⟩
    rw [mem_append,mem_singleton,Prod.mk.injEq]
    exact ⟨fun hm => hm.elim (fun hm => absurd hm (h.dar i hi st')) And.right,fun hm => .inr ⟨rfl,hm⟩⟩
  · intro e he hoff
    obtain ⟨h1,h2⟩ := h.off e he hoff
    exact ⟨h1.report rfl (hne (.inr ⟨he,by rw [hoff]; decide⟩)),h2⟩
  · intro e he
    obtain ⟨h1,h2⟩ := h.delivering e he
    exact ⟨h1.report rfl (hbot e he),h2⟩
  · intro e he
    exact (h.codes e he).report rfl (hres e he)
  · intro e he hp
    exact (h.waiting e he hp).report rfl (hne (.inr ⟨he,by rw [hp]; decide⟩))
  · intro e he
    exact (h.prepared e he).report rfl (hprep e he)
  · intro p hp
    rcases mem_append.mp hp with hp | hp
    · exact h.bound p hp
    · rw [mem_singleton.mp hp]
      obtain ⟨r,hr,rfl⟩ : ∃ r, l.running = some r ∧ r.id = i := by
        have := ht.served
        rw [hi,some_or] at this
        exact map_eq_some_iff.mp this
      have hmem : r ∈ s.queue := ht.queue ▸ (l.on_iff.mpr hr).1
      exact hn.lt (by simp [State.entries,hmem])

lemma moves_calm (hn : Numbered s) (ht : Tied s l) (h : Calm s) (hm : Moves s a s') (hp : a.Plain)
  (hc : a.Convertible) : Calm s' := by
  have hold : ∀ e ∈ s.queue, e.status ≠ .onSahara → e ∈ s.queue ∨ e.status = .pending ∧ Fresh s e.id ∨
      e.status = .offSahara ∧ Told s e := fun e he _ => .inl he
  cases hm with
  | register =>
    exact h.frame rfl h.flag h.phase hold h.coming (fun _ hr => hr) h.delivering (fun _ he => .inl he)
      (fun _ he => .inl he) h.dar (Nat.le_succ _)
  | deregister | signal | getResults | hwReset => exact hp.elim
  | prepare hu =>
    refine h.frame rfl h.flag h.phase hold h.coming (fun _ hr => hr) h.delivering (fun _ he => .inl he)
      (fun e he => ?_) h.dar (Nat.le_succ _)
    rcases mem_append.mp he with he | he
    · exact .inl he
    · rw [mem_singleton.mp he]
      exact .inr rfl
  | append he hq =>
    obtain ⟨hmem,hdar⟩ := calm_append hn ht h he hq
    refine h.frame rfl h.flag h.phase (fun a ha hon => (hmem a ha hon).imp id .inl) ?_ (fun _ hr => hr) h.delivering
      (fun _ he => .inl he) (fun a ha => .inl (mem_of_mem_filter ha)) hdar le_rfl
    rintro ⟨a,ha,hoff⟩
    rcases hmem a ha (by rw [hoff]; decide) with hm | ⟨hm,-⟩
    · exact h.coming ⟨a,hm,hoff⟩
    · rw [hoff] at hm
      cases hm
  | @finish i st regs hi hst =>
    refine calm_finish hn ht h hi ?_
    rcases hp with rfl | ⟨rfl,hne⟩
    · exact .inl rfl
    · exact .inr ⟨rfl,hne,hc⟩
  | interrupt hi hq =>
    obtain ⟨hflag,hmem,hdar⟩ := calm_interrupt ht h hi hq
    exact h.frame rfl hflag h.phase (fun a ha hon => (hmem a ha hon).imp id .inr) (fun _ => .inl rfl) (by simp) h.delivering
      (fun _ he => .inl he) (fun _ he => .inl he) hdar le_rfl
  | start hsch hb =>
    have hbot : s.startBottom.bottom = .loop := by rw [State.startBottom,h.flag]; rfl
    exact h.frame rfl h.flag (by simp [hbot]) hold (fun _ => .inr (by simp [hbot]))
      (fun _ hr => hr) (by simp [hbot,Bottom.entry]) (fun _ he => .inl he) (fun _ he => .inl he) h.dar le_rfl
  | reset hb => exact absurd hb h.phase.1
  | prime hb hq => exact absurd hb h.phase.2
  | @take e q hb hq hoff =>
    refine h.frame rfl h.flag (by simp) (fun a ha _ => .inl (hq ▸ mem_cons_of_mem e ha)) (fun _ => .inr (by simp))
      (fun _ hr => hr) (fun a ha => ?_) (fun _ he => .inl he) (fun _ he => .inl he) h.dar le_rfl
    rw [← Option.some.inj ha]
    exact h.off e (hq ▸ mem_cons_self) hoff
  | rest hb hoff =>
    refine h.frame rfl h.flag (by simp) hold ?_ (fun _ hr => hr) (by simp [Bottom.entry]) (fun _ he => .inl he) (fun _ he => .inl he)
      h.dar le_rfl
    rintro ⟨e,he,hst⟩
    exact absurd hst (no_off_of_head ht h hoff e he)
  | reply hb he' hbl =>
    exact h.frame rfl h.flag (by simp) hold (fun _ => .inr (by simp)) (fun _ hr => hr) (by simp [Bottom.entry]) (fun _ he => .inl he)
      (fun _ he => .inl he) h.dar le_rfl
  | @deliver e e' hb he' hbl =>
    refine h.frame rfl h.flag (by simp) hold (fun _ => .inr (by simp)) (fun _ hr => hr) (by simp [Bottom.entry]) (fun a ha => ?_)
      (fun _ he => .inl he) h.dar le_rfl
    rcases mem_append.mp ha with ha | ha
    · exact .inl ha
    · rw [mem_singleton.mp ha]
      have hres := sahProcessFinishedRequest_result he'
      have htold := h.delivering e (by rw [hb]; rfl)
      exact .inr (htold.1.of_reports rfl hres.2.1 hres.1)
  | wake he | wakeReset =>
    exact h.frame rfl h.flag h.phase hold h.coming (fun _ hr => hr) h.delivering (fun _ he => .inl he)
      (fun _ he => .inl he) h.dar le_rfl

end

/-! ### The end of the bottom half -/

structure Rests (s s' : State) : Prop where
  run : ∃ evs : List Event, (∀ a ∈ evs, a = .start ∨ a = .bottom) ∧ evs.foldlM step s = some s'
  bottom : s'.bottom = .idle
  flag : s'.resetFlag = s.resetFlag
  submitted : s'.submitted = s.submitted

lemma Rests.cons {s s₁ s' : State} {a : Event} (ha : a = .start ∨ a = .bottom) (h : step s a = some s₁)
  (hf : s₁.resetFlag = s.resetFlag) (hs : s₁.submitted = s.submitted) (hr : Rests s₁ s') : Rests s s' := by
  obtain ⟨⟨evs,hevs,hrun⟩,hb,hf',hs'⟩ := hr
  refine ⟨⟨a :: evs,?_,?_⟩,hb,hf'.trans hf,hs'.trans hs⟩
  · intro b hb
    rcases mem_cons.mp hb with rfl | hb
    · exact ha
    · exact hevs b hb
  · rw [foldlM_cons,h]
    exact hrun

def Processable (q : List Entry) : Prop := ∀ e ∈ q, e.status = .offSahara → ¬ TwoChaErrors e.errorStatus

variable {s : State}

lemma deliver_step {e : Entry} (hb : s.bottom = .deliver e) (h : ¬ TwoChaErrors e.errorStatus) :
  ∃ s', step s .bottom = some s' ∧ s'.bottom = .loop ∧ s'.queue = s.queue ∧ s'.scheduled = s.scheduled ∧
    s'.resetFlag = s.resetFlag ∧ s'.submitted = s.submitted := by
  obtain ⟨e',he'⟩ := sahProcessFinishedRequest_isSome h
  cases hbl : e'.blocking with
  | true => exact ⟨{ s with done := s.done ++ [e'], bottom := .loop },by simp [step,State.bottomStep,hb,he',hbl],by simp⟩
  | false =>
    exact ⟨{ s with results := s.results ++ [e'],bottom := .loop },by simp [step,State.bottomStep,hb,he',hbl],by simp⟩

lemma drain : ∀ (q : List Entry) (s : State), s.queue = q → s.bottom = .loop → Processable q →
  ∃ s', Rests s s' ∧ s'.scheduled = s.scheduled ∧ s'.queue = q.dropWhile fun e => e.status = .offSahara
  | [], s, hq, hb, _ => by
    refine ⟨{ s with bottom := .idle },⟨⟨[.bottom],by simp,?_⟩,rfl,rfl,rfl⟩,rfl,hq⟩
    simp [step,State.bottomStep,hb,hq]
  | e :: q, s, hq, hb, hproc => by
    by_cases hoff : e.status = .offSahara
    · have htake : step s .bottom = some { s with queue := q, bottom := .deliver e } := by
        simp [step,State.bottomStep,hb,hq,hoff]
      obtain ⟨s2,hs2,hb2,hq2,hsch2,hf2,hsub2⟩ :=
        deliver_step (s := { s with queue := q, bottom := .deliver e }) rfl (hproc e mem_cons_self hoff)
      obtain ⟨s',hr,hsch,hq'⟩ := drain q s2 hq2 hb2 fun a ha => hproc a (mem_cons_of_mem e ha)
      refine ⟨s',.cons (.inr rfl) htake rfl rfl (.cons (.inr rfl) hs2 hf2 hsub2 hr),hsch.trans hsch2,?_⟩
      rw [hq',dropWhile_cons_of_pos (by simpa using hoff)]
    · refine ⟨{ s with bottom := .idle },⟨⟨[.bottom],by simp,?_⟩,rfl,rfl,rfl⟩,rfl,?_⟩
      · simp [step,State.bottomStep,hb,hq,hoff]
      · rw [dropWhile_cons_of_neg (by simpa using hoff)]
        exact hq

lemma rest_of_idle (hb : s.bottom = .idle) (hf : s.resetFlag = false) (hproc : Processable s.queue)
  (hcoming : (∃ e ∈ s.queue, e.status = .offSahara) → s.scheduled = true)
  (hdrop : ∀ e ∈ s.queue.dropWhile (fun e => e.status = .offSahara), e.status ≠ .offSahara) :
  ∃ s', Rests s s' ∧ s'.scheduled = false ∧ ∀ e ∈ s'.queue, e.status ≠ .offSahara := by
  cases hsch : s.scheduled with
  | false =>
    refine ⟨s,⟨⟨[],by simp,rfl⟩,hb,rfl,rfl⟩,hsch,fun e he hoff => ?_⟩
    have := hcoming ⟨e,he,hoff⟩
    rw [hsch] at this
    cases this
  | true =>
    have hstart : step s .start = some s.startBottom := by simp [step,hsch,hb]
    obtain ⟨s',hr,hs',hq'⟩ := drain s.queue s.startBottom rfl (by simp [State.startBottom,hf]) hproc
    exact ⟨s',.cons (.inl rfl) hstart rfl rfl hr,hs',by rw [hq']; exact hdrop⟩

lemma rest_of_loop (hb : s.bottom = .loop) (hf : s.resetFlag = false) (hproc : Processable s.queue)
  (hdrop : ∀ e ∈ s.queue.dropWhile (fun e => e.status = .offSahara), e.status ≠ .offSahara) :
  ∃ s', Rests s s' ∧ s'.scheduled = false ∧ ∀ e ∈ s'.queue, e.status ≠ .offSahara := by
  obtain ⟨s1,hr,-,hq⟩ := drain s.queue s rfl hb hproc
  rw [← hq] at hdrop
  have hsame : s1.queue.dropWhile (fun e => e.status = .offSahara) = s1.queue := by
    rw [dropWhile_eq_self_iff]
    intro hpos h
    exact hdrop _ (getElem_mem ..) (by simpa using h)
  obtain ⟨s',⟨⟨evs',hevs',hrun'⟩,hb',hf',hs'⟩,hsch,hno⟩ :=
    rest_of_idle hr.bottom (hr.flag.trans hf) (fun e he hoff => absurd hoff (hdrop e he))
      (fun h => by obtain ⟨e,he,hoff⟩ := h; exact absurd hoff (hdrop e he)) (by rw [hsame]; exact hdrop)
  obtain ⟨evs,hevs,hrun⟩ := hr.run
  refine ⟨s',⟨⟨evs ++ evs',?_,?_⟩,hb',hf'.trans hr.flag,hs'.trans hr.submitted⟩,hsch,hno⟩
  · intro a ha
    exact (mem_append.mp ha).elim (hevs a) (hevs' a)
  · rw [foldlM_append,hrun]
    exact hrun'

lemma calm_ends {l : Line} (ht : Tied s l) (h : Calm s) :
  ∃ s', Rests s s' ∧ s'.scheduled = false ∧ ∀ e ∈ s'.queue, e.status ≠ .offSahara := by
  have hproc : Processable .. := fun e he hoff => (h.off e he hoff).2
  have hdrop : ∀ e ∈ s.queue.dropWhile (fun e => e.status = .offSahara), e.status ≠ .offSahara := by
    have hall : ∀ e ∈ l.settled, decide (e.status = .offSahara) = true := by
      intro e he
      have hmem : e ∈ s.queue := ht.queue ▸ l.mem_toQueue.mpr (.inl he)
      exact decide_eq_true ((l.settled_status e he).resolve_right (h.noReset e hmem))
    rw [ht.queue,Line.toQueue,List.append_assoc,dropWhile_append_of_pos hall]
    intro e he hoff
    rcases mem_append.mp ((dropWhile_sublist _).subset he) with hm | hm
    · rw [l.running_status e (mem_toList.mp hm)] at hoff
      cases hoff
    · rw [l.waiting_status e hm] at hoff
      cases hoff
  cases hb : s.bottom with
  | idle =>
    refine rest_of_idle hb h.flag hproc (fun hoff => (h.coming hoff).resolve_right ?_) hdrop
    exact fun hne => hne hb
  | reset => exact absurd hb h.phase.1
  | prime => exact absurd hb h.phase.2
  | loop => exact rest_of_loop hb h.flag hproc hdrop
  | deliver e =>
    obtain ⟨s1,hs1,hb1,hq1,-,hf1,hsub1⟩ := deliver_step hb (h.delivering e (by rw [hb]; rfl)).2
    obtain ⟨s',hr,hsch,hno⟩ := rest_of_loop hb1 (hf1.trans h.flag) (by rw [hq1]; exact hproc) (by rw [hq1]; exact hdrop)
    exact ⟨s',.cons (.inr rfl) hs1 hf1 hsub1 hr,hsch,hno⟩

/-! ### Every run -/

def Logged (s : State) : Prop := ∀ n, ((s.submitted ++ s.prepared).map Entry.id).count n ≤ if n < s.count then 1 else 0

lemma moves_logged {s s' : State} {a : Event} (h : Logged s) (hm : Moves s a s') : Logged s' := by
  intro n
  have hn := h n
  simp only [map_append,count_append] at hn ⊢
  cases hm with
  | register =>
    simp only
    split at hn <;> split <;> omega
  | prepare hu =>
    simp only [map_append,count_append,map_cons,map_nil,count_singleton,beq_iff_eq,
      State.newEntry]
    split at hn <;> split <;> split <;> omega
  | append he hq =>
    have hrem := count_remove he n
    simp only [map_append,count_append,map_cons,map_nil,count_singleton,beq_iff_eq]
    omega
  | _ => exact hn

lemma Filed.pools (h : Filed s) (u : ℕ) :
  (s.pool u ++ (s.bottom.entry.toList ++ s.queue).filter (Pooled u)).map Entry.id =
    (s.submitted.filter (Pooled u)).map Entry.id := by
  obtain ⟨past,h1,h2⟩ := h
  have hsplit : ∀ l : List .., (l.filter (Pooled u)).map Entry.core =
      (l.map Entry.core).filter fun c => c.2.1 = u ∧ c.2.2 = false := by
    intro l
    rw [List.filter_map]
    rfl
  have hpool : (s.pool u).map Entry.core = past.filter fun c => c.2.1 = u ∧ c.2.2 = false := by
    calc (s.pool u).map Entry.core = (s.results.map ..).filter fun c => c.2.1 = u := by
          rw [List.filter_map]
          rfl
      _ = past.filter fun c => c.2.1 = u ∧ c.2.2 = false := by
          rw [h2,List.filter_filter]
          simp only [Bool.decide_and]
  apply ids_of_core
  rw [map_append,hpool,hsplit,hsplit,h1,filter_append]

lemma ordered_of_invariants {l : Line} (ht : Tied s l) (hc : Calm s) (hf : Filed s) (hl : Logged s) :
  Ordered s := by
  refine ⟨⟨l.settled,l.running.toList,l.waiting,ht.queue,fun e he => ?_,?_,fun e he => ?_,l.waiting_status⟩,
    ?_,?_,hf.pools,hc.codes,?_⟩
  · exact (l.settled_status e he).resolve_right (hc.noReset e (ht.queue ▸ l.mem_toQueue.mpr (.inl he)))
  · cases l.running <;> simp
  · exact l.running_status e (mem_toList.mp he)
  · obtain ⟨past,h1,-⟩ := hf
    refine ⟨past.map Prod.fst,?_⟩
    have := congrArg (List.map Prod.fst) h1
    rwa [map_append,List.map_map,List.map_map] at this
  · rw [nodup_iff_count_le_one]
    intro n
    have := hl n
    rw [map_append,count_append] at this
    split at this <;> omega
  · obtain ⟨s',hr,hsch,hno⟩ := calm_ends ht hc
    obtain ⟨evs,hevs,hrun⟩ := hr.run
    exact ⟨evs,s',hevs,hrun,hr.bottom,hsch,hr.submitted,hno⟩

lemma init_calm : Calm State.init := by
  constructor <;> simp [State.init,Bottom.entry]

/-- **Order and delivery in every run**. -/
theorem ordered_run (evs : List Event) (hplain : ∀ a ∈ evs, a.Plain) (hconv : ∀ a ∈ evs, a.Convertible) :
  Run.AllStates step Ordered State.init evs := by
  have hok : Run.AllSteps step (fun _ a => a.Plain ∧ a.Convertible) State.init evs :=
    Run.AllSteps.of_labels fun a ha => ⟨hplain a ha,hconv a ha⟩
  refine hok.keeps (J := fun s => Numbered s ∧ (∃ l, Tied s l) ∧ Calm s ∧ Filed s ∧ Logged s) ?_ ?_
    ⟨init_numbered,⟨_,init_tied⟩,init_calm,⟨[],rfl,rfl⟩,fun _ => Nat.zero_le _⟩
  · rintro a s s' ⟨hn,⟨l,ht⟩,hc,hf,hl⟩ ⟨hp,hcv⟩ hstep
    have hm := step_moves hstep
    exact ⟨step_numbered hn hstep,moves_tied hn ht hm fun _ hb => absurd hb hc.phase.1,moves_calm hn ht hc hm hp hcv,
      moves_filed hf hm hp,moves_logged hl hm⟩
  · rintro s ⟨-,⟨l,ht⟩,hc,hf,hl⟩
    exact ordered_of_invariants ht hc hf hl

/-- One request of one user. -/
theorem ordered_run_single : ∃ s, [Event.register, .prepare 0 false, .append 1, .finish .done1 zeroRegs, .interrupt, .start,
  .bottom, .bottom, .bottom].foldlM step State.init = some s ∧ (s.pool 0).map Entry.id = [1] ∧
  Run.AllStates step Ordered State.init [.register, .prepare 0 false, .append 1, .finish .done1 zeroRegs, .interrupt,
    .start, .bottom, .bottom, .bottom] :=
  ⟨_, rfl, rfl, ordered_run _ (by simp [Event.Plain]) (by simp [Event.Convertible])⟩

lemma not_ordered_of_stuck {e : Entry} (hb : s.bottom = .deliver e)
  (he : sahProcessFinishedRequest e = none) : ¬ Ordered s := by
  intro h
  obtain ⟨evs,s',hevs,hrun,hidle,-⟩ := h.ends
  cases evs with
  | nil =>
    obtain rfl := Option.some.inj hrun
    rw [hb] at hidle
    cases hidle
  | cons a evs =>
    have hnone : step s a = none := by
      rcases hevs a mem_cons_self with rfl | rfl
      · simp [step,hb]
      · simp [step,State.bottomStep,hb,he]
    rw [foldlM_cons,hnone] at hrun
    cases hrun

/-- The accelerator reports two errors of a cryptographic unit at once. -/
theorem result_never_delivered :
  (∀ a ∈ [Event.register, .prepare 0 false, .append 1, .finish .error1 ⟨0, 0, 0x1003000E, 0⟩, .interrupt, .start, .bottom],
    a.Plain) ∧
  ∃ s, [Event.register, .prepare 0 false, .append 1, .finish .error1 ⟨0, 0, 0x1003000E, 0⟩, .interrupt, .start,
      .bottom].foldlM step State.init = some s ∧
    s.submitted.map Entry.id = [1] ∧ s.queue = [] ∧ s.results = [] ∧ step s .bottom = none ∧ ¬ Ordered s := by
  refine ⟨by simp [Event.Plain],_,rfl,rfl,rfl,rfl,?_,not_ordered_of_stuck rfl ?_⟩ <;> decide +kernel

end Mx27.Sahara
