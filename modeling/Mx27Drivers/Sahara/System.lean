/-
# The driver, the accelerator and their users
-/
import Mx27Drivers.Lib.Run
import Mx27Drivers.Sahara.Queue

namespace Mx27.Sahara

open List Option

inductive Bottom
  | idle
  | reset
  | prime
  | loop
  | deliver (e : Entry)
  deriving DecidableEq

def Bottom.entry : Bottom → Option Entry
  | .deliver e => some e
  | _ => none

structure State where
  queue : List Entry
  dar : Option ℕ
  intr : Option (ℕ × ExecStatus × HwRegs)
  resetFlag : Bool
  scheduled : Bool
  bottom : Bottom
  prepared : List Entry
  done : List Entry
  results : List Entry
  users : List ℕ
  freed : List ℕ
  count : ℕ
  submitted : List Entry
  reports : List (ℕ × ExecStatus)

def State.init : State where
  queue := []
  dar := none
  intr := none
  resetFlag := false
  scheduled := false
  bottom := .idle
  prepared := []
  done := []
  results := []
  users := []
  freed := []
  count := 0
  submitted := []
  reports := []

inductive Event
  | register
  | deregister (user : ℕ)
  | prepare (user : ℕ) (blocking : Bool)
  | append (id : ℕ)
  | finish (st : ExecStatus) (regs : HwRegs)
  | interrupt
  | start
  | bottom
  | signal (id : ℕ)
  | wake (id : ℕ)
  | getResults (user : ℕ)
  | hwReset
  deriving DecidableEq

namespace State

def pool (s : State) (user : ℕ) : List Entry := s.results.filter fun e => e.user = user

/-- `sah_Intr_Top_Half` for the given status and registers. -/
def topHalf (s : State) (r : ExecStatus × HwRegs) : State :=
  let out := sahHandleInterrupt r.1 r.2 s.queue s.dar
  { s with resetFlag := out.1, queue := out.2.1, dar := out.2.2, scheduled := true }

def startBottom (s : State) : State :=
  { s with scheduled := false, bottom := if s.resetFlag then .reset else .loop }

def bottomStep (s : State) : Option State :=
  match s.bottom with
  | .idle => none
  | .reset => some { s with dar := none, intr := none, bottom := .prime }
  | .prime =>
    let r := primeNext s.queue s.dar
    some { s with queue := r.1, dar := r.2, bottom := .loop }
  | .loop =>
    match s.queue with
    | [] => some { s with bottom := .idle }
    | e :: q =>
      if e.status = .offSahara then some { s with queue := q, bottom := .deliver e } else some { s with bottom := .idle }
  | .deliver e =>
    (sahProcessFinishedRequest e).map fun e' =>
      if e'.blocking then { s with done := s.done ++ [e'], bottom := .loop }
      else { s with results := s.results ++ [e'], bottom := .loop }

def newEntry (s : State) (user : ℕ) (blocking : Bool) : Entry := ⟨s.count, user, blocking, .pending, 0, 0, 0, .ok⟩

end State

def step (s : State) : Event → Option State
  | .register => some { s with users := s.count :: s.users, count := s.count + 1 }
  | .deregister u => if u ∈ s.users then some { s with users := s.users.filter fun v => v ≠ u } else none
  | .prepare u b =>
    if u ∈ s.users then some { s with prepared := s.prepared ++ [s.newEntry u b], count := s.count + 1 } else none
  | .append id =>
    (s.prepared.find? fun e => e.id = id).map fun e =>
      let r := sahQueueManagerAppendEntry e s.queue s.dar
      { s with queue := r.1, dar := r.2, prepared := s.prepared.filter fun e => e.id ≠ id, submitted := s.submitted ++ [e] }
  | .finish st regs =>
    s.dar.bind fun i =>
      if st = .done1 ∨ st = .error1 ∨ st = .fault then
        some { s with dar := none, intr := some (i, st, regs), reports := s.reports ++ [(i, st)] }
      else none
  | .interrupt => s.intr.map fun r => { s.topHalf r.2 with intr := none }
  | .start => if s.scheduled = true ∧ s.bottom = .idle then some s.startBottom else none
  | .bottom => s.bottomStep
  | .signal id =>
    -- a blocked caller withdraws its request, if it is still pending
    (s.queue.find? fun e => e.id = id ∧ e.blocking = true ∧ e.status = .pending).map fun e =>
      { s with
        queue := s.queue.filter fun e => e.id ≠ id
        done := s.done ++ [{ e with result := .internalError, status := .failed }] }
  | .wake id =>
    -- a blocked caller finds its request processed, returns and frees it
    if (s.done.find? fun e => e.id = id).isSome then
      some { s with done := s.done.filter fun e => e.id ≠ id, freed := id :: s.freed }
    else if (s.queue.find? fun e => e.id = id ∧ e.blocking = true ∧ e.status = .reset).isSome ∧ id ∉ s.freed then
      some { s with freed := id :: s.freed }
    else none
  | .getResults u =>
    if u ∈ s.users then
      (s.pool u).head?.map fun e =>
        { s with results := s.results.filter fun a => a.id ≠ e.id, freed := e.id :: s.freed }
    else none
  | .hwReset => some { s with dar := none, intr := none, queue := sahQueueManagerResetEntries s.queue }

lemma sahHandleInterrupt_flag (st : ExecStatus) (regs : HwRegs) (q : List Entry) (dar : Option ℕ) :
  (sahHandleInterrupt st regs q dar).1 = decide (st = .fault) := by
  unfold sahHandleInterrupt
  cases st with
  | idle | busy | fault => rfl
  | error1 | done1 | done1Busy2 | done1Error2 | done1Done2 =>
    rw [if_pos (by decide)]
    split <;> rfl

/-- **When the bottom half resets.** -/
theorem bottomHalf_resets_iff (s : State) (ints : List (ExecStatus × HwRegs)) (last : ExecStatus × HwRegs) :
  ((((ints ++ [last]).foldl State.topHalf s).startBottom.bottom = .reset ↔
    ∃ i ∈ ints ++ [last], i.1 = .fault)) ↔ ((∃ i ∈ ints, i.1 = .fault) → last.1 = .fault) := by
  have hreset : ((ints ++ [last]).foldl State.topHalf s).startBottom.bottom = .reset ↔ last.1 = .fault := by
    rw [foldl_append,foldl_cons,foldl_nil]
    simp only [State.startBottom,State.topHalf,sahHandleInterrupt_flag]
    by_cases h : last.1 = .fault <;> simp [h]
  have hsome : (∃ i ∈ ints ++ [last], i.1 = .fault) ↔ (∃ i ∈ ints, i.1 = .fault) ∨ last.1 = .fault := by
    simp only [mem_append,mem_singleton,or_and_right,exists_or,exists_eq_left]
  rw [hreset,hsome]
  exact ⟨fun h hf => h.mpr (.inl hf),fun h => ⟨.inr,fun h' => h'.elim h id⟩⟩

def zeroRegs : HwRegs := ⟨0, 0, 0, 0⟩

/-- A fault, and another request that is done before the first bottom half. -/
theorem fault_forgotten :
  (∃ s, [Event.register, .prepare 0 false, .append 1, .finish .fault zeroRegs, .interrupt, .prepare 0 false, .append 2,
      .finish .done1 zeroRegs, .interrupt, .start].foldlM step State.init = some s ∧
    s.reports = [(1, .fault), (2, .done1)] ∧ s.bottom = .loop) ∧
  ¬ (([(ExecStatus.fault, zeroRegs), (.done1, zeroRegs)].foldl State.topHalf State.init).startBottom.bottom = .reset ↔
    ∃ i ∈ [(ExecStatus.fault, zeroRegs), (.done1, zeroRegs)], i.1 = .fault) := by
  refine ⟨⟨_,rfl,rfl,rfl⟩,fun h => ?_⟩
  have := h.mpr ⟨_,mem_cons_self,rfl⟩
  cases this

/-! ### What the driver leaves alone -/

def Entry.core (e : Entry) : ℕ × ℕ × Bool := (e.id, e.user, e.blocking)

structure Entry.Follows (e e' : Entry) : Prop where
  core : e'.core = e.core
  reset : e'.status = .reset → e.status = .reset

lemma Entry.Follows.rfl {e : Entry} : e.Follows e := ⟨Eq.refl _, fun h => h⟩

def Kept (q q' : List Entry) : Prop := List.Forall₂ Entry.Follows q q'

namespace Kept

variable {q q' q'' : List Entry}

lemma rfl : Kept q q := forall₂_same.mpr fun _ _ => .rfl

lemma trans : ∀ {q q' q'' : List Entry}, Kept q q' → Kept q' q'' → Kept q q''
  | _, _, _, .nil, .nil => .nil
  | _, _, _, .cons h1 t1, .cons h2 t2 => .cons ⟨h2.core.trans h1.core, fun h => h1.reset (h2.reset h)⟩ (trans t1 t2)

lemma core : ∀ {q q' : List Entry}, Kept q q' → q'.map Entry.core = q.map Entry.core
  | _, _, .nil => Eq.refl _
  | _, _, .cons h t => by rw [map_cons,map_cons,h.core,core t]

lemma mem : ∀ {q q' : List Entry}, Kept q q' → ∀ e' ∈ q', ∃ e ∈ q, e.Follows e'
  | _, _, .cons (b := b) h t, e', he' => by
    rcases mem_cons.mp he' with rfl | he'
    · exact ⟨_,mem_cons_self,h⟩
    · obtain ⟨e,he,hf⟩ := mem t e' he'
      exact ⟨e,mem_cons_of_mem _ he,hf⟩

end Kept

section
variable (dar : Option ℕ)

lemma setFirst_kept {st : QueueStatus} {f : Entry → Entry} (hf : ∀ e : Entry, e.status = st → e.Follows (f e)) :
  ∀ q, Kept q (setFirst st f q)
  | [] => .nil
  | e :: q => by
    by_cases h : e.status = st
    · rw [setFirst,lookmap_cons_some _ q (if_pos h)]
      exact .cons (hf e h) Kept.rfl
    · rw [setFirst,lookmap_cons_none _ q (if_neg h)]
      exact .cons .rfl (setFirst_kept hf q)

lemma setId_kept (id : ℕ) {f : Entry → Entry} (hf : ∀ e : Entry, e.Follows (f e)) (q : List Entry) :
  Kept q (setId id f q) := by
  rw [Kept,setId,forall₂_map_right_iff,forall₂_same]
  intro e _
  split
  · exact hf e
  · exact .rfl

lemma withStatus_follows (st : QueueStatus) (h : st ≠ .reset) (e : Entry) : e.Follows (e.withStatus st) :=
  ⟨rfl, fun h' => absurd h' h⟩

lemma finish_follows (st : ExecStatus) (regs : HwRegs) (e : Entry) :
  e.Follows ((e.finish st regs).withStatus .offSahara) := by
  refine ⟨?_,fun h => by cases h⟩
  unfold Entry.finish
  split <;> rfl

lemma faulted_follows (e : Entry) : e.Follows e.faulted := ⟨rfl, fun h => by cases h⟩

lemma prime_kept (e : Entry) (q : List Entry) : Kept q (sahQueueManagerPrime e q dar).1 := by
  unfold sahQueueManagerPrime
  split
  · exact .rfl
  · split
    · exact setFirst_kept (fun e _ => withStatus_follows .onSahara (by decide) e) q
    · exact .rfl

lemma primeNext_kept (q : List Entry) : Kept q (primeNext q dar).1 := by
  unfold primeNext
  split
  · exact prime_kept dar _ q
  · exact .rfl

lemma append_kept (e : Entry) (q : List Entry) :
  Kept (q ++ [e.withStatus .pending]) (sahQueueManagerAppendEntry e q dar).1 := by
  simp only [sahQueueManagerAppendEntry]
  split
  · split
    · exact prime_kept dar _ _
    · exact .rfl
  · exact .rfl

lemma reload_kept (q : List Entry) : Kept q (reload q dar).1 := by
  unfold reload
  split
  · split
    · split
      · exact setFirst_kept (fun e _ => withStatus_follows .onSahara (by decide) e) q
      · exact .rfl
    · exact .rfl
  · exact .rfl

lemma handleFinished_kept (st : ExecStatus) (regs : HwRegs) (q : List Entry) :
  Kept q (handleFinished st regs q dar).2.1 := by
  have hset : ∀ q, Kept q (setFirst .onSahara (fun e => (e.finish st regs).withStatus .offSahara) q) :=
    setFirst_kept fun e _ => finish_follows st regs e
  unfold handleFinished
  split
  · exact reload_kept dar q
  · refine Kept.trans ?_ (reload_kept dar _)
    split
    · exact (hset q).trans (hset _)
    · exact hset q

lemma handleFault_kept (regs : HwRegs) (q : List Entry) : Kept q (handleFault regs q) := by
  have hset : ∀ q, Kept q (setFirst .onSahara Entry.faulted q) := setFirst_kept fun e _ => faulted_follows e
  have htwice : Kept q (setFirst .onSahara Entry.faulted (setFirst .onSahara Entry.faulted q)) := (hset q).trans (hset _)
  unfold handleFault
  split
  · exact .rfl
  · simp only
    split
    · exact hset q
    · split
      · refine htwice.trans (setId_kept _ ?_ _)
        exact fun _ => ⟨rfl,fun h => h⟩
      · split
        · exact htwice.trans (setId_kept _ (withStatus_follows .pending (by decide)) _)
        · exact htwice

lemma handle_kept (st : ExecStatus) (regs : HwRegs) (q : List Entry) :
  Kept q (sahHandleInterrupt st regs q dar).2.1 := by
  have hfin := handleFinished_kept dar st regs q
  unfold sahHandleInterrupt
  split
  · split
    · next r hr =>
      rw [hr] at hfin
      exact hfin
    · next r hr =>
      rw [hr] at hfin
      exact hfin.trans (handleFinished_kept r.2 .error1 regs r.1)
  · split
    · exact handleFault_kept regs q
    · exact .rfl

lemma processed_core {e e' : Entry} (h : sahProcessFinishedRequest e = some e') : e'.core = e.core := by
  obtain ⟨-,h1,h2,h3⟩ := sahProcessFinishedRequest_result h
  rw [Entry.core,h1,h2,h3]
  rfl

lemma append_core (e : Entry) (q : List Entry) :
  (sahQueueManagerAppendEntry e q dar).1.map Entry.core = q.map Entry.core ++ [e.core] := by
  rw [(append_kept dar e q).core,map_append]
  rfl

lemma reset_core (q : List Entry) : (sahQueueManagerResetEntries q).map Entry.core = q.map Entry.core := by
  rw [sahQueueManagerResetEntries,List.map_map]
  rfl

end

/-! ### What a step does -/

inductive Moves (s : State) : Event → State → Prop
  | register : Moves s .register { s with users := s.count :: s.users, count := s.count + 1 }
  | deregister {u : ℕ} : u ∈ s.users → Moves s (.deregister u) { s with users := s.users.filter fun v => v ≠ u }
  | prepare {u : ℕ} {b : Bool} : u ∈ s.users →
      Moves s (.prepare u b) { s with prepared := s.prepared ++ [s.newEntry u b], count := s.count + 1 }
  | append {e : Entry} {q : List Entry} {dar : Option ℕ} : e ∈ s.prepared →
      sahQueueManagerAppendEntry e s.queue s.dar = (q, dar) →
      Moves s (.append e.id) { s with
        queue := q, dar := dar, prepared := s.prepared.filter fun a => a.id ≠ e.id, submitted := s.submitted ++ [e] }
  | finish {i : ℕ} {st : ExecStatus} {regs : HwRegs} : s.dar = some i → st = .done1 ∨ st = .error1 ∨ st = .fault →
      Moves s (.finish st regs) { s with
        dar := none, intr := some (i, st, regs), reports := s.reports ++ [(i, st)] }
  | interrupt {i : ℕ} {st : ExecStatus} {regs : HwRegs} {b : Bool} {q : List Entry} {dar : Option ℕ} :
      s.intr = some (i, st, regs) → sahHandleInterrupt st regs s.queue s.dar = (b, q, dar) →
      Moves s .interrupt { s with resetFlag := b, queue := q, dar := dar, scheduled := true, intr := none }
  | start : s.scheduled = true → s.bottom = .idle → Moves s .start s.startBottom
  | reset : s.bottom = .reset → Moves s .bottom { s with dar := none, intr := none, bottom := .prime }
  | prime {q : List Entry} {dar : Option ℕ} : s.bottom = .prime → primeNext s.queue s.dar = (q, dar) →
      Moves s .bottom { s with queue := q, dar := dar, bottom := .loop }
  | take {e : Entry} {q : List Entry} : s.bottom = .loop → s.queue = e :: q → e.status = .offSahara →
      Moves s .bottom { s with queue := q, bottom := .deliver e }
  | rest : s.bottom = .loop → (∀ e ∈ s.queue.head?, e.status ≠ .offSahara) → Moves s .bottom { s with bottom := .idle }
  | reply {e e' : Entry} : s.bottom = .deliver e → sahProcessFinishedRequest e = some e' → e'.blocking = true →
      Moves s .bottom { s with done := s.done ++ [e'], bottom := .loop }
  | deliver {e e' : Entry} : s.bottom = .deliver e → sahProcessFinishedRequest e = some e' → e'.blocking = false →
      Moves s .bottom { s with results := s.results ++ [e'], bottom := .loop }
  | signal {e : Entry} : e ∈ s.queue → e.blocking = true → e.status = .pending →
      Moves s (.signal e.id) { s with
        queue := s.queue.filter fun a => a.id ≠ e.id
        done := s.done ++ [{ e with result := .internalError, status := .failed }] }
  | wake {e : Entry} : e ∈ s.done →
      Moves s (.wake e.id) { s with done := s.done.filter fun a => a.id ≠ e.id, freed := e.id :: s.freed }
  | wakeReset {e : Entry} : e ∈ s.queue → e.blocking = true → e.status = .reset → e.id ∉ s.freed →
      Moves s (.wake e.id) { s with freed := e.id :: s.freed }
  | getResults {u : ℕ} {e : Entry} : u ∈ s.users → (s.pool u).head? = some e →
      Moves s (.getResults u) { s with results := s.results.filter fun a => a.id ≠ e.id, freed := e.id :: s.freed }
  | hwReset : Moves s .hwReset { s with dar := none, intr := none, queue := sahQueueManagerResetEntries s.queue }

variable {s s' : State}

lemma bottomStep_moves (h : s.bottomStep = some s') : Moves s .bottom s' := by
  unfold State.bottomStep at h
  split at h
  · cases h
  · next hb =>
    cases h
    exact .reset hb
  · next hb =>
    cases h
    exact .prime hb rfl
  · next hb =>
    split at h
    · next hq =>
      cases h
      exact .rest hb (by rw [hq]; exact nofun)
    · next e q hq =>
      split at h
      · next hoff =>
        cases h
        exact .take hb hq hoff
      · next hoff =>
        cases h
        refine .rest hb fun a ha => ?_
        rw [hq] at ha
        rwa [← Option.some.inj ha]
  · next e hb =>
    obtain ⟨e',he',rfl⟩ := map_eq_some_iff.mp h
    split
    · next hbl => exact .reply hb he' hbl
    · next hbl => exact .deliver hb he' (Bool.not_eq_true _ ▸ hbl)

lemma step_moves {a : Event} (h : step s a = some s') : Moves s a s' := by
  cases a with
  | register =>
    cases h
    exact .register
  | deregister u =>
    obtain ⟨hu,rfl⟩ := Run.of_guard h
    exact .deregister hu
  | prepare u b =>
    obtain ⟨hu,rfl⟩ := Run.of_guard h
    exact .prepare hu
  | append id =>
    obtain ⟨e,he,rfl⟩ := map_eq_some_iff.mp h
    obtain rfl : e.id = id := by simpa using find?_some he
    exact .append (mem_of_find?_eq_some he) rfl
  | finish st regs =>
    obtain ⟨i,hi,hst⟩ := bind_eq_some_iff.mp h
    obtain ⟨hok,rfl⟩ := Run.of_guard hst
    exact .finish hi hok
  | interrupt =>
    obtain ⟨r,hr,rfl⟩ := map_eq_some_iff.mp h
    exact .interrupt hr rfl
  | start =>
    obtain ⟨hs,rfl⟩ := Run.of_guard h
    exact .start hs.1 hs.2
  | bottom => exact bottomStep_moves h
  | signal id =>
    obtain ⟨e,he,rfl⟩ := map_eq_some_iff.mp h
    obtain ⟨rfl,hb,hp⟩ : e.id = id ∧ e.blocking = true ∧ e.status = .pending := by simpa using find?_some he
    exact .signal (mem_of_find?_eq_some he) hb hp
  | wake id =>
    simp only [step] at h
    split at h
    · next hd =>
      obtain ⟨e,he⟩ := isSome_iff_exists.mp hd
      obtain rfl : e.id = id := by simpa using find?_some he
      cases h
      exact .wake (mem_of_find?_eq_some he)
    · obtain ⟨hq,rfl⟩ := Run.of_guard h
      obtain ⟨e,he⟩ := isSome_iff_exists.mp hq.1
      obtain ⟨rfl,hb,hp⟩ : e.id = id ∧ e.blocking = true ∧ e.status = .reset := by simpa using find?_some he
      exact .wakeReset (mem_of_find?_eq_some he) hb hp hq.2
  | getResults u =>
    simp only [step,ite_none_right_eq_some] at h
    obtain ⟨e,he,rfl⟩ := map_eq_some_iff.mp h.2
    exact .getResults h.1 he
  | hwReset =>
    cases h
    exact .hwReset

/-! ### Numbers -/

namespace State

def entries (s : State) : List Entry := s.prepared ++ s.queue ++ s.bottom.entry.toList ++ s.done ++ s.results

def ids (s : State) : List ℕ := s.entries.map Entry.id

def elsewhere (s : State) : List Entry := s.prepared ++ s.bottom.entry.toList ++ s.done ++ s.results

end State

def Numbered (s : State) : Prop := ∀ n, s.ids.count n ≤ if n < s.count then 1 else 0

lemma moves_count {a : Event} (h : Moves s a s') : s.count ≤ s'.count := by
  cases h with
  | register | prepare => exact Nat.le_succ _
  | _ => exact le_rfl

lemma ids_of_core {q q' : List Entry} (h : q'.map Entry.core = q.map Entry.core) : q'.map Entry.id = q.map Entry.id := by
  have := congrArg (List.map Prod.fst) h
  rwa [List.map_map,List.map_map] at this

lemma count_remove {l : List Entry} {e : Entry} (he : e ∈ l) (n : ℕ) :
  ((l.filter fun a => a.id ≠ e.id).map Entry.id).count n + (if e.id = n then 1 else 0) ≤ (l.map Entry.id).count n := by
  split
  · next h =>
    have h0 : ((l.filter fun a => a.id ≠ e.id).map Entry.id).count n = 0 := by
      rw [count_eq_zero,← h]
      simp
    have h1 : 0 < (l.map Entry.id).count n := by
      rw [count_pos_iff,← h]
      exact List.mem_map_of_mem he
    omega
  · exact (filter_sublist.map Entry.id).count_le n

lemma step_numbered {a : Event} (hs : Numbered s) (h : step s a = some s') : Numbered s' := by
  intro n
  have hn := hs n
  simp only [State.ids,State.entries,map_append,count_append] at hn ⊢
  cases step_moves h with
  | register =>
    simp only
    split at hn <;> split <;> omega
  | deregister _ | finish _ _ | wakeReset _ _ _ _ => exact hn
  | prepare hu =>
    simp only [map_append,count_append,map_cons,map_nil,count_singleton,beq_iff_eq,
      State.newEntry]
    split at hn <;> split <;> split <;> omega
  | @append e q dar he hq =>
    have hrem := count_remove he n
    have hcore := append_core s.dar e s.queue
    rw [hq,← map_singleton,← map_append] at hcore
    simp only [ids_of_core hcore,map_append,count_append,map_cons,map_nil,count_singleton,
      beq_iff_eq]
    omega
  | @interrupt i st regs b q dar hi hq =>
    have hcore := (handle_kept s.dar st regs s.queue).core
    rw [hq] at hcore
    simpa only [ids_of_core hcore] using hn
  | start hsch hb =>
    simp only [hb,Bottom.entry] at hn
    simp only [State.startBottom]
    split <;> exact hn
  | reset hb | rest hb _ => simpa only [hb,Bottom.entry] using hn
  | prime hb hq =>
    have hcore := (primeNext_kept s.dar s.queue).core
    rw [hq] at hcore
    simpa only [hb,Bottom.entry,ids_of_core hcore] using hn
  | take hb hq hoff =>
    simp only [hb,hq,Bottom.entry,toList,map_cons,map_nil,count_cons,count_nil] at hn ⊢
    omega
  | reply hb he' _ | deliver hb he' _ =>
    simp only [hb,Bottom.entry,toList,map_append,count_append,map_cons,map_nil,
      (sahProcessFinishedRequest_result he').2.1,count_nil] at hn ⊢
    omega
  | signal he hbl hp =>
    have hrem := count_remove he n
    simp only [map_append,count_append,map_cons,map_nil,count_singleton,beq_iff_eq]
    omega
  | wake he =>
    have hrem := count_remove he n
    simp only
    omega
  | getResults hu he =>
    have hrem := count_remove (mem_of_mem_filter (mem_of_head? he)) n
    simp only
    omega
  | hwReset => simpa only [ids_of_core (reset_core s.queue)] using hn

section
variable {s : State} {l m : List Entry}

lemma Numbered.nodup (h : Numbered s) (hl : ∀ n, (l.map Entry.id).count n ≤ s.ids.count n) : (l.map Entry.id).Nodup := by
  rw [nodup_iff_count_le_one]
  intro n
  have hn := h n
  have := hl n
  split at hn <;> omega

lemma Numbered.lt (h : Numbered s) {e : Entry} (he : e ∈ s.entries) : e.id < s.count := by
  by_contra hlt
  have hn := h e.id
  have hpos : 0 < s.ids.count e.id := count_pos_iff.mpr (List.mem_map_of_mem he)
  rw [if_neg hlt] at hn
  omega

lemma Numbered.apart (h : Numbered s)
  (hl : ∀ n, (l.map Entry.id).count n + (m.map Entry.id).count n ≤ s.ids.count n) {e a : Entry} (he : e ∈ l)
  (ha : a ∈ m) : a.id ≠ e.id := by
  intro hid
  have hn := h e.id
  have hsum := hl e.id
  have h1 : 0 < (l.map Entry.id).count e.id := count_pos_iff.mpr (List.mem_map_of_mem he)
  have h2 : 0 < (m.map Entry.id).count e.id := count_pos_iff.mpr (hid ▸ List.mem_map_of_mem ha)
  split at hn <;> omega

lemma Numbered.queue_nodup (h : Numbered s) : (s.queue.map Entry.id).Nodup := by
  apply h.nodup
  intro n
  simp only [State.ids,State.entries,map_append,count_append]
  omega

lemma Numbered.elsewhere_ne (h : Numbered s) {e a : Entry} (he : e ∈ s.elsewhere) (ha : a ∈ s.queue) : a.id ≠ e.id := by
  refine h.apart (fun n => ?_) he ha
  simp only [State.ids,State.entries,State.elsewhere,map_append,count_append]
  omega

end

lemma init_numbered : Numbered State.init := fun _ => Nat.zero_le _

end Mx27.Sahara
