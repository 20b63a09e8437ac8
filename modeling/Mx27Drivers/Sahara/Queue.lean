/-
# The request queue
-/
import Mx27Drivers.Sahara.ErrorStatus

namespace Mx27.Sahara

open List Option

inductive QueueStatus
  | pending
  | onSahara
  | offSahara
  | complete
  | failed
  | reset
  | ignore
  | ignored
  deriving DecidableEq

structure Entry where
  id : ℕ
  user : ℕ
  blocking : Bool
  status : QueueStatus
  errorStatus : BitVec 32
  faultAddress : BitVec 32
  currentDar : BitVec 32
  result : Return
  deriving DecidableEq

inductive ExecStatus
  | idle
  | busy
  | error1
  | fault
  | done1
  | done1Busy2
  | done1Error2
  | done1Done2
  deriving DecidableEq

def ExecStatus.done1Bit : ExecStatus → Bool
  | .done1 | .done1Busy2 | .done1Error2 | .done1Done2 => true
  | _ => false

structure HwRegs where
  faultAddress : BitVec 32
  cdar : BitVec 32
  errorStatus : BitVec 32
  idar : ℕ
  deriving DecidableEq

/-! ### The code -/

def sahFindWithState (st : QueueStatus) (q : List Entry) : Option Entry := q.find? fun e => e.status = st

def setFirst (st : QueueStatus) (f : Entry → Entry) (q : List Entry) : List Entry :=
  q.lookmap fun e => if e.status = st then some (f e) else none

def Entry.withStatus (st : QueueStatus) (e : Entry) : Entry := { e with status := st }

def sahQueueManagerPrime (entry : Entry) (q : List Entry) (dar : Option ℕ) : List Entry × Option ℕ :=
  if sahFindWithState .onSahara q ≠ none then (q, dar)
  else if dar = none then (setFirst .pending (Entry.withStatus .onSahara) q, some entry.id)
  else (q, dar)

def sahQueueManagerAppendEntry (entry : Entry) (q : List Entry) (dar : Option ℕ) : List Entry × Option ℕ :=
  let q' := q ++ [entry.withStatus .pending]
  match sahFindWithState .pending q' with
  | some current => if current.id = entry.id then sahQueueManagerPrime current q' dar else (q', dar)
  | none => (q', dar)

/-- `sah_reset_sahara_request` after the reset. -/
def primeNext (q : List Entry) (dar : Option ℕ) : List Entry × Option ℕ :=
  match sahFindWithState .pending q with
  | some desc => sahQueueManagerPrime desc q dar
  | none => (q, dar)

def reload (q : List Entry) (dar : Option ℕ) : List Entry × Option ℕ :=
  if dar = none then
    match sahFindWithState .pending q with
    | some current =>
      if sahFindWithState .onSahara q = none then
        (setFirst .pending (Entry.withStatus .onSahara) q, some current.id)
      else (q, dar)
    | none => (q, dar)
  else (q, dar)

def Entry.finish (st : ExecStatus) (regs : HwRegs) (e : Entry) : Entry :=
  if st = .error1 then
    { e with faultAddress := regs.faultAddress, currentDar := regs.cdar, errorStatus := regs.errorStatus }
  else { e with errorStatus := 0 }

def handleFinished (st : ExecStatus) (regs : HwRegs) (q : List Entry) (dar : Option ℕ) :
  Bool × List Entry × Option ℕ :=
  match sahFindWithState .onSahara q with
  | none => (false, reload q dar)
  | some _ =>
    let q₁ := setFirst .onSahara (fun e => (e.finish st regs).withStatus .offSahara) q
    let q₂ :=
      if st = .done1Done2 then setFirst .onSahara (fun e => (e.finish st regs).withStatus .offSahara) q₁ else q₁
    (decide (st = .done1Error2), reload q₂ dar)

def Entry.faulted (e : Entry) : Entry := { e with errorStatus := 0xFFFFFFFF#32, status := .offSahara }

def setId (id : ℕ) (f : Entry → Entry) (q : List Entry) : List Entry := q.map fun e => if e.id = id then f e else e

def handleFault (regs : HwRegs) (q : List Entry) : List Entry :=
  match sahFindWithState .onSahara q with
  | none => q
  | some previous =>
    let q₁ := setFirst .onSahara Entry.faulted q
    match sahFindWithState .onSahara q₁ with
    | none => q₁
    | some current =>
      let q₂ := setFirst .onSahara Entry.faulted q₁
      if current.id = regs.idar then setId previous.id (fun e => { e with errorStatus := 0 }) q₂
      else if previous.id = regs.idar then setId current.id (Entry.withStatus .pending) q₂
      else q₂

/-- `sah_Handle_Interrupt`: the reset flag, the queue and the DAR. -/
def sahHandleInterrupt (st : ExecStatus) (regs : HwRegs) (q : List Entry) (dar : Option ℕ) :
  Bool × List Entry × Option ℕ :=
  if st.done1Bit ∨ st = .error1 then
    match handleFinished st regs q dar with
    | (false, r) => (false, r)
    | (true, r) => (false, (handleFinished .error1 regs r.1 r.2).2)
  else if st = .fault then (true, handleFault regs q, dar)
  else (false, q, dar)

def sahQueueManagerResetEntries (q : List Entry) : List Entry := q.map (Entry.withStatus .reset)

def sahProcessFinishedRequest (e : Entry) : Option Entry :=
  if e.errorStatus = 0 then some { e with result := .ok, status := .complete }
  else if e.errorStatus = 0xFFFFFFFF#32 then some { e with result := .error, status := .failed }
  else (sahConvertErrorStatus e.errorStatus).map fun r => { e with result := r, status := .failed }

lemma sahProcessFinishedRequest_result {e e' : Entry} (h : sahProcessFinishedRequest e = some e') :
  (e'.result = .ok ↔ e.errorStatus = 0) ∧ e'.id = e.id ∧ e'.user = e.user ∧ e'.blocking = e.blocking := by
  unfold sahProcessFinishedRequest at h
  split at h
  · next h0 =>
    cases h
    exact ⟨iff_of_true rfl h0,rfl,rfl,rfl⟩
  · next h0 =>
    split at h
    · cases h
      exact ⟨iff_of_false nofun h0,rfl,rfl,rfl⟩
    · obtain ⟨r,hr,rfl⟩ := map_eq_some_iff.mp h
      refine ⟨iff_of_false (fun hok => convert_ne_ok e.errorStatus ?_) h0,rfl,rfl,rfl⟩
      rw [hr,show r = .ok from hok]

lemma sahProcessFinishedRequest_isSome {e : Entry} (h : ¬ TwoChaErrors e.errorStatus) :
  ∃ e', sahProcessFinishedRequest e = some e' := by
  unfold sahProcessFinishedRequest
  split
  · exact ⟨_,rfl⟩
  · split
    · exact ⟨_,rfl⟩
    · obtain ⟨r,hr⟩ := ne_none_iff_exists'.mp (mt (convert_eq_none_iff _).mp h)
      exact ⟨_,by rw [hr]; rfl⟩

/-! ### The line -/

structure Line where
  settled : List Entry
  running : Option Entry
  waiting : List Entry
  settled_status : ∀ e ∈ settled, e.status = .offSahara ∨ e.status = .reset
  running_status : ∀ e ∈ running, e.status = .onSahara
  waiting_status : ∀ e ∈ waiting, e.status = .pending

namespace Line

def toQueue (l : Line) : List Entry := l.settled ++ l.running.toList ++ l.waiting

def empty : Line := ⟨[], none, [], nofun, nofun, nofun⟩

def next (l : Line) : Line where
  settled := l.settled
  running := l.waiting.head?.map (Entry.withStatus .onSahara)
  waiting := l.waiting.tail
  settled_status := l.settled_status
  running_status e he := by
    obtain ⟨a,-,rfl⟩ := map_eq_some_iff.mp he
    rfl
  waiting_status e he := l.waiting_status e (mem_of_mem_tail he)

def dispatch (l : Line) (dar : Option ℕ) : Line × Option ℕ :=
  if l.running = none ∧ dar = none then (l.next, l.waiting.head?.map Entry.id) else (l, dar)

def enqueue (l : Line) (e : Entry) : Line where
  settled := l.settled
  running := l.running
  waiting := l.waiting ++ [e.withStatus .pending]
  settled_status := l.settled_status
  running_status := l.running_status
  waiting_status a ha := by
    rcases mem_append.mp ha with ha | ha
    · exact l.waiting_status a ha
    · rw [mem_singleton.mp ha]
      rfl

def settle (l : Line) (f : Entry → Entry) : Line where
  settled := l.settled ++ (l.running.map fun e => (f e).withStatus .offSahara).toList
  running := none
  waiting := l.waiting
  settled_status a ha := by
    rcases mem_append.mp ha with ha | ha
    · exact l.settled_status a ha
    · obtain ⟨e,-,rfl⟩ := map_eq_some_iff.mp (mem_toList.mp ha)
      exact .inl rfl
  running_status := nofun
  waiting_status := l.waiting_status

def without (l : Line) (id : ℕ) : Line where
  settled := l.settled.filter fun e => e.id ≠ id
  running := l.running.filter fun e => e.id ≠ id
  waiting := l.waiting.filter fun e => e.id ≠ id
  settled_status e he := l.settled_status e (mem_of_mem_filter he)
  running_status e he := l.running_status e (eq_some_of_filter_eq_some he)
  waiting_status e he := l.waiting_status e (mem_of_mem_filter he)

def cleared (l : Line) : Line where
  settled := l.toQueue.map (Entry.withStatus .reset)
  running := none
  waiting := []
  settled_status e he := by
    obtain ⟨a,-,rfl⟩ := List.mem_map.mp he
    exact .inr rfl
  running_status := nofun
  waiting_status := nofun

end Line

section
variable (l : Line)

lemma find_on : sahFindWithState .onSahara l.toQueue = l.running := by
  have hs : l.settled.find? (fun e => e.status = .onSahara) = none := by
    rw [find?_eq_none]
    intro e he
    rcases l.settled_status e he with h | h <;> simp [h]
  have hw : l.waiting.find? (fun e => e.status = .onSahara) = none := by
    rw [find?_eq_none]
    intro e he
    simp [l.waiting_status e he]
  rw [sahFindWithState,Line.toQueue,find?_append,find?_append,hs,hw,none_or,or_none]
  cases hr : l.running with
  | none => rfl
  | some e => simp [l.running_status e hr]

lemma find_pending : sahFindWithState .pending l.toQueue = l.waiting.head? := by
  have hs : (l.settled ++ l.running.toList).find? (fun e => e.status = .pending) = none := by
    rw [find?_eq_none]
    intro e he
    rcases mem_append.mp he with he | he
    · rcases l.settled_status e he with h | h <;> simp [h]
    · simp [l.running_status e (mem_toList.mp he)]
  rw [sahFindWithState,Line.toQueue,find?_append,hs,none_or]
  cases hw : l.waiting with
  | nil => rfl
  | cons e rest =>
    have he : e.status = .pending := l.waiting_status e (by rw [hw]; exact mem_cons_self)
    simp [he]

lemma lookmap_append_of_none {α : Type} {f : α → Option α} : ∀ {l₁ : List α} (l₂ : List α), (∀ a ∈ l₁, f a = none) →
  (l₁ ++ l₂).lookmap f = l₁ ++ l₂.lookmap f
  | [], _, _ => rfl
  | a :: l₁, l₂, h => by
    rw [List.cons_append,lookmap_cons_none _ _ (h a mem_cons_self),
      lookmap_append_of_none l₂ fun b hb => h b (mem_cons_of_mem a hb),List.cons_append]

lemma setFirst_on (f : Entry → Entry) :
  setFirst .onSahara f l.toQueue = l.settled ++ (l.running.map f).toList ++ l.waiting := by
  have hs : ∀ e ∈ l.settled, (if e.status = .onSahara then some (f e) else none) = none := by
    intro e he
    rcases l.settled_status e he with h | h <;> simp [h]
  have hw : ∀ e ∈ l.waiting, (if e.status = .onSahara then some (f e) else none) = none := by
    intro e he
    simp [l.waiting_status e he]
  rw [setFirst,Line.toQueue,List.append_assoc,lookmap_append_of_none _ hs,List.append_assoc]
  congr 1
  cases hr : l.running with
  | none => exact lookmap_of_forall_not _ hw
  | some e =>
    have he : e.status = .onSahara := l.running_status e hr
    exact lookmap_cons_some _ _ (by rw [if_pos he])

lemma setFirst_pending :
  setFirst .pending (Entry.withStatus .onSahara) l.toQueue =
    l.settled ++ l.running.toList ++ ((l.waiting.head?.map (Entry.withStatus .onSahara)).toList ++ l.waiting.tail) := by
  have hs : ∀ e ∈ l.settled ++ l.running.toList,
      (if e.status = .pending then some (e.withStatus .onSahara) else none) = none := by
    intro e he
    rcases mem_append.mp he with he | he
    · rcases l.settled_status e he with h | h <;> simp [h]
    · simp [l.running_status e (mem_toList.mp he)]
  rw [setFirst,Line.toQueue,lookmap_append_of_none _ hs]
  congr 1
  cases hw : l.waiting with
  | nil => rfl
  | cons e rest =>
    have he : e.status = .pending := l.waiting_status e (by rw [hw]; exact mem_cons_self)
    exact lookmap_cons_some _ _ (by rw [if_pos he])

def Line.view (r : Line × Option ℕ) : List Entry × Option ℕ := (r.1.toQueue, r.2)

lemma next_toQueue (h : l.running = none) :
  l.next.toQueue = setFirst .pending (Entry.withStatus .onSahara) l.toQueue := by
  rw [setFirst_pending,h]
  simp [Line.toQueue,Line.next]

lemma prime_toQueue {e : Entry} (he : l.waiting.head? = some e) (dar : Option ℕ) :
  sahQueueManagerPrime e l.toQueue dar = Line.view (l.dispatch dar) := by
  rw [sahQueueManagerPrime,find_on,Line.dispatch]
  by_cases hr : l.running = none
  · by_cases hd : dar = none
    · rw [if_neg (not_not.mpr hr),if_pos hd,if_pos ⟨hr,hd⟩,Line.view,next_toQueue l hr,he]
      rfl
    · rw [if_neg (not_not.mpr hr),if_neg hd,if_neg fun h => hd h.2,Line.view]
  · rw [if_pos hr,if_neg fun h => hr h.1,Line.view]

lemma dispatch_toQueue_of_nil (h : l.waiting = []) (dar : Option ℕ) :
  Line.view (l.dispatch dar) = (l.toQueue, dar) := by
  rw [Line.dispatch]
  split
  · next hc =>
    rw [Line.view,next_toQueue l hc.1,setFirst_pending,h,hc.1,hc.2]
    simp [Line.toQueue,h,hc.1]
  · rfl

lemma primeNext_toQueue (dar : Option ℕ) : primeNext l.toQueue dar = Line.view (l.dispatch dar) := by
  rw [primeNext,find_pending]
  split
  · next e he => exact prime_toQueue l he dar
  · next he => exact (dispatch_toQueue_of_nil l (head?_eq_none_iff.mp he) dar).symm

lemma reload_toQueue (dar : Option ℕ) : reload l.toQueue dar = Line.view (l.dispatch dar) := by
  rw [reload,find_pending,find_on]
  by_cases hd : dar = none
  · rw [if_pos hd]
    split
    · next e he =>
      split
      · next hr =>
        rw [Line.dispatch,if_pos ⟨hr,hd⟩,Line.view,next_toQueue l hr,he]
        rfl
      · next hr => rw [Line.dispatch,if_neg fun h => hr h.1,Line.view]
    · next he => exact (dispatch_toQueue_of_nil l (head?_eq_none_iff.mp he) dar).symm
  · rw [if_neg hd,Line.dispatch,if_neg fun h => hd h.2,Line.view]

lemma enqueue_toQueue (e : Entry) : (l.enqueue e).toQueue = l.toQueue ++ [e.withStatus .pending] := by
  simp [Line.toQueue,Line.enqueue]

lemma append_toQueue {e : Entry} (hid : ∀ a ∈ l.waiting, a.id ≠ e.id) (dar : Option ℕ) :
  sahQueueManagerAppendEntry e l.toQueue dar =
    if l.waiting = [] then Line.view ((l.enqueue e).dispatch dar) else ((l.enqueue e).toQueue, dar) := by
  simp only [sahQueueManagerAppendEntry,← enqueue_toQueue,find_pending]
  cases hw : l.waiting with
  | nil =>
    have hhead : (l.enqueue e).waiting.head? = some (e.withStatus .pending) := by simp [Line.enqueue,hw]
    rw [hhead,if_pos rfl]
    simp only [Entry.withStatus,if_true]
    exact prime_toQueue _ hhead dar
  | cons a rest =>
    have hhead : (l.enqueue e).waiting.head? = some a := by simp [Line.enqueue,hw]
    have hne : a.id ≠ e.id := hid a (by rw [hw]; exact mem_cons_self)
    rw [hhead,if_neg (cons_ne_nil a rest)]
    simp only [if_neg hne]

lemma settle_toQueue (f : Entry → Entry) :
  (l.settle f).toQueue = setFirst .onSahara (fun e => (f e).withStatus .offSahara) l.toQueue := by
  rw [setFirst_on]
  simp [Line.toQueue,Line.settle]

lemma handle_done_toQueue {st : ExecStatus} (hst : st = .done1 ∨ st = .error1) (regs : HwRegs) (dar : Option ℕ) :
  sahHandleInterrupt st regs l.toQueue dar =
    (false, Line.view ((l.settle (Entry.finish st regs)).dispatch dar)) := by
  have h2 : st ≠ .done1Done2 := by rcases hst with rfl | rfl <;> decide
  have h3 : decide (st = .done1Error2) = false := by rcases hst with rfl | rfl <;> decide
  have hif : st.done1Bit ∨ st = .error1 := hst.imp (fun h => by rw [h]; rfl) id
  rw [sahHandleInterrupt,if_pos hif]
  simp only [handleFinished,find_on,if_neg h2,h3]
  cases hr : l.running with
  | none =>
    have hsettle : l.settle (Entry.finish st regs) = { l with running := none, running_status := nofun } := by
      simp [Line.settle,hr]
    have hl : l = { l with running := none, running_status := nofun } := by
      cases l
      cases hr
      rfl
    simp only [hsettle,← hl,reload_toQueue]
  | some e => simp only [← settle_toQueue,reload_toQueue]

lemma handle_fault_toQueue (regs : HwRegs) (dar : Option ℕ) :
  sahHandleInterrupt .fault regs l.toQueue dar =
    (true, (l.settle Entry.faulted).toQueue, dar) := by
  rw [sahHandleInterrupt,if_neg (by decide),if_pos rfl]
  simp only [handleFault,find_on]
  cases hr : l.running with
  | none =>
    simp [Line.settle,Line.toQueue,hr]
  | some e =>
    have hq : setFirst .onSahara Entry.faulted l.toQueue = (l.settle Entry.faulted).toQueue := by
      rw [settle_toQueue]
      rfl
    simp only [hq,find_on]
    rfl

lemma without_toQueue (id : ℕ) : (l.without id).toQueue = l.toQueue.filter fun e => e.id ≠ id := by
  simp only [Line.toQueue,Line.without,filter_append]
  cases l.running with
  | none => rfl
  | some e =>
    by_cases h : e.id = id
    · simp [h,Option.filter]
    · simp [h,Option.filter]

lemma cleared_toQueue : l.cleared.toQueue = sahQueueManagerResetEntries l.toQueue := by
  simp [Line.toQueue,Line.cleared,sahQueueManagerResetEntries]

end

end Mx27.Sahara
