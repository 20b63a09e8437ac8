/-
# The V4L2 output driver

An application queues YUV420 frames.
-/
import Mx27Drivers.Lib.Mealy
import Mx27Drivers.Lib.Ring

namespace Mx27.Output

def MIN_FRAME_NUM : ℕ := 2
def MAX_FRAME_NUM : ℕ := 30
def QUEUE_SIZE : ℕ := MAX_FRAME_NUM + 1

/-! ### Queues -/

structure V4lQueue where
  list : ℕ → ℕ
  head : ℕ
  tail : ℕ
  head_lt : head < QUEUE_SIZE
  tail_lt : tail < QUEUE_SIZE

def queueSize (q : V4lQueue) : ℕ := if q.head ≤ q.tail then q.tail - q.head else q.tail + QUEUE_SIZE - q.head

lemma next_lt (i : ℕ) : (i + 1) % QUEUE_SIZE < QUEUE_SIZE := Nat.mod_lt _ (by decide)

def queueBuf (q : V4lQueue) (idx : ℕ) : Option V4lQueue :=
  if (q.tail + 1) % QUEUE_SIZE = q.head then none
  else some ⟨Function.update q.list q.tail idx, q.head, (q.tail + 1) % QUEUE_SIZE, q.head_lt, next_lt q.tail⟩

def dequeueBuf (q : V4lQueue) : Option (ℕ × V4lQueue) :=
  if q.tail = q.head then none
  else some (q.list q.head, ⟨q.list, (q.head + 1) % QUEUE_SIZE, q.tail, next_lt q.head, q.tail_lt⟩)

def peekNextBuf (q : V4lQueue) : Option ℕ := if q.tail = q.head then none else some (q.list q.head)

def V4lQueue.reset (q : V4lQueue) : V4lQueue := ⟨q.list, 0, 0, by decide, by decide⟩

def V4lQueue.entries (q : V4lQueue) : List ℕ := Ring.slots QUEUE_SIZE q.list q.head (queueSize q)

section Queues

variable {q : V4lQueue}

lemma length_entries (q : V4lQueue) : q.entries.length = queueSize q := Ring.length_slots _ _ _

lemma queueSize_le (q : V4lQueue) : queueSize q ≤ MAX_FRAME_NUM := by
  have := q.head_lt
  have := q.tail_lt
  unfold queueSize QUEUE_SIZE at *
  split <;> omega

lemma tail_eq (q : V4lQueue) : (q.head + queueSize q) % QUEUE_SIZE = q.tail := by
  have hh := q.head_lt
  have ht := q.tail_lt
  unfold queueSize
  split
  · rw [Nat.add_sub_cancel' ‹_›,Nat.mod_eq_of_lt ht]
  · rw [Nat.add_sub_cancel' (by omega),Nat.add_mod_right,Nat.mod_eq_of_lt ht]

lemma tail_eq_head_iff (q : V4lQueue) : q.tail = q.head ↔ queueSize q = 0 := by
  have := q.head_lt
  have := q.tail_lt
  unfold queueSize
  split <;> omega

lemma full_iff (q : V4lQueue) : (q.tail + 1) % QUEUE_SIZE = q.head ↔ queueSize q = MAX_FRAME_NUM := by
  have := q.head_lt
  have := q.tail_lt
  unfold queueSize QUEUE_SIZE at *
  rcases Nat.lt_or_ge (q.tail + 1) (MAX_FRAME_NUM + 1) with h | h
  · rw [Nat.mod_eq_of_lt h]
    split <;> omega
  · rw [show q.tail + 1 = MAX_FRAME_NUM + 1 by omega,Nat.mod_self]
    split <;> omega

lemma queueBuf_room (idx : ℕ) (h : q.entries.length < MAX_FRAME_NUM) :
  ∃ q', queueBuf q idx = some q' ∧ q'.entries = q.entries ++ [idx] := by
  rw [length_entries] at h
  have hfull : ¬ (q.tail + 1) % QUEUE_SIZE = q.head := by
    rw [full_iff]
    omega
  refine ⟨_,by rw [queueBuf,if_neg hfull],?_⟩
  have hlt : queueSize q < QUEUE_SIZE := Nat.lt_of_lt_of_le h (Nat.le_succ _)
  have hpush := Ring.slots_push q.list q.head hlt idx
  rw [tail_eq] at hpush
  have hsize : queueSize ⟨Function.update q.list q.tail idx,q.head,(q.tail + 1) % QUEUE_SIZE,q.head_lt,
      next_lt q.tail⟩ = queueSize q + 1 := by
    have hh := q.head_lt
    have ht := q.tail_lt
    unfold queueSize QUEUE_SIZE at *
    simp only
    rcases Nat.lt_or_ge (q.tail + 1) (MAX_FRAME_NUM + 1) with hlt | hge
    · rw [Nat.mod_eq_of_lt hlt] at hfull ⊢
      split <;> split at h <;> split <;> omega
    · rw [show q.tail + 1 = MAX_FRAME_NUM + 1 by omega,Nat.mod_self] at hfull ⊢
      split <;> split at h <;> split <;> omega
  unfold V4lQueue.entries
  rw [hsize]
  exact hpush

lemma queueBuf_full (idx : ℕ) (h : q.entries.length = MAX_FRAME_NUM) : queueBuf q idx = none := by
  rw [length_entries,← full_iff] at h
  rw [queueBuf,if_pos h]

lemma dequeueBuf_eq (q : V4lQueue) :
  (q.entries = [] ∧ dequeueBuf q = none) ∨
    ∃ i q', dequeueBuf q = some (i, q') ∧ q.entries = i :: q'.entries := by
  by_cases h : q.tail = q.head
  · refine Or.inl ⟨?_,by rw [dequeueBuf,if_pos h]⟩
    have := (tail_eq_head_iff q).mp h
    rw [V4lQueue.entries,this,Ring.slots_zero]
  · refine Or.inr ⟨_,_,by rw [dequeueBuf,if_neg h],?_⟩
    have hpos : queueSize q ≠ 0 := fun hz => h ((tail_eq_head_iff q).mpr hz)
    obtain ⟨k,hk⟩ := Nat.exists_eq_succ_of_ne_zero hpos
    have hsize : queueSize ⟨q.list,(q.head + 1) % QUEUE_SIZE,q.tail,next_lt q.head,q.tail_lt⟩ = k := by
      have hh := q.head_lt
      have ht := q.tail_lt
      unfold queueSize QUEUE_SIZE at *
      simp only
      rcases Nat.lt_or_ge (q.head + 1) (MAX_FRAME_NUM + 1) with hlt | hge
      · rw [Nat.mod_eq_of_lt hlt]
        split <;> split at hk <;> omega
      · rw [show q.head + 1 = MAX_FRAME_NUM + 1 by omega,Nat.mod_self]
        split <;> split at hk <;> omega
    unfold V4lQueue.entries
    rw [hsize,hk,Ring.slots_cons,Nat.mod_eq_of_lt q.head_lt]

lemma peekNextBuf_eq (q : V4lQueue) : peekNextBuf q = q.entries.head? := by
  obtain ⟨he,hd⟩ | ⟨i,q',hd,he⟩ := dequeueBuf_eq q
  · rw [he,peekNextBuf]
    unfold dequeueBuf at hd
    split at hd
    · rw [if_pos ‹_›]
      rfl
    · cases hd
  · rw [he,peekNextBuf]
    unfold dequeueBuf at hd
    split at hd
    · cases hd
    · rw [if_neg ‹_›]
      cases hd
      rfl

@[simp] lemma reset_entries (q : V4lQueue) : q.reset.entries = [] := rfl

end Queues

/-! ### The driver -/

inductive StreamState
  | off
  | on
  | paused
  | stopping
  deriving DecidableEq, Repr

structure Pix where
  width : ℕ
  height : ℕ
  sizeimage : ℕ
  deriving DecidableEq, Repr

/-- `vout_data`, the timer and the PP. -/
structure Vout where
  openCount : ℕ
  state : StreamState
  readyQ : V4lQueue
  doneQ : V4lQueue
  ipuBuf : Option ℕ
  timer : Bool
  bufferCnt : ℕ
  buf : ℕ → Option ℕ
  queueBufSize : ℕ
  v2f : Pix
  ppDim : ℕ × ℕ
  ppBusy : Bool

structure Effects where
  ppPtr : Option ℕ := none
  timerBug : Bool := false
  refused : Bool := false
  accepted : Option ℕ := none
  returned : Option ℕ := none
  deriving DecidableEq, Repr

/-- `mxc_v4l2out_timer_handler`, of a timer that has just expired. -/
def timerHandler (s : Vout) : Vout × Effects :=
  if s.state = .off ∨ s.state = .stopping then (s, {})
  else if s.ipuBuf.isSome then ({ s with state := .paused }, {})
  else
    match dequeueBuf s.readyQ with
    | none => (s, {})
    | some (index, q) =>
      let s₁ := { s with readyQ := q, ipuBuf := some index, ppBusy := true }
      (if (peekNextBuf q).isSome then { s₁ with timer := true } else { s₁ with state := .paused },
        { ppPtr := some ((s.buf index).getD 0) })

def lastBufDone (s : Vout) : Vout × Effects :=
  match s.ipuBuf with
  | none => (s, {})
  | some lastBuf =>
    match queueBuf s.doneQ lastBuf with
    | none => ({ s with ipuBuf := none }, { refused := true })
    | some q => ({ s with doneQ := q, ipuBuf := none }, {})

def ppInIrqHandler (s : Vout) : Vout × Effects :=
  if s.state = .off ∨ s.state = .stopping then (s, {})
  else
    let s₁ := (lastBufDone s).1
    (if s₁.state = .paused ∧ (peekNextBuf s₁.readyQ).isSome then { s₁ with state := .on, timer := true } else s₁,
      (lastBufDone s).2)

structure Answers where
  display : Bool
  ppCfg : Bool
  deriving DecidableEq, Repr

def streamon (a : Answers) (s : Vout) : Vout × Effects :=
  if s.state ≠ .off then (s, {})
  else if queueSize s.readyQ < 1 then (s, {})
  else if a.display && a.ppCfg then
    ({ s with ipuBuf := none, ppDim := (s.v2f.width, s.v2f.height), state := .on, timer := true },
      { timerBug := s.timer })
  else ({ s with ipuBuf := none }, {})

def streamoff (s : Vout) : Vout :=
  if s.state = .off then s
  else { s with timer := false, ppBusy := false, readyQ := s.readyQ.reset, doneQ := s.doneQ.reset, state := .off }

/-- `mxc_v4l2out_s_fmt`, for `V4L2_PIX_FMT_YUV420`; the other formats are refused. -/
def sFmt (width height bytesperline : ℕ) (s : Vout) : Vout :=
  if s.state ≠ .off then s
  else
    let line := max (width * 8 % 2 ^ 32 / 8) bytesperline
    { s with v2f := ⟨width, height, line * height * 3 % 2 ^ 32 / 2⟩ }

def pageAlign (x : ℕ) : ℕ := (x + 4095) % 2 ^ 32 / 4096 * 4096

/-- `mxc_allocate_buffers`: where the allocator fails, the buffers before are freed. -/
def mxcAllocateBuffers (alloc : ℕ → Option ℕ) (n : ℕ) (buf : ℕ → Option ℕ) : (ℕ → Option ℕ) × Bool :=
  match (List.range n).find? fun i => (alloc i).isNone with
  | some k => (fun i => if i ≤ k then none else buf i, false)
  | none => (fun i => if i < n then alloc i else buf i, true)

/-- `mxc_free_buffers`, of the queue buffers. -/
def freeBuffers (s : Vout) : Vout := { s with buf := fun i => if i < s.bufferCnt then none else s.buf i }

def frameNum (count : ℕ) : ℕ :=
  if count < MIN_FRAME_NUM then MIN_FRAME_NUM else if MAX_FRAME_NUM < count then MAX_FRAME_NUM else count

/-- `VIDIOC_REQBUFS`, the part that frees the old buffers. -/
def dropBuffers (s : Vout) : Vout := { (if (s.buf 0).isSome then freeBuffers s else s) with bufferCnt := 0 }

/-- `VIDIOC_REQBUFS`, the part that allocates new buffers. -/
def makeBuffers (n : ℕ) (alloc : ℕ → Option ℕ) (s : Vout) : Vout :=
  let r := mxcAllocateBuffers alloc n s.buf
  let s₁ := { s with bufferCnt := n, queueBufSize := pageAlign s.v2f.sizeimage, buf := r.1 }
  if r.2 then { s₁ with readyQ := s₁.readyQ.reset, doneQ := s₁.doneQ.reset } else s₁

def reqbufs (count : ℕ) (alloc : ℕ → Option ℕ) (s : Vout) : Vout :=
  if count = 0 then dropBuffers (streamoff s)
  else if s.state ≠ .off then s
  else makeBuffers (frameNum count) alloc (dropBuffers s)

def enqueueReady (index : ℕ) (s : Vout) : Vout × Effects :=
  match queueBuf s.readyQ index with
  | none => (s, { refused := true })
  | some q => ({ s with readyQ := q }, { accepted := some index })

/-- `VIDIOC_QBUF` of an index that is not negative, with `flags` 0. -/
def qbuf (index : ℕ) (s : Vout) : Vout × Effects :=
  if s.bufferCnt ≤ index then (s, {})
  else
    let r := enqueueReady index s
    if s.state = .paused then ({ r.1 with timer := true, state := .on }, { r.2 with timerBug := s.timer }) else r

/-- `VIDIOC_DQBUF`, once there is a buffer to return. -/
def dqbuf (s : Vout) : Vout × Effects :=
  match dequeueBuf s.doneQ with
  | none => (s, {})
  | some (idx, q) => ({ s with doneQ := q }, { returned := some idx })

def vopen (s : Vout) : Vout :=
  let s₁ := { s with openCount := s.openCount + 1 }
  if s.openCount = 0 then { s₁ with ppBusy := false, timer := false, state := .off } else s₁

def vclose (s : Vout) : Vout :=
  if s.openCount - 1 = 0 then
    { freeBuffers (streamoff { s with openCount := 0, ppBusy := false }) with bufferCnt := 0 }
  else { s with openCount := s.openCount - 1 }

inductive Event
  | open
  | close
  | sFmt (width height bytesperline : ℕ)
  | reqbufs (count : ℕ) (alloc : ℕ → Option ℕ)
  | qbuf (index : ℕ)
  | dqbuf
  | streamon (a : Answers)
  | streamoff
  | timer
  | pp

def act (s : Vout) : Event → Vout × Effects
  | .open => (vopen s, {})
  | .timer => if s.timer then timerHandler { s with timer := false } else (s, {})
  | .pp => if s.ppBusy then ppInIrqHandler { s with ppBusy := false } else (s, {})
  | e =>
    if s.openCount = 0 then (s, {})
    else
      match e with
      | .close => (vclose s, {})
      | .sFmt width height bytesperline => (sFmt width height bytesperline s, {})
      | .reqbufs count alloc => (reqbufs count alloc s, {})
      | .qbuf index => qbuf index s
      | .dqbuf => dqbuf s
      | .streamon a => streamon a s
      | .streamoff => (streamoff s, {})
      | _ => (s, {})

def step : Vout → Event → Option Vout := Mealy.step act

/-- `mxc_v4l2out_probe`: the structure is zeroed, so `ipu_buf[0]` is 0. -/
def probe : Vout where
  openCount := 0
  state := .off
  readyQ := ⟨fun _ => 0, 0, 0, by decide, by decide⟩
  doneQ := ⟨fun _ => 0, 0, 0, by decide, by decide⟩
  ipuBuf := some 0
  timer := false
  bufferCnt := 0
  buf := fun _ => none
  queueBufSize := 0
  v2f := ⟨0, 0, 0⟩
  ppDim := (0, 0)
  ppBusy := false

/-! ### What the handlers do -/

section Handlers

variable {s : Vout}

lemma timerHandler_cases (hoff : s.state ≠ .off) (hstop : s.state ≠ .stopping) :
  (s.ipuBuf.isSome = true ∧ timerHandler s = ({ s with state := .paused }, {})) ∨
  (s.ipuBuf = none ∧ s.readyQ.entries = [] ∧ timerHandler s = (s, {})) ∨
  ∃ i q, s.ipuBuf = none ∧ s.readyQ.entries = i :: q.entries ∧
    timerHandler s =
      (if q.entries ≠ [] then { s with readyQ := q, ipuBuf := some i, ppBusy := true, timer := true }
        else { s with readyQ := q, ipuBuf := some i, ppBusy := true, state := .paused },
        { ppPtr := some ((s.buf i).getD 0) }) := by
  have hrun : ¬ (s.state = .off ∨ s.state = .stopping) := by simp [hoff,hstop]
  cases hbuf : s.ipuBuf with
  | some i => exact Or.inl ⟨rfl,by simp [timerHandler,hrun,hbuf]⟩
  | none =>
    right
    obtain ⟨he,hd⟩ | ⟨i,q,hd,he⟩ := dequeueBuf_eq s.readyQ
    · exact Or.inl ⟨rfl,he,by simp [timerHandler,hrun,hbuf,hd]⟩
    · refine Or.inr ⟨i,q,rfl,he,?_⟩
      simp only [timerHandler,hrun,hbuf,hd,peekNextBuf_eq,if_false,Option.isSome_none,Bool.false_eq_true]
      cases hq : q.entries with
      | nil => simp
      | cons j l => simp

lemma lastBufDone_cases (s : Vout) :
  (s.ipuBuf = none ∧ lastBufDone s = (s, {})) ∨
  (∃ i q, s.ipuBuf = some i ∧ q.entries = s.doneQ.entries ++ [i] ∧
    lastBufDone s = ({ s with doneQ := q, ipuBuf := none }, {})) ∨
  ∃ i, s.ipuBuf = some i ∧ s.doneQ.entries.length = MAX_FRAME_NUM ∧
    lastBufDone s = ({ s with ipuBuf := none }, { refused := true }) := by
  cases hbuf : s.ipuBuf with
  | none => exact Or.inl ⟨rfl,by simp [lastBufDone,hbuf]⟩
  | some i =>
    right
    rcases Nat.lt_or_ge s.doneQ.entries.length MAX_FRAME_NUM with hlt | hge
    · obtain ⟨q,hq,he⟩ := queueBuf_room i hlt
      exact Or.inl ⟨i,q,rfl,he,by simp [lastBufDone,hbuf,hq]⟩
    · have hfull : s.doneQ.entries.length = MAX_FRAME_NUM :=
        Nat.le_antisymm ((length_entries _).trans_le (queueSize_le _)) hge
      exact Or.inr ⟨i,rfl,hfull,by simp [lastBufDone,hbuf,queueBuf_full i hfull]⟩

lemma ppInIrqHandler_eq (hoff : s.state ≠ .off) (hstop : s.state ≠ .stopping) :
  ppInIrqHandler s =
    (if s.state = .paused ∧ s.readyQ.entries ≠ [] then { (lastBufDone s).1 with state := .on, timer := true }
      else (lastBufDone s).1, (lastBufDone s).2) := by
  have hrun : ¬ (s.state = .off ∨ s.state = .stopping) := by simp [hoff,hstop]
  have hkeep : (lastBufDone s).1.state = s.state ∧ (lastBufDone s).1.readyQ = s.readyQ := by
    obtain ⟨-,e⟩ | ⟨i,q,-,-,e⟩ | ⟨i,-,-,e⟩ := lastBufDone_cases s
    all_goals rw [e]; exact ⟨rfl,rfl⟩
  simp only [ppInIrqHandler,hrun,if_false,hkeep,peekNextBuf_eq]
  cases hq : s.readyQ.entries with
  | nil => simp
  | cons i l => simp

lemma enqueueReady_cases (index : ℕ) (s : Vout) :
  (∃ q, q.entries = s.readyQ.entries ++ [index] ∧
    enqueueReady index s = ({ s with readyQ := q }, { accepted := some index })) ∨
  (s.readyQ.entries.length = MAX_FRAME_NUM ∧ enqueueReady index s = (s, { refused := true })) := by
  rcases Nat.lt_or_ge s.readyQ.entries.length MAX_FRAME_NUM with hlt | hge
  · obtain ⟨q,hq,he⟩ := queueBuf_room index hlt
    exact Or.inl ⟨q,he,by simp [enqueueReady,hq]⟩
  · have hfull : s.readyQ.entries.length = MAX_FRAME_NUM :=
      Nat.le_antisymm ((length_entries _).trans_le (queueSize_le _)) hge
    exact Or.inr ⟨hfull,by simp [enqueueReady,queueBuf_full index hfull]⟩

lemma dqbuf_cases (s : Vout) :
  (s.doneQ.entries = [] ∧ dqbuf s = (s, {})) ∨
  ∃ i q, s.doneQ.entries = i :: q.entries ∧ dqbuf s = ({ s with doneQ := q }, { returned := some i }) := by
  obtain ⟨he,hd⟩ | ⟨i,q,hd,he⟩ := dequeueBuf_eq s.doneQ
  · exact Or.inl ⟨he,by simp [dqbuf,hd]⟩
  · exact Or.inr ⟨i,q,he,by simp [dqbuf,hd]⟩

lemma streamoff_state (s : Vout) : (streamoff s).state = .off := by
  unfold streamoff
  split
  · assumption
  · rfl

lemma dropBuffers_keeps (s : Vout) : (dropBuffers s).state = s.state ∧ (dropBuffers s).timer = s.timer ∧
  (dropBuffers s).ppBusy = s.ppBusy ∧ (dropBuffers s).readyQ = s.readyQ ∧ (dropBuffers s).doneQ = s.doneQ := by
  unfold dropBuffers
  split <;> exact ⟨rfl,rfl,rfl,rfl,rfl⟩

lemma makeBuffers_keeps (n : ℕ) (alloc : ℕ → Option ℕ) (s : Vout) : (makeBuffers n alloc s).state = s.state ∧
  (makeBuffers n alloc s).timer = s.timer ∧ (makeBuffers n alloc s).ppBusy = s.ppBusy := by
  simp only [makeBuffers]
  split <;> exact ⟨rfl,rfl,rfl⟩

end Handlers

end Mx27.Output
