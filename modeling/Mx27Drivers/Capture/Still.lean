/-
# Still capture through the DMA of the sensor interface

`mxc_v4l_read` in the build with `CONFIG_VIDEO_MXC_CSI_DMA`.
-/
import Mx27Drivers.Dma.Basic

namespace Mx27.Capture
namespace Still

open List Option

def CSI_DMA_RETRY : ℕ := 8
def CSI_MEM_SIZE : ℕ := 1024 * 600
def CSI_DMA_LENGTH : ℕ := 1024 * 200
def maxDma : ℕ := CSI_MEM_SIZE / CSI_DMA_LENGTH

abbrev Byte : Type := ℕ × ℕ

inductive Status
  | idle | working | done | error
deriving DecidableEq

inductive Reader
  | resetCopied | resetCompleted | chaining | clearCounter | arm | wait | test | verdict
  | returned (ok : Bool)
deriving DecidableEq

inductive Tasklet
  | off | loop | copying (n : ℕ) | check
deriving DecidableEq

def Tasklet.inCopy : Tasklet → ℕ
  | copying n => n
  | _ => 0

lemma Tasklet.inCopy_copying (n : ℕ) : (copying n).inCopy = n := rfl

structure Xfer where
  dst : ℕ
  count : ℕ

structure State where
  status : Status
  completed : ℕ
  copied : ℕ
  userCount : ℕ
  stillCounter : ℕ
  retry : ℕ
  reader : Reader
  scheduled : Bool
  tasklet : Tasklet
  chain : List Xfer
  active : Bool
  filled : ℕ
  frame : ℕ
  offset : ℕ
  stillBuf : ℕ → Byte
  userBuf : ℕ → Byte

/-- `g_user_count`, an `int`; a negative one compares with the counts like zero. -/
def gUserCount (sizeimage count : BitVec 32) : ℕ :=
  (if sizeimage < count then sizeimage else count &&& ~~~3#32).toInt.toNat

def store (m : ℕ → Byte) (base n : ℕ) (src : ℕ → Byte) : ℕ → Byte := fun i =>
  if base ≤ i ∧ i < base + n then src (i - base) else m i

def transferCount (userCount k : ℕ) : ℕ :=
  if (k + 1) * CSI_DMA_LENGTH > userCount then userCount - k * CSI_DMA_LENGTH else CSI_DMA_LENGTH

def xfer (userCount chained : ℕ) : Xfer :=
  ⟨chained % maxDma * CSI_DMA_LENGTH, transferCount userCount chained⟩

def chainLoop (userCount : ℕ) : ℕ → ℕ → List Xfer
  | 0, _ => []
  | fuel + 1, chained =>
    if chained * CSI_DMA_LENGTH < userCount then xfer userCount chained :: chainLoop userCount fuel (chained + 1)
    else []

def mxcCsiDmaChaining (s : State) : State :=
  { s with chain := s.chain ++ (chainLoop s.userCount s.userCount 0).take (Dma.MAX_BD_SIZE - s.chain.length) }

def mxcCsiDmaTask (s : State) : Option State :=
  match s.tasklet with
  | .off => if s.scheduled then some { s with scheduled := false, tasklet := .loop } else none
  | .loop => some { s with tasklet := if s.copied < s.completed then .copying 0 else .check }
  | .copying m =>
    if m = transferCount s.userCount s.copied then some { s with copied := s.copied + 1, tasklet := .loop } else none
  | .check => some { s with
      tasklet := .off
      stillCounter := if s.userCount ≤ s.copied * CSI_DMA_LENGTH then s.stillCounter + 1 else s.stillCounter }

def copyToUser (n : ℕ) (s : State) : Option State :=
  match s.tasklet with
  | .copying m =>
    if m + n ≤ transferCount s.userCount s.copied then
      some { s with
        userBuf := store s.userBuf (s.copied * CSI_DMA_LENGTH + m) n fun j =>
          s.stillBuf (s.copied % maxDma * CSI_DMA_LENGTH + m + j)
        tasklet := .copying (m + n) }
    else none
  | _ => none

def callbackStatus (error : Bool) (status : Status) (completed copied userCount : ℕ) : Status :=
  let status := if error then .error else status
  let status := if status ≠ .error ∧ completed * CSI_DMA_LENGTH ≥ userCount then .done else status
  if status = .working ∧ completed ≥ copied + maxDma then .error else status

def mxcCsiDmaCallback (error : Bool) (s : State) : State :=
  { s with
    completed := s.completed + 1
    status := callbackStatus error s.status (s.completed + 1) s.copied s.userCount
    scheduled := true }

def mxcDmaEnable (s : State) : State :=
  if s.active then s else { s with active := !s.chain.isEmpty, filled := 0 }

def mxcCsiIrqCallback (s : State) : State :=
  match s.status with
  | .idle => { mxcDmaEnable s with status := .working }
  | .working => { s with status := .error }
  | _ => s

def mxcV4lRead (s : State) : Option State :=
  match s.reader with
  | .resetCopied => some { s with copied := 0, reader := .resetCompleted }
  | .resetCompleted => some { s with completed := 0, reader := .chaining }
  | .chaining => some { mxcCsiDmaChaining s with reader := .clearCounter }
  | .clearCounter => some { s with stillCounter := 0, reader := .arm }
  | .arm => some { s with status := .idle, reader := .wait }
  | .wait => if s.stillCounter ≠ 0 then some { s with reader := .test } else none
  | .test =>
    if s.status = .done then some { s with reader := .verdict }
    else if s.retry = 0 then some { s with reader := .verdict }
    else some { s with retry := s.retry - 1, reader := .resetCopied }
  | .verdict => some { s with reader := .returned (decide (s.status = .done)) }
  | .returned _ => none

def startOfFrame (s : State) : State := mxcCsiIrqCallback { s with frame := s.frame + 1, offset := 0 }

def sendBytes (n : ℕ) (s : State) : Option State :=
  if s.active then
    match s.chain with
    | [] => none
    | x :: _ =>
      if s.filled + n ≤ x.count then
        some { s with
          stillBuf := store s.stillBuf (x.dst + s.filled) n fun j => (s.frame, s.offset + j)
          filled := s.filled + n
          offset := s.offset + n }
      else none
  else some { s with offset := s.offset + n }

def dmaDone (error : Bool) (s : State) : Option State :=
  match s.chain with
  | [] => none
  | x :: rest =>
    if s.active = true ∧ (error = true ∨ s.filled = x.count) then
      some (mxcCsiDmaCallback error { s with chain := rest, active := !rest.isEmpty, filled := 0 })
    else none

inductive Event
  | sof
  | bytes (n : ℕ)
  | dma (error : Bool)
  | tasklet
  | copy (n : ℕ)
  | read
  | timeout

def step (s : State) : Event → Option State
  | .sof => some (startOfFrame s)
  | .bytes n => sendBytes n s
  | .dma error => dmaDone error s
  | .tasklet => mxcCsiDmaTask s
  | .copy n => copyToUser n s
  | .read => if s.tasklet = .off then mxcV4lRead s else none
  | .timeout => if s.tasklet = .off ∧ s.reader = .wait then some { s with reader := .returned false } else none

structure Left where
  counters : ℕ
  stillCounter : ℕ
  frame : ℕ
  offset : ℕ
  stillBuf : ℕ → Byte
  userBuf : ℕ → Byte

def begin (sizeimage count : BitVec 32) (b : Left) : State where
  status := .done
  completed := b.counters
  copied := b.counters
  userCount := gUserCount sizeimage count
  stillCounter := b.stillCounter
  retry := CSI_DMA_RETRY
  reader := .resetCopied
  scheduled := false
  tasklet := .off
  chain := []
  active := false
  filled := 0
  frame := b.frame
  offset := b.offset
  stillBuf := b.stillBuf
  userBuf := b.userBuf

section Areas

variable {U k c : ℕ}

lemma transferCount_le : transferCount U k ≤ CSI_DMA_LENGTH := by
  unfold transferCount
  rw [Nat.succ_mul]
  split <;> omega

lemma lt_transfer {i : ℕ} (hi : i < (k + 1) * CSI_DMA_LENGTH) (hU : i < U) :
  i < k * CSI_DMA_LENGTH + transferCount U k := by
  unfold transferCount
  rw [Nat.succ_mul] at hi ⊢
  split <;> omega

lemma transferCount_full (h : (k + 1) * CSI_DMA_LENGTH < U) : transferCount U k = CSI_DMA_LENGTH := by
  unfold transferCount
  rw [if_neg (by omega)]

lemma area_ne {i j : ℕ} (hk : k < c) (hc : c < k + maxDma) (hi : i < CSI_DMA_LENGTH) (hj : j < CSI_DMA_LENGTH) :
  k % maxDma * CSI_DMA_LENGTH + i ≠ c % maxDma * CSI_DMA_LENGTH + j := by
  simp only [maxDma,CSI_MEM_SIZE,CSI_DMA_LENGTH] at *
  omega

lemma store_extends {m src g : ℕ → Byte} {base p n : ℕ} (h : ∀ j < p, m (base + j) = g j)
  (hsrc : ∀ j < n, src j = g (p + j)) : ∀ j < p + n, store m (base + p) n src (base + j) = g j := by
  intro j hj
  unfold store
  by_cases hold : j < p
  · rw [if_neg (by omega),h j hold]
  · obtain ⟨d,rfl⟩ := Nat.exists_eq_add_of_le (Nat.le_of_not_lt hold)
    rw [if_pos (by omega),← Nat.add_assoc,Nat.add_sub_cancel_left,hsrc d (by omega)]

lemma store_area {m src : ℕ → Byte} {p n j : ℕ} (hk : k < c) (hc : c < k + maxDma) (hp : p + n ≤ CSI_DMA_LENGTH)
  (hj : j < CSI_DMA_LENGTH) : store m (c % maxDma * CSI_DMA_LENGTH + p) n src (k % maxDma * CSI_DMA_LENGTH + j) =
    m (k % maxDma * CSI_DMA_LENGTH + j) := by
  unfold store
  rw [if_neg]
  rintro ⟨hle,hlt⟩
  obtain ⟨d,hd⟩ := Nat.exists_eq_add_of_le hle
  rw [Nat.add_assoc] at hd
  exact area_ne hk hc hj (by omega) hd

lemma chainLoop_range : ∀ fuel c : ℕ, ∃ m, chainLoop U fuel c = (range' c m).map (xfer U) ∧
  ∀ k, k < c ∨ c + m ≤ k ∨ k * CSI_DMA_LENGTH < U
  | 0, c => ⟨0, rfl, fun k => by omega⟩
  | fuel + 1, c => by
    unfold chainLoop
    split
    case isTrue h =>
      obtain ⟨m,hm,hlt⟩ := chainLoop_range fuel (c + 1)
      refine ⟨m + 1,by rw [hm,range'_succ,map_cons],fun k => ?_⟩
      rcases hlt k with hk | hk | hk
      · rcases Nat.lt_or_eq_of_le (Nat.le_of_lt_succ hk) with hk | rfl
        · exact .inl hk
        · exact .inr (.inr h)
      · exact .inr (.inl (by omega))
      · exact .inr (.inr hk)
    case isFalse h => exact ⟨0, rfl, fun k => by omega⟩

end Areas

/-! ### What a step does -/

section Steps

variable {s s' : State}

lemma startOfFrame_idle (h : s.status = .idle) (hoff : s.active = false) : startOfFrame s =
  { s with frame := s.frame + 1, offset := 0, active := !s.chain.isEmpty, filled := 0, status := .working } := by
  simp [startOfFrame,mxcCsiIrqCallback,mxcDmaEnable,h,hoff]

lemma startOfFrame_working (h : s.status = .working) :
  startOfFrame s = { s with frame := s.frame + 1, offset := 0, status := .error } := by
  simp [startOfFrame,mxcCsiIrqCallback,h]

lemma startOfFrame_over (h : s.status = .done ∨ s.status = .error) :
  startOfFrame s = { s with frame := s.frame + 1, offset := 0 } := by
  rcases h with h | h <;> simp [startOfFrame,mxcCsiIrqCallback,h]

lemma startOfFrame_same (s : State) : (startOfFrame s).reader = s.reader ∧
  (startOfFrame s).userCount = s.userCount ∧ (startOfFrame s).stillCounter = s.stillCounter := by
  cases e : s.status <;> cases ha : s.active <;> simp [startOfFrame,mxcCsiIrqCallback,mxcDmaEnable,e,ha]

lemma sendBytes_cases {n : ℕ} (e : sendBytes n s = some s') :
  (s.active = false ∧ s' = { s with offset := s.offset + n }) ∨
  (s.active = true ∧ ∃ x rest, s.chain = x :: rest ∧ s.filled + n ≤ x.count ∧ s' = { s with
    stillBuf := store s.stillBuf (x.dst + s.filled) n fun j => (s.frame, s.offset + j)
    filled := s.filled + n
    offset := s.offset + n }) := by
  unfold sendBytes at e
  by_cases hon : s.active = true
  · rw [if_pos hon] at e
    cases hx : s.chain with
    | nil => rw [hx] at e; cases e
    | cons x rest =>
      simp only [hx,ite_none_right_eq_some,Option.some.injEq] at e
      exact .inr ⟨hon,x,rest,rfl,e.1,e.2.symm⟩
  · rw [if_neg hon] at e
    exact .inl ⟨Bool.eq_false_iff.mpr hon,(Option.some.inj e).symm⟩

lemma dmaDone_cases {error : Bool} (e : dmaDone error s = some s') :
  s.active = true ∧ ∃ x rest, s.chain = x :: rest ∧ (error = true ∨ s.filled = x.count) ∧
    s' = mxcCsiDmaCallback error { s with chain := rest, active := !rest.isEmpty, filled := 0 } := by
  unfold dmaDone at e
  cases hx : s.chain with
  | nil => rw [hx] at e; cases e
  | cons x rest =>
    simp only [hx,ite_none_right_eq_some,Option.some.injEq] at e
    exact ⟨e.1.1,x,rest,rfl,e.1.2,e.2.symm⟩

lemma callbackStatus_error {error : Bool} {st : Status} {c k U : ℕ} (h : error = true ∨ st = .error) :
  callbackStatus error st c k U = .error := by
  rcases h with rfl | rfl <;> simp [callbackStatus]

lemma callbackStatus_working {c k U : ℕ} : callbackStatus false .working c k U =
  if U ≤ c * CSI_DMA_LENGTH then .done else if k + maxDma ≤ c then .error else .working := by
  by_cases hU : U ≤ c * CSI_DMA_LENGTH <;> simp [callbackStatus,hU]

lemma mxcCsiDmaTask_cases (e : mxcCsiDmaTask s = some s') :
  (s.tasklet = .off ∧ s' = { s with scheduled := false, tasklet := .loop }) ∨
  (s.tasklet = .loop ∧ s.copied < s.completed ∧ s' = { s with tasklet := .copying 0 }) ∨
  (s.tasklet = .loop ∧ s.completed ≤ s.copied ∧ s' = { s with tasklet := .check }) ∨
  (s.tasklet = .copying (transferCount s.userCount s.copied) ∧
    s' = { s with copied := s.copied + 1, tasklet := .loop }) ∨
  (s.tasklet = .check ∧ s' = { s with tasklet := .off, stillCounter := s'.stillCounter } ∧
    (s'.stillCounter = s.stillCounter ∨
      s.userCount ≤ s.copied * CSI_DMA_LENGTH ∧ s'.stillCounter = s.stillCounter + 1)) := by
  unfold mxcCsiDmaTask at e
  cases ht : s.tasklet with
  | off =>
    simp only [ht,ite_none_right_eq_some,Option.some.injEq] at e
    exact .inl ⟨rfl,e.2.symm⟩
  | loop =>
    simp only [ht,Option.some.injEq] at e
    by_cases hlt : s.copied < s.completed
    · rw [if_pos hlt] at e
      exact .inr (.inl ⟨rfl,hlt,e.symm⟩)
    · rw [if_neg hlt] at e
      exact .inr (.inr (.inl ⟨rfl,Nat.le_of_not_lt hlt,e.symm⟩))
  | copying m =>
    simp only [ht,ite_none_right_eq_some,Option.some.injEq] at e
    obtain ⟨rfl,rfl⟩ := e
    exact .inr (.inr (.inr (.inl ⟨rfl,rfl⟩)))
  | check =>
    simp only [ht,Option.some.injEq] at e
    subst e
    refine .inr (.inr (.inr (.inr ⟨rfl,rfl,?_⟩)))
    by_cases hw : s.userCount ≤ s.copied * CSI_DMA_LENGTH
    · exact .inr ⟨hw,if_pos hw⟩
    · exact .inl (if_neg hw)

lemma copyToUser_cases {n : ℕ} (e : copyToUser n s = some s') : ∃ m, s.tasklet = .copying m ∧
  m + n ≤ transferCount s.userCount s.copied ∧ s' = { s with
    userBuf := store s.userBuf (s.copied * CSI_DMA_LENGTH + m) n fun j =>
      s.stillBuf (s.copied % maxDma * CSI_DMA_LENGTH + m + j)
    tasklet := .copying (m + n) } := by
  unfold copyToUser at e
  cases ht : s.tasklet with
  | copying m =>
    simp only [ht,ite_none_right_eq_some,Option.some.injEq] at e
    exact ⟨m,rfl,e.1,e.2.symm⟩
  | _ => rw [ht] at e; cases e

end Steps

end Still
end Mx27.Capture
