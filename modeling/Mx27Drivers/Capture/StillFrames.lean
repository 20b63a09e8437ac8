/-
# What a still read delivers

A restart clears the two counters in two stores.
-/
import Mx27Drivers.Capture.Still
import Mx27Drivers.Lib.Run

namespace Mx27.Capture
namespace Still

open List Option

def Faithful (s : State) : Prop := s.reader = .returned true → ∃ f, ∀ i < s.userCount, s.userBuf i = (f, i)

def Ok (s : State) : Event → Prop
  | .tasklet => s.reader = .resetCompleted → s.tasklet = .off → s.completed = 0
  | _ => True

instance (s : State) (e : Event) : Decidable (Ok s e) := by
  cases e <;> unfold Ok <;> infer_instance

def Chained (s : State) : Prop :=
  ∃ m, s.chain = (range' s.completed m).map (xfer s.userCount) ∧
    ∀ k < s.completed + m, k * CSI_DMA_LENGTH < s.userCount

structure Data (f : ℕ) (s : State) : Prop where
  delivered : ∀ i < s.copied * CSI_DMA_LENGTH + s.tasklet.inCopy, i < s.userCount → s.userBuf i = (f, i)
  waiting : ∀ k, s.copied ≤ k → k < s.completed → ∀ j < transferCount s.userCount k,
    s.stillBuf (k % maxDma * CSI_DMA_LENGTH + j) = (f, k * CSI_DMA_LENGTH + j)
  arriving : s.active = true → ∀ j < s.filled,
    s.stillBuf (s.completed % maxDma * CSI_DMA_LENGTH + j) = (f, s.completed * CSI_DMA_LENGTH + j)

structure Attempt (s : State) : Prop where
  chained : Chained s
  copied_le : s.copied ≤ s.completed
  copying : ∀ m, s.tasklet = .copying m → s.copied < s.completed
  whole : s.stillCounter ≠ 0 → s.userCount ≤ s.copied * CSI_DMA_LENGTH
  active : s.active = true → s.chain ≠ [] ∧ s.status ≠ .idle
  idle : s.status = .idle → s.completed = 0
  working : s.status = .working → s.completed * CSI_DMA_LENGTH < s.userCount ∧ s.completed < s.copied + maxDma ∧
    Data s.frame s ∧ (s.active = true → s.offset = s.completed * CSI_DMA_LENGTH + s.filled)
  done : s.status = .done → s.userCount ≤ s.completed * CSI_DMA_LENGTH ∧ s.completed ≤ s.copied + maxDma ∧
    ∃ f, Data f s

section Attempt

variable {s s' : State}

lemma Chained.nil (h : Chained s) (hU : s.userCount ≤ s.completed * CSI_DMA_LENGTH) : s.chain = [] := by
  obtain ⟨m,hm,hlt⟩ := h
  cases m with
  | zero => exact hm
  | succ m => exact absurd (hlt s.completed (by omega)) (by omega)

lemma Chained.cons {x : Xfer} {rest : List Xfer} (h : Chained s) (hx : s.chain = x :: rest) :
  x = xfer s.userCount s.completed ∧ s.completed * CSI_DMA_LENGTH < s.userCount ∧
  ∃ m, rest = (range' (s.completed + 1) m).map (xfer s.userCount) ∧
    ∀ k < s.completed + 1 + m, k * CSI_DMA_LENGTH < s.userCount := by
  obtain ⟨m,hm,hlt⟩ := h
  cases m with
  | zero => rw [hx] at hm; cases hm
  | succ m =>
    rw [hx,range'_succ,map_cons] at hm
    obtain ⟨rfl,rfl⟩ := List.cons.inj hm
    exact ⟨rfl,hlt _ (by omega),m,rfl,fun k hk => hlt k (by omega)⟩

lemma Attempt.inactive_of_done (h : Attempt s) (hd : s.status = .done) : s.active ≠ true := fun ha =>
  (h.active ha).1 (h.chained.nil (h.done hd).1)

lemma Attempt.over (h : Attempt s) (hU : 0 < s.userCount) (hw : s.stillCounter ≠ 0) :
  s.chain = [] ∧ s.active = false ∧ s.copied = s.completed ∧ (s.status = .done ∨ s.status = .error) := by
  have hle := h.whole hw
  have hmul : s.copied * CSI_DMA_LENGTH ≤ s.completed * CSI_DMA_LENGTH := Nat.mul_le_mul_right _ h.copied_le
  have hnil : s.chain = [] := h.chained.nil (by omega)
  refine ⟨hnil,?_,?_,?_⟩
  · rw [← Bool.not_eq_true]
    exact fun ha => (h.active ha).1 hnil
  · -- a transfer that is counted and not copied would lie beyond the image
    by_contra hne
    obtain ⟨m,-,hlt⟩ := h.chained
    have hlast := hlt s.copied (by have := h.copied_le; omega)
    omega
  · cases e : s.status with
    | idle =>
      have h0 := h.idle e
      rw [h0,Nat.zero_mul] at hmul
      omega
    | working =>
      have := (h.working e).1
      omega
    | done => exact .inl rfl
    | error => exact .inr rfl

/-! ### The interrupts -/

lemma attempt_sof_idle (h : Attempt s) (hU : 0 < s.userCount) (hi : s.status = .idle) :
  Attempt (startOfFrame s) := by
  have h0 := h.idle hi
  have hcopied : s.copied = 0 := Nat.le_zero.mp (h0 ▸ h.copied_le)
  have hoff : s.active = false := by
    rw [← Bool.not_eq_true]
    exact fun ha => (h.active ha).2 hi
  have hcopy : s.tasklet.inCopy = 0 := by
    cases ht : s.tasklet with
    | copying m => exact absurd (h.copying m ht) (by omega)
    | _ => rfl
  rw [startOfFrame_idle hi hoff]
  refine ⟨h.chained,h.copied_le,h.copying,h.whole,fun ha => ⟨by simpa using ha,by simp⟩,by simp,fun _ => ?_,
    by simp⟩
  refine ⟨by simpa [h0] using hU,?_,⟨?_,?_,?_⟩,?_⟩
  · simp [h0,maxDma,CSI_MEM_SIZE,CSI_DMA_LENGTH]
  · simp [hcopied,hcopy]
  · simp [h0]
  · simp
  · simp [h0]

lemma attempt_sof (h : Attempt s) (hU : 0 < s.userCount) : Attempt (startOfFrame s) := by
  cases e : s.status with
  | idle => exact attempt_sof_idle h hU e
  | working =>
    rw [startOfFrame_working e]
    exact ⟨h.chained,h.copied_le,h.copying,h.whole,fun ha => ⟨(h.active ha).1,by simp⟩,by simp,by simp,
      by simp⟩
  | done =>
    rw [startOfFrame_over (.inl e)]
    refine ⟨h.chained,h.copied_le,h.copying,h.whole,h.active,h.idle,fun hw => ?_,fun _ => ?_⟩
    · cases e.symm.trans hw
    · obtain ⟨h1,h2,f,hf⟩ := h.done e
      exact ⟨h1,h2,f,hf.delivered,hf.waiting,hf.arriving⟩
  | error =>
    rw [startOfFrame_over (.inr e)]
    refine ⟨h.chained,h.copied_le,h.copying,h.whole,h.active,h.idle,fun hw => ?_,fun hd => ?_⟩
    · cases e.symm.trans hw
    · cases e.symm.trans hd

lemma attempt_bytes {n : ℕ} (h : Attempt s) (e : sendBytes n s = some s') : Attempt s' := by
  rcases sendBytes_cases e with ⟨hoff,rfl⟩ | ⟨hon,x,rest,hx,hfit,rfl⟩
  · refine ⟨h.chained,h.copied_le,h.copying,h.whole,h.active,h.idle,fun hw => ?_,fun hd => ?_⟩
    · obtain ⟨h1,h2,hf,-⟩ := h.working hw
      exact ⟨h1,h2,⟨hf.delivered,hf.waiting,hf.arriving⟩,fun ha => by cases hoff.symm.trans ha⟩
    · obtain ⟨h1,h2,f,hf⟩ := h.done hd
      exact ⟨h1,h2,f,hf.delivered,hf.waiting,hf.arriving⟩
  · obtain ⟨rfl,-,-⟩ := h.chained.cons hx
    have hroom : s.filled + n ≤ CSI_DMA_LENGTH := hfit.trans transferCount_le
    refine ⟨h.chained,h.copied_le,h.copying,h.whole,h.active,h.idle,fun hw => ?_,
      fun hd => absurd hon (h.inactive_of_done hd)⟩
    obtain ⟨h1,h2,hf,hoffset⟩ := h.working hw
    replace hoffset := hoffset hon
    have hkept : ∀ k, s.copied ≤ k → k < s.completed → ∀ j < transferCount s.userCount k,
        store s.stillBuf (s.completed % maxDma * CSI_DMA_LENGTH + s.filled) n (fun j => (s.frame, s.offset + j))
          (k % maxDma * CSI_DMA_LENGTH + j) = (s.frame, k * CSI_DMA_LENGTH + j) := fun k hk hlt j hj => by
      rw [store_area hlt (by omega) hroom (Nat.lt_of_lt_of_le hj transferCount_le),hf.waiting k hk hlt j hj]
    have hstored : ∀ j < s.filled + n,
        store s.stillBuf (s.completed % maxDma * CSI_DMA_LENGTH + s.filled) n (fun j => (s.frame, s.offset + j))
          (s.completed % maxDma * CSI_DMA_LENGTH + j) = (s.frame, s.completed * CSI_DMA_LENGTH + j) :=
      store_extends (hf.arriving hon) fun j _ => by rw [hoffset,Nat.add_assoc]
    refine ⟨h1,h2,⟨hf.delivered,hkept,fun _ => hstored⟩,fun _ => ?_⟩
    show s.offset + n = s.completed * CSI_DMA_LENGTH + (s.filled + n)
    omega

lemma Attempt.of_error (hc : Chained s) (hle : s.copied ≤ s.completed)
  (hcopy : ∀ m, s.tasklet = .copying m → s.copied < s.completed)
  (hw : s.stillCounter ≠ 0 → s.userCount ≤ s.copied * CSI_DMA_LENGTH) (ha : s.active = true → s.chain ≠ [])
  (he : s.status = .error) : Attempt s where
  chained := hc
  copied_le := hle
  copying := hcopy
  whole := hw
  active h := ⟨ha h, by simp [he]⟩
  idle h := by cases he.symm.trans h
  working h := by cases he.symm.trans h
  done h := by cases he.symm.trans h

lemma attempt_dmaDone {error : Bool} (h : Attempt s) (e : dmaDone error s = some s') : Attempt s' := by
  obtain ⟨hon,x,rest,hx,hfull,rfl⟩ := dmaDone_cases e
  obtain ⟨rfl,hlt,m,hrest,hbelow⟩ := h.chained.cons hx
  have hchained : Chained (mxcCsiDmaCallback error { s with chain := rest, active := !rest.isEmpty, filled := 0 }) :=
    ⟨m,hrest,hbelow⟩
  have hle : s.copied ≤ s.completed + 1 := Nat.le_succ_of_le h.copied_le
  have hcopy : ∀ m, s.tasklet = .copying m → s.copied < s.completed + 1 := fun m hm =>
    Nat.lt_succ_of_lt (h.copying m hm)
  have hactive : (!rest.isEmpty) = true → rest ≠ [] := by simp
  by_cases herr : error = true ∨ s.status = .error
  · exact .of_error hchained hle hcopy h.whole hactive (callbackStatus_error herr)
  obtain ⟨hne,hst⟩ := not_or.mp herr
  have hwork : s.status = .working := by
    cases hs : s.status with
    | idle => exact absurd hs (h.active hon).2
    | working => rfl
    | done => exact absurd hon (h.inactive_of_done hs)
    | error => exact absurd hs hst
  obtain rfl : error = false := Bool.eq_false_iff.mpr hne
  replace hfull : s.filled = transferCount s.userCount s.completed := hfull.resolve_left Bool.false_ne_true
  obtain ⟨-,hroom,hf,hoffset⟩ := h.working hwork
  have hwaiting : ∀ k, s.copied ≤ k → k < s.completed + 1 → ∀ j < transferCount s.userCount k,
      s.stillBuf (k % maxDma * CSI_DMA_LENGTH + j) = (s.frame, k * CSI_DMA_LENGTH + j) := by
    intro k hk hk' j hj
    rcases Nat.lt_or_eq_of_le (Nat.le_of_lt_succ hk') with hk' | rfl
    · exact hf.waiting k hk hk' j hj
    · exact hf.arriving hon j (hfull ▸ hj)
  have hdata : Data s.frame (mxcCsiDmaCallback false { s with chain := rest, active := !rest.isEmpty, filled := 0 }) :=
    ⟨hf.delivered,hwaiting,fun _ j hj => absurd hj (Nat.not_lt_zero j)⟩
  have hstatus : (mxcCsiDmaCallback false { s with chain := rest, active := !rest.isEmpty, filled := 0 }).status =
      if s.userCount ≤ (s.completed + 1) * CSI_DMA_LENGTH then .done
      else if s.copied + maxDma ≤ s.completed + 1 then .error else .working := by
    simp only [mxcCsiDmaCallback,hwork,callbackStatus_working]
  by_cases hU : s.userCount ≤ (s.completed + 1) * CSI_DMA_LENGTH
  · rw [if_pos hU] at hstatus
    refine ⟨hchained,hle,hcopy,h.whole,fun ha => ⟨hactive ha,by simp [hstatus]⟩,fun hi => ?_,fun hw => ?_,
      fun _ => ?_⟩
    · cases hstatus.symm.trans hi
    · cases hstatus.symm.trans hw
    · exact ⟨hU,Nat.succ_le_of_lt hroom,s.frame,hdata⟩
  rw [if_neg hU] at hstatus
  by_cases hover : s.copied + maxDma ≤ s.completed + 1
  · rw [if_pos hover] at hstatus
    exact .of_error hchained hle hcopy h.whole hactive hstatus
  rw [if_neg hover] at hstatus
  refine ⟨hchained,hle,hcopy,h.whole,fun ha => ⟨hactive ha,by simp [hstatus]⟩,fun hi => ?_,fun _ => ?_,
    fun hd => ?_⟩
  · cases hstatus.symm.trans hi
  · refine ⟨Nat.lt_of_not_le hU,Nat.lt_of_not_le hover,hdata,fun _ => ?_⟩
    rw [transferCount_full (Nat.lt_of_not_le hU)] at hfull
    show s.offset = (s.completed + 1) * CSI_DMA_LENGTH + 0
    rw [hoffset hon,hfull,Nat.succ_mul,Nat.add_zero]
  · cases hstatus.symm.trans hd

/-! ### The tasklet -/

lemma Attempt.moved {tk : Tasklet} {b : Bool} {n : ℕ} (h : Attempt s) (hold : s.tasklet.inCopy = 0)
  (hnew : tk.inCopy = 0) (hcopy : ∀ m, tk = .copying m → s.copied < s.completed)
  (hw : n ≠ 0 → s.userCount ≤ s.copied * CSI_DMA_LENGTH) :
  Attempt { s with scheduled := b, tasklet := tk, stillCounter := n } := by
  have hdata : ∀ f, Data f s → Data f { s with scheduled := b, tasklet := tk, stillCounter := n } := fun f hf =>
    ⟨fun i hi => hf.delivered i (by simpa [hold,hnew] using hi),hf.waiting,hf.arriving⟩
  refine ⟨h.chained,h.copied_le,hcopy,hw,h.active,h.idle,fun hs => ?_,fun hs => ?_⟩
  · obtain ⟨h1,h2,hf,h3⟩ := h.working hs
    exact ⟨h1,h2,hdata _ hf,h3⟩
  · obtain ⟨h1,h2,f,hf⟩ := h.done hs
    exact ⟨h1,h2,f,hdata f hf⟩

lemma Data.copied {f : ℕ} {tk : Tasklet} (h : Data f s)
  (hold : s.tasklet.inCopy = transferCount s.userCount s.copied) (hnew : tk.inCopy = 0) : Data f { s with copied := s.copied + 1, tasklet := tk } where
  delivered i hi hU := by
    refine h.delivered i ?_ hU
    rw [hold]
    exact lt_transfer (by simpa [hnew] using hi) hU
  waiting k hk := h.waiting k (Nat.le_of_succ_le hk)
  arriving := h.arriving

lemma attempt_task (h : Attempt s) (e : mxcCsiDmaTask s = some s') : Attempt s' := by
  rcases mxcCsiDmaTask_cases e with ⟨ht,rfl⟩ | ⟨ht,hlt,rfl⟩ | ⟨ht,-,rfl⟩ | ⟨ht,rfl⟩ | ⟨ht,hs',hw⟩
  · exact h.moved (by rw [ht]; rfl) rfl (by simp) h.whole
  · exact h.moved (by rw [ht]; rfl) rfl (fun _ _ => hlt) h.whole
  · exact h.moved (by rw [ht]; rfl) rfl (by simp) h.whole
  · have hlt := h.copying _ ht
    have hdata : ∀ f, Data f s → Data f { s with copied := s.copied + 1, tasklet := .loop } := fun f hf =>
      hf.copied (by rw [ht,Tasklet.inCopy_copying]) rfl
    have hmul : s.copied * CSI_DMA_LENGTH ≤ (s.copied + 1) * CSI_DMA_LENGTH :=
      Nat.mul_le_mul_right _ (Nat.le_succ _)
    refine ⟨h.chained,hlt,by simp,fun hw => (h.whole hw).trans hmul,h.active,h.idle,fun hs => ?_,fun hs => ?_⟩
    · obtain ⟨h1,h2,hf,h3⟩ := h.working hs
      have hroom : s.completed < s.copied + 1 + maxDma := by omega
      exact ⟨h1,hroom,hdata _ hf,h3⟩
    · obtain ⟨h1,h2,f,hf⟩ := h.done hs
      have hroom : s.completed ≤ s.copied + 1 + maxDma := by omega
      exact ⟨h1,hroom,f,hdata f hf⟩
  · rw [hs']
    refine h.moved (by rw [ht]; rfl) rfl (by simp) fun hne => ?_
    rcases hw with hw | hw
    · exact h.whole (hw ▸ hne)
    · exact hw.1

lemma Data.copy {f m n : ℕ} (h : Data f s) (ht : s.tasklet = .copying m) (hlt : s.copied < s.completed)
  (hn : m + n ≤ transferCount s.userCount s.copied) : Data f { s with
    userBuf := store s.userBuf (s.copied * CSI_DMA_LENGTH + m) n fun j =>
      s.stillBuf (s.copied % maxDma * CSI_DMA_LENGTH + m + j)
    tasklet := .copying (m + n) } where
  delivered i hi hU := by
    dsimp only [store]
    by_cases hold : i < s.copied * CSI_DMA_LENGTH + m
    · rw [if_neg (by omega)]
      exact h.delivered i (by rw [ht]; exact hold) hU
    · replace hi : i < s.copied * CSI_DMA_LENGTH + (m + n) := hi
      obtain ⟨d,rfl⟩ := Nat.exists_eq_add_of_le (Nat.le_of_not_lt hold)
      rw [if_pos (by omega),Nat.add_sub_cancel_left,Nat.add_assoc,Nat.add_assoc]
      exact h.waiting s.copied le_rfl hlt (m + d) (by omega)
  waiting := h.waiting
  arriving := h.arriving

lemma attempt_copy {n : ℕ} (h : Attempt s) (e : copyToUser n s = some s') : Attempt s' := by
  obtain ⟨m,ht,hn,rfl⟩ := copyToUser_cases e
  have hlt := h.copying m ht
  refine ⟨h.chained,h.copied_le,fun _ _ => hlt,h.whole,h.active,h.idle,fun hs => ?_,fun hs => ?_⟩
  · obtain ⟨h1,h2,hf,h3⟩ := h.working hs
    exact ⟨h1,h2,hf.copy ht hlt hn,h3⟩
  · obtain ⟨h1,h2,f,hf⟩ := h.done hs
    exact ⟨h1,h2,f,hf.copy ht hlt hn⟩

end Attempt

/-! ### Between two attempts -/

structure Quiet (s : State) : Prop where
  inactive : s.active = false
  status : s.status = .done ∨ s.status = .error
  notCopying : ∀ m, s.tasklet ≠ .copying m

def SetUp (s : State) : Prop :=
  match s.reader with
  | .resetCopied => s.chain = [] ∧ s.copied = s.completed
  | .resetCompleted => s.chain = [] ∧ s.copied = 0 ∧ (s.completed = 0 ∨ s.tasklet = .off)
  | .chaining => s.chain = [] ∧ s.copied = 0 ∧ s.completed = 0
  | .clearCounter => Chained s ∧ s.copied = 0 ∧ s.completed = 0
  | .arm => Chained s ∧ s.copied = 0 ∧ s.completed = 0 ∧ s.stillCounter = 0
  | _ => False

def Inv (s : State) : Prop :=
  match s.reader with
  | .wait => Attempt s
  | .test | .verdict => Attempt s ∧ s.stillCounter ≠ 0
  | .returned true => Attempt s ∧ s.stillCounter ≠ 0 ∧ s.status = .done
  | .returned false => True
  | _ => Quiet s ∧ SetUp s

section Between

variable {s s' : State} {e : Event}

def Event.Outside : Event → Prop
  | .read | .timeout => False
  | _ => True

lemma outside_same (he : e.Outside) (hs : step s e = some s') :
  s'.reader = s.reader ∧ s'.userCount = s.userCount := by
  cases e with
  | sof =>
    cases hs
    obtain ⟨h1,h2,-⟩ := startOfFrame_same s
    exact ⟨h1,h2⟩
  | bytes n => rcases sendBytes_cases hs with ⟨-,rfl⟩ | ⟨-,x,rest,-,-,rfl⟩ <;> exact ⟨rfl,rfl⟩
  | dma error =>
    obtain ⟨-,x,rest,-,-,rfl⟩ := dmaDone_cases hs
    exact ⟨rfl,rfl⟩
  | tasklet =>
    rcases mxcCsiDmaTask_cases hs with ⟨-,rfl⟩ | ⟨-,-,rfl⟩ | ⟨-,-,rfl⟩ | ⟨-,rfl⟩ | ⟨-,hs',-⟩
    · exact ⟨rfl,rfl⟩
    · exact ⟨rfl,rfl⟩
    · exact ⟨rfl,rfl⟩
    · exact ⟨rfl,rfl⟩
    · rw [hs']
      exact ⟨rfl,rfl⟩
  | copy n =>
    obtain ⟨m,-,-,rfl⟩ := copyToUser_cases hs
    exact ⟨rfl,rfl⟩
  | read => exact he.elim
  | timeout => exact he.elim

structure Same (s s' : State) : Prop where
  chain : s'.chain = s.chain
  copied : s'.copied = s.copied
  completed : s'.completed = s.completed
  stillCounter : s.copied * CSI_DMA_LENGTH < s.userCount → s'.stillCounter = s.stillCounter

lemma Quiet.outside (h : Quiet s) (he : e.Outside) (hno : e = .tasklet → s.completed ≤ s.copied)
  (hs : step s e = some s') : Quiet s' ∧ Same s s' ∧ (e ≠ .tasklet → s'.tasklet = s.tasklet) := by
  cases e with
  | sof =>
    cases hs
    rw [startOfFrame_over h.status]
    exact ⟨⟨h.inactive,h.status,h.notCopying⟩,⟨rfl,rfl,rfl,fun _ => rfl⟩,fun _ => rfl⟩
  | bytes n =>
    rcases sendBytes_cases hs with ⟨-,rfl⟩ | ⟨hon,-⟩
    · exact ⟨⟨h.inactive,h.status,h.notCopying⟩,⟨rfl,rfl,rfl,fun _ => rfl⟩,fun _ => rfl⟩
    · cases h.inactive.symm.trans hon
  | dma error => cases h.inactive.symm.trans (dmaDone_cases hs).1
  | tasklet =>
    rcases mxcCsiDmaTask_cases hs with ⟨-,rfl⟩ | ⟨-,hlt,-⟩ | ⟨-,-,rfl⟩ | ⟨ht,-⟩ | ⟨-,hs',hw⟩
    · exact ⟨⟨h.inactive,h.status,by simp⟩,⟨rfl,rfl,rfl,fun _ => rfl⟩,by simp⟩
    · exact absurd hlt (Nat.not_lt.mpr (hno rfl))
    · exact ⟨⟨h.inactive,h.status,by simp⟩,⟨rfl,rfl,rfl,fun _ => rfl⟩,by simp⟩
    · exact absurd ht (h.notCopying _)
    · rw [hs']
      refine ⟨⟨h.inactive,h.status,by simp⟩,⟨rfl,rfl,rfl,fun hlt => ?_⟩,by simp⟩
      exact hw.resolve_right fun hw => by omega
  | copy n =>
    obtain ⟨m,ht,-⟩ := copyToUser_cases hs
    exact absurd ht (h.notCopying m)
  | read => exact he.elim
  | timeout => exact he.elim

lemma Attempt.outside (h : Attempt s) (hU : 0 < s.userCount) (he : e.Outside) (hs : step s e = some s') :
  Attempt s' ∧ (s.stillCounter ≠ 0 → s'.stillCounter ≠ 0) ∧ (s.status = .done → s'.status = .done) := by
  cases e with
  | sof =>
    cases hs
    refine ⟨attempt_sof h hU,fun hne => (startOfFrame_same s).2.2 ▸ hne,fun hd => ?_⟩
    rw [startOfFrame_over (.inl hd)]
    exact hd
  | bytes n =>
    refine ⟨attempt_bytes h hs,?_⟩
    rcases sendBytes_cases hs with ⟨-,rfl⟩ | ⟨-,x,rest,-,-,rfl⟩ <;> exact ⟨id,id⟩
  | dma error =>
    refine ⟨attempt_dmaDone h hs,?_⟩
    obtain ⟨hon,x,rest,-,-,rfl⟩ := dmaDone_cases hs
    exact ⟨id,fun hd => absurd hon (h.inactive_of_done hd)⟩
  | tasklet =>
    refine ⟨attempt_task h hs,?_⟩
    rcases mxcCsiDmaTask_cases hs with ⟨-,rfl⟩ | ⟨-,-,rfl⟩ | ⟨-,-,rfl⟩ | ⟨-,rfl⟩ | ⟨-,hs',hw⟩
    · exact ⟨id,id⟩
    · exact ⟨id,id⟩
    · exact ⟨id,id⟩
    · exact ⟨id,id⟩
    · refine ⟨fun hne => ?_,fun hd => by rw [hs']; exact hd⟩
      rcases hw with hw | ⟨-,hw⟩ <;> omega
  | copy n =>
    refine ⟨attempt_copy h hs,?_⟩
    obtain ⟨m,-,-,rfl⟩ := copyToUser_cases hs
    exact ⟨id,id⟩
  | read => exact he.elim
  | timeout => exact he.elim

lemma Chained.same (h : Chained s) (hU : s'.userCount = s.userCount) (hs : Same s s') : Chained s' := by
  unfold Chained
  rw [hs.chain,hs.completed,hU]
  exact h

lemma inv_outside_quiet (hq : Quiet s) (h : SetUp s) (hU : 0 < s.userCount) (he : e.Outside) (hok : Ok s e)
  (hs : step s e = some s') : Quiet s' ∧ SetUp s' := by
  have hno : e = .tasklet → s.completed ≤ s.copied := by
    rintro rfl
    cases hr : s.reader <;> simp only [SetUp,hr] at h
    case resetCopied => exact h.2.ge
    case resetCompleted =>
      rcases h.2.2 with h0 | hoff
      · omega
      · rw [hok hr hoff]
        exact Nat.zero_le _
    all_goals omega
  obtain ⟨hreader,hcount⟩ := outside_same he hs
  obtain ⟨hq',hsame,htask⟩ := hq.outside he hno hs
  refine ⟨hq',?_⟩
  cases hr : s.reader <;> simp only [SetUp,hr] at h <;> rw [SetUp,hreader,hr] <;>
    simp only [hsame.chain,hsame.copied,hsame.completed]
  case resetCopied => exact h
  case resetCompleted =>
    refine ⟨h.1,h.2.1,?_⟩
    by_cases het : e = .tasklet
    · exact .inl (Nat.le_zero.mp (h.2.1 ▸ hno het))
    · rw [htask het]
      exact h.2.2
  case chaining => exact h
  case clearCounter => exact ⟨h.1.same hcount hsame,h.2⟩
  case arm =>
    obtain ⟨hc,h0,h1,hn⟩ := h
    refine ⟨hc.same hcount hsame,h0,h1,?_⟩
    rw [hsame.stillCounter (by rw [h0,Nat.zero_mul]; exact hU),hn]

lemma inv_outside (h : Inv s) (hU : 0 < s.userCount) (he : e.Outside) (hok : Ok s e) (hs : step s e = some s') :
  Inv s' := by
  rw [Inv,(outside_same he hs).1]
  cases hr : s.reader with
  | wait =>
    simp only [Inv,hr] at h
    exact (h.outside hU he hs).1
  | test | verdict =>
    simp only [Inv,hr] at h
    obtain ⟨h1,h2,-⟩ := h.1.outside hU he hs
    exact ⟨h1,h2 h.2⟩
  | returned ok =>
    cases ok with
    | false => trivial
    | true =>
      simp only [Inv,hr] at h
      obtain ⟨h1,h2,h3⟩ := h.1.outside hU he hs
      exact ⟨h1,h2 h.2.1,h3 h.2.2⟩
  | _ =>
    simp only [Inv,hr] at h
    exact inv_outside_quiet h.1 h.2 hU he hok hs

/-! ### The reader -/

lemma Attempt.retry (h : Attempt s) (hU : 0 < s.userCount) (hw : s.stillCounter ≠ 0) (ht : s.tasklet = .off) :
  Quiet s ∧ s.chain = [] ∧ s.copied = s.completed := by
  obtain ⟨hnil,hoff,heq,hst⟩ := h.over hU hw
  exact ⟨⟨hoff,hst,by simp [ht]⟩,hnil,heq⟩

lemma chained_chaining (hnil : s.chain = []) (h0 : s.completed = 0) : Chained (mxcCsiDmaChaining s) := by
  obtain ⟨m,hm,hlt⟩ := chainLoop_range (U := s.userCount) s.userCount 0
  have hchain : (mxcCsiDmaChaining s).chain = ((range' 0 m).take Dma.MAX_BD_SIZE).map (xfer s.userCount) := by
    simp [mxcCsiDmaChaining,hnil,hm,map_take]
  have hbelow : ∀ k < m, k * CSI_DMA_LENGTH < s.userCount := fun k hk =>
    ((hlt k).resolve_left (Nat.not_lt_zero k)).resolve_left (by omega)
  unfold Chained
  rw [hchain]
  show ∃ m', _ = (range' s.completed m').map (xfer s.userCount) ∧
    ∀ k < s.completed + m', k * CSI_DMA_LENGTH < s.userCount
  rw [h0]
  rcases Nat.le_total m Dma.MAX_BD_SIZE with hle | hle
  · exact ⟨m,by rw [take_range'_of_length_le hle],fun k hk => hbelow k (by omega)⟩
  · exact ⟨Dma.MAX_BD_SIZE,by rw [take_range'_of_length_ge hle],fun k hk => hbelow k (by omega)⟩

lemma Quiet.armed (h : Quiet s) (hc : Chained s) (h0 : s.copied = 0) (h1 : s.completed = 0)
  (hn : s.stillCounter = 0) : Attempt { s with status := .idle, reader := .wait } where
  chained := hc
  copied_le := by simp [h0]
  copying m hm := absurd hm (h.notCopying m)
  whole hne := absurd hn hne
  active ha := by cases h.inactive.symm.trans ha
  idle _ := h1
  working hw := by cases hw
  done hd := by cases hd

lemma Attempt.reads {r : Reader} (h : Attempt s) : Attempt { s with reader := r } := by
  refine ⟨h.chained,h.copied_le,h.copying,h.whole,h.active,h.idle,fun hw => ?_,fun hd => ?_⟩
  · obtain ⟨h1,h2,hf,h3⟩ := h.working hw
    exact ⟨h1,h2,⟨hf.delivered,hf.waiting,hf.arriving⟩,h3⟩
  · obtain ⟨h1,h2,f,hf⟩ := h.done hd
    exact ⟨h1,h2,f,hf.delivered,hf.waiting,hf.arriving⟩

lemma inv_read (h : Inv s) (hU : 0 < s.userCount) (ht : s.tasklet = .off) (hs : mxcV4lRead s = some s') :
  Inv s' := by
  unfold mxcV4lRead at hs
  cases hr : s.reader with
  | resetCopied =>
    simp only [Inv,SetUp,hr] at h hs
    cases hs
    exact ⟨⟨h.1.inactive,h.1.status,h.1.notCopying⟩,h.2.1,rfl,.inr ht⟩
  | resetCompleted =>
    simp only [Inv,SetUp,hr] at h hs
    cases hs
    exact ⟨⟨h.1.inactive,h.1.status,h.1.notCopying⟩,h.2.1,h.2.2.1,rfl⟩
  | chaining =>
    simp only [Inv,SetUp,hr] at h hs
    cases hs
    exact ⟨⟨h.1.inactive,h.1.status,h.1.notCopying⟩,chained_chaining h.2.1 h.2.2.2,h.2.2⟩
  | clearCounter =>
    simp only [Inv,SetUp,hr] at h hs
    cases hs
    exact ⟨⟨h.1.inactive,h.1.status,h.1.notCopying⟩,h.2.1,h.2.2.1,h.2.2.2,rfl⟩
  | arm =>
    simp only [Inv,SetUp,hr] at h hs
    cases hs
    obtain ⟨hq,hc,h0,h1,hn⟩ := h
    exact hq.armed hc h0 h1 hn
  | wait =>
    simp only [Inv,hr,ite_none_right_eq_some,Option.some.injEq] at h hs
    obtain ⟨hne,rfl⟩ := hs
    exact ⟨h.reads,hne⟩
  | test =>
    simp only [Inv,hr] at h hs
    obtain ⟨ha,hne⟩ := h
    split at hs
    · cases hs
      exact ⟨ha.reads,hne⟩
    · split at hs
      · cases hs
        exact ⟨ha.reads,hne⟩
      · cases hs
        obtain ⟨hq,hnil,heq⟩ := ha.retry hU hne ht
        exact ⟨⟨hq.inactive,hq.status,hq.notCopying⟩,hnil,heq⟩
  | verdict =>
    simp only [Inv,hr] at h hs
    cases hs
    by_cases hd : s.status = .done
    · rw [decide_eq_true hd]
      exact ⟨h.1.reads,h.2,hd⟩
    · rw [decide_eq_false hd]
      trivial
  | returned ok =>
    rw [hr] at hs
    cases hs

end Between

/-! ### All runs -/

lemma step_userCount {s s' : State} {e : Event} (hs : step s e = some s') : s'.userCount = s.userCount := by
  cases e with
  | read =>
    simp only [step,ite_none_right_eq_some] at hs
    obtain ⟨-,hs⟩ := hs
    unfold mxcV4lRead at hs
    split at hs
    case h_6 =>
      obtain ⟨-,e⟩ := ite_none_right_eq_some.mp hs
      exact Option.some.inj e ▸ rfl
    case h_7 => split_ifs at hs <;> exact Option.some.inj hs ▸ rfl
    case h_9 => cases hs
    all_goals exact Option.some.inj hs ▸ rfl
  | timeout =>
    simp only [step,ite_none_right_eq_some,Option.some.injEq] at hs
    obtain ⟨-,rfl⟩ := hs
    rfl
  | _ => exact (outside_same (by simp [Event.Outside]) hs).2

lemma inv_step {s s' : State} {e : Event} (h : Inv s) (hU : 0 < s.userCount) (hok : Ok s e)
  (hs : step s e = some s') : Inv s' := by
  cases e with
  | read =>
    simp only [step,ite_none_right_eq_some] at hs
    exact inv_read h hU hs.1 hs.2
  | timeout =>
    simp only [step,ite_none_right_eq_some,Option.some.injEq] at hs
    obtain ⟨-,rfl⟩ := hs
    trivial
  | _ => exact inv_outside h hU (by simp [Event.Outside]) hok hs

lemma inv_faithful {s : State} (h : Inv s) : Faithful s := by
  intro hr
  simp only [Inv,hr] at h
  obtain ⟨ha,hne,hd⟩ := h
  obtain ⟨-,-,f,hf⟩ := ha.done hd
  refine ⟨f,fun i hi => hf.delivered i ?_ hi⟩
  have := ha.whole hne
  omega

/-- **A still read that succeeds delivers one frame**. -/
theorem still_run (sizeimage count : BitVec 32) (b : Left) {l : List Event}
  (h : Run.AllSteps step Ok (begin sizeimage count b) l) :
  Run.AllStates step Faithful (begin sizeimage count b) l := by
  refine h.keeps (J := fun s => s.userCount = 0 ∨ 0 < s.userCount ∧ Inv s) (fun e s s' hJ hok hs => ?_)
    (fun s hJ => ?_) ?_
  · have hcount := step_userCount hs
    rcases hJ with h0 | ⟨hpos,hinv⟩
    · exact .inl (hcount.trans h0)
    · exact .inr ⟨hcount ▸ hpos,inv_step hinv hpos hok hs⟩
  · rcases hJ with h0 | ⟨-,hinv⟩
    · exact fun _ => ⟨0,fun i hi => absurd hi (by omega)⟩
    · exact inv_faithful hinv
  · rcases Nat.eq_zero_or_pos (gUserCount sizeimage count) with h0 | hpos
    · exact .inl h0
    · exact .inr ⟨hpos,⟨rfl,.inl rfl,by simp [begin]⟩,rfl,rfl⟩
def blank : Left := ⟨0, 0, 0, 0, fun _ => (0, 0), fun _ => (0, 0)⟩

def setUpRun : List Event := [.read, .read, .read, .read, .read]

def shortRun : List Event :=
  setUpRun ++ ([.sof, .bytes 4, .dma false, .tasklet, .tasklet, .copy 4, .tasklet, .tasklet, .tasklet,
    .read, .read, .read] : List Event)

theorem still_short : (shortRun.foldlM step (begin 4 4 blank)).map State.reader = some (.returned true) ∧
  Run.AllSteps step Ok (begin 4 4 blank) shortRun ∧ Run.AllStates step Faithful (begin 4 4 blank) shortRun := by
  have h : Run.AllSteps step Ok (begin 4 4 blank) shortRun := by decide +kernel
  exact ⟨by decide +kernel,h,still_run 4 4 blank h⟩

def mixedRun : List Event :=
  setUpRun ++ ([.sof, .bytes CSI_DMA_LENGTH, .dma false, .tasklet, .tasklet, .sof, .bytes 4, .dma false,
    .copy CSI_DMA_LENGTH, .tasklet, .tasklet, .copy 4, .tasklet, .tasklet, .tasklet] : List Event)

def staleRun : List Event :=
  mixedRun ++ ([.read, .read, .read, .tasklet, .tasklet, .copy CSI_DMA_LENGTH, .tasklet, .tasklet, .copy 4, .tasklet,
    .tasklet, .tasklet, .read, .read, .read, .read, .sof, .bytes CSI_DMA_LENGTH, .dma false, .bytes 4, .dma false,
    .tasklet, .tasklet, .tasklet, .read, .read, .read] : List Event)

/-- **A read succeeds with bytes of two frames** of the attempt before. -/
theorem stale_frames : ∃ s, staleRun.foldlM step (begin 204804 204804 blank) = some s ∧
  s.reader = .returned true ∧ s.userCount = 204804 ∧ s.userBuf 0 = (1, 0) ∧ s.userBuf CSI_DMA_LENGTH = (2, 0) ∧
  ¬ Faithful s := by
  have h : (staleRun.foldlM step (begin 204804 204804 blank)).map
      (fun s => (s.reader, s.userCount, s.userBuf 0, s.userBuf CSI_DMA_LENGTH)) =
        some (.returned true, 204804, (1, 0), (2, 0)) := by decide +kernel
  obtain ⟨s,hs,he⟩ := map_eq_some_iff.mp h
  simp only [Prod.mk.injEq] at he
  obtain ⟨hr,hU,h0,h1⟩ := he
  refine ⟨s,hs,hr,hU,h0,h1,fun hf => ?_⟩
  obtain ⟨f,hf⟩ := hf hr
  have hlast := congrArg Prod.snd (h1.symm.trans (hf CSI_DMA_LENGTH (by simp [hU,CSI_DMA_LENGTH])))
  simp [CSI_DMA_LENGTH] at hlast

end Still
end Mx27.Capture
