/-
# The error status word
-/
import Mathlib

namespace Mx27.Sahara

open List Option BitVec

inductive Return
  | ok
  | error
  | noResource
  | badAlgorithm
  | badMode
  | badFlag
  | badKeyLength
  | badKeyParity
  | badDataLength
  | authFailed
  | memoryError
  | internalError
  deriving DecidableEq

/-- `sah_Execute_Error_Array`; `none` is `SHA_ERROR_STATUS_CONTINUE`. -/
def sahExecuteErrorArray : List (Option Return) :=
  [some .error, some .badFlag, some .badDataLength, some .badDataLength, some .badDataLength, some .badDataLength,
    some .internalError, some .internalError, some .badDataLength, some .internalError, some .error,
    some .internalError, some .memoryError, some .memoryError, none, none]

def sahDMAErrorStatusArray : List Return :=
  [.internalError, .internalError, .internalError, .internalError, .badDataLength, .internalError, .internalError,
    .internalError]

def sahCHAErrorStatusArray : List Return :=
  [.internalError, .badDataLength, .internalError, .badMode, .badDataLength, .badKeyLength, .badMode, .error,
    .internalError, .memoryError, .memoryError, .badKeyParity, .internalError]

def SAH_ERR_CHA : BitVec 32 := 14
def SAH_ERR_DMA : BitVec 32 := 15

def chaLoop (status : BitVec 32) : ℕ → BitVec 32 → ℕ → Option ℕ
  | 0, _, _ => none
  | n + 1, mask, count => if status = mask then some count else chaLoop status n (mask <<< 1) (count + 1)

def errorSource (w : BitVec 32) : BitVec 32 := w &&& 0x0F#32
def dmaErrorSize (w : BitVec 32) : BitVec 32 := (w >>> 9) &&& 0x03#32
def dmaErrorStatus (w : BitVec 32) : BitVec 32 := (w >>> 12) &&& 0x0F#32
def chaErrorSource (w : BitVec 32) : BitVec 32 := (w >>> 28) &&& 0x07#32
def chaErrorStatus (w : BitVec 32) : BitVec 32 := (w >>> 16) &&& 0x0FFF#32

def chaCount (status : BitVec 32) : Option ℕ := if status = 0#32 then some 0 else chaLoop status 32 1#32 1

def sahConvertErrorStatus (w : BitVec 32) : Option Return :=
  match sahExecuteErrorArray.getD (errorSource w).toNat none with
  | some r => some r
  | none =>
    if errorSource w = SAH_ERR_DMA then
      if dmaErrorSize w = 0#32 then some .internalError
      else some (sahDMAErrorStatusArray.getD ((dmaErrorStatus w).toNat / 2) .error)
    else if chaErrorSource w = 0#32 then some .internalError
    else (chaCount (chaErrorStatus w)).map fun count => sahCHAErrorStatusArray.getD count .error

lemma chaLoop_isSome_iff {status : BitVec 32} : ∀ (n : ℕ) (mask : BitVec 32) (count : ℕ),
  (chaLoop status n mask count).isSome ↔ ∃ k < n, status = mask <<< k
  | 0, mask, count => by simp [chaLoop]
  | n + 1, mask, count => by
    rw [chaLoop]
    split
    · next h => exact iff_of_true rfl ⟨0, Nat.succ_pos n, by rw [shiftLeft_zero,h]⟩
    · next h =>
      rw [chaLoop_isSome_iff n]
      constructor
      · rintro ⟨k,hk,hs⟩
        refine ⟨k + 1,Nat.succ_lt_succ hk,?_⟩
        rw [Nat.add_comm,shiftLeft_add]
        exact hs
      · rintro ⟨- | k,hk,hs⟩
        · exact absurd (by rw [hs,shiftLeft_zero]) h
        · refine ⟨k,Nat.lt_of_succ_lt_succ hk,?_⟩
          rw [← shiftLeft_add,Nat.add_comm]
          exact hs

def TwoChaErrors (w : BitVec 32) : Prop :=
  errorSource w = SAH_ERR_CHA ∧ chaErrorSource w ≠ 0#32 ∧ chaErrorStatus w ≠ 0#32 ∧
    ∀ k < 32, chaErrorStatus w ≠ 1#32 <<< k

instance (w : BitVec 32) : Decidable (TwoChaErrors w) := inferInstanceAs (Decidable (_ ∧ _ ∧ _ ∧ _))

lemma errorSource_toNat_lt (w : BitVec 32) : (errorSource w).toNat < 16 := by
  rw [errorSource,toNat_and]
  exact lt_of_le_of_lt Nat.and_le_right (by decide)

lemma errorSource_open {w : BitVec 32} (h : sahExecuteErrorArray.getD (errorSource w).toNat none = none) :
  errorSource w = SAH_ERR_CHA ∨ errorSource w = SAH_ERR_DMA := by
  have hlt := errorSource_toNat_lt w
  generalize errorSource w = v at h hlt ⊢
  have hv : v = BitVec.ofNat 32 v.toNat := by simp
  generalize v.toNat = n at h hlt hv
  subst hv
  interval_cases n <;> first | (left; rfl) | (right; rfl) | cases h

lemma chaCount_eq_none_iff (status : BitVec 32) :
  chaCount status = none ↔ status ≠ 0#32 ∧ ∀ k < 32, status ≠ 1#32 <<< k := by
  unfold chaCount
  split
  · next h => exact iff_of_false nofun fun h' => h'.1 h
  · next h =>
    rw [← not_isSome_iff_eq_none,chaLoop_isSome_iff]
    push Not
    exact (and_iff_right h).symm

lemma convert_eq_none_iff (w : BitVec 32) : sahConvertErrorStatus w = none ↔ TwoChaErrors w := by
  unfold sahConvertErrorStatus TwoChaErrors
  cases ht : sahExecuteErrorArray.getD (errorSource w).toNat none with
  | some r =>
    refine iff_of_false nofun fun h => ?_
    rw [h.1] at ht
    cases ht
  | none =>
    rcases errorSource_open ht with h | h
    · simp only [h,show SAH_ERR_CHA ≠ SAH_ERR_DMA by decide,if_false,true_and]
      split
      · next h0 => exact iff_of_false nofun fun h' => h'.1 h0
      · next h0 => rw [map_eq_none_iff,chaCount_eq_none_iff,and_iff_right h0]
    · simp only [h,if_true,show SAH_ERR_DMA ≠ SAH_ERR_CHA by decide,false_and,iff_false]
      split <;> exact nofun

lemma convert_ne_ok (w : BitVec 32) : sahConvertErrorStatus w ≠ some .ok := by
  have hexec : ∀ n, sahExecuteErrorArray.getD n none ≠ some .ok := by
    intro n h
    have hmem : some Return.ok ∈ sahExecuteErrorArray := by
      rw [getD_eq_getElem?_getD] at h
      cases hn : sahExecuteErrorArray[n]? with
      | none => rw [hn] at h; cases h
      | some a => rw [hn] at h; exact h ▸ mem_of_getElem? hn
    revert hmem
    decide
  have htable : ∀ (table : List Return), Return.ok ∉ table → ∀ n, table.getD n .error ≠ .ok := by
    intro table hno n h
    rw [getD_eq_getElem?_getD] at h
    cases hn : table[n]? with
    | none => rw [hn] at h; cases h
    | some a => rw [hn] at h; exact hno (h ▸ mem_of_getElem? hn)
  unfold sahConvertErrorStatus
  split
  · next r hr => exact fun h => hexec _ (hr.trans h)
  · split
    · split
      · exact nofun
      · exact fun h => htable sahDMAErrorStatusArray (by decide) _ (Option.some.inj h)
    · split
      · exact nofun
      · intro h
        obtain ⟨count,-,hc⟩ := map_eq_some_iff.mp h
        exact htable sahCHAErrorStatusArray (by decide) _ hc

/-! ### What the decoder promises -/

lemma chaLoop_shift {status : BitVec 32} : ∀ {n : ℕ} {mask : BitVec 32} {count k : ℕ}, chaLoop status n mask count = some k →
  ∃ j < n, k = count + j ∧ status = mask <<< j
  | n + 1, mask, count, k, h => by
    rw [chaLoop] at h
    split at h
    · next hs =>
      cases h
      exact ⟨0,Nat.succ_pos n,rfl,by rw [hs,BitVec.shiftLeft_zero]⟩
    · obtain ⟨j,hj,rfl,hs⟩ := chaLoop_shift h
      exact ⟨j + 1,Nat.succ_lt_succ hj,by omega,by rw [hs,← BitVec.shiftLeft_add,Nat.add_comm]⟩

/-- The call returns, its indices are inside the tables, and the code is that of the lowest bit set. -/
structure Decodes (w : BitVec 32) : Prop where
  returns : (sahConvertErrorStatus w).isSome
  source : (errorSource w).toNat < sahExecuteErrorArray.length
  dma : (dmaErrorStatus w).toNat / 2 < sahDMAErrorStatusArray.length
  cha : ∀ count, chaCount (chaErrorStatus w) = some count → count < sahCHAErrorStatusArray.length
  lowest : errorSource w = SAH_ERR_CHA → chaErrorSource w ≠ 0#32 → ∀ i, (chaErrorStatus w).getLsbD i = true →
    (∀ j < i, (chaErrorStatus w).getLsbD j = false) → sahConvertErrorStatus w = sahCHAErrorStatusArray[i + 1]?

lemma chaCount_lt {w : BitVec 32} {count : ℕ} (h : chaCount (chaErrorStatus w) = some count) :
  count = 0 ∧ chaErrorStatus w = 0#32 ∨ ∃ j < 12, count = j + 1 ∧ chaErrorStatus w = 1#32 <<< j := by
  unfold chaCount at h
  split at h
  · next h0 => exact .inl ⟨(Option.some.inj h).symm,h0⟩
  · obtain ⟨j,hj,rfl,hs⟩ := chaLoop_shift h
    have hlt : (chaErrorStatus w).toNat < 2 ^ 12 := by
      rw [chaErrorStatus,BitVec.toNat_and]
      exact lt_of_le_of_lt Nat.and_le_right (by decide)
    refine .inr ⟨j,?_,Nat.add_comm 1 j,hs⟩
    rw [hs] at hlt
    interval_cases j <;> first | decide | exact absurd hlt (by decide)

/-- **The decoder keeps its promises exactly if not two errors of a cryptographic unit are reported**: then
its loop never meets the mask. -/
theorem decodes_iff (w : BitVec 32) : Decodes w ↔ ¬ TwoChaErrors w := by
  have hreturns : (sahConvertErrorStatus w).isSome ↔ ¬ TwoChaErrors w := by
    rw [← convert_eq_none_iff,Option.isSome_iff_ne_none]
  refine ⟨fun h => hreturns.mp h.returns,fun h => ⟨hreturns.mpr h,errorSource_toNat_lt w,?_,fun count hc => ?_,?_⟩⟩
  · have hlt : (dmaErrorStatus w).toNat ≤ 15 := by
      rw [dmaErrorStatus,BitVec.toNat_and]
      exact Nat.and_le_right
    show _ < 8
    omega
  · show _ < 13
    rcases chaCount_lt hc with ⟨rfl,-⟩ | ⟨j,hj,rfl,-⟩ <;> omega
  · intro hsource hcha i hi hlow
    have hconv : sahConvertErrorStatus w = (chaCount (chaErrorStatus w)).map fun c => sahCHAErrorStatusArray.getD c .error := by
      rw [sahConvertErrorStatus,hsource]
      exact if_neg hcha
    obtain ⟨count,hc⟩ := Option.isSome_iff_exists.mp (by simpa [hconv] using hreturns.mpr h)
    rcases chaCount_lt hc with ⟨-,h0⟩ | ⟨j,hj,rfl,hs⟩
    · simp [h0] at hi
    · obtain rfl : i = j := by
        rw [hs] at hi
        simp at hi
        omega
      rw [hconv,hc]
      interval_cases i <;> rfl

/-- Two errors of a unit: the mask is shifted out, and the loop goes on. -/
theorem decoder_hangs : sahConvertErrorStatus 0x1003000E#32 = none ∧
  ∀ n, chaLoop (chaErrorStatus 0x1003000E#32) n 1#32 1 = none := by
  refine ⟨by decide,fun n => ?_⟩
  rw [← Option.not_isSome_iff_eq_none,chaLoop_isSome_iff]
  rintro ⟨k,-,hk⟩
  have h0 := congrArg (BitVec.getLsbD · 0) hk
  have h1 := congrArg (BitVec.getLsbD · 1) hk
  simp [chaErrorStatus] at h0 h1
  omega

end Mx27.Sahara
