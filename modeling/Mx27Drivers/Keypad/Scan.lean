/-
# Scanning the keypad

`mxc_kpp_scan_matrix` samples the matrix and stores a code for every key that changed.
-/
import Mathlib.Data.Bool.Basic
import Mathlib.Data.List.Nodup
import Mathlib.Data.List.ProdSigma
import Mathlib.Logic.Function.Basic

namespace Mx27.Keypad

open List

def MXC_KEYRELEASE : ℕ := 128

def KEY_3 : ℕ := 4
def KEY_LEFTSHIFT : ℕ := 42

inductive KeyState
  | up
  | firstDown
  | down
  | firstUp
  deriving DecidableEq, Repr

abbrev Key := ℕ × ℕ

structure Config where
  kppRows : ℕ
  kppCols : ℕ
  keycodes : ℕ → ℕ

def Config.keys (c : Config) : List Key := List.range c.kppRows ×ˢ List.range c.kppCols

theorem Config.nodup_keys (c : Config) : c.keys.Nodup := nodup_range.product nodup_range

/-- `kpp_dev`, `KPress`, the last sample and the two tables, where `none` is -1. -/
structure Driver where
  curRcmap : Key → Bool
  pressScancode : Key → Option ℕ
  releaseScancode : Key → Option ℕ
  kPress : Bool
  iKeyState : KeyState

structure Report where
  key : Key
  codes : List ℕ
  value : Bool
  deriving DecidableEq, Repr

def Config.sampled (c : Config) (sample : Key → Bool) (k : Key) : Bool := decide (k ∈ c.keys) && sample k

def noteChange (c : Config) (prev cur : Key → Bool) (d : Driver) (k : Key) : Driver :=
  if prev k = cur k then d
  else if prev k = false then
    { d with
      pressScancode := Function.update d.pressScancode k (some (k.1 * c.kppCols + k.2))
      kPress := true
      iKeyState := .up }
  else
    { d with
      releaseScancode := Function.update d.releaseScancode k (some (k.1 * c.kppCols + k.2 + MXC_KEYRELEASE))
      kPress := false
      iKeyState := .down }

def Config.codes (c : Config) (scancode : ℕ) : List ℕ :=
  if c.keycodes scancode = KEY_LEFTSHIFT then [c.keycodes scancode, KEY_3] else [c.keycodes scancode]

def reportLoop (c : Config) (offset : ℕ) (value : Bool) :
    List Key → (Key → Option ℕ) → (Key → Option ℕ) × List Report
  | [], t => (t, [])
  | k :: ks, t =>
    match t k with
    | none => reportLoop c offset value ks t
    | some scancode =>
      let r := reportLoop c offset value ks (Function.update t k none)
      (r.1, ⟨k, c.codes (scancode - offset), value⟩ :: r.2)

def debounce (c : Config) (d : Driver) : Driver × List Report :=
  match d.iKeyState with
  | .up => ({ d with iKeyState := if d.kPress then .firstDown else .up }, [])
  | .firstDown =>
    if d.kPress then
      let r := reportLoop c 0 true c.keys d.pressScancode
      ({ d with pressScancode := r.1, iKeyState := if r.2 = [] then .firstDown else .down }, r.2)
    else ({ d with iKeyState := .up }, [])
  | .down => ({ d with iKeyState := if d.kPress then .down else .firstUp }, [])
  | .firstUp =>
    if d.kPress then ({ d with iKeyState := .down }, [])
    else
      let r := reportLoop c MXC_KEYRELEASE false c.keys d.releaseScancode
      ({ d with releaseScancode := r.1, iKeyState := if r.2 = [] then .firstUp else .up }, r.2)

def noted (c : Config) (sample : Key → Bool) (d : Driver) : Driver :=
  c.keys.foldl (noteChange c d.curRcmap (c.sampled sample)) { d with curRcmap := c.sampled sample }

def keycnt (c : Config) (sample : Key → Bool) (d : Driver) : ℕ :=
  c.keys.countP (c.sampled sample) + c.keys.countP fun k => d.curRcmap k && !c.sampled sample k

/-- `mxc_kpp_scan_matrix`, without leaning keys. -/
def scanMatrix (c : Config) (sample : Key → Bool) (d : Driver) : (Driver × List Report) × ℕ :=
  (debounce c (noted c sample d), keycnt c sample d)

structure Effects where
  reports : List Report
  stopped : Bool

/-- `mxc_kpp_handle_timer`, also called by the interrupt. -/
def handleTimer (c : Config) (sample : Key → Bool) (d : Driver) : Driver × Effects :=
  let r := scanMatrix c sample d
  if r.2 = 0 then
    ({ r.1.1 with pressScancode := fun _ => none, releaseScancode := fun _ => none }, ⟨r.1.2, true⟩)
  else (r.1.1, ⟨r.1.2, false⟩)

def probed : Driver where
  curRcmap _ := false
  pressScancode _ := none
  releaseScancode _ := none
  kPress := false
  iKeyState := .up

/-! ### The loops -/

section Loops

variable {c : Config} {prev cur : Key → Bool}

theorem noteChange_curRcmap : ∀ (ks : List Key) (d : Driver),
    (ks.foldl (noteChange c prev cur) d).curRcmap = d.curRcmap
  | [], _ => rfl
  | k :: ks, d => by
    rw [foldl_cons,noteChange_curRcmap ks]
    unfold noteChange
    split_ifs <;> rfl

theorem noteChange_same : ∀ (ks : List Key) (d : Driver), ks.foldl (noteChange c prev prev) d = d
  | [], _ => rfl
  | k :: ks, d => by
    have hd : noteChange c prev prev d k = d := if_pos rfl
    rw [foldl_cons,hd,noteChange_same ks]

theorem noteChange_press : ∀ (ks : List Key) (d : Driver) (k : Key),
    ((ks.foldl (noteChange c prev cur) d).pressScancode k).isSome =
      ((d.pressScancode k).isSome || (decide (k ∈ ks) && !prev k && cur k))
  | [], _, _ => by simp
  | k' :: ks, d, k => by
    rw [foldl_cons,noteChange_press ks]
    unfold noteChange
    by_cases hk : k = k'
    · subst hk
      split_ifs with h1 h2
      · cases hc : cur k <;> simp [h1,hc]
      · have hc : cur k = true := Bool.eq_true_of_not_eq_false fun e => h1 (h2.trans e.symm)
        simp [h2,hc]
      · simp [h2]
    · split_ifs <;> simp [hk]

theorem noteChange_release : ∀ (ks : List Key) (d : Driver) (k : Key),
    ((ks.foldl (noteChange c prev cur) d).releaseScancode k).isSome =
      ((d.releaseScancode k).isSome || (decide (k ∈ ks) && prev k && !cur k))
  | [], _, _ => by simp
  | k' :: ks, d, k => by
    rw [foldl_cons,noteChange_release ks]
    unfold noteChange
    by_cases hk : k = k'
    · subst hk
      split_ifs with h1 h2
      · cases hc : cur k <;> simp [h1,hc]
      · simp [h2]
      · have hp : prev k = true := by simpa using h2
        have hc : cur k = false := Bool.eq_false_iff.mpr fun e => h1 (hp.trans e.symm)
        simp [hp,hc]
    · split_ifs <;> simp [hk]

theorem noteChange_last : ∀ (ks : List Key) (d : Driver),
    let d' := ks.foldl (noteChange c prev cur) d
    (d'.kPress, d'.iKeyState) = ((ks.filter fun k => prev k != cur k).getLast?).elim (d.kPress, d.iKeyState)
      fun k => (cur k, if cur k then .up else .down)
  | [], _ => rfl
  | k :: ks, d => by
    have ih := noteChange_last ks (noteChange c prev cur d k)
    rw [foldl_cons]
    refine ih.trans ?_
    by_cases hk : prev k = cur k
    · simp [noteChange,hk]
    · have hf : ((k :: ks).filter fun k => prev k != cur k) = k :: ks.filter fun k => prev k != cur k := by simp [hk]
      rw [hf,getLast?_cons]
      cases (ks.filter fun k => prev k != cur k).getLast? with
      | some k' => rfl
      | none =>
        cases hp : prev k with
        | false =>
          have hc : cur k = true := Bool.eq_true_of_not_eq_false fun e => hk (hp.trans e.symm)
          simp [noteChange,hp,hc]
        | true =>
          have hc : cur k = false := Bool.eq_false_iff.mpr fun e => hk (hp.trans e.symm)
          simp [noteChange,hp,hc]

end Loops

section Report

variable {c : Config} {offset : ℕ} {value : Bool}

theorem reportLoop_table : ∀ (ks : List Key) (t : Key → Option ℕ) (k : Key),
    (reportLoop c offset value ks t).1 k = if k ∈ ks then none else t k
  | [], _, _ => by simp [reportLoop]
  | k' :: ks, t, k => by
    unfold reportLoop
    by_cases hk : k = k'
    · subst hk
      split
      · rename_i h
        simp [reportLoop_table ks,h]
      · simp [reportLoop_table ks]
    · split <;> simp [reportLoop_table ks,hk]

theorem reportLoop_keys : ∀ (ks : List Key), ks.Nodup → ∀ t : Key → Option ℕ,
    (reportLoop c offset value ks t).2.map Report.key = ks.filter fun k => (t k).isSome
  | [], _, _ => by simp [reportLoop]
  | k :: ks, hks, t => by
    obtain ⟨hk,hks⟩ := nodup_cons.mp hks
    unfold reportLoop
    cases ht : t k with
    | none => simp [reportLoop_keys ks hks,ht]
    | some scancode =>
      have hsame : (ks.filter fun k' => (Function.update t k none k').isSome) = ks.filter fun k' => (t k').isSome := by
        refine filter_congr fun k' hk' => ?_
        have hne : k' ≠ k := fun e => hk (e ▸ hk')
        rw [Function.update_of_ne hne]
      simp [reportLoop_keys ks hks,ht,hsame]

theorem reportLoop_value : ∀ (ks : List Key) (t : Key → Option ℕ),
    ∀ r ∈ (reportLoop c offset value ks t).2, r.value = value
  | [], _, r, h => by simp [reportLoop] at h
  | k :: ks, t, r, h => by
    unfold reportLoop at h
    split at h
    · exact reportLoop_value ks t r h
    · rcases mem_cons.mp h with rfl | h
      · rfl
      · exact reportLoop_value ks _ r h

variable {t : Key → Option ℕ}

theorem reportLoop_drained (ht : ∀ k, (t k).isSome = true → k ∈ c.keys) (k : Key) :
    (reportLoop c offset value c.keys t).1 k = none := by
  rw [reportLoop_table]
  split_ifs with hk
  · rfl
  · exact Option.not_isSome_iff_eq_none.mp fun h => hk (ht k h)

theorem mem_reportLoop {r : Report} (hr : r ∈ (reportLoop c offset value c.keys t).2) :
    (t r.key).isSome = true ∧ r.value = value := by
  refine ⟨?_,reportLoop_value c.keys t r hr⟩
  have hmem : r.key ∈ (reportLoop c offset value c.keys t).2.map Report.key := List.mem_map_of_mem hr
  rw [reportLoop_keys c.keys c.nodup_keys,mem_filter] at hmem
  exact hmem.2

end Report

end Mx27.Keypad
