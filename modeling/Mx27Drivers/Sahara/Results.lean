/-
# Collecting results

`sah_get_results_from_pool` takes an entry from the pool before it looks at the number requested.
-/
import Mx27Drivers.Sahara.Queue

namespace Mx27.Sahara

open List Function

/-- `fsl_shw_result_t`; the id stands for the request and what its user knows it by. -/
structure Result where
  code : Return
  detail1 : BitVec 32
  detail2 : BitVec 32
  userDesc : ℕ
  deriving DecidableEq

def Entry.toResult (e : Entry) : Result := ⟨e.result, e.faultAddress, e.currentDar, e.id⟩

structure Collected where
  pool : List Entry
  results : ℕ → Option Result
  actual : ℕ

def poolLoop (requested : BitVec 32) : List Entry → ℕ → (ℕ → Option Result) → Collected
  | [], loop, results => ⟨[], results, loop⟩
  | e :: pool, loop, results =>
    let results := update results loop (some e.toResult)
    if loop + 1 < requested.toNat then poolLoop requested pool (loop + 1) results else ⟨pool, results, loop + 1⟩

/-- `results` is the array of the caller, which has room for `requested` of them. -/
def sahGetResultsFromPool (requested : BitVec 32) (pool : List Entry) (results : ℕ → Option Result) : Collected :=
  poolLoop requested pool 0 results

/-- The first `n` results are in the array, and nothing else is changed. -/
structure Collected.Takes (c : Collected) (pool : List Entry) (results : ℕ → Option Result) (loop n : ℕ) : Prop where
  left : c.pool = pool.drop n
  actual : c.actual = loop + n
  written : ∀ i < n, c.results (loop + i) = pool[i]?.map Entry.toResult
  kept : ∀ i, i < loop ∨ loop + n ≤ i → c.results i = results i

lemma poolLoop_takes {requested : BitVec 32} : ∀ {pool : List Entry} {loop : ℕ} {results : ℕ → Option Result},
  (poolLoop requested pool loop results).Takes pool results loop (min (max (requested.toNat - loop) 1) pool.length)
  | [], loop, results => ⟨by simp [poolLoop], by simp [poolLoop], fun i hi => by simp at hi, fun _ _ => rfl⟩
  | e :: pool, loop, results => by
    rw [poolLoop]
    split
    · next hlt =>
      obtain ⟨hpool,hactual,hwritten,hkept⟩ := @poolLoop_takes requested pool (loop + 1) (update results loop (some e.toResult))
      have hn : min (max (requested.toNat - loop) 1) (pool.length + 1) =
          min (max (requested.toNat - (loop + 1)) 1) pool.length + 1 := by omega
      rw [length_cons,hn]
      refine ⟨hpool,by rw [hactual]; omega,fun i hi => ?_,fun i hi => ?_⟩
      · cases i with
        | zero => exact (hkept loop (.inl (Nat.lt_succ_self loop))).trans (update_self ..)
        | succ i =>
          rw [show loop + (i + 1) = loop + 1 + i by omega]
          exact hwritten i (Nat.lt_of_succ_lt_succ hi)
      · rw [hkept i (by omega),update_of_ne (by omega)]
    · have hn : min (max (requested.toNat - loop) 1) (pool.length + 1) = 1 := by omega
      rw [length_cons,hn]
      refine ⟨rfl,rfl,fun i hi => ?_,fun i hi => update_of_ne (by omega) ..⟩
      obtain rfl : i = 0 := by omega
      exact update_self ..

/-- **As many results as requested are taken** unless none is requested and there is one. -/
theorem collects_iff (requested : BitVec 32) (pool : List Entry) (results : ℕ → Option Result) :
  (sahGetResultsFromPool requested pool results).Takes pool results 0 (min requested.toNat pool.length) ↔
    requested ≠ 0#32 ∨ pool = [] := by
  have htakes : (sahGetResultsFromPool requested pool results).Takes pool results 0 _ := poolLoop_takes
  constructor
  · intro h
    by_contra hne
    obtain ⟨hzero,hpool⟩ := not_or.mp hne
    have hlen := length_pos_of_ne_nil hpool
    have hactual := h.actual.symm.trans htakes.actual
    rw [not_not.mp hzero] at hactual
    simp at hactual
    omega
  · intro h
    convert htakes using 1
    rcases h with h | rfl
    · have hpos : requested.toNat ≠ 0 := fun h0 => h (BitVec.eq_of_toNat_eq h0)
      omega
    · simp

/-- No result is requested, and one is taken and written. -/
theorem collects_unrequested :
  (sahGetResultsFromPool 0 [⟨1, 0, false, .failed, 0, 0, 0, .ok⟩] fun _ => none).actual = 1 ∧
  (sahGetResultsFromPool 0 [⟨1, 0, false, .failed, 0, 0, 0, .ok⟩] fun _ => none).results 0 = some ⟨.ok, 0, 0, 1⟩ := by
  decide

end Mx27.Sahara
