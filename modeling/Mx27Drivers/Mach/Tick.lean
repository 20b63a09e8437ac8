/-
# The OS tick
-/
import Mathlib

namespace Mx27.Mach

/-- The loop of `mxc_timer_interrupt`: the calls of `timer_tick` and the compare register afterwards, while the counter
stays `tcn`. -/
def mxcTimerInterrupt (latch tcn : BitVec 32) : ℕ → BitVec 32 → Option (ℕ × BitVec 32)
  | 0, _ => none
  | fuel + 1, tcmp =>
    let next_match := tcmp + latch
    if (next_match - tcn).toInt ≤ 0 then (mxcTimerInterrupt latch tcn fuel next_match).map fun r => (r.1 + 1, r.2)
    else some (1, next_match)

variable {latch tcn : BitVec 32}

/-- What the loop tests, by the distance `tcn - tcmp` before the tick. -/
lemma next_match_toInt {tcmp : BitVec 32} (hlatch : latch.toNat < 2 ^ 30) (h : (tcn - tcmp).toNat < 2 ^ 31 - latch.toNat) :
  (tcmp + latch - tcn).toInt = latch.toNat - (tcn - tcmp).toNat := by
  have hsub : tcmp + latch - tcn = latch - (tcn - tcmp) := by ring
  rw [hsub]
  generalize tcn - tcmp = e at h
  have := e.isLt
  rw [BitVec.toInt_eq_toNat_cond,BitVec.toNat_sub]
  omega

lemma mxcTimerInterrupt_eq (hlatch : 0 < latch.toNat ∧ latch.toNat < 2 ^ 30) : ∀ {n fuel : ℕ} {tcmp : BitVec 32},
  (tcn - tcmp).toNat < 2 ^ 31 - latch.toNat → (tcn - tcmp).toNat / latch.toNat = n → n < fuel →
  mxcTimerInterrupt latch tcn fuel tcmp = some (n + 1, tcmp + BitVec.ofNat 32 (n + 1) * latch) ∧
    0 < (tcmp + BitVec.ofNat 32 (n + 1) * latch - tcn).toInt
  | n, 0, _, _, _, hf => absurd hf (Nat.not_lt_zero n)
  | n, fuel + 1, tcmp, h, hn, hf => by
    have htest := next_match_toInt hlatch.2 h
    rw [mxcTimerInterrupt]
    cases n with
    | zero =>
      have hlt := Nat.lt_of_div_eq_zero hlatch.1 hn
      rw [if_neg (by omega),Nat.zero_add,BitVec.one_mul]
      exact ⟨rfl,by omega⟩
    | succ n =>
      have hle : latch.toNat ≤ (tcn - tcmp).toNat := by
        by_contra hlt
        rw [Nat.div_eq_of_lt (by omega)] at hn
        omega
      have hnext : (tcn - (tcmp + latch)).toNat = (tcn - tcmp).toNat - latch.toNat := by
        rw [← BitVec.sub_sub,BitVec.toNat_sub_of_le (BitVec.le_def.mpr hle)]
      have hdiv := Nat.div_eq_sub_div hlatch.1 hle
      rw [← hnext,hn] at hdiv
      obtain ⟨hrun,hahead⟩ := mxcTimerInterrupt_eq hlatch (n := n) (by omega) (Nat.succ.inj hdiv.symm) (Nat.lt_of_succ_lt_succ hf)
      have hmul : tcmp + latch + BitVec.ofNat 32 (n + 1) * latch = tcmp + BitVec.ofNat 32 (n + 1 + 1) * latch := by
        rw [BitVec.ofNat_add (n + 1),BitVec.add_mul,BitVec.one_mul]
        ring
      rw [if_pos (by omega),hrun,hmul]
      exact ⟨rfl,hmul ▸ hahead⟩

/-- **The tick does not drift**: one tick for each period that has passed, and the next match is ahead of the counter. -/
theorem tick_catches_up {tcmp : BitVec 32} (hlatch : 0 < latch.toNat ∧ latch.toNat < 2 ^ 30)
  (h : (tcn - tcmp).toNat < 2 ^ 31 - latch.toNat) :
  (∀ fuel > (tcn - tcmp).toNat / latch.toNat, mxcTimerInterrupt latch tcn fuel tcmp =
      some ((tcn - tcmp).toNat / latch.toNat + 1, tcmp + BitVec.ofNat 32 ((tcn - tcmp).toNat / latch.toNat + 1) * latch)) ∧
    0 < (tcmp + BitVec.ofNat 32 ((tcn - tcmp).toNat / latch.toNat + 1) * latch - tcn).toInt :=
  ⟨fun _ hf => (mxcTimerInterrupt_eq hlatch h rfl hf).1, (mxcTimerInterrupt_eq hlatch h rfl (Nat.lt_succ_self _)).2⟩

/-- The counter has wrapped and three periods have passed. -/
theorem tick_catches_up_wrap : mxcTimerInterrupt 100 50 5 (-200) = some (3, 100) :=
  (@tick_catches_up 100 50 (-200) (by decide) (by decide)).1 5 (by decide)

end Mx27.Mach
