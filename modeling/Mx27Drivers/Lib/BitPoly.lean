/-
# Words as polynomials over the field of two elements
-/
import Mathlib

namespace BitPoly

open Polynomial Finset

noncomputable def toPoly {w : ℕ} (v : BitVec w) : (ZMod 2)[X] := ∑ i ∈ range w, if v.getLsbD i then X ^ i else 0

variable {w : ℕ}

lemma coeff_toPoly (v : BitVec w) (n : ℕ) : (toPoly v).coeff n = if v.getLsbD n then 1 else 0 := by
  have hterm : ∀ i, (if v.getLsbD i then X ^ i else 0 : (ZMod 2)[X]).coeff n = if n = i then if v.getLsbD n then 1 else 0 else 0 := by
    intro i
    split <;> split <;> simp_all [coeff_X_pow]
  rw [toPoly,finsetSum_coeff,sum_congr rfl fun i _ => hterm i,sum_ite_eq]
  split
  · rfl
  · next h => rw [BitVec.getLsbD_of_ge v n (by simpa using h),if_neg Bool.false_ne_true]

lemma toPoly_xor (a b : BitVec w) : toPoly (a ^^^ b) = toPoly a + toPoly b := by
  ext n
  rw [coeff_add,coeff_toPoly,coeff_toPoly,coeff_toPoly,BitVec.getLsbD_xor]
  cases a.getLsbD n <;> cases b.getLsbD n <;> decide

/-- The bits that a shift drops are the quotient by `X ^ w`. -/
lemma toPoly_shiftLeft {k m : ℕ} (h : k + m = w) (v : BitVec w) :
  X ^ k * toPoly v = toPoly (v <<< k) + X ^ w * toPoly ((v >>> m).setWidth k) := by
  ext n
  simp only [coeff_add,coeff_X_pow_mul',coeff_toPoly,BitVec.getLsbD_shiftLeft,BitVec.getLsbD_setWidth,BitVec.getLsbD_ushiftRight]
  by_cases hw : w ≤ n
  · rw [show m + (n - w) = n - k by omega]
    have := BitVec.getLsbD_of_ge v (n - k)
    grind
  · grind

lemma toPoly_setWidth {n : ℕ} (h : w ≤ n) (v : BitVec w) : toPoly (v.setWidth n) = toPoly v := by
  ext i
  rw [coeff_toPoly,coeff_toPoly,BitVec.getLsbD_setWidth]
  have := BitVec.getLsbD_of_ge v i
  grind

lemma degree_toPoly_lt (v : BitVec w) : (toPoly v).degree < w := by
  refine (degree_lt_iff_coeff_zero _ _).mpr fun n hn => ?_
  rw [coeff_toPoly,BitVec.getLsbD_of_ge v n hn,if_neg Bool.false_ne_true]

end BitPoly
