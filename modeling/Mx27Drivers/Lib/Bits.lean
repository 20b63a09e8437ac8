/-
# Fields of a register
-/
import Mathlib

namespace Bits

open List BitVec

variable {w : ℕ}

def ones (w len : ℕ) : BitVec w := BitVec.ofNat w (2 ^ len - 1)

lemma getLsbD_ones (len i : ℕ) : (ones w len).getLsbD i = (decide (i < w) && decide (i < len)) := by
  simp [ones,getLsbD_ofNat,Nat.testBit_two_pow_sub_one]

def fieldOf (v : BitVec w) (off len : ℕ) : BitVec w := (v >>> off) &&& ones w len

def putField (v : BitVec w) (off len : ℕ) (x : BitVec w) : BitVec w :=
  (v &&& ~~~(ones w len <<< off)) ||| (x <<< off)

variable {x v g m : BitVec w} {len i off : ℕ}

lemma getLsbD_of_lt_two_pow (hx : x.toNat < 2 ^ len) (hi : len ≤ i) :
  x.getLsbD i = false := by
  rw [← testBit_toNat]
  exact Nat.testBit_lt_two_pow (lt_of_lt_of_le hx (Nat.pow_le_pow_right (by norm_num) hi))

lemma getLsbD_fieldOf (v : BitVec w) (off len i : ℕ) :
  (fieldOf v off len).getLsbD i = (v.getLsbD (off + i) && (decide (i < w) && decide (i < len))) := by
  simp [fieldOf,getLsbD_ones,getLsbD_ushiftRight]

lemma getLsbD_putField (hx : x.toNat < 2 ^ len) (i : ℕ) (hi : i < w) :
  (putField v off len x).getLsbD i =
    if off ≤ i ∧ i < off + len then x.getLsbD (i - off) else v.getLsbD i := by
  simp only [putField,getLsbD_or,getLsbD_and,getLsbD_not,getLsbD_shiftLeft,
    getLsbD_ones,hi,decide_true,Bool.true_and]
  rcases Nat.lt_or_ge i off with h1 | h1
  · simp [h1,Nat.not_le.mpr h1]
  · rcases Nat.lt_or_ge i (off + len) with h2 | h2
    · simp [h1,h2,Nat.not_lt.mpr h1,show i - off < w by omega,show i - off < len by omega]
    · rw [getLsbD_of_lt_two_pow hx (show len ≤ i - off by omega)]
      simp [h1,Nat.not_lt.mpr h1,Nat.not_lt.mpr h2,show ¬ i - off < len by omega]

lemma fieldOf_putField (hx : x.toNat < 2 ^ len) (hw : off + len ≤ w) :
  fieldOf (putField v off len x) off len = x := by
  apply eq_of_getLsbD_eq
  intro i hi
  rw [getLsbD_fieldOf]
  by_cases h : i < len
  · rw [getLsbD_putField hx _ (by omega),if_pos ⟨by omega,by omega⟩]
    simp [hi,h]
  · rw [getLsbD_of_lt_two_pow hx (by omega)]
    simp [h]

lemma fieldOf_putField_of_disjoint {off' len' : ℕ} (hx : x.toNat < 2 ^ len)
  (hd : off + len ≤ off' ∨ off' + len' ≤ off) :
  fieldOf (putField v off len x) off' len' = fieldOf v off' len' := by
  apply eq_of_getLsbD_eq
  intro i hi
  rw [getLsbD_fieldOf,getLsbD_fieldOf]
  by_cases h : i < len'
  · by_cases hw : off' + i < w
    · rw [getLsbD_putField hx _ hw,if_neg (by omega)]
    · rw [getLsbD_of_ge _ _ (by omega),getLsbD_of_ge _ _ (by omega)]
  · simp [h]

lemma and_ushiftRight_eq_fieldOf (v : BitVec w) (hw : off + len ≤ w) :
  (v &&& (ones w len <<< off)) >>> off = fieldOf v off len := by
  apply eq_of_getLsbD_eq
  intro i hi
  simp only [getLsbD_fieldOf,getLsbD_ushiftRight,getLsbD_and,getLsbD_shiftLeft,
    getLsbD_ones]
  by_cases h : i < len
  · simp [h,hi,show off + i < w by omega]
  · simp [h]

/-! ### Masks -/

lemma getLsbD_of_disjoint (h : g &&& m = 0) (hi : m.getLsbD i = true) :
  g.getLsbD i = false := by
  have := congrArg (fun v => getLsbD v i) h
  simpa [hi] using this

lemma or_and_of_disjoint (h : g &&& m = 0) (v : BitVec w) : (v ||| g) &&& m = v &&& m := by
  apply eq_of_getLsbD_eq
  intro i _
  rw [getLsbD_and,getLsbD_and,getLsbD_or]
  cases hm : m.getLsbD i
  · simp
  · rw [getLsbD_of_disjoint h hm,Bool.or_false]

lemma clear_and_of_disjoint (h : g &&& m = 0) (v : BitVec w) :
  (v &&& ~~~g) &&& m = v &&& m := by
  apply eq_of_getLsbD_eq
  intro i hi
  rw [getLsbD_and,getLsbD_and,getLsbD_and,getLsbD_not]
  cases hm : m.getLsbD i
  · simp
  · rw [getLsbD_of_disjoint h hm]
    simp [hi]

def Covers (v g : BitVec w) : Prop := v &&& g = g

instance (v g : BitVec w) : Decidable (Covers v g) := inferInstanceAs (Decidable (_ = _))

lemma covers_iff : Covers v g ↔ ∀ i, g.getLsbD i = true → v.getLsbD i = true := by
  constructor
  · intro h i hi
    have := congrArg (fun b => getLsbD b i) h
    simp only [getLsbD_and,hi,Bool.and_true] at this
    exact this
  · intro h
    apply eq_of_getLsbD_eq
    intro i _
    simp only [getLsbD_and]
    cases hg : g.getLsbD i
    · simp
    · simp [h i hg]

lemma Covers.or (h : Covers v g) (x : BitVec w) : Covers (v ||| x) g := by
  rw [covers_iff] at h ⊢
  intro i hi
  simp [h i hi]

lemma covers_or_self (v g : BitVec w) : Covers (v ||| g) g := by
  rw [covers_iff]
  intro i hi
  simp [hi]

lemma Covers.clear (h : Covers v g) (hd : g &&& x = 0) : Covers (v &&& ~~~x) g := by
  rw [covers_iff] at h ⊢
  intro i hi
  have hx : x.getLsbD i = false := getLsbD_of_disjoint (by rwa [BitVec.and_comm]) hi
  have hw : i < w := by
    by_contra hn
    rw [getLsbD_of_ge _ _ (by omega)] at hi
    cases hi
  rw [getLsbD_and,getLsbD_not,h i hi,hx]
  simp [hw]

lemma Covers.of_clear (h : Covers (v &&& ~~~x) g) : Covers v g := by
  rw [covers_iff] at h ⊢
  intro i hi
  have := h i hi
  rw [getLsbD_and,Bool.and_eq_true] at this
  exact this.1

lemma not_covers_clear (hg : g ≠ 0) : ¬ Covers (v &&& ~~~g) g := by
  intro h
  apply hg
  calc g = (v &&& ~~~g) &&& g := h.symm
    _ = v &&& (~~~g &&& g) := BitVec.and_assoc ..
    _ = 0 := by simp

def hits (v g : BitVec w) : Bool := v &&& g != 0

lemma hits_or_of_disjoint (h : x &&& g = 0) (v : BitVec w) : hits (v ||| x) g = hits v g := by
  rw [hits,or_and_of_disjoint h,hits]

lemma hits_clear_of_disjoint (h : x &&& g = 0) (v : BitVec w) :
  hits (v &&& ~~~x) g = hits v g := by
  rw [hits,clear_and_of_disjoint h,hits]

lemma hits_clear_self (v g : BitVec w) : hits (v &&& ~~~g) g = false := by
  rw [hits,BitVec.and_assoc]
  simp

lemma hits_or_self (v : BitVec w) (hg : g ≠ 0) : hits (v ||| g) g = true := by
  rw [hits,covers_or_self v g]
  simpa using hg

lemma hits_or_mask (v a b : BitVec w) : hits v (a ||| b) = (hits v a || hits v b) := by
  have hsplit : v &&& (a ||| b) = (v &&& a) ||| (v &&& b) := by
    apply eq_of_getLsbD_eq
    intro i _
    simp only [getLsbD_and,getLsbD_or,Bool.and_or_distrib_left]
  rw [Bool.eq_iff_iff,Bool.or_eq_true]
  simp only [hits,hsplit,bne_iff_ne,ne_eq]
  rw [← not_and_or]
  exact not_congr or_eq_zero_iff

lemma and_and_eq_zero (h : x &&& g = 0) (v : BitVec w) : (v &&& x) &&& g = 0 := by
  rw [BitVec.and_assoc,h]
  simp

def disjointMasks : BitVec w → List (BitVec w) → Bool
  | _, [] => true
  | seen, m :: l => seen &&& m == 0 && disjointMasks (seen ||| m) l

lemma and_eq_zero_of_or {a b : BitVec w} (h : (a ||| b) &&& m = 0) : a &&& m = 0 ∧ b &&& m = 0 := by
  constructor
  · apply eq_of_getLsbD_eq
    intro i _
    have := congrArg (fun v => getLsbD v i) h
    simp only [getLsbD_and,getLsbD_or] at this ⊢
    cases ha : a.getLsbD i <;> simp_all
  · apply eq_of_getLsbD_eq
    intro i _
    have := congrArg (fun v => getLsbD v i) h
    simp only [getLsbD_and,getLsbD_or] at this ⊢
    cases hb : b.getLsbD i <;> simp_all

lemma disjointMasks_sound : ∀ (l : List (BitVec w)) (seen : BitVec w), disjointMasks seen l = true →
  (∀ m ∈ l, seen &&& m = 0) ∧ l.Pairwise fun a b => a &&& b = 0
  | [], _, _ => ⟨by simp, List.Pairwise.nil⟩
  | m :: l, seen, h => by
    simp only [disjointMasks,Bool.and_eq_true,beq_iff_eq] at h
    obtain ⟨h1,h2⟩ := disjointMasks_sound l _ h.2
    refine ⟨fun a ha => ?_,pairwise_cons.mpr ⟨fun a ha => (and_eq_zero_of_or (h1 a ha)).2,h2⟩⟩
    rcases mem_cons.mp ha with rfl | ha
    · exact h.1
    · exact (and_eq_zero_of_or (h1 a ha)).1

end Bits
