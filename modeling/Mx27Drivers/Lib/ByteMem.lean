/-
# A memory of bytes

A memory is a function from places to bytes.
-/
import Mx27Drivers.Lib.Bits

namespace ByteMem

open Function BitVec

section
variable {β : Type}

def copy (dst : ℕ → β) (d : ℕ) (src : ℕ → β) (s n : ℕ) : ℕ → β :=
  fun x => if d ≤ x ∧ x < d + n then src (s + (x - d)) else dst x

@[simp] lemma copy_zero (dst : ℕ → β) (d : ℕ) (src : ℕ → β) (s : ℕ) : copy dst d src s 0 = dst := by
  funext x
  simp only [copy,Nat.add_zero]
  exact if_neg (by omega)

lemma copy_copy (dst : ℕ → β) (d : ℕ) (src : ℕ → β) (s n m : ℕ) :
  copy (copy dst d src s n) (d + n) src (s + n) m = copy dst d src s (n + m) := by
  funext x
  simp only [copy]
  by_cases h : d + n ≤ x ∧ x < d + n + m
  · rw [if_pos h,if_pos ⟨by omega,by omega⟩]
    congr 1
    omega
  · rw [if_neg h]
    by_cases h' : d ≤ x ∧ x < d + n
    · rw [if_pos h',if_pos ⟨h'.1,by omega⟩]
    · rw [if_neg h',if_neg (by omega)]

lemma update_eq_copy (dst : ℕ → β) (d : ℕ) (src : ℕ → β) (s : ℕ) :
  Function.update dst d (src s) = copy dst d src s 1 := by
  funext x
  by_cases h : x = d
  · subst h
    simp [copy]
  · rw [update_of_ne h,copy,if_neg (by omega)]

lemma copy_congr {dst src src' : ℕ → β} {d s s' n : ℕ} (h : ∀ j < n, src (s + j) = src' (s' + j)) :
  copy dst d src s n = copy dst d src' s' n := by
  funext x
  simp only [copy]
  split
  · exact h _ (by omega)
  · rfl

variable {dst src : ℕ → β}

lemma copy_apply_add {d s n j : ℕ} (h : j < n) : copy dst d src s n (d + j) = src (s + j) := by
  rw [copy,if_pos ⟨by omega,by omega⟩,Nat.add_sub_cancel_left]

lemma copy_apply_lt {s n j : ℕ} (h : j < n) : copy dst 0 src s n j = src (s + j) :=
  if_pos ⟨Nat.zero_le j, by omega⟩

lemma copy_apply_of_lt {d s n x : ℕ} (h : x < d ∨ d + n ≤ x) : copy dst d src s n x = dst x :=
  if_neg (by omega)

end

/-! ### Words -/

def byteOf (v : BitVec 32) (k : ℕ) : BitVec 8 := (v >>> (8 * k)).setWidth 8

def putByte (v : BitVec 32) (k : ℕ) (b : BitVec 8) : BitVec 32 := Bits.putField v (8 * k) 8 (b.setWidth 32)

def loadWord (m : ℕ → BitVec 8) (a : ℕ) : BitVec 32 := m (a + 3) ++ m (a + 2) ++ m (a + 1) ++ m a

def storeWord (m : ℕ → BitVec 8) (a : ℕ) (v : BitVec 32) : ℕ → BitVec 8 := copy m a (byteOf v) 0 4

def loadHalf (m : ℕ → BitVec 8) (a : ℕ) : BitVec 16 := m (a + 1) ++ m a

def storeHalf (m : ℕ → BitVec 8) (a : ℕ) (v : BitVec 16) : ℕ → BitVec 8 :=
  copy m a (fun k => (v >>> (8 * k)).setWidth 8) 0 2

def flipBit (m : ℕ → BitVec 8) (p : ℕ) : ℕ → BitVec 8 :=
  Function.update m (p / 8) (m (p / 8) ^^^ (1#8 <<< (p % 8)))

lemma getLsbD_byteOf (v : BitVec 32) (k : ℕ) {i : ℕ} (hi : i < 8) :
  (byteOf v k).getLsbD i = v.getLsbD (8 * k + i) := by
  simp [byteOf,getLsbD_ushiftRight,hi]

lemma byteOf_putByte (v : BitVec 32) (b : BitVec 8) {j k : ℕ} (hj : j < 4) :
  byteOf (putByte v k b) j = if j = k then b else byteOf v j := by
  have hb : (b.setWidth 32).toNat < 2 ^ 8 := by
    rw [toNat_setWidth]
    exact lt_of_le_of_lt (Nat.mod_le ..) b.isLt
  apply eq_of_getLsbD_eq
  intro i hi
  rw [getLsbD_byteOf _ _ hi,putByte,Bits.getLsbD_putField hb _ (by omega)]
  split
  · next h =>
    have hjk : j = k := by omega
    subst hjk
    simp [show i < 32 by omega]
  · next h => rw [if_neg (by omega),getLsbD_byteOf _ _ hi]

lemma byteOf_loadWord (m : ℕ → BitVec 8) (a : ℕ) {k : ℕ} (hk : k < 4) : byteOf (loadWord m a) k = m (a + k) := by
  apply eq_of_getLsbD_eq
  intro i hi
  rw [getLsbD_byteOf _ _ hi,loadWord]
  simp only [getLsbD_append]
  rcases (by omega : k = 0 ∨ k = 1 ∨ k = 2 ∨ k = 3) with rfl | rfl | rfl | rfl
  · simp [hi]
  · simp [hi,show ¬ 8 + i < 8 by omega,show 8 + i - 8 = i by omega]
  · simp [hi,show ¬ 16 + i < 8 by omega,show ¬ 16 + i - 8 < 8 by omega,show 16 + i - 8 - 8 = i by omega]
  · simp [hi,show ¬ 24 + i < 8 by omega,show ¬ 24 + i - 8 < 8 by omega,show ¬ 24 + i - 8 - 8 < 8 by omega,
      show 24 + i - 8 - 8 - 8 = i by omega]

lemma loadHalf_low (m : ℕ → BitVec 8) (a : ℕ) : (loadHalf m a &&& 0xFF).setWidth 8 = m a := by
  apply eq_of_getLsbD_eq
  intro i hi
  have hff : (0xFF : BitVec 16).getLsbD i = true := by
    interval_cases i <;> rfl
  simp only [loadHalf,getLsbD_setWidth,getLsbD_and,getLsbD_append,hff,hi,decide_true,
    if_true,Bool.and_true,Bool.true_and]

lemma loadHalf_high (m : ℕ → BitVec 8) (a : ℕ) : ((loadHalf m a >>> 8) &&& 0xFF).setWidth 8 = m (a + 1) := by
  apply eq_of_getLsbD_eq
  intro i hi
  have hff : (0xFF : BitVec 16).getLsbD i = true := by
    interval_cases i <;> rfl
  simp only [loadHalf,getLsbD_setWidth,getLsbD_and,getLsbD_ushiftRight,
    getLsbD_append,hff,hi,show ¬ 8 + i < 8 by omega,Nat.add_sub_cancel_left,decide_true,if_false,
    Bool.and_true,Bool.true_and]

lemma loadHalf_odd (m : ℕ → BitVec 8) (a : ℕ) :
  ((loadHalf m a >>> 8) &&& 0xff#16) ||| ((loadHalf m (a + 2) <<< 8) &&& 0xff00#16) = loadHalf m (a + 1) := by
  apply eq_of_getLsbD_eq
  intro i hi
  rw [show 0xff#16 = Bits.ones 16 8 from rfl,show 0xff00#16 = Bits.ones 16 8 <<< 8 from rfl]
  simp only [loadHalf,getLsbD_or,getLsbD_and,getLsbD_ushiftRight,getLsbD_shiftLeft,
    getLsbD_append,Bits.getLsbD_ones,hi,decide_true,Bool.true_and]
  by_cases h : i < 8
  · simp [h,show ¬ 8 + i < 8 by omega]
  · simp [h,show ¬ 8 + i < 8 by omega,show i - 8 < 8 by omega,show i - 8 < 16 by omega]

lemma loadHalf_byte (m : ℕ → BitVec 8) (a : ℕ) {k : ℕ} (hk : k < 2) :
  (loadHalf m a >>> (8 * k)).setWidth 8 = m (a + k) := by
  apply eq_of_getLsbD_eq
  intro i hi
  simp only [loadHalf,getLsbD_setWidth,getLsbD_ushiftRight,getLsbD_append,hi,decide_true,
    Bool.true_and]
  rcases (by omega : k = 0 ∨ k = 1) with rfl | rfl
  · simp [hi]
  · simp [show ¬ 8 + i < 8 by omega]

lemma storeHalf_flip (m : ℕ → BitVec 8) (a : ℕ) {b : ℕ} (hb : b < 16) :
  storeHalf m a (loadHalf m a ^^^ (1#16 <<< b)) = flipBit m (8 * a + b) := by
  have hbit : ∀ (b : Fin 16) (k : Fin 2), ((1#16 <<< b.val) >>> (8 * k.val)).setWidth 8 =
      if b.val / 8 = k.val then 1#8 <<< (b.val % 8) else 0#8 := by decide
  have hq : (8 * a + b) / 8 = a + b / 8 := by omega
  have hr : (8 * a + b) % 8 = b % 8 := by omega
  funext x
  rw [storeHalf,flipBit,hq,hr]
  by_cases hx : a ≤ x ∧ x < a + 2
  · obtain ⟨k,rfl⟩ := Nat.exists_eq_add_of_le hx.1
    have hk : k < 2 := by omega
    rw [copy_apply_add hk,Nat.zero_add,ushiftRight_xor_distrib,setWidth_xor,loadHalf_byte _ _ hk,
      hbit ⟨b,hb⟩ ⟨k,hk⟩]
    by_cases he : b / 8 = k
    · rw [if_pos he,he,update_self]
    · rw [if_neg he,update_of_ne (by omega),xor_zero]
  · rw [copy_apply_of_lt (by omega),update_of_ne (by omega)]

lemma flipBit_flipBit (m : ℕ → BitVec 8) (p : ℕ) : flipBit (flipBit m p) p = m := by
  rw [flipBit,flipBit,update_self,update_idem,xor_assoc,BitVec.xor_self,
    xor_zero,update_eq_self]

end ByteMem
