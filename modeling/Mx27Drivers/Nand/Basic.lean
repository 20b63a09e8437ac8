/-
# The NAND flash controller's page buffer

The data of `mxc_nd.c` that the buffer accessors work on.
-/
import Mx27Drivers.Lib.ByteMem

namespace Mx27.Nand

def MAIN_AREA0 : ℕ := 0x000
def MAIN_AREA1 : ℕ := 0x200
def SPARE_AREA0 : ℕ := 0x800

structure NandInfo where
  bSpareOnly : Bool
  bStatusRequest : Bool
  colAddr : BitVec 16
  deriving DecidableEq

structure MtdInfo where
  writesize : ℕ
  oobsize : ℕ
  size : ℕ
  pagesize : writesize = 512 ∨ writesize = 2048
  oobFits : oobsize ≤ 64

namespace MtdInfo

variable (mtd : MtdInfo)

def total : ℕ := mtd.writesize + mtd.oobsize

def addr (x : ℕ) : ℕ := if x < mtd.writesize then MAIN_AREA0 + x else SPARE_AREA0 - mtd.writesize + x

def page (ram : ℕ → BitVec 8) : ℕ → BitVec 8 := fun x => ram (mtd.addr x)

lemma writesize_le : mtd.writesize ≤ SPARE_AREA0 := by
  rcases mtd.pagesize with h | h <;> simp [h,SPARE_AREA0]

lemma writesize_mod_four : mtd.writesize % 4 = 0 := by
  rcases mtd.pagesize with h | h <;> simp [h]

lemma total_le : mtd.total ≤ 2112 := by
  have := mtd.oobFits
  rcases mtd.pagesize with h | h <;> simp only [total,h] <;> omega

lemma addr_injective : Function.Injective mtd.addr := by
  intro x y h
  have := mtd.writesize_le
  simp only [addr,MAIN_AREA0] at h
  split at h <;> split at h <;> omega

def OneArea (c n : ℕ) : Prop := mtd.writesize ≤ c ∨ c + n ≤ mtd.writesize

lemma addr_add {c n j : ℕ} (h : mtd.OneArea c n) (hj : j < n) : mtd.addr (c + j) = mtd.addr c + j := by
  simp only [addr,MAIN_AREA0]
  rcases h with h | h
  · rw [if_neg (by omega),if_neg (by omega),Nat.add_assoc]
  · rw [if_pos (by omega),if_pos (by omega),Nat.add_assoc]

lemma addr_mem_block {c n x : ℕ} (h : mtd.OneArea c n) (hx : mtd.addr c ≤ mtd.addr x)
  (hn : mtd.addr x < mtd.addr c + n) : c ≤ x ∧ x < c + n := by
  have he : mtd.addr (c + (mtd.addr x - mtd.addr c)) = mtd.addr x := by
    rw [mtd.addr_add h (by omega)]
    omega
  have := mtd.addr_injective he
  omega

end MtdInfo

structure Stores (mtd : MtdInfo) (ram ram' : ℕ → BitVec 8) (c : ℕ) (src : ℕ → BitVec 8) (s n : ℕ) : Prop where
  page : mtd.page ram' = ByteMem.copy (mtd.page ram) c src s n
  offPage : ∀ a, (∀ x, mtd.addr x ≠ a) → ram' a = ram a

namespace Stores

variable {mtd : MtdInfo} {ram ram₁ ram₂ src : ℕ → BitVec 8} {c s n m : ℕ}

lemma refl (mtd : MtdInfo) (ram : ℕ → BitVec 8) (c : ℕ) (src : ℕ → BitVec 8) (s : ℕ) :
  Stores mtd ram ram c src s 0 := ⟨(ByteMem.copy_zero ..).symm, fun _ _ => rfl⟩

lemma trans (h₁ : Stores mtd ram ram₁ c src s n) (h₂ : Stores mtd ram₁ ram₂ (c + n) src (s + n) m) :
  Stores mtd ram ram₂ c src s (n + m) where
  page := by rw [h₂.page,h₁.page,ByteMem.copy_copy]
  offPage := fun a ha => (h₂.offPage a ha).trans (h₁.offPage a ha)

lemma congr {src' : ℕ → BitVec 8} {c' s' m : ℕ} (h : Stores mtd ram ram₁ c src s n)
  (he : ByteMem.copy (mtd.page ram) c src s n = ByteMem.copy (mtd.page ram) c' src' s' m) :
  Stores mtd ram ram₁ c' src' s' m := ⟨h.page.trans he, h.offPage⟩

end Stores

lemma stores_copy {mtd : MtdInfo} {c n : ℕ} (h : mtd.OneArea c n) (ram src : ℕ → BitVec 8) (s : ℕ) :
  Stores mtd ram (ByteMem.copy ram (mtd.addr c) src s n) c src s n where
  page := by
    funext x
    by_cases hx : c ≤ x ∧ x < c + n
    · have ha : mtd.addr x = mtd.addr c + (x - c) := by
        rw [← mtd.addr_add h (by omega),Nat.add_sub_of_le hx.1]
      simp only [MtdInfo.page]
      rw [ha,ByteMem.copy_apply_add (by omega),ByteMem.copy,if_pos hx]
    · have ha : ¬ (mtd.addr c ≤ mtd.addr x ∧ mtd.addr x < mtd.addr c + n) :=
        fun hb => hx (mtd.addr_mem_block h hb.1 hb.2)
      rw [MtdInfo.page,ByteMem.copy_apply_of_lt (by omega),ByteMem.copy_apply_of_lt (by omega),MtdInfo.page]
  offPage := by
    intro a ha
    apply ByteMem.copy_apply_of_lt
    by_contra hb
    apply ha (c + (a - mtd.addr c))
    rw [mtd.addr_add h (by omega)]
    omega

lemma copy_addr {mtd : MtdInfo} {c n : ℕ} (h : mtd.OneArea c n) (ram dst : ℕ → BitVec 8) (d : ℕ) :
  ByteMem.copy dst d ram (mtd.addr c) n = ByteMem.copy dst d (mtd.page ram) c n :=
  ByteMem.copy_congr fun j hj => by rw [← mtd.addr_add h hj,MtdInfo.page]

end Mx27.Nand
