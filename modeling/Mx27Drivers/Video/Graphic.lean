/-
# The graphic window
-/
import Mx27Drivers.Video.Framebuffer

namespace Mx27.Video

structure GwInfo where
  xpos : BitVec 32
  ypos : BitVec 32
  xres : BitVec 32
  yres : BitVec 32

/-- The fields of the size register, with the width in units of 16 pixels, and of the position register. -/
structure GwRegs where
  width : BitVec 32
  height : BitVec 32
  x : BitVec 32
  y : BitVec 32

/-- `LCDC_LSR`: the size of the background. -/
def widthBg (lsr : BitVec 32) : BitVec 32 := (lsr &&& 0x03F00000) >>> 16

def heightBg (lsr : BitVec 32) : BitVec 32 := lsr &&& 0x000003FF

def cut (res bg : BitVec 32) : BitVec 32 := if res > bg then bg else res

/-- The comparison is that of `int`s. -/
def moved (pos size bg : BitVec 32) : BitVec 32 := if bg.slt (pos + size) then bg - size else pos

/-- `mx2_gw_set` for a window that is enabled. -/
def mx2GwSet (g : GwInfo) (lsr : BitVec 32) : GwRegs :=
  let width := cut g.xres (widthBg lsr)
  let height := cut g.yres (heightBg lsr)
  ⟨width >>> 4, height, moved g.xpos width (widthBg lsr) &&& 0x000003FF, moved g.ypos height (heightBg lsr) &&& 0x000003FF⟩

/-- `_enable_graphic_window`: the size is that of the overlay. -/
def enableGraphicWindow (g : GwInfo) (var : Var) (lsr : BitVec 32) : GwRegs :=
  mx2GwSet { g with xres := var.xres, yres := var.yres } lsr

def GwRegs.Inside (r : GwRegs) (lsr : BitVec 32) : Prop :=
  r.x.toNat + 16 * r.width.toNat ≤ (widthBg lsr).toNat ∧ r.y.toNat + r.height.toNat ≤ (heightBg lsr).toNat

/-- The position is not negative and its sum with the size does not overflow, or its lowest ten bits happen to fit. -/
def Placed (pos size : BitVec 32) (written bg : ℕ) : Prop :=
  pos.toNat + size.toNat < 2 ^ 31 ∨ pos.toNat % 1024 + written ≤ bg

lemma toNat_and_field (v : BitVec 32) : (v &&& 0x000003FF).toNat = v.toNat % 1024 := by
  rw [BitVec.toNat_and]
  exact Nat.and_two_pow_sub_one_eq_mod _ 10

lemma moved_inside_iff {pos size bg : BitVec 32} {written : ℕ} (hsize : size.toNat ≤ bg.toNat) (hbg : bg.toNat < 1024)
  (hw : written ≤ size.toNat) :
  (moved pos size bg &&& 0x000003FF).toNat + written ≤ bg.toNat ↔ Placed pos size written bg.toNat := by
  have hpos := pos.isLt
  have htest : bg.slt (pos + size) = true ↔ _ := BitVec.slt_iff_toInt_lt
  rw [BitVec.toInt_eq_toNat_cond,BitVec.toInt_eq_toNat_cond,BitVec.toNat_add] at htest
  rw [toNat_and_field,moved,Placed]
  split
  next h =>
    have := htest.mp h
    rw [BitVec.toNat_sub_of_le (BitVec.le_def.mpr hsize)]
    omega
  next h =>
    have := mt htest.mpr h
    omega

lemma toNat_cut_le (res bg : BitVec 32) : (cut res bg).toNat ≤ bg.toNat := by
  unfold cut
  split
  · exact le_rfl
  · exact BitVec.le_def.mp (BitVec.not_lt.mp ‹_›)

lemma toNat_widthBg_lt (lsr : BitVec 32) : (widthBg lsr).toNat < 1024 := by
  rw [widthBg,BitVec.toNat_ushiftRight,BitVec.toNat_and,Nat.shiftRight_eq_div_pow]
  exact (Nat.div_le_div_right Nat.and_le_right).trans_lt (by decide)

/-- **When the graphic window is inside the background.** -/
theorem gw_inside_iff (g : GwInfo) (var : Var) (lsr : BitVec 32) : (enableGraphicWindow g var lsr).Inside lsr ↔
  Placed g.xpos (cut var.xres (widthBg lsr)) (16 * ((cut var.xres (widthBg lsr)).toNat / 16)) (widthBg lsr).toNat ∧
    Placed g.ypos (cut var.yres (heightBg lsr)) (cut var.yres (heightBg lsr)).toNat (heightBg lsr).toNat := by
  have hheight : (heightBg lsr).toNat < 1024 := by
    rw [heightBg,toNat_and_field]
    exact Nat.mod_lt _ (by decide)
  refine and_congr ?_ (moved_inside_iff (toNat_cut_le ..) hheight le_rfl)
  show _ + 16 * (cut var.xres (widthBg lsr) >>> 4).toNat ≤ _ ↔ _
  rw [BitVec.toNat_ushiftRight,Nat.shiftRight_eq_div_pow]
  exact moved_inside_iff (toNat_cut_le ..) (toNat_widthBg_lt lsr) (Nat.mul_div_le ..)

/-- A window at -1 on a background of 240 by 320 is placed at 1023. -/
theorem gw_outside : (enableGraphicWindow ⟨-1, 0, 0, 0⟩ ⟨64, 64, 64, 64, 0, 0, 16⟩ 0x00F00140).x = 1023 ∧
  ¬ (enableGraphicWindow ⟨-1, 0, 0, 0⟩ ⟨64, 64, 64, 64, 0, 0, 16⟩ 0x00F00140).Inside 0x00F00140 :=
  ⟨by decide, fun h => absurd h.1 (by decide)⟩

end Mx27.Video
