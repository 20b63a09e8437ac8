/-
# Crop and viewfinder windows

`VIDIOC_S_CROP` and `verify_preview` clamp a rectangle to the sensor and to the screen.
-/
import Mathlib

namespace Mx27.Capture

open BitVec

/-! ### Cropping -/

inductive BufType
  | capture
  | overlay
  | other
  deriving DecidableEq

structure Rect where
  left : ℤ
  top : ℤ
  width : ℤ
  height : ℤ
  deriving DecidableEq

def EINVAL : ℤ := 22

def clampStart (start lo size : ℤ) : ℤ :=
  let start := if start < lo then lo else start
  if start > lo + size then lo + size - 1 else start

def clampSize (want room : ℤ) : ℤ := if want > room then room else want

/-- The left edge that leaves a multiple of 32 to the right, for the spare space `i` modulo 32. -/
def tuneLeft (b : Rect) (left width i : ℤ) : Option ℤ :=
  if i ≤ 16 then
    if left + width + i ≤ b.left + b.width then some (left + i)
    else if left - (32 - i) ≥ b.left then some (left - (32 - i)) else none
  else if left - (32 - i) ≥ b.left then some (left - (32 - i))
  else if left + width + i ≤ b.left + b.width then some (left + i) else none

/-- `VIDIOC_S_CROP`: the return value, the rectangle for the caller and `crop_current`. -/
def vidiocSCrop (type : BufType) (minor : ℕ) (b c current : Rect) : ℤ × Rect × Rect :=
  if type = .other then (-EINVAL, c, current)
  else if minor ≠ 0 then
    let height := clampSize c.height b.height
    let width := clampSize c.width b.width
    (0, ⟨(b.width - width) / 2, (b.height - height) / 2, width, height⟩, current)
  else
    let top := clampStart c.top b.top b.height
    let height := clampSize c.height (b.top + b.height - top)
    let left := clampStart c.left b.left b.width
    let width := clampSize c.width (b.left - left + b.width)
    let width := width - width % 2
    match tuneLeft b left width ((b.left + b.width - (left + width)) % 32) with
    | none => (-EINVAL, ⟨left, top, width, height⟩, current)
    | some left => (0, ⟨left, top, width, height⟩, ⟨left, top, width, height⟩)

structure Rect.Fits (r b : Rect) : Prop where
  width : 0 < r.width ∧ r.width % 2 = 0
  height : 0 < r.height
  left : b.left ≤ r.left
  right : r.left + r.width ≤ b.left + b.width
  top : b.top ≤ r.top
  bottom : r.top + r.height ≤ b.top + b.height
  spare : (b.left + b.width - (r.left + r.width)) % 32 = 0

/-- Where one dimension of the rectangle starts, and what is left of its size. -/
lemma clamp_spec (start lo : ℤ) {size want : ℤ} (hs : 0 < size) (hw : 0 < want) :
  lo ≤ clampStart start lo size ∧
    clampStart start lo size + clampSize want (lo + size - clampStart start lo size) ≤ lo + size ∧
    0 ≤ clampSize want (lo + size - clampStart start lo size) ∧
    (0 < clampSize want (lo + size - clampStart start lo size) ↔ ¬start = lo + size) ∧
    (2 ≤ clampSize want (lo + size - clampStart start lo size) ↔ 2 ≤ min want (lo + size - max start lo)) := by
  unfold clampSize clampStart
  dsimp only
  split_ifs <;> omega

lemma tuneLeft_spec {b : Rect} {left s : ℤ} (width : ℤ) (hl : b.left ≤ left) (hs : s = b.left + b.width - (left + width))
  (h0 : 0 ≤ s) : ∃ x, tuneLeft b left width (s % 32) = some x ∧ b.left ≤ x ∧ x + width ≤ b.left + b.width ∧
    (b.left + b.width - (x + width)) % 32 = 0 := by
  unfold tuneLeft
  split_ifs <;> first | exact ⟨_,rfl,by omega,by omega,by omega⟩ | omega

/-- **A crop rectangle fits the sensor** unless less than two columns are left of it, or it starts at the lower edge. -/
theorem crop_fits_iff (type : BufType) {b c : Rect} (current : Rect) (hb : 0 < b.width ∧ b.width % 2 = 0 ∧ 0 < b.height)
  (hc : 0 < c.width ∧ 0 < c.height) :
  ((vidiocSCrop type 0 b c current).1 ≠ 0 ∧ (vidiocSCrop type 0 b c current).2.2 = current ∨
    (vidiocSCrop type 0 b c current).1 = 0 ∧ (vidiocSCrop type 0 b c current).2.2.Fits b) ↔
  type = .other ∨ 2 ≤ min c.width (b.left + b.width - max c.left b.left) ∧ c.top ≠ b.top + b.height := by
  unfold vidiocSCrop
  by_cases htype : type = .other
  · simp [htype,EINVAL]
  obtain ⟨ht,hbottom,-,hheight,-⟩ := clamp_spec c.top b.top hb.2.2 hc.2
  obtain ⟨hl,hright,hwide0,-,hwide⟩ := clamp_spec c.left b.left hb.1 hc.1
  simp only [htype,if_false,not_true,ne_eq,false_or]
  rw [show b.left - clampStart c.left b.left b.width + b.width = b.left + b.width - clampStart c.left b.left b.width by ring,← hwide,
    ← hheight]
  generalize clampStart c.top b.top b.height = top at *
  generalize clampStart c.left b.left b.width = left at *
  generalize clampSize c.height (b.top + b.height - top) = height at *
  generalize clampSize c.width (b.left + b.width - left) = wide at *
  obtain ⟨x,hx,hx1,hx2,hx3⟩ := tuneLeft_spec (wide - wide % 2) hl rfl (by omega)
  rw [hx]
  constructor
  · rintro (⟨h,-⟩ | ⟨-,hfits⟩)
    · exact absurd rfl h
    · have h1 : 0 < wide - wide % 2 := hfits.width.1
      exact ⟨by omega,hfits.height⟩
  · rintro ⟨h1,h2⟩
    exact .inr ⟨rfl,⟨show 0 < wide - wide % 2 by omega,show (wide - wide % 2) % 2 = 0 by omega⟩,h2,hx1,hx2,ht,hbottom,hx3⟩

theorem crop_fits_left : ((vidiocSCrop .capture 0 ⟨0, 0, 640, 480⟩ ⟨-5, 7, 100, 50⟩ ⟨0, 0, 640, 480⟩).2.2).Fits ⟨0, 0, 640, 480⟩ := by
  rcases (crop_fits_iff .capture (b := ⟨0,0,640,480⟩) (c := ⟨-5,7,100,50⟩) ⟨0,0,640,480⟩ (by decide)
    (by decide)).mpr (.inr (by decide)) with ⟨h,-⟩ | ⟨-,h⟩
  · exact absurd rfl h
  · exact h

/-- The rectangle starts at the lower edge of the sensor. -/
theorem crop_collapses : vidiocSCrop .capture 0 ⟨0, 0, 640, 480⟩ ⟨0, 480, 640, 480⟩ ⟨0, 0, 640, 480⟩ =
  (0, ⟨0, 480, 640, 0⟩, ⟨0, 480, 640, 0⟩) := by decide

/-! ### The viewfinder -/

/-- `V4L2_MXC_ROTATE_*` -/
inductive Rotation
  | none
  | vertFlip
  | horizFlip
  | half
  | right
  | rightVflip
  | rightHflip
  | left
  deriving DecidableEq

def Rotation.turned : Rotation → Bool
  | .right | .rightVflip | .rightHflip | .left => true
  | _ => false

structure FbInfo where
  smemStart : BitVec 32
  smemLen : BitVec 32
  xres : BitVec 32
  yres : BitVec 32
  xresVirtual : BitVec 32
  bitsPerPixel : BitVec 32

/-- `bits_per_pixel >> 3` -/
def FbInfo.bytes (fb : FbInfo) : BitVec 32 := fb.bitsPerPixel >>> 3

/-- `v4l2_window`; the numbers are signed. -/
structure Window where
  left : BitVec 32
  top : BitVec 32
  width : BitVec 32
  height : BitVec 32
  deriving DecidableEq

/-- The sum and the resolution are compared as unsigned numbers. -/
def clampWindow (start size res : BitVec 32) : BitVec 32 := if size + start > res then res - start else size

/-- `verify_preview` with the frame buffer of `cam->output`, if it is registered. -/
def verifyPreview (fb : Option FbInfo) (rotation : Rotation) (win : Window) : Option (FbInfo × Window) :=
  fb.map fun fb =>
    let left := win.left &&& ~~~1#32
    let width := clampWindow left win.width fb.xres
    let height := clampWindow win.top win.height fb.yres
    (fb, if rotation.turned then ⟨left, win.top, width, height &&& ~~~1#32⟩ else ⟨left, win.top, width &&& ~~~1#32, height⟩)

structure Ch1 where
  ptr : BitVec 32
  ptr2 : BitVec 32
  stride : BitVec 32

/-- `set_ch1_addr`: `overlay` is `V4L2_FBUF_FLAG_OVERLAY`, `mapped` whether `ioremap_cached` succeeds. -/
def setCh1Addr (rotation : Rotation) (overlay mapped : Bool) (rotVfBufs vfBufs : BitVec 32 × BitVec 32) (fb : Option FbInfo)
  (win : Window) : Option Ch1 :=
  if rotation ≠ .none then
    if overlay = false ∧ (fb.isNone ∨ mapped = false) then none
    else some ⟨rotVfBufs.1, rotVfBufs.2, if rotation.turned then win.height else win.width⟩
  else if overlay then some ⟨vfBufs.1, vfBufs.2, win.width⟩
  else fb.map fun fb =>
    let ptr := fb.smemStart + (win.top * fb.xresVirtual * fb.bytes + win.left * fb.bytes)
    ⟨ptr, ptr, fb.xresVirtual⟩

/-- The screen is in the memory of the frame buffer. -/
structure FbInfo.Ok (fb : FbInfo) : Prop where
  xres : fb.xres.toNat ≤ fb.xresVirtual.toNat
  screen : fb.yres.toNat * (fb.xresVirtual.toNat * fb.bytes.toNat) ≤ fb.smemLen.toNat
  memory : fb.smemStart.toNat + fb.smemLen.toNat ≤ 2 ^ 32

/-- Not negative, and no further right or down than the resolution. -/
def Window.OnScreen (win : Window) (fb : FbInfo) : Prop :=
  win.left.toNat < 2 ^ 31 ∧ win.top.toNat < 2 ^ 31 ∧ win.width.toNat < 2 ^ 31 ∧ win.height.toNat < 2 ^ 31 ∧
    (win.left &&& ~~~1#32).toNat ≤ fb.xres.toNat ∧ win.top.toNat ≤ fb.yres.toNat

def Window.Inside (win : Window) (fb : FbInfo) : Prop :=
  win.left.toNat + win.width.toNat ≤ fb.xres.toNat ∧ win.top.toNat + win.height.toNat ≤ fb.yres.toNat

lemma toNat_and_le (x y : BitVec 32) : (x &&& y).toNat ≤ x.toNat := by
  rw [toNat_and]
  exact Nat.and_le_left

lemma clampWindow_le {start size res : BitVec 32} (hp : start.toNat < 2 ^ 31) (hn : size.toNat < 2 ^ 31)
  (hr : start.toNat ≤ res.toNat) : start.toNat + (clampWindow start size res).toNat ≤ res.toNat := by
  have hsum : (size + start).toNat = size.toNat + start.toNat := by rw [toNat_add,Nat.mod_eq_of_lt (by omega)]
  unfold clampWindow
  split
  · rw [toNat_sub_of_le (le_def.mpr hr)]
    omega
  · next h =>
    rw [gt_iff_lt,lt_def,hsum] at h
    omega

lemma verifyPreview_inside {fb : FbInfo} {win : Window} (rotation : Rotation) (h : win.OnScreen fb) :
  ∃ win', verifyPreview (some fb) rotation win = some (fb, win') ∧ win'.Inside fb := by
  obtain ⟨hl,ht,hw,hh,hx,hy⟩ := h
  have hwidth := clampWindow_le ((toNat_and_le win.left (~~~1#32)).trans_lt hl) hw hx
  have hheight := clampWindow_le ht hh hy
  refine ⟨_,rfl,?_⟩
  split
  · exact ⟨hwidth,(Nat.add_le_add_left (toNat_and_le ..) _).trans hheight⟩
  · exact ⟨(Nat.add_le_add_left (toNat_and_le ..) _).trans hwidth,hheight⟩

/-- A window inside the screen is written inside the memory of the frame buffer. -/
lemma dest_inside {fb : FbInfo} (hfb : fb.Ok) {win : Window} (h : win.Inside fb) {y x : ℕ} (hy' : y < win.height.toNat)
  (hx' : x < win.width.toNat * fb.bytes.toNat) {ptr : BitVec 32}
  (e : ptr = fb.smemStart + (win.top * fb.xresVirtual * fb.bytes + win.left * fb.bytes)) :
  fb.smemStart.toNat ≤ ptr.toNat + y * (fb.xresVirtual.toNat * fb.bytes.toNat) + x ∧
    ptr.toNat + y * (fb.xresVirtual.toNat * fb.bytes.toNat) + x < fb.smemStart.toNat + fb.smemLen.toNat := by
  obtain ⟨hx,hy⟩ := h
  obtain ⟨hres,hscreen,hmemory⟩ := hfb
  -- a row of the screen, and the rows down to the one that is written
  have hrow : win.left.toNat * fb.bytes.toNat + win.width.toNat * fb.bytes.toNat ≤ fb.xresVirtual.toNat * fb.bytes.toNat := by
    rw [← Nat.add_mul]
    exact Nat.mul_le_mul_right _ (hx.trans hres)
  have hrows : (win.top.toNat + y + 1) * (fb.xresVirtual.toNat * fb.bytes.toNat) ≤ fb.smemLen.toNat :=
    (Nat.mul_le_mul_right _ (by omega)).trans hscreen
  rw [Nat.add_mul,Nat.add_mul,Nat.one_mul] at hrows
  have hptr : ptr.toNat =
      fb.smemStart.toNat + (win.top.toNat * (fb.xresVirtual.toNat * fb.bytes.toNat) + win.left.toNat * fb.bytes.toNat) := by
    have hof : ptr = BitVec.ofNat 32
        (fb.smemStart.toNat + (win.top.toNat * (fb.xresVirtual.toNat * fb.bytes.toNat) + win.left.toNat * fb.bytes.toNat)) := by
      simp [e,ofNat_add,ofNat_mul,BitVec.mul_assoc]
    rw [hof,toNat_ofNat,Nat.mod_eq_of_lt (by omega)]
  rw [hptr]
  omega

end Mx27.Capture
