/-
# The frame buffer
-/
import Mx27Drivers.Lib.Run

namespace Mx27.Video

structure Var where
  xres : BitVec 32
  yres : BitVec 32
  xresVirtual : BitVec 32
  yresVirtual : BitVec 32
  xoffset : BitVec 32
  yoffset : BitVec 32
  bitsPerPixel : BitVec 32
  deriving DecidableEq, Repr

structure Lcdc where
  start : BitVec 32
  xres : BitVec 32
  yres : BitVec 32
  xresVirtual : BitVec 32
  bytes : BitVec 32
  deriving DecidableEq, Repr

/-- `fb_info` of the background, with the memory that is allocated (address and length) and
the registers of the controller. -/
structure Fb where
  var : Var
  lineLength : BitVec 32
  smemStart : BitVec 32
  smemLen : BitVec 32
  mem : Option (ℕ × ℕ)
  lcdc : Lcdc
  deriving DecidableEq, Repr

def default_bpp : BitVec 32 := 16

/-- `mx2fb_check_var`. -/
def checkVar (info v : Var) : Var :=
  let v := if v.xresVirtual < v.xres then { v with xresVirtual := v.xres } else v
  let v := if v.yresVirtual < v.yres then { v with yresVirtual := v.yres } else v
  let v := if info.xresVirtual < v.xoffset + info.xres then { v with xoffset := info.xresVirtual - info.xres } else v
  let v := if info.yresVirtual < v.yoffset + info.yres then { v with yoffset := info.yresVirtual - info.yres } else v
  if v.bitsPerPixel ≠ 32 ∧ v.bitsPerPixel ≠ 24 ∧ v.bitsPerPixel ≠ 16 then { v with bitsPerPixel := default_bpp } else v

def updateLcdc (fb : Fb) : Fb :=
  let v := fb.var
  let base := (v.yoffset * v.xresVirtual + v.xoffset) * (v.bitsPerPixel / 8) + fb.smemStart
  { fb with lcdc := ⟨base, v.xres, v.yres, v.xresVirtual, v.bitsPerPixel / 8⟩ }

def setFix (fb : Fb) : Fb := { fb with lineLength := fb.var.xresVirtual * fb.var.bitsPerPixel / 8 }

inductive Alloc
  | block (a : BitVec 32)
  | failed (handle : BitVec 32)
  deriving DecidableEq, Repr

def unmapVideoMemory (fb : Fb) : Fb := { fb with smemStart := 0, smemLen := 0, mem := none }

def mapVideoMemory (r : Alloc) (fb : Fb) : Option (Fb × Bool) :=
  let len := fb.lineLength * fb.var.yresVirtual
  match r with
  | .block a =>
    if a.toNat + len.toNat ≤ 2 ^ 32 then
      some ({ fb with smemLen := len, smemStart := a, mem := some (a.toNat, len.toNat) }, false)
    else none
  | .failed handle => some ({ fb with smemLen := len, smemStart := handle }, true)

def setPar (r : Alloc) (fb : Fb) : Option Fb :=
  let fb := setFix fb
  let len := fb.var.yresVirtual * fb.lineLength
  if fb.smemLen < len then
    match mapVideoMemory r (if fb.smemStart ≠ 0 then unmapVideoMemory fb else fb) with
    | none => none
    | some (fb, true) => some fb
    | some (fb, false) => some (updateLcdc fb)
  else some (updateLcdc fb)

/-- `fb_set_var`; the parameters are only taken over if they are to be activated now. -/
def fbSetVar (v : Var) (now : Bool) (r : Alloc) (fb : Fb) : Option Fb :=
  if now then setPar r { fb with var := checkVar fb.var v } else some fb

def panDisplay (v : Var) (fb : Fb) : Fb :=
  if fb.var.xoffset = v.xoffset ∧ fb.var.yoffset = v.yoffset then fb
  else if fb.var.xresVirtual < v.xoffset + fb.var.xres ∨ fb.var.yresVirtual < v.yoffset + fb.var.yres then fb
  else updateLcdc { fb with var := { fb.var with xoffset := v.xoffset, yoffset := v.yoffset } }

inductive Event
  | setVar (v : Var) (now : Bool) (r : Alloc)
  | pan (v : Var)
  deriving DecidableEq, Repr

def step (fb : Fb) : Event → Option Fb
  | .setVar v now r => fbSetVar v now r fb
  | .pan v => some (panDisplay v fb)

end Mx27.Video
