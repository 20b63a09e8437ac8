/-
# Channel 2 of the pre-processor
-/
import Mx27Drivers.Lib.DoubleBuffer

namespace Mx27.Capture

open List

open DoubleBuffer (Slots)

inductive PixelFormat
  | yuyv
  | yuv420
  | other
  deriving DecidableEq, Repr

inductive Pix2
  | yuv420
  | yuv422
  | yuv444
  | unused
  deriving DecidableEq, Repr

structure Image where
  pix : Pix2
  width : ℕ
  height : ℕ
  deriving DecidableEq, Repr

structure Dest where
  y : ℕ
  chroma : Option (ℕ × ℕ)
  deriving DecidableEq, Repr

namespace Image

def size (g : Image) : ℕ := g.width * g.height

def dest (g : Image) (ptr : ℕ) : Dest :=
  match g.pix with
  | .yuv420 => ⟨ptr, some (ptr + g.size, ptr + g.size + g.size / 4)⟩
  | _ => ⟨ptr, none⟩

def bytes (g : Image) : ℕ :=
  match g.pix with
  | .yuv420 => g.size + g.size / 4 + g.size / 4
  | .yuv422 => 2 * g.size
  | .yuv444 => 4 * g.size
  | .unused => 0

def planes (g : Image) (d : Dest) : Option (List (ℕ × ℕ)) :=
  match g.pix with
  | .yuv420 => d.chroma.map fun c => [(d.y, g.size), (c.1, g.size / 4), (c.2, g.size / 4)]
  | _ => some [(d.y, g.bytes)]

def Inside (g : Image) (d : Dest) (a n : ℕ) : Prop :=
  ∃ l, g.planes d = some l ∧ ∀ r ∈ l, a ≤ r.1 ∧ r.1 + r.2 ≤ a + n

instance (g : Image) (d : Dest) (a n : ℕ) : Decidable (g.Inside d a n) :=
  match h : g.planes d with
  | none => isFalse (by rintro ⟨l, e, -⟩; cases h.symm.trans e)
  | some l => decidable_of_iff (∀ r ∈ l, a ≤ r.1 ∧ r.1 + r.2 ≤ a + n) (by simp [Inside, h])

lemma planes_inside {g : Image} {a off n : ℕ} (h : off + g.bytes ≤ n) : g.Inside (g.dest (a + off)) a n := by
  unfold Inside planes dest
  unfold bytes at h ⊢
  cases hpix : g.pix with
  | yuv420 =>
    simp only [hpix] at h
    refine ⟨_,rfl,?_⟩
    simp only [mem_cons,not_mem_nil,or_false]
    rintro r (rfl | rfl | rfl)
    · exact ⟨by omega,by omega⟩
    · exact ⟨by omega,by omega⟩
    · exact ⟨by omega,by omega⟩
  | yuv422 | yuv444 | unused =>
    simp only [hpix] at h
    refine ⟨_,rfl,?_⟩
    simp only [mem_singleton,forall_eq]
    omega

end Image

/-- `emma_prp_cfg`, the part of channel 2. -/
structure Cfg where
  ch2Pix : Pix2
  ch2Width : ℕ
  ch2Height : ℕ
  ch2Ptr : ℕ
  ch2Ptr2 : ℕ
  deriving DecidableEq, Repr

def Cfg.image (c : Cfg) : Image := ⟨c.ch2Pix, c.ch2Width, c.ch2Height⟩

structure Prp where
  ch2en : Bool
  image : Image
  buf : Slots Dest

/-- `prp_v4l2_cfg`, for a capture: the fields of the configuration are of 16 bits. -/
def prpV4l2Cfg (pixelformat : PixelFormat) (width height : ℕ) (c : Cfg) : Cfg :=
  { c with
    ch2Pix :=
      match pixelformat with
      | .yuyv => .yuv422
      | .yuv420 => .yuv420
      | .other => .yuv444
    ch2Width := width % 2 ^ 16
    ch2Height := height % 2 ^ 16 }

def prphwReset (p : Prp) : Prp := ⟨false, p.image, fun _ => none, false⟩

def Cfg.align (c : Cfg) : Cfg :=
  match c.ch2Pix with
  | .yuv420 => { c with ch2Height := c.ch2Height / 2 * 2, ch2Width := c.ch2Width / 8 * 8 }
  | .yuv422 => { c with ch2Width := c.ch2Width / 2 * 2 }
  | _ => c

def Cfg.second (c : Cfg) : ℕ := if c.ch2Ptr2 = 0 then c.ch2Ptr else c.ch2Ptr2

def prphwCh2Cfg (c : Cfg) (p : Prp) : Prp :=
  if c.ch2Pix = .unused then p
  else
    { p with
      image := c.image
      buf := (p.buf.arm false (c.image.dest c.ch2Ptr)).arm true (c.image.dest c.second) }

def prphwEnable (p : Prp) : Prp := { p with ch2en := true }

def prphwDisable (p : Prp) : Prp := { p with ch2en := false }

/-- `prphw_ch2ptr` for buffer 1 (`false`), `prphw_ch2ptr2` for buffer 2 (`true`). -/
def prphwCh2ptr (buffer : Bool) (c : Cfg) (p : Prp) : Prp :=
  if c.ch2Pix = .unused then p
  else { p with buf := p.buf.arm buffer (c.image.dest (if buffer then c.ch2Ptr2 else c.ch2Ptr)) }

def Prp.fill (p : Prp) : Option (Dest × Prp) :=
  if p.ch2en then p.buf.fill.map fun r => (r.1, { p with buf := r.2 }) else none

end Mx27.Capture
