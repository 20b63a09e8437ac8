/-
# Weaving the fields of a frame

The copies of `deinterlace`, from the upper to the lower half of a frame buffer.
-/
import Mathlib

namespace Mx27.Capture

/-- `memcpy`; addresses count from `vaddress`. -/
def memcpy (d s n : ℕ) (mem : ℕ → BitVec 8) (i : ℕ) : BitVec 8 := if d ≤ i ∧ i < d + n then mem (s + (i - d)) else mem i

structure Weaving where
  mem : ℕ → BitVec 8
  d : ℕ
  first : ℕ
  second : ℕ

/-- One of the three loops. -/
def weaveRows (w : ℕ) : ℕ → Weaving → Weaving
  | 0, s => s
  | n + 1, s => weaveRows w n ⟨memcpy (s.d + w) s.second w (memcpy s.d s.first w s.mem), s.d + w + w, s.first + w, s.second + w⟩

/-- `mxc_v4l2_s_fmt` for `V4L2_PIX_FMT_YUV420`: width, height, `g_image_sz` and `g_pixel_sz`. -/
def sFmt (width height sizeimage : ℕ) : ℕ × ℕ × ℕ × ℕ :=
  let width := width / 8 * 8
  let height := height / 2 * 2
  let size := width * height % 2 ^ 32 * 3 % 2 ^ 32 / 2
  let size := if sizeimage > size then sizeimage else size
  (width, height, (size * 2 + 4095) % 2 ^ 32 / 4096 * 4096 / 2, width * height % 2 ^ 32)

def deinterlaceFrame (w h imageSz pixelSz : ℕ) (mem : ℕ → BitVec 8) : ℕ → BitVec 8 :=
  let y := weaveRows w (h / 2) ⟨mem, 0, imageSz, imageSz + pixelSz / 2⟩
  let w := w / 2
  let h := h / 2
  let u := weaveRows w (h / 2) ⟨y.mem, y.d, y.second, y.second + w * h / 2⟩
  (weaveRows w (h / 2) ⟨u.mem, u.d, u.second, u.second + w * h / 2⟩).mem

/-- The row of a plane in the upper half: the second field comes after the first. -/
def fieldRow (rows row : ℕ) : ℕ := if row % 2 = 0 then row / 2 else (rows + 1) / 2 + row / 2

/-- The plane at `start` is woven from the two fields at `src`. -/
def PlaneWoven (mem mem' : ℕ → BitVec 8) (start src w rows : ℕ) : Prop :=
  ∀ row < rows, ∀ x < w, mem' (start + row * w + x) = mem (src + fieldRow rows row * w + x)

structure Woven (mem mem' : ℕ → BitVec 8) (w h imageSz : ℕ) : Prop where
  y : PlaneWoven mem mem' 0 imageSz w h
  u : PlaneWoven mem mem' (w * h) (imageSz + w * h) (w / 2) (h / 2)
  v : PlaneWoven mem mem' (w * h + w / 2 * (h / 2)) (imageSz + (w * h + w / 2 * (h / 2))) (w / 2) (h / 2)
  rest : ∀ i, w * h + 2 * (w / 2 * (h / 2)) ≤ i → mem' i = mem i

structure RowsWoven (w n : ℕ) (s r : Weaving) : Prop where
  rows : ∀ i < n, ∀ x < w, r.mem (s.d + 2 * i * w + x) = s.mem (s.first + i * w + x) ∧
    r.mem (s.d + (2 * i + 1) * w + x) = s.mem (s.second + i * w + x)
  rest : ∀ i, i < s.d ∨ s.d + 2 * n * w ≤ i → r.mem i = s.mem i
  d : r.d = s.d + 2 * n * w
  first : r.first = s.first + n * w
  second : r.second = s.second + n * w

lemma weaveRows_spec {w : ℕ} : ∀ (n : ℕ) (s : Weaving), s.d + 2 * n * w ≤ s.first → s.d + 2 * n * w ≤ s.second →
  RowsWoven w n s (weaveRows w n s)
  | 0, s, _, _ => ⟨fun i h => absurd h (Nat.not_lt_zero i), fun _ _ => rfl, by simp [weaveRows], by simp [weaveRows],
      by simp [weaveRows]⟩
  | n + 1, s, hfirst, hsecond => by
    have hn : 2 * (n + 1) * w = 2 * n * w + w + w := by ring
    rw [hn] at hfirst hsecond
    have ih := weaveRows_spec (w := w) n ⟨memcpy (s.d + w) s.second w (memcpy s.d s.first w s.mem), s.d + w + w, s.first + w, s.second + w⟩
      (by dsimp only; omega) (by dsimp only; omega)
    obtain ⟨hrows,hrest,hd,h1,h2⟩ := ih
    dsimp only at hrows hrest hd h1 h2
    -- what this row leaves, above the rows and in them
    have hkeep : ∀ i, s.d + w + w ≤ i → memcpy (s.d + w) s.second w (memcpy s.d s.first w s.mem) i = s.mem i := by
      intro i hi
      rw [memcpy,if_neg (by omega),memcpy,if_neg (by omega)]
    rw [weaveRows]
    refine ⟨fun i hi x hx => ?_,fun i hi => ?_,by rw [hd]; ring,by rw [h1]; ring,by rw [h2]; ring⟩
    · cases i with
      | zero =>
        rw [hrest _ (by omega),hrest _ (by omega),memcpy,if_neg (by omega),memcpy,if_pos (by omega),memcpy,if_pos (by omega),memcpy,
          if_neg (by omega)]
        constructor <;> congr 1 <;> omega
      | succ i =>
        have hrow := hrows i (by omega) x hx
        rw [hkeep _ (by omega),hkeep _ (by omega)] at hrow
        rw [show s.d + 2 * (i + 1) * w + x = s.d + w + w + 2 * i * w + x by ring,
          show s.d + (2 * (i + 1) + 1) * w + x = s.d + w + w + (2 * i + 1) * w + x by ring,hrow.1,hrow.2]
        constructor <;> congr 1 <;> ring
    · rw [hn] at hi
      rw [hrest _ (by omega),memcpy,if_neg (by omega),memcpy,if_neg (by omega)]

lemma RowsWoven.plane {w n : ℕ} {s r : Weaving} (h : RowsWoven w n s r) (hsecond : s.second = s.first + n * w) :
  PlaneWoven s.mem r.mem s.d s.first w (2 * n) := by
  intro row hrow x hx
  obtain ⟨i,rfl | rfl⟩ : ∃ i, row = 2 * i ∨ row = 2 * i + 1 := ⟨row / 2,by omega⟩
  · rw [(h.rows i (by omega) x hx).1,fieldRow,if_pos (by omega),show 2 * i / 2 = i by omega]
  · rw [(h.rows i (by omega) x hx).2,hsecond,fieldRow,if_neg (by omega),show (2 * n + 1) / 2 + (2 * i + 1) / 2 = n + i by omega]
    congr 1
    ring

lemma cell_lt {w rows row x : ℕ} (hrow : row < rows) (hx : x < w) : row * w + x < rows * w := by
  have hle := Nat.mul_le_mul_right w (show row + 1 ≤ rows from hrow)
  rw [Nat.add_mul,Nat.one_mul] at hle
  omega

/-- The format call rounds the frame to whole groups of pixels and leaves room for its three planes in a buffer. -/
lemma sFmt_spec {width height sizeimage : ℕ} (hheight : height / 2 % 2 = 0)
  (hfits : width / 8 * 8 * (height / 2 * 2) * 3 + 4096 < 2 ^ 31) (himage : sizeimage * 2 + 4096 < 2 ^ 31) :
  ∃ v g I, sFmt width height sizeimage = (2 * v, 4 * g, I, 8 * (g * v)) ∧ 12 * (g * v) ≤ I := by
  have hv : width / 8 * 8 = 2 * (width / 8 * 4) := by omega
  have hg : height / 2 * 2 = 4 * (height / 4) := by omega
  generalize width / 8 * 4 = v at hv
  generalize height / 4 = g at hg
  have hP : 2 * v * (4 * g) = 8 * (g * v) := by ring
  rw [hv,hg,hP] at hfits
  refine ⟨v,g,_,by simp only [sFmt,hv,hg,hP]; rw [Nat.mod_eq_of_lt (show 8 * (g * v) < 2 ^ 32 by omega)],?_⟩
  rw [Nat.mod_eq_of_lt (show 8 * (g * v) * 3 < 2 ^ 32 by omega)]
  split
  · rw [Nat.mod_eq_of_lt (by omega)]
    omega
  · rw [Nat.mod_eq_of_lt (by omega)]
    omega

/-- Three passes of rows, one a plane, each reading above what the passes before it wrote. -/
lemma deinterlaceFrame_woven {v g I : ℕ} (hroom : 12 * (g * v) ≤ I) (mem : ℕ → BitVec 8) :
  Woven mem (deinterlaceFrame (2 * v) (4 * g) I (8 * (g * v)) mem) (2 * v) (4 * g) I := by
  have hP : 2 * v * (4 * g) = 8 * (g * v) := by ring
  have hhalf : v * (2 * g) = 2 * (g * v) := by ring
  have hrows : 2 * (2 * g) * (2 * v) = 8 * (g * v) ∧ 2 * g * (2 * v) = 4 * (g * v) ∧ 2 * g * v = 2 * (g * v) := by
    refine ⟨?_,?_,?_⟩ <;> ring
  generalize hq : g * v = q at *
  have hv2 : 2 * v / 2 = v := by omega
  have hg2 : 4 * g / 2 = 2 * g := by omega
  simp only [deinterlaceFrame,hv2,hg2,show 2 * g / 2 = g by omega,show 8 * q / 2 = 4 * q by omega,show 2 * q / 2 = q by omega,hhalf]
  have hy := weaveRows_spec (w := 2 * v) (2 * g) ⟨mem,0,I,I + 4 * q⟩ (by dsimp only; omega) (by dsimp only; omega)
  generalize weaveRows (2 * v) (2 * g) ⟨mem,0,I,I + 4 * q⟩ = y at *
  have hyd : y.d = 8 * q := by rw [hy.d,hrows.1,Nat.zero_add]
  have hys : y.second = I + 8 * q := by
    rw [hy.second,hrows.2.1]
    ring
  have hu := weaveRows_spec (w := v) g ⟨y.mem,y.d,y.second,y.second + q⟩ (by dsimp only; omega) (by dsimp only; omega)
  generalize weaveRows v g ⟨y.mem,y.d,y.second,y.second + q⟩ = u at *
  have hud : u.d = 10 * q := by
    rw [hu.d,hrows.2.2,hyd]
    ring
  have hus : u.second = I + 10 * q := by
    rw [hu.second,hq,hys]
    ring
  have hw := weaveRows_spec (w := v) g ⟨u.mem,u.d,u.second,u.second + q⟩ (by dsimp only; omega) (by dsimp only; omega)
  generalize weaveRows v g ⟨u.mem,u.d,u.second,u.second + q⟩ = r at *
  have hykeep : ∀ i, 8 * q ≤ i → y.mem i = mem i := fun i hi => hy.rest i (.inr (by dsimp only; omega))
  have hukeep : ∀ i, i < 8 * q ∨ 10 * q ≤ i → u.mem i = y.mem i := fun i hi => hu.rest i (by dsimp only; omega)
  have hrkeep : ∀ i, i < 10 * q ∨ 12 * q ≤ i → r.mem i = u.mem i := fun i hi => hw.rest i (by dsimp only; omega)
  refine ⟨fun row hrow x hx => ?_,fun row hrow x hx => ?_,fun row hrow x hx => ?_,fun i hi => ?_⟩
  · have hcell := cell_lt hrow hx
    rw [Nat.mul_comm (4 * g),hP] at hcell
    have hplane := hy.plane (by dsimp only; omega) row (by omega) x hx
    rw [show 2 * (2 * g) = 4 * g by ring] at hplane
    rw [hrkeep _ (.inl (by omega)),hukeep _ (.inl (by omega)),hplane]
  · rw [hv2] at hx ⊢
    rw [hg2] at hrow ⊢
    have hcell := cell_lt hrow hx
    have hplane := hu.plane (by dsimp only; omega) row hrow x hx
    dsimp only at hplane
    rw [hP,hrkeep _ (.inl (by omega)),← hyd,hplane,hykeep _ (by omega),hys,hyd]
  · rw [hv2] at hx ⊢
    rw [hg2] at hrow ⊢
    have hcell := cell_lt hrow hx
    have hplane := hw.plane (by dsimp only; omega) row hrow x hx
    dsimp only at hplane
    rw [hP,hhalf,show 8 * q + 2 * q = 10 * q by ring,← hud,hplane,hukeep _ (.inr (by omega)),hykeep _ (by omega),hus,hud]
  · rw [hv2,hg2,hP,hhalf] at hi
    rw [hrkeep _ (.inr (by omega)),hukeep _ (.inr (by omega)),hykeep _ (by omega)]

end Mx27.Capture
