/-
# What the LCD controller reads
-/
import Mx27Drivers.Video.Framebuffer

namespace Mx27.Video

structure Inside (fb : Fb) : Prop where
  mem : fb.mem = some (fb.smemStart.toNat, fb.smemLen.toNat)
  pixels : ∀ y < fb.lcdc.yres.toNat, ∀ x < fb.lcdc.xres.toNat,
    fb.smemStart.toNat ≤ fb.lcdc.start.toNat + (y * fb.lcdc.xresVirtual.toNat + x) * fb.lcdc.bytes.toNat ∧
    fb.lcdc.start.toNat + (y * fb.lcdc.xresVirtual.toNat + x) * fb.lcdc.bytes.toNat + fb.lcdc.bytes.toNat ≤
      fb.smemStart.toNat + fb.smemLen.toNat

def Var.width (v : Var) : ℕ := max v.xresVirtual.toNat v.xres.toNat
def Var.height (v : Var) : ℕ := max v.yresVirtual.toNat v.yres.toNat
def Var.depth (v : Var) : ℕ :=
  if v.bitsPerPixel ≠ 32 ∧ v.bitsPerPixel ≠ 24 ∧ v.bitsPerPixel ≠ 16 then default_bpp.toNat else v.bitsPerPixel.toNat
def Var.size (v : Var) : ℕ := v.height * (v.width * (v.depth / 8))

structure Fits (info v : Var) : Prop where
  xsum : v.xoffset.toNat + info.xres.toNat < 2 ^ 32
  ysum : v.yoffset.toNat + info.yres.toNat < 2 ^ 32
  x : min v.xoffset.toNat (info.xresVirtual.toNat - info.xres.toNat) + v.xres.toNat ≤ v.width
  y : min v.yoffset.toNat (info.yresVirtual.toNat - info.yres.toNat) + v.yres.toNat ≤ v.height
  line : v.width * v.depth < 2 ^ 32
  size : v.size < 2 ^ 32

instance (info v : Var) : Decidable (Fits info v) :=
  decidable_of_iff (v.xoffset.toNat + info.xres.toNat < 2 ^ 32 ∧ v.yoffset.toNat + info.yres.toNat < 2 ^ 32 ∧
    min v.xoffset.toNat (info.xresVirtual.toNat - info.xres.toNat) + v.xres.toNat ≤ v.width ∧
    min v.yoffset.toNat (info.yresVirtual.toNat - info.yres.toNat) + v.yres.toNat ≤ v.height ∧
    v.width * v.depth < 2 ^ 32 ∧ v.size < 2 ^ 32)
    ⟨fun h => ⟨h.1, h.2.1, h.2.2.1, h.2.2.2.1, h.2.2.2.2.1, h.2.2.2.2.2⟩, fun h => ⟨h.xsum, h.ysum, h.x, h.y, h.line, h.size⟩⟩

def Alloc.isBlock : Alloc → Bool
  | block _ => true
  | failed _ => false

def FbOk (fb : Fb) : Event → Prop
  | .setVar v now r => now = true → Fits fb.var v ∧ (fb.smemLen.toNat < v.size → r.isBlock = true)
  | .pan v => v.xoffset.toNat + fb.var.xres.toNat < 2 ^ 32 ∧ v.yoffset.toNat + fb.var.yres.toNat < 2 ^ 32

instance (fb : Fb) (e : Event) : Decidable (FbOk fb e) := by
  cases e <;> unfold FbOk <;> infer_instance

structure Var.Good (v : Var) : Prop where
  depth : v.bitsPerPixel = 16 ∨ v.bitsPerPixel = 24 ∨ v.bitsPerPixel = 32
  x : v.xoffset.toNat + v.xres.toNat ≤ v.xresVirtual.toNat
  y : v.yoffset.toNat + v.yres.toNat ≤ v.yresVirtual.toNat

structure Mapped (fb : Fb) : Prop where
  var : fb.var.Good
  size : fb.var.yresVirtual.toNat * (fb.var.xresVirtual.toNat * (fb.var.bitsPerPixel.toNat / 8)) ≤ fb.smemLen.toNat
  mem : fb.mem = some (fb.smemStart.toNat, fb.smemLen.toNat)
  bound : fb.smemStart.toNat + fb.smemLen.toNat ≤ 2 ^ 32
  lcdc : fb.lcdc = (updateLcdc fb).lcdc

lemma base_toNat (fb : Fb) : (updateLcdc fb).lcdc.start.toNat =
  ((fb.var.yoffset.toNat * fb.var.xresVirtual.toNat + fb.var.xoffset.toNat) * (fb.var.bitsPerPixel.toNat / 8) +
    fb.smemStart.toNat) % 2 ^ 32 := by
  have h8 : (fb.var.bitsPerPixel / 8).toNat = fb.var.bitsPerPixel.toNat / 8 := by
    rw [BitVec.toNat_udiv]
    rfl
  show ((fb.var.yoffset * fb.var.xresVirtual + fb.var.xoffset) * (fb.var.bitsPerPixel / 8) + fb.smemStart).toNat = _
  rw [BitVec.toNat_add,BitVec.toNat_mul,BitVec.toNat_add,BitVec.toNat_mul,h8]
  simp only [Nat.add_mod,Nat.mul_mod,Nat.mod_mod]

lemma pixel_lt {yo y yres yv xo x xres xv : ℕ} (hx : xo + xres ≤ xv) (hy : yo + yres ≤ yv) (hxlt : x < xres)
  (hylt : y < yres) : (yo * xv + xo) + (y * xv + x) + 1 ≤ yv * xv :=
  calc (yo * xv + xo) + (y * xv + x) + 1 = (yo + y) * xv + (xo + x + 1) := by ring
    _ ≤ (yo + y) * xv + xv := by omega
    _ = (yo + y + 1) * xv := by ring
    _ ≤ yv * xv := Nat.mul_le_mul_right xv (by omega)

lemma Mapped.inside {fb : Fb} (h : Mapped fb) : Inside fb := by
  refine ⟨h.mem,fun y hy x hx => ?_⟩
  rw [h.lcdc] at hy hx ⊢
  have hpixel := pixel_lt h.var.x h.var.y hx hy
  -- the same in bytes
  have hbytes := Nat.mul_le_mul_right (fb.var.bitsPerPixel.toNat / 8) hpixel
  rw [Nat.mul_assoc,Nat.add_mul,Nat.add_mul,Nat.one_mul] at hbytes
  have hsize := h.size
  have hbound := h.bound
  have h8 : (updateLcdc fb).lcdc.bytes.toNat = fb.var.bitsPerPixel.toNat / 8 := by
    show (fb.var.bitsPerPixel / 8).toNat = _
    rw [BitVec.toNat_udiv]
    rfl
  have hpos : 0 < fb.var.bitsPerPixel.toNat / 8 := by
    rcases h.var.depth with e | e | e <;> rw [e] <;> decide
  have hxv : (updateLcdc fb).lcdc.xresVirtual = fb.var.xresVirtual := rfl
  rw [base_toNat,h8,hxv,Nat.mod_eq_of_lt (by omega)]
  omega

/-! ### Modes -/

section Modes

variable {info v : Var}

lemma checkVar_eq (info v : Var) : checkVar info v =
  { xres := v.xres, yres := v.yres
    xresVirtual := if v.xresVirtual < v.xres then v.xres else v.xresVirtual
    yresVirtual := if v.yresVirtual < v.yres then v.yres else v.yresVirtual
    xoffset := if info.xresVirtual < v.xoffset + info.xres then info.xresVirtual - info.xres else v.xoffset
    yoffset := if info.yresVirtual < v.yoffset + info.yres then info.yresVirtual - info.yres else v.yoffset
    bitsPerPixel := if v.bitsPerPixel ≠ 32 ∧ v.bitsPerPixel ≠ 24 ∧ v.bitsPerPixel ≠ 16 then default_bpp
      else v.bitsPerPixel } := by
  unfold checkVar
  dsimp only
  by_cases hx : v.xresVirtual < v.xres <;> by_cases hy : v.yresVirtual < v.yres <;>
    by_cases hxo : info.xresVirtual < v.xoffset + info.xres <;>
    by_cases hyo : info.yresVirtual < v.yoffset + info.yres <;> simp only [hx,hy,hxo,hyo,if_true,if_false]
  all_goals split_ifs <;> rfl

lemma clamp_toNat {o res virt : BitVec 32} (hsum : o.toNat + res.toNat < 2 ^ 32) (hres : res.toNat ≤ virt.toNat) :
  (if virt < o + res then virt - res else o).toNat = min o.toNat (virt.toNat - res.toNat) := by
  have hadd : (o + res).toNat = o.toNat + res.toNat := by
    rw [BitVec.toNat_add,Nat.mod_eq_of_lt hsum]
  split
  · rename_i hlt
    rw [BitVec.lt_def,hadd] at hlt
    rw [BitVec.toNat_sub_of_le hres]
    omega
  · rename_i hlt
    rw [BitVec.lt_def,hadd] at hlt
    omega

lemma widen_toNat (a b : BitVec 32) : (if a < b then b else a).toNat = max a.toNat b.toNat := by
  split
  · rename_i hlt
    rw [BitVec.lt_def] at hlt
    omega
  · rename_i hlt
    rw [BitVec.lt_def] at hlt
    omega

lemma checkVar_fits (h : Fits info v) (hinfo : info.Good) : (checkVar info v).Good ∧
  (checkVar info v).xresVirtual.toNat = v.width ∧ (checkVar info v).yresVirtual.toNat = v.height ∧
  (checkVar info v).bitsPerPixel.toNat = v.depth := by
  have hx := clamp_toNat h.xsum (le_trans (Nat.le_add_left _ _) hinfo.x)
  have hy := clamp_toNat h.ysum (le_trans (Nat.le_add_left _ _) hinfo.y)
  have hwidth := widen_toNat v.xresVirtual v.xres
  have hheight := widen_toNat v.yresVirtual v.yres
  rw [checkVar_eq]
  refine ⟨⟨?_,?_,?_⟩,hwidth,hheight,?_⟩
  · show (if _ then default_bpp else v.bitsPerPixel) = 16 ∨ _
    split
    · exact .inl rfl
    · tauto
  · show BitVec.toNat (if _ then _ else _) + v.xres.toNat ≤ BitVec.toNat (if _ then _ else _)
    rw [hx,hwidth]
    exact h.x
  · show BitVec.toNat (if _ then _ else _) + v.yres.toNat ≤ BitVec.toNat (if _ then _ else _)
    rw [hy,hheight]
    exact h.y
  · show BitVec.toNat (if _ then _ else _) = _
    rw [apply_ite BitVec.toNat]
    rfl

lemma Var.Good.line {v : Var} (h : v.Good) (hline : v.xresVirtual.toNat * v.bitsPerPixel.toNat < 2 ^ 32) :
  (v.xresVirtual * v.bitsPerPixel / 8).toNat = v.xresVirtual.toNat * (v.bitsPerPixel.toNat / 8) := by
  have hdvd : 8 ∣ v.bitsPerPixel.toNat := by
    rcases h.depth with e | e | e <;> rw [e] <;> decide
  rw [BitVec.toNat_udiv,BitVec.toNat_mul,Nat.mod_eq_of_lt hline]
  exact Nat.mul_div_assoc _ hdvd

end Modes

section Steps

variable {fb fb' : Fb} {e : Event}

lemma updateLcdc_mapped (hvar : fb.var.Good)
  (hsize : fb.var.yresVirtual.toNat * (fb.var.xresVirtual.toNat * (fb.var.bitsPerPixel.toNat / 8)) ≤ fb.smemLen.toNat)
  (hmem : fb.mem = some (fb.smemStart.toNat, fb.smemLen.toNat))
  (hbound : fb.smemStart.toNat + fb.smemLen.toNat ≤ 2 ^ 32) : Mapped (updateLcdc fb) :=
  ⟨hvar, hsize, hmem, hbound, rfl⟩

lemma mapVideoMemory_block {a : BitVec 32} {z : Fb × Bool} (e : mapVideoMemory (.block a) fb = some z) :
  z = ({ fb with
    smemLen := fb.lineLength * fb.var.yresVirtual, smemStart := a
    mem := some (a.toNat, (fb.lineLength * fb.var.yresVirtual).toNat) }, false) ∧
  a.toNat + (fb.lineLength * fb.var.yresVirtual).toNat ≤ 2 ^ 32 := by
  obtain ⟨hbound,e⟩ := Option.ite_none_right_eq_some.mp e
  exact ⟨(Option.some.inj e).symm,hbound⟩

lemma setPar_mapped {r : Alloc} (e : setPar r fb = some fb') (hvar : fb.var.Good)
  (hline : fb.var.xresVirtual.toNat * fb.var.bitsPerPixel.toNat < 2 ^ 32)
  (hsize : fb.var.yresVirtual.toNat * (fb.var.xresVirtual.toNat * (fb.var.bitsPerPixel.toNat / 8)) < 2 ^ 32)
  (hmem : fb.mem = some (fb.smemStart.toNat, fb.smemLen.toNat))
  (hbound : fb.smemStart.toNat + fb.smemLen.toNat ≤ 2 ^ 32)
  (hr : fb.smemLen.toNat < fb.var.yresVirtual.toNat * (fb.var.xresVirtual.toNat * (fb.var.bitsPerPixel.toNat / 8)) →
    r.isBlock = true) : Mapped fb' := by
  have hlen : (fb.var.yresVirtual * (fb.var.xresVirtual * fb.var.bitsPerPixel / 8)).toNat =
      fb.var.yresVirtual.toNat * (fb.var.xresVirtual.toNat * (fb.var.bitsPerPixel.toNat / 8)) := by
    rw [BitVec.toNat_mul,hvar.line hline,Nat.mod_eq_of_lt hsize]
  unfold setPar at e
  dsimp only at e
  split at e
  · rename_i hlt
    have hlt : fb.smemLen < fb.var.yresVirtual * (fb.var.xresVirtual * fb.var.bitsPerPixel / 8) := hlt
    rw [BitVec.lt_def,hlen] at hlt
    cases r with
    | failed handle => cases hr hlt
    | block a =>
      generalize hx : (if (setFix fb).smemStart ≠ 0 then unmapVideoMemory (setFix fb) else setFix fb) = x at e
      obtain ⟨hxvar,hxline⟩ : x.var = fb.var ∧ x.lineLength = fb.var.xresVirtual * fb.var.bitsPerPixel / 8 := by
        rw [← hx]
        split <;> exact ⟨rfl,rfl⟩
      cases hz : mapVideoMemory (.block a) x with
      | none =>
        rw [hz] at e
        cases e
      | some z =>
        obtain ⟨rfl,hbound'⟩ := mapVideoMemory_block hz
        rw [hz] at e
        cases e
        have hlen' : (x.lineLength * x.var.yresVirtual).toNat =
            fb.var.yresVirtual.toNat * (fb.var.xresVirtual.toNat * (fb.var.bitsPerPixel.toNat / 8)) := by
          rw [hxvar,hxline,BitVec.mul_comm,hlen]
        refine updateLcdc_mapped ?_ ?_ rfl hbound'
        · rw [hxvar]
          exact hvar
        · show x.var.yresVirtual.toNat * (x.var.xresVirtual.toNat * (x.var.bitsPerPixel.toNat / 8)) ≤
            (x.lineLength * x.var.yresVirtual).toNat
          rw [hlen',hxvar]
  · rename_i hlt
    have hlt : ¬fb.smemLen < fb.var.yresVirtual * (fb.var.xresVirtual * fb.var.bitsPerPixel / 8) := hlt
    rw [BitVec.lt_def,hlen] at hlt
    cases e
    exact updateLcdc_mapped hvar (not_lt.mp hlt) hmem hbound

lemma fbSetVar_mapped {v : Var} {now : Bool} {r : Alloc} (h : Mapped fb)
  (hok : now = true → Fits fb.var v ∧ (fb.smemLen.toNat < v.size → r.isBlock = true))
  (e : fbSetVar v now r fb = some fb') : Mapped fb' := by
  unfold fbSetVar at e
  split at e
  · rename_i hnow
    obtain ⟨hfits,hr⟩ := hok hnow
    obtain ⟨hgood,hwidth,hheight,hdepth⟩ := checkVar_fits hfits h.var
    have hline := hfits.line
    have hsize := hfits.size
    unfold Var.size at hsize hr
    rw [← hwidth,← hdepth] at hline
    rw [← hwidth,← hheight,← hdepth] at hsize hr
    exact setPar_mapped e hgood hline hsize h.mem h.bound hr
  · cases e
    exact h

lemma panDisplay_mapped {v : Var} (h : Mapped fb) (hx : v.xoffset.toNat + fb.var.xres.toNat < 2 ^ 32)
  (hy : v.yoffset.toNat + fb.var.yres.toNat < 2 ^ 32) : Mapped (panDisplay v fb) := by
  unfold panDisplay
  split
  · exact h
  split
  · exact h
  rename_i hno
  rw [not_or,BitVec.lt_def,BitVec.lt_def,BitVec.toNat_add,BitVec.toNat_add,Nat.mod_eq_of_lt hx,
    Nat.mod_eq_of_lt hy] at hno
  exact updateLcdc_mapped ⟨h.var.depth,not_lt.mp hno.1,not_lt.mp hno.2⟩ h.size h.mem h.bound

lemma mapped_step (h : Mapped fb) (hok : FbOk fb e) (hstep : step fb e = some fb') : Mapped fb' := by
  cases e with
  | setVar v now r => exact fbSetVar_mapped h hok hstep
  | pan v =>
    cases hstep
    exact panDisplay_mapped h hok.1 hok.2

end Steps

/-- **The controller reads the buffer only**. -/
theorem scan_run (fb : Fb) (l : List Event) (hfb : Mapped fb) (h : Run.AllSteps step FbOk fb l) :
  Run.AllStates step Inside fb l :=
  h.keeps (J := Mapped) (fun _ _ _ hJ hok e => mapped_step hJ hok e) (fun _ hJ => hJ.inside) hfb

def qvga : Fb :=
  updateLcdc ⟨⟨320, 240, 320, 480, 0, 240, 16⟩, 640, 0x1000000, 307200, some (0x1000000, 307200), ⟨0, 0, 0, 0, 0⟩⟩

lemma qvga_mapped : Mapped qvga :=
  ⟨⟨.inl rfl, by decide, by decide⟩, by decide, rfl, by decide, rfl⟩

def modeRun : List Event :=
  [.pan ⟨320, 240, 320, 480, 0, 0, 16⟩, .setVar ⟨640, 480, 640, 480, 0, 0, 32⟩ true (.block 0x2000000)]

theorem scan_modes :
  ((modeRun.foldlM step qvga).map fun fb => (fb.lcdc.start, fb.mem)) =
    some (0x2000000, some (0x2000000, 1228800)) ∧
  Run.AllSteps step FbOk qvga modeRun ∧ Run.AllStates step Inside qvga modeRun := by
  have h : Run.AllSteps step FbOk qvga modeRun := by decide +kernel
  exact ⟨by decide +kernel,h,scan_run qvga modeRun qvga_mapped h⟩

lemma not_inside {fb : Fb} (y x : ℕ) (hy : y < fb.lcdc.yres.toNat) (hx : x < fb.lcdc.xres.toNat)
  (h : fb.smemStart.toNat + fb.smemLen.toNat <
    fb.lcdc.start.toNat + (y * fb.lcdc.xresVirtual.toNat + x) * fb.lcdc.bytes.toNat + fb.lcdc.bytes.toNat) :
  ¬Inside fb := fun hin => absurd (hin.pixels y hy x hx).2 (not_le.mpr h)

/-- **The controller reads beyond the buffer**. -/
theorem scan_outside :
  ¬Run.AllStates step Inside qvga [.setVar ⟨640, 240, 640, 240, 0, 240, 16⟩ true (.failed 0)] ∧
  ¬Run.AllStates step Inside qvga [.setVar ⟨65536, 65536, 65536, 65536, 0, 0, 16⟩ true (.failed 0)] ∧
  ¬Run.AllStates step Inside qvga [.setVar ⟨640, 480, 640, 480, 0, 0, 32⟩ true (.failed 0)] := by
  refine ⟨fun h => ?_,fun h => ?_,fun h => ?_⟩
  · exact not_inside 0 0 (by decide) (by decide) (by decide) (h.2 _ rfl)
  · exact not_inside 65535 0 (by decide) (by decide) (by decide) (h.2 _ rfl)
  · have hin : Inside _ := h.2 _ rfl
    cases hin.mem

end Mx27.Video
