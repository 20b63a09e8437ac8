/-
# The dividers

`round_rate`, `set_rate` and `recalc` of the clocks that divide the rate of their parent.
-/
import Mx27Drivers.Mach.Rates

namespace Mx27.Mach

open Clk (EINVAL)
open Bits

/-! ### Rounding -/

section Rounding
variable {lo hi B r d q : ℕ}

def ceilQuot (B r : ℕ) : ℕ := B / r + if B % r = 0 then 0 else 1

lemma ceilQuot_le_iff (hr : 0 < r) : ceilQuot B r ≤ d ↔ B ≤ d * r := by
  have hdiv := Nat.div_add_mod B r
  have hmod := Nat.mod_lt B hr
  rw [ceilQuot,← Nat.lt_succ_iff,← Nat.lt_succ_iff (n := d * r)]
  split
  · next h0 =>
    rw [h0,Nat.add_zero] at hdiv
    rw [Nat.add_zero,Nat.lt_succ_iff,Nat.lt_succ_iff,← hdiv,Nat.mul_div_cancel_left _ hr,Nat.mul_comm]
    exact (Nat.mul_le_mul_right_iff hr).symm
  · next h0 =>
    rw [Nat.lt_succ_iff,Nat.lt_succ_iff,Nat.add_one_le_iff,Nat.div_lt_iff_lt_mul hr]
    refine ⟨Nat.le_of_lt,fun h => lt_of_le_of_ne h fun he => h0 ?_⟩
    rw [he,Nat.mul_mod_left]

def roundedDiv (lo hi B r : ℕ) : ℕ := min (max lo (ceilQuot B r)) hi

def Best (lo hi B r q : ℕ) : Prop :=
  (∃ d, lo ≤ d ∧ d ≤ hi ∧ q = B / d) ∧
    ((q ≤ r ∧ ∀ d, lo ≤ d → d ≤ hi → B / d ≤ r → B / d ≤ q) ∨
      ∀ d, lo ≤ d → d ≤ hi → r < B / d ∧ q ≤ B / d)

def Clean (lo hi B r : ℕ) : Prop := ∀ d, lo ≤ d → d < hi → B / d = r → d ∣ B

lemma roundedDiv_bounds (h : lo ≤ hi) : lo ≤ roundedDiv lo hi B r ∧ roundedDiv lo hi B r ≤ hi :=
  ⟨le_min (le_max_left ..) h, min_le_right ..⟩

lemma div_succ_lt (h0 : 0 < d) (h : d * (d + 1) ≤ B) : B / (d + 1) < B / d := by
  have hq : d ≤ B / (d + 1) := (Nat.le_div_iff_mul_le (Nat.succ_pos d)).mpr h
  refine (Nat.le_div_iff_mul_le h0).mpr ?_
  calc (B / (d + 1)).succ * d = B / (d + 1) * d + d := Nat.succ_mul ..
    _ ≤ B / (d + 1) * d + B / (d + 1) := Nat.add_le_add_left hq _
    _ = B / (d + 1) * (d + 1) := (Nat.mul_succ ..).symm
    _ ≤ B := Nat.div_mul_le_self ..

lemma le_div_of_lt (hr : 0 < r) (h0 : 0 < d) (hlo : lo ≤ d) (h : d < roundedDiv lo hi B r) : d * r < B ∧ r ≤ B / d := by
  have hc : d < ceilQuot B r := by
    rcases lt_max_iff.mp (lt_of_lt_of_le h (min_le_left ..)) with h | h
    · omega
    · exact h
  have hlt : d * r < B := by
    by_contra hn
    exact absurd ((ceilQuot_le_iff hr).mpr (Nat.le_of_not_lt hn)) (Nat.not_le.mpr hc)
  exact ⟨hlt,(Nat.le_div_iff_mul_le h0).mpr (by rw [Nat.mul_comm]; exact hlt.le)⟩

lemma best_roundedDiv_iff (hlo : 0 < lo) (hle : lo ≤ hi) (hB : hi * hi ≤ B) (hr : 0 < r) :
  Best lo hi B r (B / roundedDiv lo hi B r) ↔ Clean lo hi B r := by
  set m := roundedDiv lo hi B r with hm
  obtain ⟨hm1,hm2⟩ := roundedDiv_bounds (B := B) (r := r) hle
  constructor
  · rintro ⟨-,hbest⟩ d hd1 hd2 hdr
    by_contra hdvd
    have hdm : d < m := by
      by_contra hn
      have hc : ceilQuot B r ≤ d := by
        have := min_le_iff.mp (Nat.le_of_not_lt hn)
        rcases this with h | h
        · exact le_trans (le_max_right ..) h
        · omega
      have hB' := (ceilQuot_le_iff hr).mp hc
      refine hdvd ⟨r,le_antisymm hB' ?_⟩
      rw [← hdr]
      exact Nat.mul_div_le B d
    rcases hbest with ⟨-,hmax⟩ | hmin
    · have h1 := hmax d hd1 hd2.le hdr.le
      have h2 := div_succ_lt (B := B) (show 0 < d by omega) (le_trans (Nat.mul_le_mul (by omega) (by omega)) hB)
      have h3 := Nat.div_le_div_left (a := B) (show d + 1 ≤ m from hdm) (Nat.succ_pos d)
      omega
    · have := (hmin d hd1 hd2.le).1
      omega
  · intro hclean
    -- below `m` every rate is above `r`
    have hbelow : ∀ d, lo ≤ d → d < m → r < B / d := by
      intro d hd1 hd2
      obtain ⟨h1,h2⟩ := le_div_of_lt hr (show 0 < d by omega) hd1 hd2
      refine lt_of_le_of_ne h2 fun he => ?_
      have hdvd := Nat.mul_div_cancel' (hclean d hd1 (lt_of_lt_of_le hd2 hm2) he.symm)
      rw [← he] at hdvd
      omega
    refine ⟨⟨m,hm1,hm2,rfl⟩,?_⟩
    by_cases hq : B / m ≤ r
    · refine .inl ⟨hq,fun d hd1 _ hdr => ?_⟩
      have hmd : m ≤ d := by
        by_contra hn
        have := hbelow d hd1 (Nat.lt_of_not_le hn)
        omega
      exact Nat.div_le_div_left hmd (by omega)
    · -- only the last divider gives more than asked for
      have hlast : m = hi := by
        by_contra hne
        have hc : ceilQuot B r ≤ m := by
          rw [hm,roundedDiv] at hne ⊢
          rw [min_eq_left (by omega)]
          exact le_max_right ..
        exact hq (Nat.div_le_of_le_mul ((ceilQuot_le_iff hr).mp hc))
      refine .inr fun d hd1 hd2 => ?_
      have := Nat.div_le_div_left (a := B) (show d ≤ m by omega) (show 0 < d by omega)
      omega

lemma rounded_self_iff (hlo : 0 < lo) (hB : hi * hi ≤ B) (hd1 : lo ≤ d) (hd2 : d ≤ hi) :
  B / roundedDiv lo hi B (B / d) = B / d ↔ Clean lo hi B (B / d) := by
  have hq : 0 < B / d := Nat.div_pos (by nlinarith) (by omega)
  rw [← best_roundedDiv_iff hlo (hd1.trans hd2) hB hq]
  constructor
  · intro h
    rw [h]
    exact ⟨⟨d,hd1,hd2,rfl⟩,.inl ⟨le_rfl,fun _ _ _ h => h⟩⟩
  · rintro ⟨-,⟨hle,hmax⟩ | hmin⟩
    · exact le_antisymm hle (hmax d hd1 hd2 le_rfl)
    · exact absurd (hmin d hd1 hd2).1 (lt_irrefl _)

end Rounding

inductive Divided
  | per | vpu | cpu | clko

namespace Divided

def lo : Divided → ℕ
  | .vpu => 4
  | _ => 1

def hi : Divided → ℕ
  | .per => 64
  | .vpu => 67
  | .cpu => 4
  | .clko => 8

def base : Divided → ℕ → ℕ
  | .vpu, P => P * 2
  | _, P => P

def roundRate : Divided → Mx27Clk → BitVec 32 → State → Option (BitVec 32)
  | .per => clkPerclkxRoundRate
  | .vpu => clkVpuRoundRate
  | .cpu => clkCpuRoundRate
  | .clko => clkClkoRoundRate

end Divided

section Rounded
variable {B r : BitVec 32}

lemma toNat_ceilQuot (hr : 0 < r.toNat) :
  (if B % r ≠ 0 then B / r + 1 else B / r).toNat = ceilQuot B.toNat r.toNat := by
  have hz : B % r = 0 ↔ B.toNat % r.toNat = 0 := by rw [← BitVec.toNat_inj]; rfl
  rw [ceilQuot]
  by_cases h0 : B.toNat % r.toNat = 0
  · rw [if_neg (not_not.mpr (hz.mpr h0)),if_pos h0]
    rfl
  · have hr1 : r.toNat ≠ 1 := fun h => h0 (by rw [h,Nat.mod_one])
    have hlt : B.toNat / r.toNat + 1 < 2 ^ 32 := by
      have := Nat.div_le_div_left (a := B.toNat) (show 2 ≤ r.toNat by omega) (by decide)
      have := B.isLt
      omega
    rw [if_pos (fun h => h0 (hz.mp h)),if_neg h0,BitVec.toNat_add,BitVec.toNat_udiv]
    exact Nat.mod_eq_of_lt hlt

lemma toNat_ceiling (x hi : BitVec 32) : (if hi < x then hi else x).toNat = min x.toNat hi.toNat := by
  split
  · next h => rw [min_eq_right (BitVec.lt_def.mp h).le]
  · next h => rw [min_eq_left (BitVec.le_def.mp (BitVec.not_lt.mp h))]

lemma toNat_floor (x lo : BitVec 32) : (if x < lo then lo else x).toNat = max lo.toNat x.toNat := by
  split
  · next h => rw [max_eq_left (BitVec.lt_def.mp h).le]
  · next h => rw [max_eq_right (BitVec.le_def.mp (BitVec.not_lt.mp h))]

lemma toNat_roundDiv {hi : BitVec 32} (hr : 0 < r.toNat) (hB : 0 < B.toNat) :
  (roundDiv hi B r).toNat = B.toNat / roundedDiv 1 hi.toNat B.toNat r.toNat := by
  have hpos : 1 ≤ ceilQuot B.toNat r.toNat := by
    by_contra hn
    have := (ceilQuot_le_iff (B := B.toNat) (d := 0) hr).mp (by omega)
    omega
  rw [roundDiv,BitVec.toNat_udiv,toNat_ceiling,toNat_ceilQuot hr,roundedDiv,max_eq_right hpos]

lemma toNat_roundRate (k : Divided) {clk p : Mx27Clk} {s : State} (hp : s.parent clk = some p)
  (hlo : 10 ^ 4 ≤ (s.rate p).toNat) (hhi : (s.rate p).toNat < 2 ^ 31) (hr : 0 < r.toNat) :
  ∃ q, k.roundRate clk r s = some q ∧ q.toNat = k.base (s.rate p).toNat /
    roundedDiv k.lo k.hi (k.base (s.rate p).toNat) r.toNat := by
  have hP : 0 < (s.rate p).toNat := by omega
  cases k with
  | vpu =>
    have hbase : (s.rate p * 2).toNat = (s.rate p).toNat * 2 := by
      rw [BitVec.toNat_mul]
      exact Nat.mod_eq_of_lt (by simp; omega)
    refine ⟨_,by rw [Divided.roundRate,clkVpuRoundRate,hp]; rfl,?_⟩
    rw [BitVec.toNat_udiv,toNat_ceiling,toNat_floor,toNat_ceilQuot hr,hbase]
    rfl
  | per => exact ⟨_,by rw [Divided.roundRate,clkPerclkxRoundRate,hp]; rfl,toNat_roundDiv hr hP⟩
  | cpu => exact ⟨_,by rw [Divided.roundRate,clkCpuRoundRate,hp]; rfl,toNat_roundDiv hr hP⟩
  | clko => exact ⟨_,by rw [Divided.roundRate,clkClkoRoundRate,hp]; rfl,toNat_roundDiv hr hP⟩

end Rounded

def slowParent (pcdr0 : BitVec 32) : State :=
  ⟨fun _ => some .mpllClk, fun _ => none, fun _ => 10000, fun _ => 0, fun _ => pcdr0⟩

section Peripheral
variable {c p : Mx27Clk} {s : State}

lemma div_div_eq {B d : ℕ} (h0 : 0 < d) (h : d * d ≤ B) : B / (B / d) = d := by
  have hd : d ≤ B / d := (Nat.le_div_iff_mul_le h0).mpr h
  refine Nat.div_eq_of_lt_le (Nat.mul_div_le B d) ?_
  calc B < d * (B / d + 1) := Nat.lt_mul_div_succ B h0
    _ = d * (B / d) + d := Nat.mul_succ ..
    _ ≤ d * (B / d) + B / d := Nat.add_le_add_left hd _
    _ = (d + 1) * (B / d) := (Nat.succ_mul ..).symm

lemma exactDiv_roundDiv {B r : BitVec 32} (hB : 4096 ≤ B.toNat) (hr : 0 < r.toNat) :
  ∃ div, exactDiv 1 64 B (roundDiv 64 B r) = some div ∧ 1 ≤ div.toNat ∧ div.toNat ≤ 64 ∧ B / div = roundDiv 64 B r := by
  obtain ⟨h1,h2⟩ : 1 ≤ roundedDiv 1 64 B.toNat r.toNat ∧ roundedDiv 1 64 B.toNat r.toNat ≤ 64 := roundedDiv_bounds (by decide)
  have hq : (roundDiv 64 B r).toNat = B.toNat / roundedDiv 1 64 B.toNat r.toNat := toNat_roundDiv hr (by omega)
  have hdiv : (B / roundDiv 64 B r).toNat = roundedDiv 1 64 B.toNat r.toNat := by
    rw [BitVec.toNat_udiv,hq]
    exact div_div_eq h1 ((Nat.mul_le_mul h2 h2).trans hB)
  have hback : B / (B / roundDiv 64 B r) = roundDiv 64 B r := by
    rw [← BitVec.toNat_inj,BitVec.toNat_udiv,hdiv,hq]
  refine ⟨_,?_,by rw [hdiv]; exact h1,by rw [hdiv]; exact h2,hback⟩
  rw [exactDiv]
  refine if_neg ?_
  rw [not_or,not_or,not_not,BitVec.not_lt,BitVec.not_lt,BitVec.le_def,BitVec.le_def,hdiv]
  exact ⟨h2,h1,hback⟩

lemma getLsbD_put {f : Field} {x : BitVec 32} (hx : x.toNat < 2 ^ f.len) (hw : Ccm) {n : ℕ} (hn : n < 32)
  (hout : ¬ (f.off ≤ n ∧ n < f.off + f.len)) : (f.put x hw).getLsbD n = (hw f.reg).getLsbD n :=
  (getLsbD_putField hx n hn).trans (if_neg hout)

/-- **The divider of a peripheral clock is read back.** -/
theorem perclkx_roundTrip (i : Fin 4) (hp : s.parent c = some p) (hP : 4096 ≤ (s.rate p).toNat) {r : BitVec 32}
  (hr : 1 ≤ r.toNat) :
  (∃ q s', clkPerclkxRoundRate c r s = some q ∧ clkPerclkxSetRate i c q s = some (0, s') ∧
    clkPerclkxRecalc i s'.hw (s'.rate c) (s.rate p) = q ∧
    (∀ j, j ≠ i → (perdiv j).read s'.hw = (perdiv j).read s.hw) ∧
    ∀ n : ℕ, n < 32 → ¬ (8 * (i : ℕ) ≤ n ∧ n < 8 * i + 6) → (s'.hw .pcdr1).getLsbD n = (s.hw .pcdr1).getLsbD n) ∧
  ∀ q s', clkPerclkxSetRate i c q s = some (-EINVAL, s') → s'.hw .pcdr1 = s.hw .pcdr1 ∧ s'.rate c = s.rate c := by
  constructor
  · obtain ⟨div,hdiv,h1,h2,hback⟩ := exactDiv_roundDiv hP hr
    obtain ⟨hx,hadd⟩ := div_field (k := 1) 6 h1 (by simp; omega)
    refine ⟨_,_,by rw [clkPerclkxRoundRate,hp]; rfl,clkPerclkxSetRate_some hp hdiv,?_,fun j hj => ?_,fun n hn hout => ?_⟩
    · rw [clkPerclkxRecalc_eq,Field.read_write_self _ hx,hadd]
      exact hback
    · refine Field.read_write_disjoint (fun _ => ?_) hx s.hw
      show 8 * (i : ℕ) + 6 ≤ 8 * j ∨ 8 * (j : ℕ) + 6 ≤ 8 * i
      omega
    · show (rawWritel _ (perdiv i).reg.addr s.hw .pcdr1).getLsbD n = _
      rw [show CcmReg.pcdr1 = (perdiv i).reg from rfl,rawWritel_self]
      exact getLsbD_put hx s.hw hn hout
  · intro q s' h
    cases hdiv : exactDiv 1 64 (s.rate p) q with
    | none =>
      rw [clkPerclkxSetRate_none hp hdiv] at h
      cases h
      exact ⟨rfl,rfl⟩
    | some div =>
      rw [clkPerclkxSetRate_some hp hdiv] at h
      exact absurd (Prod.mk.inj (Option.some.inj h)).1 (by decide)

/-- A third of 10 kHz is set and read back. -/
theorem perclkx_roundTrip_third : ∃ q s', clkPerclkxRoundRate .perClk2 3334#32 (slowParent 0) = some q ∧
  clkPerclkxSetRate 2 .perClk2 q (slowParent 0) = some (0, s') ∧ clkPerclkxRecalc 2 s'.hw (s'.rate .perClk2) 10000 = q := by
  obtain ⟨q,s',hq,hs',hback,-⟩ := (perclkx_roundTrip (c := .perClk2) (p := .mpllClk) (s := slowParent 0)
    (r := 3334#32) 2 rfl (by decide) (by decide)).1
  exact ⟨q,s',hq,hs',hback⟩

end Peripheral

def vpudiv (rev : ℕ) : Field := if isTo2 rev then pcdr0Vpudiv2 else pcdr0Vpudiv

def VpuProgrammed (rev : ℕ) (hw hw' : Ccm) (P r : BitVec 32) : Prop :=
  clkVpuRecalc rev hw' P = r ∧
    ∀ n, n < 32 → ¬ ((vpudiv rev).off ≤ n ∧ n < (vpudiv rev).off + (vpudiv rev).len) →
      (hw' .pcdr0).getLsbD n = (hw .pcdr0).getLsbD n

lemma vpu_programmed {rev : ℕ} {c p : Mx27Clk} {s s' : State} {r : BitVec 32} (hto : isTo2 rev) (hp : s.parent c = some p)
  (h : clkVpuSetRate c r s = some (0, s')) : VpuProgrammed rev s.hw s'.hw (s.rate p) r := by
  rw [clkVpuSetRate,hp] at h
  simp only [Option.bind_eq_bind,Option.bind_some] at h
  split at h
  · cases h
  · next div hdiv =>
    obtain ⟨h1,h2,h3⟩ := exactDiv_some hdiv
    obtain ⟨hx,hadd⟩ := div_field 6 h1 (by simp at h2 ⊢; omega)
    cases h
    refine ⟨?_,fun n hn hout => ?_⟩
    · rw [clkVpuRecalc,baudDiv,if_pos hto]
      refine (congrArg (2 * s.rate p / · ) ((congrArg (· + 4) (pcdr0Vpudiv2.read_write_self hx s.hw)).trans hadd)).trans ?_
      rw [BitVec.mul_comm,h3]
    · rw [vpudiv,if_pos hto] at hout
      show (rawWritel (pcdr0Vpudiv2.put (div - 4) s.hw) CcmReg.pcdr0.addr s.hw .pcdr0).getLsbD n = _
      rw [rawWritel_self]
      exact getLsbD_put hx s.hw hn hout

/-- **The VPU clock is programmed on TO2 only**: `set_rate` writes the field of TO2 on every chip. -/
theorem vpu_programs_iff (rev : ℕ) :
  (∀ (c p : Mx27Clk) (s s' : State) (r : BitVec 32), s.parent c = some p → 10 ^ 4 ≤ (s.rate p).toNat →
    (s.rate p).toNat < 2 ^ 31 → clkVpuSetRate c r s = some (0, s') → VpuProgrammed rev s.hw s'.hw (s.rate p) r) ↔
  isTo2 rev := by
  refine ⟨fun h => ?_,fun hto c p s s' r hp _ _ => vpu_programmed hto hp⟩
  by_contra hto
  obtain ⟨s',hset,hrate⟩ : ∃ s', clkVpuSetRate .vpuClk 5000 (slowParent 0) = some (0, s') ∧
      clkVpuRecalc CHIP_REV_1_0 s'.hw 10000 = 161 := ⟨_,rfl,by decide⟩
  have hback := (h .vpuClk .mpllClk _ _ _ rfl (by decide) (by decide) hset).1
  rw [clkVpuRecalc,baudDiv,if_neg hto] at hback
  rw [clkVpuRecalc,baudDiv,if_neg (by decide)] at hrate
  exact absurd (hrate.symm.trans hback) (by decide)

/-- 5000 Hz are set on an early chip, and 161 Hz read back. -/
theorem vpu_not_programmed : ∃ s', clkVpuSetRate .vpuClk 5000 (slowParent 0) = some (0, s') ∧
  clkVpuRecalc CHIP_REV_1_0 s'.hw 10000 = 161 := ⟨_, rfl, by decide⟩

/-! ### The CPU clock -/

section Cpu
variable {rev : ℕ} {c p : Mx27Clk} {s s' : State}

lemma rawWritel_swapped (v : BitVec 32) (hw : Ccm) :
  rawWritel CcmReg.cscr.addr v hw .cscr = if v = CcmReg.cscr.addr then v else hw .cscr := by
  rw [rawWritel]
  by_cases h : v = CcmReg.cscr.addr
  · rw [if_pos h,if_pos h.symm,h]
  · rw [if_neg h,if_neg (Ne.symm h)]

def ArmSource (hw : Ccm) (parent : Mx27Clk) : Prop :=
  (parent = .mpllMainClk0 ∧ hw .cscr &&& cscrArmSrc ≠ 0#32) ∨ (parent = .mpllMainClk1 ∧ hw .cscr &&& cscrArmSrc = 0#32)

instance (hw : Ccm) (parent : Mx27Clk) : Decidable (ArmSource hw parent) := inferInstanceAs (Decidable (_ ∨ _))

def armSourced (hw : Ccm) (parent : Mx27Clk) : BitVec 32 :=
  if parent = .mpllMainClk0 then hw .cscr ||| cscrArmSrc else hw .cscr &&& ~~~cscrArmSrc

def CpuProgrammed (rev : ℕ) (hw hw' : Ccm) (P r : BitVec 32) : Prop :=
  cscrArm.read hw' + 1 = P / r ∧ clkCpuRecalc rev hw' P = r ∧
    ∀ n, n < 32 → ¬ (12 ≤ n ∧ n < 14) → (hw' .cscr).getLsbD n = (hw .cscr).getLsbD n

lemma cpu_setRate_iff (hto : isTo2 rev) (hp : s.parent c = some p) {r : BitVec 32}
  (h : clkCpuSetRate c r s = some (0, s')) : CpuProgrammed rev s.hw s'.hw (s.rate p) r ↔
    cscrArm.read s.hw = s.rate p / r - 1 ∨ cscrArm.put (s.rate p / r - 1) s.hw = CcmReg.cscr.addr := by
  rw [clkCpuSetRate,hp] at h
  simp only [Option.bind_eq_bind,Option.bind_some] at h
  cases hdiv : exactDiv 1 4 (s.rate p) r with
  | none =>
    rw [hdiv] at h
    exact absurd (Prod.mk.inj (Option.some.inj h)).1 (by decide)
  | some div =>
    obtain rfl : s.rate p / r = div := exactDiv_eq hdiv
    rw [hdiv] at h
    cases h
    obtain ⟨h1,h2,h3⟩ := exactDiv_some hdiv
    obtain ⟨hx,hadd⟩ := div_field 2 h1 (by simp at h2 ⊢; omega)
    have hcscr := rawWritel_swapped (cscrArm.put (s.rate p / r - 1) s.hw) s.hw
    by_cases haddr : cscrArm.put (s.rate p / r - 1) s.hw = CcmReg.cscr.addr
    · rw [if_pos haddr] at hcscr
      have hread : cscrArm.read (rawWritel CcmReg.cscr.addr (cscrArm.put (s.rate p / r - 1) s.hw) s.hw) = s.rate p / r - 1 := by
        rw [Field.read_eq_fieldOf]
        show fieldOf (rawWritel _ _ s.hw .cscr) _ _ = _
        rw [hcscr]
        exact fieldOf_putField hx (by decide)
      refine iff_of_true ⟨by rw [hread,hadd],?_,fun n hn hout => ?_⟩ (.inr haddr)
      · rw [clkCpuRecalc,if_pos hto,hread,hadd,h3]
      · exact (congrArg (fun v => BitVec.getLsbD v n) hcscr).trans (getLsbD_put hx s.hw hn hout)
    · rw [if_neg haddr] at hcscr
      have hread : cscrArm.read (rawWritel CcmReg.cscr.addr (cscrArm.put (s.rate p / r - 1) s.hw) s.hw) = cscrArm.read s.hw :=
        cscrArm.read_congr hcscr
      rw [or_iff_left haddr,CpuProgrammed,hread]
      constructor
      · rintro ⟨hfield,-⟩
        rw [← hfield,BitVec.add_sub_cancel]
      · intro hfield
        refine ⟨by rw [hfield,hadd],?_,fun n _ _ => congrArg (fun v => BitVec.getLsbD v n) hcscr⟩
        rw [clkCpuRecalc,if_pos hto,hread,hfield,hadd,h3]

lemma cpu_setParent_iff {parent : Mx27Clk} {par : Option Mx27Clk} {hw' : Ccm}
  (h : clkCpuSetParent rev c parent s = (0, par, hw')) : ArmSource hw' parent ↔
    ArmSource s.hw parent ∨ (s.parent c ≠ some parent ∧ armSourced s.hw parent = CcmReg.cscr.addr) := by
  have hset : ∀ v : BitVec 32, (v ||| cscrArmSrc) &&& cscrArmSrc ≠ 0#32 := fun v h => by
    have := congrArg (fun b => BitVec.getLsbD b 15) h
    simp [cscrArmSrc] at this
  have hclear : ∀ v : BitVec 32, (v &&& ~~~cscrArmSrc) &&& cscrArmSrc = 0#32 := fun v => by
    rw [BitVec.and_assoc,BitVec.and_comm (~~~cscrArmSrc),show cscrArmSrc &&& ~~~cscrArmSrc = 0#32 by decide,BitVec.and_zero]
  unfold clkCpuSetParent at h
  simp only at h
  split at h
  · next hsame =>
    cases h
    exact (or_iff_left fun hne => hne.1 hsame).symm
  next hsame =>
  split at h
  swap
  · exact absurd (Prod.mk.inj h).1 (by decide)
  split at h
  · next h0 =>
    cases h
    subst h0
    simp only [ArmSource,armSourced,rawWritel_swapped,true_and,reduceCtorEq,false_and,or_false,if_true,ne_eq,hsame,
      not_false_eq_true]
    split
    · next ha => exact iff_of_true (hset _) (.inr ha)
    · next ha => exact (or_iff_left ha).symm
  split at h
  · next h0 h1 =>
    cases h
    subst h1
    simp only [ArmSource,armSourced,rawWritel_swapped,true_and,reduceCtorEq,false_and,false_or,if_false,ne_eq,hsame,
      not_false_eq_true]
    split
    · next ha => exact iff_of_true (hclear _) (.inr ha)
    · next ha => exact (or_iff_left ha).symm
  · exact absurd (Prod.mk.inj h).1 (by decide)

/-- **When the CPU clock is programmed**. -/
theorem cpu_programs_iff (hto : isTo2 rev) (c : Mx27Clk) (s : State) :
  (∀ p r s', s.parent c = some p → 0 < (s.rate p).toNat → clkCpuSetRate c r s = some (0, s') →
    (CpuProgrammed rev s.hw s'.hw (s.rate p) r ↔
      cscrArm.read s.hw = s.rate p / r - 1 ∨ cscrArm.put (s.rate p / r - 1) s.hw = CcmReg.cscr.addr)) ∧
  ∀ parent par hw', clkCpuSetParent rev c parent s = (0, par, hw') →
    (ArmSource hw' parent ↔
      ArmSource s.hw parent ∨ (s.parent c ≠ some parent ∧ armSourced s.hw parent = CcmReg.cscr.addr)) :=
  ⟨fun _ _ _ hp _ h => cpu_setRate_iff hto hp h, fun _ _ _ h => cpu_setParent_iff h⟩

/-- Half the rate, where the field has it already. -/
theorem cpu_programs_half : ∃ s', clkCpuSetRate .cpuClk 5000 (slowParent 0x1000) = some (0, s') ∧
  CpuProgrammed CHIP_REV_2_0 (slowParent 0x1000).hw s'.hw 10000 5000 := by
  refine ⟨_,rfl,?_⟩
  exact ((cpu_programs_iff (by decide) .cpuClk (slowParent 0x1000)).1 .mpllClk 5000 _ rfl (by decide)
    rfl).mpr (.inl (by decide))

/-- `set_rate` to half the rate and `set_parent` to the other source return 0. -/
theorem cpu_not_programmed : ∃ s' par hw', clkCpuSetRate .cpuClk 5000 (slowParent 0) = some (0, s') ∧
  clkCpuRecalc CHIP_REV_2_0 s'.hw 10000 = 10000 ∧ s'.hw .cscr = 0 ∧
  clkCpuSetParent CHIP_REV_2_0 .cpuClk .mpllMainClk0 (slowParent 0) = (0, par, hw') ∧ ¬ ArmSource hw' .mpllMainClk0 :=
  ⟨_, _, _, rfl, by decide, by decide, rfl, by decide⟩

end Cpu

/-! ### The clock output -/

inductive ClkoCall
  | enable | disable | setRate (r : BitVec 32)
  deriving DecidableEq

def clkoStep (s : State) : ClkoCall → Option State
  | .enable => some { s with hw := (clkClkoEnable s.hw).2 }
  | .disable => some { s with hw := clkClkoDisable s.hw }
  | .setRate r => (clkClkoSetRate .clkoClk r s).map (·.2)

def ClkoOnly (hw hw' : Ccm) : Prop :=
  ∀ n, n < 32 → n < 22 ∨ 25 < n → (hw' .pcdr0).getLsbD n = (hw .pcdr0).getLsbD n

section Clko
variable {s t : State} {p : Mx27Clk}

lemma pcdr0ClkoEn_bit {n : ℕ} (h : pcdr0ClkoEn.getLsbD n = true) : n < 32 ∧ (n < 22 ∨ 25 < n) := by
  have hn : n < 32 := BitVec.lt_of_getLsbD h
  exact ⟨hn,(show ∀ n,n < 32 → pcdr0ClkoEn.getLsbD n = true → n < 22 ∨ 25 < n by decide) n hn h⟩

lemma clkoOnly_enable_iff (hw : Ccm) : ClkoOnly hw (clkClkoEnable hw).2 ↔ Covers (hw .pcdr0) pcdr0ClkoEn := by
  have hreg : (clkClkoEnable hw).2 .pcdr0 = hw .pcdr0 ||| pcdr0ClkoEn := rawWritel_self _ .pcdr0 hw
  rw [covers_iff]
  constructor
  · intro h n hb
    obtain ⟨hn,hout⟩ := pcdr0ClkoEn_bit hb
    rw [← h n hn hout,hreg,BitVec.getLsbD_or,hb,Bool.or_true]
  · intro h n hn hout
    rw [hreg,BitVec.getLsbD_or]
    cases hb : pcdr0ClkoEn.getLsbD n with
    | false => rw [Bool.or_false]
    | true => rw [h n hb,Bool.or_true]

lemma clkoOnly_disable_iff (hw : Ccm) : ClkoOnly hw (clkClkoDisable hw) ↔ hw .pcdr0 &&& pcdr0ClkoEn = 0#32 := by
  have hreg : clkClkoDisable hw .pcdr0 = hw .pcdr0 &&& ~~~pcdr0ClkoEn := rawWritel_self _ .pcdr0 hw
  constructor
  · intro h
    refine BitVec.eq_of_getLsbD_eq fun n hn => ?_
    rw [BitVec.getLsbD_and,BitVec.getLsbD_zero]
    cases hb : pcdr0ClkoEn.getLsbD n with
    | false => rw [Bool.and_false]
    | true =>
      rw [← h n hn (pcdr0ClkoEn_bit hb).2,hreg,BitVec.getLsbD_and,BitVec.getLsbD_not,hb,Bool.not_true,Bool.and_false,
        Bool.and_false,Bool.false_and]
  · intro h n hn hout
    have hz := congrArg (fun b => BitVec.getLsbD b n) h
    rw [hreg,BitVec.getLsbD_and,BitVec.getLsbD_not]
    simp only [BitVec.getLsbD_and,BitVec.getLsbD_zero] at hz
    cases hb : pcdr0ClkoEn.getLsbD n with
    | false => simp [hn]
    | true => rw [hb,Bool.and_true] at hz; rw [hz,Bool.false_and]

lemma clkoSetRate_only (hp : s.parent .clkoClk = some p) (r : BitVec 32) :
  ∃ ret s', clkClkoSetRate .clkoClk r s = some (ret, s') ∧ s'.parent = s.parent ∧ ClkoOnly s.hw s'.hw := by
  rw [clkClkoSetRate,hp]
  simp only [Option.bind_eq_bind,Option.bind_some]
  cases hdiv : exactDiv 1 8 (s.rate p) r with
  | none => exact ⟨_,_,rfl,rfl,fun _ _ _ => rfl⟩
  | some div =>
    obtain ⟨h1,h2,-⟩ := exactDiv_some hdiv
    obtain ⟨hx,-⟩ := div_field 3 h1 (by simp at h2 ⊢; omega)
    refine ⟨_,_,rfl,rfl,fun n hn hout => ?_⟩
    show (rawWritel _ CcmReg.pcdr0.addr s.hw .pcdr0).getLsbD n = _
    rw [rawWritel_self]
    refine getLsbD_put (f := pcdr0Clkodiv) hx s.hw hn ?_
    rw [show pcdr0Clkodiv.off = 22 from rfl,show pcdr0Clkodiv.len = 3 from rfl]
    omega

def ClkoOk (t : State) : ClkoCall → Prop
  | .enable => Covers (t.hw .pcdr0) pcdr0ClkoEn
  | .disable => t.hw .pcdr0 &&& pcdr0ClkoEn = 0#32
  | .setRate _ => True

instance ClkoOk.decidable (t : State) : ∀ c, Decidable (ClkoOk t c)
  | .enable => inferInstanceAs (Decidable (Covers (t.hw .pcdr0) pcdr0ClkoEn))
  | .disable => inferInstanceAs (Decidable (t.hw .pcdr0 &&& pcdr0ClkoEn = 0#32))
  | .setRate _ => isTrue trivial

lemma ClkoOnly.step_iff {a b c : Ccm} (h : ClkoOnly a b) : ClkoOnly a c ↔ ClkoOnly b c :=
  ⟨fun hc n hn hout => (hc n hn hout).trans (h n hn hout).symm, fun hc n hn hout => (hc n hn hout).trans (h n hn hout)⟩

lemma clkoRun_only_iff (hp : s.parent .clkoClk = some p) (l : List ClkoCall) :
  Run.AllStates clkoStep (fun t => ClkoOnly s.hw t.hw) s l ↔ Run.AllSteps clkoStep ClkoOk s l := by
  refine Run.allStates_iff (J := fun t => t.parent .clkoClk = some p) (fun c t hp h => ?_) hp fun _ _ _ => rfl
  cases c with
  | enable => exact ⟨_,rfl,hp,h.step_iff.trans (clkoOnly_enable_iff t.hw)⟩
  | disable => exact ⟨_,rfl,hp,h.step_iff.trans (clkoOnly_disable_iff t.hw)⟩
  | setRate r =>
    obtain ⟨ret,t',e,hpar,honly⟩ := clkoSetRate_only hp r
    exact ⟨t',by rw [clkoStep,e]; rfl,by rw [hpar,hp],iff_of_true (h.step_iff.mpr honly) trivial⟩

lemma ClkoOnly.sameFields {hw hw' : Ccm} (h : ClkoOnly hw hw') (rev : ℕ) {c : Mx27Clk}
  (hc : c ∈ [Mx27Clk.ssi1Clk0, .ssi2Clk0, .vpuClk, .nfcClk]) : SameFields rev c hw hw' := by
  have hall : ∀ to2 : Bool, ∀ c ∈ [Mx27Clk.ssi1Clk0,.ssi2Clk0,.vpuClk,.nfcClk], ∀ f ∈ readFields to2 c,
      f.reg = .pcdr0 ∧ (f.off + f.len ≤ 22 ∨ 26 ≤ f.off) := by decide
  intro f hf
  obtain ⟨hreg,hout⟩ := hall _ c hc f hf
  rw [Field.read_eq_fieldOf,Field.read_eq_fieldOf,hreg]
  refine BitVec.eq_of_getLsbD_eq fun n hn => ?_
  have hfits := f.fits
  rw [getLsbD_fieldOf,getLsbD_fieldOf]
  by_cases hlen : n < f.len
  · rw [h (f.off + n) (by omega) (by omega)]
  · simp [hlen]

/-- **When the clock output is programmed and local**. -/
theorem clko_local_iff (rev : ℕ) (hp : s.parent .clkoClk = some p) :
  (∀ r s', 0 < (s.rate p).toNat → clkClkoSetRate .clkoClk r s = some (0, s') →
    (clkClkoRecalc s'.hw (s.rate p) = r ↔ s.rate p / (clkoRead.read s.hw + 1) = r)) ∧
  (∀ l, Run.AllStates clkoStep (fun t => ClkoOnly s.hw t.hw) s l ↔ Run.AllSteps clkoStep ClkoOk s l) ∧
  ∀ hw', ClkoOnly s.hw hw' → ∀ c ∈ [Mx27Clk.ssi1Clk0, .ssi2Clk0, .vpuClk, .nfcClk], SameFields rev c s.hw hw' := by
  refine ⟨fun r s' _ h => ?_,clkoRun_only_iff hp,fun hw' h c hc => h.sameFields rev hc⟩
  obtain ⟨ret,s'',e,-,honly⟩ := clkoSetRate_only hp r
  obtain rfl := (Prod.mk.inj (Option.some.inj (h.symm.trans e))).2
  have hread : clkoRead.read s'.hw = clkoRead.read s.hw := by
    rw [Field.read_eq_fieldOf,Field.read_eq_fieldOf]
    refine BitVec.eq_of_getLsbD_eq fun n hn => ?_
    rw [getLsbD_fieldOf,getLsbD_fieldOf]
    by_cases hlen : n < clkoRead.len
    · rw [show clkoRead.reg = .pcdr0 from rfl,honly _ _ _]
      all_goals simp [clkoRead] at hlen ⊢
      all_goals omega
    · simp [hlen]
  rw [clkClkoRecalc_eq,hread]

end Clko

/-- The rate is not divided and the bits of the number 25 are clear. -/
theorem clko_local_disable : Run.AllStates clkoStep (fun t => ClkoOnly (slowParent 0).hw t.hw) (slowParent 0)
  [.setRate 5000, .disable] :=
  ((clko_local_iff (p := .mpllClk) CHIP_REV_2_0 (s := slowParent 0) rfl).2.1 _).mpr (by decide)

/-- Half the rate is set, and `recalc` reads the undivided one. -/
theorem clko_not_local : ∃ s', clkClkoSetRate .clkoClk 5000 (slowParent 0) = some (0, s') ∧
  clkClkoRecalc s'.hw 10000 = 10000 ∧ (clkClkoEnable (slowParent 0).hw).2 .pcdr0 = 25 :=
  ⟨_, rfl, by decide, by decide⟩

end Mx27.Mach
