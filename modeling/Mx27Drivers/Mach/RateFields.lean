/-
# What the rates depend on

The fields of the registers that the `recalc` hook of each clock reads (`readFields`).
-/
import Mx27Drivers.Clock.Propagate
import Mx27Drivers.Mach.ClockTable

namespace Mx27.Mach

open List Option

open Clk Bits

def perdiv (i : Fin 4) : Field := ⟨.pcdr1, 8 * i, 6, by omega⟩

def clkoRead : Field := ⟨.pcdr0, 0, 3, by decide⟩

def pllFields (reg : CcmReg) : List Field := [pllPd reg, pllMfd reg, pllMfi reg, pllMfn reg]

def readFields (to2 : Bool) : Mx27Clk → List Field
  | .mpllClk => pllFields .mpctl0
  | .spllClk => pllFields .spctl0
  | .cpuClk => if to2 then [cscrArm] else [cscrPresc]
  | .ahbClk => if to2 then [cscrAhb] else [cscrBclk]
  | .ipgClk => if to2 then [] else [cscrIpdiv]
  | .usbClk0 => [cscrUsb]
  | .perClk0 => [perdiv 0]
  | .perClk1 => [perdiv 1]
  | .perClk2 => [perdiv 2]
  | .perClk3 => [perdiv 3]
  | .ssi1Clk0 => [pcdr0Ssi1bauddiv]
  | .ssi2Clk0 => [pcdr0Ssi2bauddiv]
  | .nfcClk => if to2 then [pcdr0Nfcdiv2] else [pcdr0Nfcdiv]
  | .vpuClk => if to2 then [pcdr0Vpudiv2] else [pcdr0Vpudiv]
  | .clkoClk => [clkoRead]
  | _ => []

def SameFields (rev : ℕ) (c : Mx27Clk) (hw hw' : Ccm) : Prop :=
  ∀ f ∈ readFields (decide (isTo2 rev)) c, f.read hw' = f.read hw

lemma clkPerclkxRecalc_eq (i : Fin 4) (hw : Ccm) (rate parentRate : BitVec 32) :
  clkPerclkxRecalc i hw rate parentRate = parentRate / ((perdiv i).read hw + 1) := by
  have hi : ¬ ((i : ℤ) < 0 ∨ 3 < (i : ℤ)) := by omega
  unfold clkPerclkxRecalc
  rw [if_neg hi,Field.read_eq_fieldOf]
  simp only [Int.toNat_natCast,Nat.shiftLeft_eq,perdiv,fieldOf,pcdr1Perdiv1Mask]
  rw [show (i : ℕ) * 2 ^ 3 = 8 * i by omega]
  rfl

lemma clkClkoRecalc_eq (hw : Ccm) (parentRate : BitVec 32) :
  clkClkoRecalc hw parentRate = parentRate / (clkoRead.read hw + 1) := by
  unfold clkClkoRecalc
  rw [Field.read_eq_fieldOf]
  simp only [fieldOf,clkoRead,BitVec.ushiftRight_zero]
  rfl

lemma probedDef_recalc (rev : ℕ) (c : Mx27Clk) :
  (probedDef rev c).recalc = (mx27ClkDef c).recalc ∧ (probedDef rev c).id = (mx27ClkDef c).id := by
  unfold probedDef
  split <;> exact ⟨rfl,rfl⟩

lemma ops_recalc (rev : ℕ) (c : Mx27Clk) :
  (ops rev c).recalc = (mx27ClkDef c).recalc.map (RecalcHook.run rev c (mx27ClkDef c).id) := by
  simp only [ops,probedDef_recalc]

lemma pllRate_congr {reg : CcmReg} {hw hw' : Ccm} (h : ∀ f ∈ pllFields reg, f.read hw' = f.read hw)
  (refClk : BitVec 32) : pllRate reg refClk hw' = pllRate reg refClk hw := by
  simp only [pllFields,forall_mem_cons] at h
  obtain ⟨h1,h2,h3,h4,-⟩ := h
  unfold pllRate
  rw [h1,h2,h3,h4]

lemma perclkx_congr {i : Fin 4} {hw hw' : Ccm} (h : (perdiv i).read hw' = (perdiv i).read hw)
  (rate parentRate : BitVec 32) :
  clkPerclkxRecalc i hw' rate parentRate = clkPerclkxRecalc i hw rate parentRate := by
  rw [clkPerclkxRecalc_eq,clkPerclkxRecalc_eq,h]

lemma recalc_congr {rev : ℕ} {c : Mx27Clk} {hw hw' : Ccm} (h : SameFields rev c hw hw')
  (g : Ccm → BitVec 32 → Mx27Clk → BitVec 32 → BitVec 32) (hg : (ops rev c).recalc = some g) :
  g hw' = g hw := by
  rw [ops_recalc] at hg
  obtain ⟨k,hk,rfl⟩ := map_eq_some_iff.mp hg
  funext o p r
  unfold SameFields at h
  cases c <;> cases hk
  case mpllClk => simp only [RecalcHook.run,clkPllRecalc,reduceIte,pllRate_congr h]
  case spllClk => simp only [RecalcHook.run,clkPllRecalc,reduceIte,reduceCtorEq,pllRate_congr h]
  case mpllMainClk0 => rfl
  case mpllMainClk1 => rfl
  case perClk0 => exact perclkx_congr (h _ (mem_singleton_self _)) o r
  case perClk1 => exact perclkx_congr (h _ (mem_singleton_self _)) o r
  case perClk2 => exact perclkx_congr (h _ (mem_singleton_self _)) o r
  case perClk3 => exact perclkx_congr (h _ (mem_singleton_self _)) o r
  case clkoClk =>
    simp only [RecalcHook.run,clkClkoRecalc_eq,h _ (mem_singleton_self _)]
  all_goals by_cases hto : isTo2 rev
  all_goals simp only [hto,decide_true,decide_false,readFields,↓reduceIte,forall_mem_singleton,
    Bool.false_eq_true,not_mem_nil] at h
  all_goals simp only [RecalcHook.run,clkCpuRecalc,clkAhbRecalc,clkIpgRecalc,clkUsbRecalc,clkSsi1Recalc,
    clkSsi2Recalc,clkNfcRecalc,clkVpuRecalc,baudDiv,hto,↓reduceIte,h]

lemma recalcStable_mx27 (rev : ℕ) : RecalcStable (mx27 rev) := by
  intro c g hg hw o p r
  change (ops rev c).recalc = some g at hg
  rw [ops_recalc] at hg
  obtain ⟨k,-,rfl⟩ := map_eq_some_iff.mp hg
  cases k with
  | pll =>
    unfold RecalcHook.run clkPllRecalc
    split_ifs <;> rfl
  | mpllMain =>
    unfold RecalcHook.run clkMpllMainRecalc
    split_ifs <;> rfl
  | perclkx =>
    unfold RecalcHook.run clkPerclkxRecalc
    split_ifs <;> rfl
  | _ => rfl

def RatesOk (rev : ℕ) (s : State) : Prop := ∀ c ∈ (mx27 rev).clocks, RateOk (mx27 rev) s c

lemma rateOk_of_fields {rev : ℕ} {s s' : State} {c : Mx27Clk} (h : RateOk (mx27 rev) s c)
  (hp : s'.parent c = s.parent c) (hf : SameFields rev c s.hw s'.hw) (hr : s'.rate c = s.rate c)
  (hrp : ∀ p, s.parent c = some p → s'.rate p = s.rate p) : RateOk (mx27 rev) s' c :=
  h.congr hp (recalc_congr hf) hr hrp

lemma propagate_ratesOk {rev : ℕ} {s : State} (hpar : ParentsOk rev s.parent) (t : Mx27Clk) (D : Set Mx27Clk)
  (h : ∀ c ∈ (mx27 rev).clocks, c ∉ D → ¬ Below s.parent c t → RateOk (mx27 rev) s c) :
  ∃ s', propagateRate (mx27 rev) (Fintype.card Mx27Clk) t s = some s' ∧
    ∀ c ∈ (mx27 rev).clocks, c ∉ D → RateOk (mx27 rev) s' c :=
  propagateRate_ok (recalcStable_mx27 rev) depth (fun _ _ => hpar.depth_lt) depth_lt
    (fun _ _ _ hp => mem_clocks.mpr (hpar.registered hp)) _ t s D rfl (by rw [card_mx27Clk]; omega) h

end Mx27.Mach
