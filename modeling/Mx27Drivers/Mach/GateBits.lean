/-
# The bits of the gates
-/
import Mx27Drivers.Clock.CallRules
import Mx27Drivers.Mach.ClockTable

namespace Mx27.Mach

open List Option BitVec

open Clk Bits

def onReg (r : CcmReg) (m : BitVec 32) : Ccm := fun q => if q = r then m else 0

lemma rawWritel_or (r : CcmReg) (m : BitVec 32) (hw : Ccm) :
  rawWritel (hw r ||| m) r.addr hw = fun q => hw q ||| onReg r m q := by
  rw [rawWritel_addr]
  funext q
  by_cases h : q = r
  · subst h
    simp [onReg]
  · simp [onReg,h]

lemma rawWritel_clear (r : CcmReg) (m : BitVec 32) (hw : Ccm) :
  rawWritel (hw r &&& ~~~m) r.addr hw = fun q => hw q &&& ~~~onReg r m q := by
  rw [rawWritel_addr]
  funext q
  by_cases h : q = r
  · subst h
    simp [onReg]
  · rw [Function.update_of_ne h,onReg,if_neg h]
    exact (and_allOnes).symm

def onPccr (m0 m1 : BitVec 32) : Ccm := fun q => onReg .pccr0 m0 q ||| onReg .pccr1 m1 q

lemma clkPccr01Enable_eq (m0 m1 : BitVec 32) (hw : Ccm) :
  clkPccr01Enable m0 m1 hw = fun q => hw q ||| onPccr m0 m1 q := by
  unfold clkPccr01Enable onPccr
  rw [rawWritel_or,rawWritel_or]
  simp only [BitVec.or_assoc]

lemma clkPccr10Enable_eq (m1 m0 : BitVec 32) (hw : Ccm) :
  clkPccr10Enable m1 m0 hw = fun q => hw q ||| onPccr m0 m1 q := by
  unfold clkPccr10Enable onPccr
  rw [rawWritel_or,rawWritel_or]
  funext q
  rw [BitVec.or_assoc,BitVec.or_comm (onReg .pccr1 m1 q)]

lemma clkPccr01Disable_eq (m0 m1 : BitVec 32) (hw : Ccm) :
  clkPccr01Disable m0 m1 hw = fun q => hw q &&& ~~~onPccr m0 m1 q := by
  unfold clkPccr01Disable onPccr
  rw [rawWritel_clear,rawWritel_clear]
  simp only [BitVec.not_or,BitVec.and_assoc]

lemma clkPccr10Disable_eq (m1 m0 : BitVec 32) (hw : Ccm) :
  clkPccr10Disable m1 m0 hw = fun q => hw q &&& ~~~onPccr m0 m1 q := by
  unfold clkPccr10Disable onPccr
  rw [rawWritel_clear,rawWritel_clear]
  funext q
  rw [BitVec.and_assoc,← BitVec.not_or,BitVec.or_comm (onReg .pccr1 m1 q)]

namespace GateHook

def mask (reg : CcmReg) (shift : ℕ) : GateHook → Ccm
  | .clk => onReg reg ((1 : BitVec 32) <<< shift)
  | .spll => onReg .cscr cscrSpen
  | .dma => onPccr Pccr0.dma.mask Pccr1.hclkDma.mask
  | .rtic => onPccr Pccr0.rtic.mask Pccr1.hclkRtic.mask
  | .emma => onPccr Pccr0.emma.mask Pccr1.hclkEmma.mask
  | .slcdc => onPccr Pccr0.slcdc.mask Pccr1.hclkSlcdc.mask
  | .fec => onPccr Pccr0.fec.mask Pccr1.hclkFec.mask
  | .vpu => onReg .pccr1 (Pccr1.vpuBaud.mask ||| Pccr1.hclkVpu.mask)
  | .sahara2 => onPccr Pccr0.sahara.mask Pccr1.hclkSahara.mask
  | .mstick1 => onPccr Pccr0.mshc.mask Pccr1.mshcBaud.mask
  | .clko => onReg .pcdr0 pcdr0ClkoEn

variable (reg : CcmReg) (shift : ℕ)

lemma enable_eq (h : GateHook) (hw : Ccm) :
  h.enable reg shift hw = (0, fun q => hw q ||| h.mask reg shift q) := by
  cases h <;> simp only [mask,enable,clkEnable,clkSpllEnable,clkDmaEnable,clkRticEnable,clkEmmaEnable,
    clkSlcdcEnable,clkFecEnable,clkVpuEnable,clkSahara2Enable,clkMstick1Enable,clkClkoEnable,
    clkPccr01Enable_eq,clkPccr10Enable_eq,rawWritel_or]

lemma disable_eq (h : GateHook) (hw : Ccm) :
  h.disable reg shift hw = fun q => hw q &&& ~~~h.mask reg shift q := by
  cases h <;> simp only [mask,disable,clkDisable,clkSpllDisable,clkDmaDisable,clkRticDisable,clkEmmaDisable,
    clkSlcdcDisable,clkFecDisable,clkVpuDisable,clkSahara2Disable,clkMstick1Disable,clkClkoDisable,
    clkPccr01Disable_eq,clkPccr10Disable_eq,rawWritel_clear]

end GateHook

def gateBits (c : Mx27Clk) : Ccm :=
  match (mx27ClkDef c).enable with
  | some h => (h.enable (mx27ClkDef c).enableReg (mx27ClkDef c).enableShift fun _ => 0).2
  | none => fun _ => 0

lemma gateBits_eq_mask {c : Mx27Clk} {h : GateHook} (hc : (mx27ClkDef c).enable = some h) :
  gateBits c = h.mask (mx27ClkDef c).enableReg (mx27ClkDef c).enableShift := by
  unfold gateBits
  rw [hc]
  simp only [GateHook.enable_eq]
  funext q
  exact zero_or

lemma probedDef_gate (rev : ℕ) (c : Mx27Clk) : (probedDef rev c).enable = (mx27ClkDef c).enable ∧
  (probedDef rev c).disable = (mx27ClkDef c).disable ∧
  (probedDef rev c).enableReg = (mx27ClkDef c).enableReg ∧
  (probedDef rev c).enableShift = (mx27ClkDef c).enableShift := by
  unfold probedDef
  split <;> exact ⟨rfl,rfl,rfl,rfl⟩

lemma gate_pair (c : Mx27Clk) : (mx27ClkDef c).disable = (mx27ClkDef c).enable := by cases c <;> rfl

lemma mx27_neverFails (rev : ℕ) : NeverFails (mx27 rev) := by
  intro c g hg hw
  change (ops rev c).enable = some g at hg
  simp only [ops] at hg
  obtain ⟨h,-,rfl⟩ := map_eq_some_iff.mp hg
  rw [GateHook.enable_eq]

lemma runEnable_hw (rev : ℕ) (c : Mx27Clk) (s : State) :
  (runEnable (mx27 rev) c s).2 = { s with hw := fun q => s.hw q ||| gateBits c q } := by
  obtain ⟨h1,-,h3,h4⟩ := probedDef_gate rev c
  unfold runEnable
  simp only [mx27,ops,h1,h3,h4]
  cases hc : (mx27ClkDef c).enable with
  | none =>
    simp [gateBits,hc]
  | some h =>
    simp only [map_some,GateHook.enable_eq,gateBits_eq_mask hc]

lemma runDisable_hw (rev : ℕ) (c : Mx27Clk) (s : State) :
  runDisable (mx27 rev) c s = { s with hw := fun q => s.hw q &&& ~~~gateBits c q } := by
  obtain ⟨-,h2,h3,h4⟩ := probedDef_gate rev c
  unfold runDisable
  simp only [mx27,ops,h2,h3,h4,gate_pair]
  cases hc : (mx27ClkDef c).enable with
  | none =>
    have : (fun q => s.hw q &&& ~~~gateBits c q) = s.hw := by
      funext q
      simp only [gateBits,hc]
      exact and_allOnes
    simp [this]
  | some h =>
    simp only [map_some,GateHook.disable_eq,gateBits_eq_mask hc]

lemma gateBits_pccr {c : Mx27Clk} (hc : c ≠ .clkoClk) (hs : c ≠ .spllClk) {r : CcmReg} (h0 : r ≠ .pccr0)
  (h1 : r ≠ .pccr1) : gateBits c r = 0 := by
  cases r <;> first | exact absurd rfl h0 | exact absurd rfl h1 | skip
  all_goals cases c <;> first | rfl | exact absurd rfl hc | exact absurd rfl hs

lemma gateBits_spll (r : CcmReg) : gateBits .spllClk r = onReg .cscr cscrSpen r := by
  cases r <;> rfl

lemma gateBits_shared : gateBits .gpioClk = gateBits .usbClk0 := rfl

def Conflict (c d : Mx27Clk) : Prop := c = .usbClk0 ∧ d = .gpioClk ∨ c = .gpioClk ∧ d = .usbClk0

instance (c d : Mx27Clk) : Decidable (Conflict c d) := inferInstanceAs (Decidable (_ ∨ _))

lemma disjoint_without_gpio : ∀ r : CcmReg,
  disjointMasks 0 ((mxcClks.erase .gpioClk).map (gateBits · r)) = true := by
  decide +kernel

lemma gateBits_disjoint {c d : Mx27Clk} (hcd : c ≠ d) (hn : ¬ Conflict c d) (r : CcmReg) :
  gateBits c r &&& gateBits d r = 0 := by
  have hsymm : Std.Symm fun a b : Mx27Clk => gateBits a r &&& gateBits b r = 0 :=
    ⟨fun a b h => (BitVec.and_comm _ _).trans h⟩
  have hpair := pairwise_map.mp (disjointMasks_sound _ _ (disjoint_without_gpio r)).2
  have hall : ∀ a ∈ mxcClks.erase .gpioClk, ∀ b ∈ mxcClks.erase .gpioClk, a ≠ b →
      gateBits a r &&& gateBits b r = 0 := fun a ha b hb hab => hpair.forall ha hb hab
  have hmem : ∀ a : Mx27Clk, a ≠ .gpioClk → a ∈ mxcClks.erase .gpioClk := fun a ha =>
    (mem_erase_of_ne ha).mpr (Finset.mem_univ a)
  by_cases hc : c = .gpioClk
  · -- the bits of `gpio_clk` are those of `usb_clk[0]`
    have hd : d ≠ .usbClk0 := fun h => hn (Or.inr ⟨hc,h⟩)
    rw [hc,gateBits_shared]
    exact hall _ (hmem _ (by decide)) d (hmem d fun h => hcd (hc.trans h.symm)) hd.symm
  · by_cases hd : d = .gpioClk
    · have hc' : c ≠ .usbClk0 := fun h => hn (Or.inl ⟨h,hd⟩)
      rw [hd,gateBits_shared]
      exact hall c (hmem c hc) _ (hmem _ (by decide)) hc'
    · exact hall c (hmem c hc) d (hmem d hd) hcd

end Mx27.Mach
