/-
# The registers of the clock and reset module

`mach-mx27/crm_regs.h`.
-/
import Mx27Drivers.Lib.Bits

namespace Mx27.Mach

open Function

open Bits

inductive CcmReg
  | cscr | mpctl0 | spctl0 | pcdr0 | pcdr1 | pccr0 | pccr1 | ccsr
  deriving DecidableEq, Repr

instance : Fintype CcmReg :=
  ⟨{.cscr, .mpctl0, .spctl0, .pcdr0, .pcdr1, .pccr0, .pccr1, .ccsr}, fun r => by cases r <;> decide⟩

abbrev Ccm := CcmReg → BitVec 32

def ccmBase : BitVec 32 := 0xD4027000

/-- `CCM_CSCR`, ..., `CCM_CCSR` -/
def CcmReg.addr : CcmReg → BitVec 32
  | .cscr => ccmBase + 0x0
  | .mpctl0 => ccmBase + 0x4
  | .spctl0 => ccmBase + 0xC
  | .pcdr0 => ccmBase + 0x18
  | .pcdr1 => ccmBase + 0x1c
  | .pccr0 => ccmBase + 0x20
  | .pccr1 => ccmBase + 0x24
  | .ccsr => ccmBase + 0x28

lemma CcmReg.addr_injective : ∀ r r' : CcmReg, r.addr = r'.addr → r = r' := by decide

def rawWritel (v a : BitVec 32) (hw : Ccm) : Ccm := fun r => if r.addr = a then v else hw r

lemma rawWritel_addr (v : BitVec 32) (r : CcmReg) (hw : Ccm) :
  rawWritel v r.addr hw = Function.update hw r v := by
  funext r'
  unfold rawWritel
  by_cases h : r' = r
  · subst h
    simp
  · rw [update_of_ne h,if_neg fun he => h (CcmReg.addr_injective _ _ he)]

lemma rawWritel_self (v : BitVec 32) (r : CcmReg) (hw : Ccm) : rawWritel v r.addr hw r = v := by
  rw [rawWritel_addr,update_self]

lemma rawWritel_of_ne {v a : BitVec 32} {r : CcmReg} (h : r.addr ≠ a) (hw : Ccm) :
  rawWritel v a hw r = hw r := if_neg h

structure Field where
  reg : CcmReg
  off : ℕ
  len : ℕ
  fits : off + len ≤ 32 := by decide

namespace Field

def mask (f : Field) : BitVec 32 := ones 32 f.len <<< f.off

def read (f : Field) (hw : Ccm) : BitVec 32 := (hw f.reg &&& f.mask) >>> f.off

def put (f : Field) (x : BitVec 32) (hw : Ccm) : BitVec 32 := (hw f.reg &&& ~~~f.mask) ||| (x <<< f.off)

def Disjoint (f g : Field) : Prop := f.reg = g.reg → f.off + f.len ≤ g.off ∨ g.off + g.len ≤ f.off

instance (f g : Field) : Decidable (f.Disjoint g) := inferInstanceAs (Decidable (_ → _))

lemma read_eq_fieldOf (f : Field) (hw : Ccm) : f.read hw = fieldOf (hw f.reg) f.off f.len :=
  and_ushiftRight_eq_fieldOf _ f.fits

lemma read_congr (f : Field) {hw hw' : Ccm} (h : hw' f.reg = hw f.reg) : f.read hw' = f.read hw := by
  unfold read
  rw [h]

lemma read_write_self (f : Field) {x : BitVec 32} (hx : x.toNat < 2 ^ f.len) (hw : Ccm) :
  f.read (rawWritel (f.put x hw) f.reg.addr hw) = x := by
  rw [read_eq_fieldOf,rawWritel_self]
  exact fieldOf_putField hx f.fits

lemma read_write_disjoint {f g : Field} (hd : f.Disjoint g) {x : BitVec 32} (hx : x.toNat < 2 ^ f.len)
  (hw : Ccm) : g.read (rawWritel (f.put x hw) f.reg.addr hw) = g.read hw := by
  by_cases hr : g.reg = f.reg
  · rw [read_eq_fieldOf,read_eq_fieldOf,hr,rawWritel_self]
    exact fieldOf_putField_of_disjoint hx (hd hr.symm)
  · exact g.read_congr (rawWritel_of_ne (fun he => hr (CcmReg.addr_injective _ _ he)) hw)

lemma read_or {f : Field} {g : Ccm} (h : g f.reg &&& f.mask = 0) (hw : Ccm) :
  f.read (fun q => hw q ||| g q) = f.read hw := by
  unfold read
  rw [or_and_of_disjoint h]

lemma read_clear {f : Field} {g : Ccm} (h : g f.reg &&& f.mask = 0) (hw : Ccm) :
  f.read (fun q => hw q &&& ~~~g q) = f.read hw := by
  unfold read
  rw [clear_and_of_disjoint h]

end Field

def cscrUsb : Field := ⟨.cscr, 28, 3, by decide⟩
def cscrArm : Field := ⟨.cscr, 12, 2, by decide⟩
def cscrPresc : Field := ⟨.cscr, 13, 3, by decide⟩
def cscrBclk : Field := ⟨.cscr, 9, 4, by decide⟩
def cscrIpdiv : Field := ⟨.cscr, 8, 1, by decide⟩
def cscrAhb : Field := ⟨.cscr, 8, 2, by decide⟩

def pllPd (reg : CcmReg) : Field := ⟨reg, 26, 4, by decide⟩
def pllMfd (reg : CcmReg) : Field := ⟨reg, 16, 10, by decide⟩
def pllMfi (reg : CcmReg) : Field := ⟨reg, 10, 4, by decide⟩
def pllMfn (reg : CcmReg) : Field := ⟨reg, 0, 10, by decide⟩

def pcdr0Ssi2bauddiv : Field := ⟨.pcdr0, 26, 6, by decide⟩
def pcdr0Clkodiv : Field := ⟨.pcdr0, 22, 3, by decide⟩
def pcdr0Ssi1bauddiv : Field := ⟨.pcdr0, 16, 6, by decide⟩
def pcdr0Vpudiv2 : Field := ⟨.pcdr0, 10, 6, by decide⟩
def pcdr0Nfcdiv2 : Field := ⟨.pcdr0, 6, 4, by decide⟩
def pcdr0Nfcdiv : Field := ⟨.pcdr0, 12, 4, by decide⟩
def pcdr0Vpudiv : Field := ⟨.pcdr0, 8, 4, by decide⟩

/-- `CCM_PCDR0_CLKO_EN`: the number of the bit, which the code uses as a mask. -/
def pcdr0ClkoEn : BitVec 32 := 25

def cscrSp : BitVec 32 := 1 <<< 17
def cscrMcu : BitVec 32 := 1 <<< 16
def cscrArmSrc : BitVec 32 := 1 <<< 15
def cscrSpen : BitVec 32 := 1 <<< 1

def pcdr1Perdiv1Mask : BitVec 32 := 0x3f

def ccsrClkoselMask : BitVec 32 := 0x1f

inductive Pccr0
  | cspi1 | cspi2 | cspi3 | dma | emma | fec | gpio | gpt1 | gpt2 | gpt3 | gpt4 | gpt5 | gpt6
  | i2c1 | i2c2 | iim | kpp | lcdc | mshc | owire | pwm | rtc | rtic | sahara | scc | sdhc1
  | sdhc2 | sdhc3 | slcdc | ssi1Ipg | ssi2Ipg

def Pccr0.offset : Pccr0 → ℕ
  | .cspi1 => 31 | .cspi2 => 30 | .cspi3 => 29 | .dma => 28 | .emma => 27 | .fec => 26
  | .gpio => 25 | .gpt1 => 24 | .gpt2 => 23 | .gpt3 => 22 | .gpt4 => 21 | .gpt5 => 20
  | .gpt6 => 19 | .i2c1 => 18 | .i2c2 => 17 | .iim => 16 | .kpp => 15 | .lcdc => 14
  | .mshc => 13 | .owire => 12 | .pwm => 11 | .rtc => 9 | .rtic => 8 | .sahara => 7 | .scc => 6
  | .sdhc1 => 5 | .sdhc2 => 4 | .sdhc3 => 3 | .slcdc => 2 | .ssi1Ipg => 1 | .ssi2Ipg => 0

def Pccr0.mask (g : Pccr0) : BitVec 32 := 1 <<< g.offset

inductive Pccr1
  | uart1 | uart2 | uart3 | uart4 | uart5 | uart6 | usbotg | wdt | hclkAta | hclkBrom | hclkCsi
  | hclkDma | hclkEmi | hclkEmma | hclkFec | hclkVpu | hclkLcdc | hclkRtic | hclkSahara
  | hclkSlcdc | hclkUsbotg | perclk1 | perclk2 | perclk3 | perclk4 | vpuBaud | ssi1Baud
  | ssi2Baud | nfcBaud | mshcBaud

def Pccr1.offset : Pccr1 → ℕ
  | .uart1 => 31 | .uart2 => 30 | .uart3 => 29 | .uart4 => 28 | .uart5 => 27 | .uart6 => 26
  | .usbotg => 25 | .wdt => 24 | .hclkAta => 23 | .hclkBrom => 22 | .hclkCsi => 21
  | .hclkDma => 20 | .hclkEmi => 19 | .hclkEmma => 18 | .hclkFec => 17 | .hclkVpu => 16
  | .hclkLcdc => 15 | .hclkRtic => 14 | .hclkSahara => 13 | .hclkSlcdc => 12
  | .hclkUsbotg => 11 | .perclk1 => 10 | .perclk2 => 9 | .perclk3 => 8 | .perclk4 => 7
  | .vpuBaud => 6 | .ssi1Baud => 5 | .ssi2Baud => 4 | .nfcBaud => 3 | .mshcBaud => 2

def Pccr1.mask (g : Pccr1) : BitVec 32 := 1 <<< g.offset
end Mx27.Mach
