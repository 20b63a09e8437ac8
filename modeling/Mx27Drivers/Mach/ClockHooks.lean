/-
# The hooks of the mx27 clocks

`mach-mx27/clock.c` up to the clock table: the functions the function pointers of the clocks point
to.
-/
import Mx27Drivers.Clock.Basic
import Mx27Drivers.Mach.CrmRegs

namespace Mx27.Mach

open Clk (EINVAL ENODEV)

inductive Mx27Clk
  | ckihClk | ckilClk | mpllClk | mpllMainClk0 | mpllMainClk1 | spllClk | cpuClk | ahbClk
  | ipgClk | perClk0 | perClk1 | perClk2 | perClk3 | clkoClk | uart1Clk0 | uart1Clk1
  | uart2Clk0 | uart2Clk1 | uart3Clk0 | uart3Clk1 | uart4Clk0 | uart4Clk1 | uart5Clk0
  | uart5Clk1 | uart6Clk0 | uart6Clk1 | gpt1Clk0 | gpt1Clk1 | gpt2Clk0 | gpt2Clk1 | gpt3Clk0
  | gpt3Clk1 | gpt4Clk0 | gpt4Clk1 | gpt5Clk0 | gpt5Clk1 | gpt6Clk0 | gpt6Clk1 | pwmClk0
  | pwmClk1 | sdhc1Clk0 | sdhc1Clk1 | sdhc2Clk0 | sdhc2Clk1 | sdhc3Clk0 | sdhc3Clk1 | cspi1Clk0
  | cspi1Clk1 | cspi2Clk0 | cspi2Clk1 | cspi3Clk0 | cspi3Clk1 | lcdcClk0 | lcdcClk1 | lcdcClk2
  | csiClk0 | csiClk1 | usbClk0 | usbClk1 | ssi1Clk0 | ssi1Clk1 | ssi2Clk0 | ssi2Clk1 | nfcClk
  | vpuClk | dmaClk | rticClk | bromClk | emmaClk | slcdcClk | fecClk | emiClk | sahara2Clk
  | ataClk | mstick1Clk | wdogClk | gpioClk | i2cClk0 | i2cClk1 | iimClk | kppClk | owireClk
  | rtcClk | sccClk
  deriving DecidableEq, Repr
def mxcClks : List Mx27Clk :=
  [.ckihClk, .ckilClk, .mpllClk, .mpllMainClk0, .mpllMainClk1, .spllClk, .cpuClk, .ahbClk,
   .ipgClk, .perClk0, .perClk1, .perClk2, .perClk3, .clkoClk, .uart1Clk0, .uart1Clk1,
   .uart2Clk0, .uart2Clk1, .uart3Clk0, .uart3Clk1, .uart4Clk0, .uart4Clk1, .uart5Clk0,
   .uart5Clk1, .uart6Clk0, .uart6Clk1, .gpt1Clk0, .gpt1Clk1, .gpt2Clk0, .gpt2Clk1, .gpt3Clk0,
   .gpt3Clk1, .gpt4Clk0, .gpt4Clk1, .gpt5Clk0, .gpt5Clk1, .gpt6Clk0, .gpt6Clk1, .pwmClk0,
   .pwmClk1, .sdhc1Clk0, .sdhc1Clk1, .sdhc2Clk0, .sdhc2Clk1, .sdhc3Clk0, .sdhc3Clk1,
   .cspi1Clk0, .cspi1Clk1, .cspi2Clk0, .cspi2Clk1, .cspi3Clk0, .cspi3Clk1, .lcdcClk0,
   .lcdcClk1, .lcdcClk2, .csiClk0, .csiClk1, .usbClk0, .usbClk1, .ssi1Clk0, .ssi1Clk1,
   .ssi2Clk0, .ssi2Clk1, .nfcClk, .vpuClk, .dmaClk, .rticClk, .bromClk, .emmaClk, .slcdcClk,
   .fecClk, .emiClk, .sahara2Clk, .ataClk, .mstick1Clk, .wdogClk, .gpioClk, .i2cClk0, .i2cClk1,
   .iimClk, .kppClk, .owireClk, .rtcClk, .sccClk]
instance : Fintype Mx27Clk where
  elems := ⟨mxcClks, by decide⟩
  complete := fun c => by cases c <;> decide

abbrev State := Clk.ClkState Mx27Clk Ccm

def cpuIsMx27Rev (systemRev rev : ℕ) : ℤ :=
  if systemRev = rev then 1 else if systemRev < rev then -1 else 2

def CHIP_REV_1_0 : ℕ := 0x10
def CHIP_REV_2_0 : ℕ := 0x20

def isTo2 (rev : ℕ) : Prop := 0 < cpuIsMx27Rev rev CHIP_REV_2_0

instance (rev : ℕ) : Decidable (isTo2 rev) := inferInstanceAs (Decidable (_ < _))

/-! ### Gates -/

/-- `_clk_enable`, with the clock's `enable_reg` and `enable_shift` -/
def clkEnable (reg : CcmReg) (shift : ℕ) (hw : Ccm) : ℤ × Ccm :=
  (0, rawWritel (hw reg ||| (1 : BitVec 32) <<< shift) reg.addr hw)

def clkDisable (reg : CcmReg) (shift : ℕ) (hw : Ccm) : Ccm :=
  rawWritel (hw reg &&& ~~~((1 : BitVec 32) <<< shift)) reg.addr hw

def clkSpllEnable (hw : Ccm) : ℤ × Ccm := (0, rawWritel (hw .cscr ||| cscrSpen) CcmReg.cscr.addr hw)

def clkSpllDisable (hw : Ccm) : Ccm := rawWritel (hw .cscr &&& ~~~cscrSpen) CcmReg.cscr.addr hw

def clkPccr01Enable (mask0 mask1 : BitVec 32) (hw : Ccm) : Ccm :=
  let hw := rawWritel (hw .pccr0 ||| mask0) CcmReg.pccr0.addr hw
  rawWritel (hw .pccr1 ||| mask1) CcmReg.pccr1.addr hw

def clkPccr01Disable (mask0 mask1 : BitVec 32) (hw : Ccm) : Ccm :=
  let hw := rawWritel (hw .pccr0 &&& ~~~mask0) CcmReg.pccr0.addr hw
  rawWritel (hw .pccr1 &&& ~~~mask1) CcmReg.pccr1.addr hw

def clkPccr10Enable (mask1 mask0 : BitVec 32) (hw : Ccm) : Ccm :=
  let hw := rawWritel (hw .pccr1 ||| mask1) CcmReg.pccr1.addr hw
  rawWritel (hw .pccr0 ||| mask0) CcmReg.pccr0.addr hw

def clkPccr10Disable (mask1 mask0 : BitVec 32) (hw : Ccm) : Ccm :=
  let hw := rawWritel (hw .pccr1 &&& ~~~mask1) CcmReg.pccr1.addr hw
  rawWritel (hw .pccr0 &&& ~~~mask0) CcmReg.pccr0.addr hw

def clkDmaEnable (hw : Ccm) : ℤ × Ccm := (0, clkPccr01Enable Pccr0.dma.mask Pccr1.hclkDma.mask hw)
def clkDmaDisable (hw : Ccm) : Ccm := clkPccr01Disable Pccr0.dma.mask Pccr1.hclkDma.mask hw

def clkRticEnable (hw : Ccm) : ℤ × Ccm := (0, clkPccr01Enable Pccr0.rtic.mask Pccr1.hclkRtic.mask hw)
def clkRticDisable (hw : Ccm) : Ccm := clkPccr01Disable Pccr0.rtic.mask Pccr1.hclkRtic.mask hw

def clkEmmaEnable (hw : Ccm) : ℤ × Ccm := (0, clkPccr01Enable Pccr0.emma.mask Pccr1.hclkEmma.mask hw)
def clkEmmaDisable (hw : Ccm) : Ccm := clkPccr01Disable Pccr0.emma.mask Pccr1.hclkEmma.mask hw

def clkSlcdcEnable (hw : Ccm) : ℤ × Ccm := (0, clkPccr01Enable Pccr0.slcdc.mask Pccr1.hclkSlcdc.mask hw)
def clkSlcdcDisable (hw : Ccm) : Ccm := clkPccr01Disable Pccr0.slcdc.mask Pccr1.hclkSlcdc.mask hw

def clkFecEnable (hw : Ccm) : ℤ × Ccm := (0, clkPccr01Enable Pccr0.fec.mask Pccr1.hclkFec.mask hw)
def clkFecDisable (hw : Ccm) : Ccm := clkPccr01Disable Pccr0.fec.mask Pccr1.hclkFec.mask hw

def clkSahara2Enable (hw : Ccm) : ℤ × Ccm :=
  (0, clkPccr01Enable Pccr0.sahara.mask Pccr1.hclkSahara.mask hw)
def clkSahara2Disable (hw : Ccm) : Ccm := clkPccr01Disable Pccr0.sahara.mask Pccr1.hclkSahara.mask hw

def clkMstick1Enable (hw : Ccm) : ℤ × Ccm := (0, clkPccr10Enable Pccr1.mshcBaud.mask Pccr0.mshc.mask hw)
def clkMstick1Disable (hw : Ccm) : Ccm := clkPccr10Disable Pccr1.mshcBaud.mask Pccr0.mshc.mask hw

def clkVpuEnable (hw : Ccm) : ℤ × Ccm :=
  (0, rawWritel (hw .pccr1 ||| (Pccr1.vpuBaud.mask ||| Pccr1.hclkVpu.mask)) CcmReg.pccr1.addr hw)

def clkVpuDisable (hw : Ccm) : Ccm :=
  rawWritel (hw .pccr1 &&& ~~~(Pccr1.vpuBaud.mask ||| Pccr1.hclkVpu.mask)) CcmReg.pccr1.addr hw

def clkClkoEnable (hw : Ccm) : ℤ × Ccm := (0, rawWritel (hw .pcdr0 ||| pcdr0ClkoEn) CcmReg.pcdr0.addr hw)

def clkClkoDisable (hw : Ccm) : Ccm := rawWritel (hw .pcdr0 &&& ~~~pcdr0ClkoEn) CcmReg.pcdr0.addr hw

inductive GateHook
  | clk | spll | dma | rtic | emma | slcdc | fec | vpu | sahara2 | mstick1 | clko

def GateHook.enable (reg : CcmReg) (shift : ℕ) : GateHook → Ccm → ℤ × Ccm
  | .clk => clkEnable reg shift
  | .spll => clkSpllEnable
  | .dma => clkDmaEnable
  | .rtic => clkRticEnable
  | .emma => clkEmmaEnable
  | .slcdc => clkSlcdcEnable
  | .fec => clkFecEnable
  | .vpu => clkVpuEnable
  | .sahara2 => clkSahara2Enable
  | .mstick1 => clkMstick1Enable
  | .clko => clkClkoEnable

def GateHook.disable (reg : CcmReg) (shift : ℕ) : GateHook → Ccm → Ccm
  | .clk => clkDisable reg shift
  | .spll => clkSpllDisable
  | .dma => clkDmaDisable
  | .rtic => clkRticDisable
  | .emma => clkEmmaDisable
  | .slcdc => clkSlcdcDisable
  | .fec => clkFecDisable
  | .vpu => clkVpuDisable
  | .sahara2 => clkSahara2Disable
  | .mstick1 => clkMstick1Disable
  | .clko => clkClkoDisable

/-! ### Recalculating a rate -/

def pllRate (reg : CcmReg) (refClk : BitVec 32) (hw : Ccm) : BitVec 32 :=
  let pdf := (pllPd reg).read hw
  let mfd := (pllMfd reg).read hw
  let mfi := (pllMfi reg).read hw
  let mfn := (pllMfn reg).read hw
  let mfi := if mfi ≤ 5 then 5 else mfi
  let temp := 2 * refClk.toNat * mfn.toNat / (mfd.toNat + 1)
  let temp := (2 * refClk.toNat * mfi.toNat + temp) / (pdf.toNat + 1)
  BitVec.ofNat 32 temp

def clkPllRecalc (clk : Mx27Clk) (hw : Ccm) (rate : BitVec 32) (parent : Mx27Clk) (parentRate : BitVec 32) :
  BitVec 32 :=
  let refClk := if parent = .ckilClk then parentRate * 1024 else parentRate
  if clk = .mpllClk then pllRate .mpctl0 refClk hw
  else if clk = .spllClk then pllRate .spctl0 refClk hw
  else rate -- BUG(): no other clock has this hook

def clkMpllMainRecalc (id : ℤ) (rate parentRate : BitVec 32) : BitVec 32 :=
  if id = 0 then parentRate else if id = 1 then 2 * parentRate / 3 else rate

def clkCpuRecalc (rev : ℕ) (hw : Ccm) (parentRate : BitVec 32) : BitVec 32 :=
  let div := if isTo2 rev then cscrArm.read hw else cscrPresc.read hw
  parentRate / (div + 1)

def clkAhbRecalc (rev : ℕ) (hw : Ccm) (parentRate : BitVec 32) : BitVec 32 :=
  let bclkPdf := if isTo2 rev then cscrAhb.read hw else cscrBclk.read hw
  parentRate / (bclkPdf + 1)

def clkPerclkxRecalc (id : ℤ) (hw : Ccm) (rate parentRate : BitVec 32) : BitVec 32 :=
  if id < 0 ∨ 3 < id then rate
  else
    let perclkPdf := (hw .pcdr1 >>> (id.toNat <<< 3)) &&& pcdr1Perdiv1Mask
    parentRate / (perclkPdf + 1)

def clkUsbRecalc (hw : Ccm) (parentRate : BitVec 32) : BitVec 32 :=
  parentRate / (cscrUsb.read hw + 1)

def baudDiv (rev : ℕ) (field2 field1 : Field) (hw : Ccm) : BitVec 32 :=
  if isTo2 rev then field2.read hw + 4
  else if field1.read hw < 2 then 124 else field1.read hw

def clkSsi1Recalc (rev : ℕ) (hw : Ccm) (parentRate : BitVec 32) : BitVec 32 :=
  2 * parentRate / baudDiv rev pcdr0Ssi1bauddiv pcdr0Ssi1bauddiv hw

def clkSsi2Recalc (rev : ℕ) (hw : Ccm) (parentRate : BitVec 32) : BitVec 32 :=
  2 * parentRate / baudDiv rev pcdr0Ssi2bauddiv pcdr0Ssi2bauddiv hw

def clkVpuRecalc (rev : ℕ) (hw : Ccm) (parentRate : BitVec 32) : BitVec 32 :=
  2 * parentRate / baudDiv rev pcdr0Vpudiv2 pcdr0Vpudiv hw

def clkNfcRecalc (rev : ℕ) (hw : Ccm) (parentRate : BitVec 32) : BitVec 32 :=
  let nfcPdf := if isTo2 rev then pcdr0Nfcdiv2.read hw else pcdr0Nfcdiv.read hw
  parentRate / (nfcPdf + 1)

def clkIpgRecalc (rev : ℕ) (hw : Ccm) (parentRate : BitVec 32) : BitVec 32 :=
  let ipgPdf := if isTo2 rev then 1 else cscrIpdiv.read hw
  parentRate / (ipgPdf + 1)

/-- `_clk_clko_recalc`: `>>` binds tighter than `&`. -/
def clkClkoRecalc (hw : Ccm) (parentRate : BitVec 32) : BitVec 32 :=
  let div := hw .pcdr0 &&& (pcdr0Clkodiv.mask >>> pcdr0Clkodiv.off)
  parentRate / (div + 1)

inductive RecalcHook
  | pll | mpllMain | cpu | ahb | perclkx | usb | ssi1 | ssi2 | nfc | vpu | ipg | clko

def RecalcHook.run (rev : ℕ) (clk : Mx27Clk) (id : ℤ) (h : RecalcHook) (hw : Ccm) (rate : BitVec 32)
  (parent : Mx27Clk) (parentRate : BitVec 32) : BitVec 32 :=
  match h with
  | .pll => clkPllRecalc clk hw rate parent parentRate
  | .mpllMain => clkMpllMainRecalc id rate parentRate
  | .cpu => clkCpuRecalc rev hw parentRate
  | .ahb => clkAhbRecalc rev hw parentRate
  | .perclkx => clkPerclkxRecalc id hw rate parentRate
  | .usb => clkUsbRecalc hw parentRate
  | .ssi1 => clkSsi1Recalc rev hw parentRate
  | .ssi2 => clkSsi2Recalc rev hw parentRate
  | .nfc => clkNfcRecalc rev hw parentRate
  | .vpu => clkVpuRecalc rev hw parentRate
  | .ipg => clkIpgRecalc rev hw parentRate
  | .clko => clkClkoRecalc hw parentRate

def roundDiv (max base rate : BitVec 32) : BitVec 32 :=
  let div := base / rate
  let div := if base % rate ≠ 0 then div + 1 else div
  let div := if max < div then max else div
  base / div

def exactDiv (min max base rate : BitVec 32) : Option (BitVec 32) :=
  let div := base / rate
  if max < div ∨ div < min ∨ base / div ≠ rate then none else some div

def clkCpuRoundRate (clk : Mx27Clk) (rate : BitVec 32) (s : State) : Option (BitVec 32) :=
  (s.parent clk).map fun p => roundDiv 4 (s.rate p) rate

def clkCpuSetRate (clk : Mx27Clk) (rate : BitVec 32) (s : State) : Option (ℤ × State) := do
  let p ← s.parent clk
  match exactDiv 1 4 (s.rate p) rate with
  | none => some (-EINVAL, s)
  | some div =>
    let reg := cscrArm.put (div - 1) s.hw
    some (0, { s.setRate clk rate with hw := rawWritel CcmReg.cscr.addr reg s.hw })

def clkPerclkxRoundRate (clk : Mx27Clk) (rate : BitVec 32) (s : State) : Option (BitVec 32) :=
  (s.parent clk).map fun p => roundDiv 64 (s.rate p) rate

def clkPerclkxSetRate (id : ℤ) (clk : Mx27Clk) (rate : BitVec 32) (s : State) : Option (ℤ × State) :=
  if id < 0 ∨ 3 < id then some (-EINVAL, s)
  else do
    let p ← s.parent clk
    match exactDiv 1 64 (s.rate p) rate with
    | none => some (-EINVAL, s)
    | some div =>
      let reg := s.hw .pcdr1 &&& ~~~(pcdr1Perdiv1Mask <<< (id.toNat <<< 3))
      let reg := reg ||| ((div - 1) <<< (id.toNat <<< 3))
      some (0, { s.setRate clk rate with hw := rawWritel reg CcmReg.pcdr1.addr s.hw })

def clkVpuRoundRate (clk : Mx27Clk) (rate : BitVec 32) (s : State) : Option (BitVec 32) :=
  (s.parent clk).map fun p =>
    let base := s.rate p * 2
    let div := base / rate
    let div := if base % rate ≠ 0 then div + 1 else div
    let div := if div < 4 then 4 else div
    let div := if 67 < div then 67 else div
    base / div

def clkVpuSetRate (clk : Mx27Clk) (rate : BitVec 32) (s : State) : Option (ℤ × State) := do
  let p ← s.parent clk
  match exactDiv 4 67 (s.rate p * 2) rate with
  | none => some (-EINVAL, s)
  | some div =>
    let reg := s.hw .pcdr0 &&& ~~~(0x0000FC00 : BitVec 32)
    let reg := reg ||| ((div - 4) <<< 10)
    some (0, { s.setRate clk rate with hw := rawWritel reg CcmReg.pcdr0.addr s.hw })

def clkClkoRoundRate (clk : Mx27Clk) (rate : BitVec 32) (s : State) : Option (BitVec 32) :=
  (s.parent clk).map fun p => roundDiv 8 (s.rate p) rate

def clkClkoSetRate (clk : Mx27Clk) (rate : BitVec 32) (s : State) : Option (ℤ × State) := do
  let p ← s.parent clk
  match exactDiv 1 8 (s.rate p) rate with
  | none => some (-EINVAL, s)
  | some div =>
    let reg := pcdr0Clkodiv.put (div - 1) s.hw
    some (0, { s.setRate clk rate with hw := rawWritel reg CcmReg.pcdr0.addr s.hw })

/-- `_clk_parent_round_rate`; `roundRateOf p` is `p->round_rate`. -/
def clkParentRoundRate (roundRateOf : Mx27Clk → Option (BitVec 32 → State → Option (BitVec 32)))
  (clk : Mx27Clk) (rate : BitVec 32) (s : State) : Option (BitVec 32) := do
  let p ← s.parent clk
  let roundRate ← roundRateOf p
  roundRate rate s

def clkParentSetRate (setRateOf : Mx27Clk → Option (BitVec 32 → State → Option (ℤ × State)))
  (clk : Mx27Clk) (rate : BitVec 32) (s : State) : Option (ℤ × State) := do
  let p ← s.parent clk
  let setRate ← setRateOf p
  let (ret, s) ← setRate rate s
  if ret = 0 then some (ret, s.setRate clk rate) else some (ret, s)

inductive RateHook
  | cpu | perclkx | vpu | clko | parent

/-! ### Setting the parent -/

/-- `_clk_cpu_set_parent`: the return value, `clk->parent` and the registers after it. -/
def clkCpuSetParent (rev : ℕ) (clk parent : Mx27Clk) (s : State) : ℤ × Option Mx27Clk × Ccm :=
  let cscr := s.hw .cscr
  if s.parent clk = some parent then (0, s.parent clk, s.hw)
  else if isTo2 rev then
    if parent = .mpllMainClk0 then
      (0, some parent, rawWritel CcmReg.cscr.addr (cscr ||| cscrArmSrc) s.hw)
    else if parent = .mpllMainClk1 then
      (0, some parent, rawWritel CcmReg.cscr.addr (cscr &&& ~~~cscrArmSrc) s.hw)
    else (-EINVAL, s.parent clk, s.hw)
  else (-ENODEV, s.parent clk, s.hw)

def clkosel (s : State) (parent : Mx27Clk) : Option (BitVec 32) :=
  if parent = .ckilClk then some 0
  else if parent = .ckihClk then some 2
  else if some parent = s.parent .mpllClk then some 3
  else if some parent = s.parent .spllClk then some 4
  else match parent with
    | .mpllClk => some 5
    | .spllClk => some 6
    | .cpuClk => some 7
    | .ahbClk => some 8
    | .ipgClk => some 9
    | .perClk0 => some 0xA
    | .perClk1 => some 0xB
    | .perClk2 => some 0xC
    | .perClk3 => some 0xD
    | .ssi1Clk0 => some 0xE
    | .ssi2Clk0 => some 0xF
    | .nfcClk => some 0x10
    | .mstick1Clk => some 0x11
    | .vpuClk => some 0x12
    | .usbClk0 => some 0x15
    | _ => none

def clkClkoSetParent (clk parent : Mx27Clk) (s : State) : ℤ × Option Mx27Clk × Ccm :=
  match clkosel s parent with
  | none => (-EINVAL, s.parent clk, s.hw)
  | some sel =>
    let reg := (s.hw .ccsr &&& ~~~ccsrClkoselMask) ||| sel
    (0, s.parent clk, rawWritel reg CcmReg.ccsr.addr s.hw)

inductive ParentHook
  | cpu | clko

end Mx27.Mach
