/-
# The mx27 clock table
-/
import Mx27Drivers.Mach.ClockHooks

namespace Mx27.Mach

open Clk (EINVAL)

def ckilClkFreq : BitVec 32 := 32768
def ckihClkFreq : BitVec 32 := 26000000
def ckihClkFreq27MHz : BitVec 32 := 27000000

structure ClkDef where
  id : ℤ := 0
  parent : Option Mx27Clk := none
  secondary : Option Mx27Clk := none
  rate : BitVec 32 := 0
  setParent : Option ParentHook := none
  roundRate : Option RateHook := none
  setRate : Option RateHook := none
  recalc : Option RecalcHook := none
  enable : Option GateHook := none
  enableReg : CcmReg := .pccr0
  enableShift : ℕ := 0
  disable : Option GateHook := none

def mx27ClkDef : Mx27Clk → ClkDef
  | .ckihClk => { }
  | .ckilClk => { rate := ckilClkFreq }
  | .mpllClk => { parent := some .ckihClk, recalc := some .pll }
  | .mpllMainClk0 => { parent := some .mpllClk, recalc := some .mpllMain }
  | .mpllMainClk1 => { id := 1, parent := some .mpllClk, recalc := some .mpllMain }
  | .spllClk =>
    { parent := some .ckihClk, recalc := some .pll, enable := some .spll, disable := some .spll }
  | .cpuClk =>
    { parent := some .mpllMainClk1, setParent := some .cpu, roundRate := some .cpu,
      setRate := some .cpu, recalc := some .cpu }
  | .ahbClk => { parent := some .mpllMainClk1, recalc := some .ahb }
  | .ipgClk => { parent := some .ahbClk, recalc := some .ipg }
  | .perClk0 =>
    { parent := some .mpllMainClk1, recalc := some .perclkx, enable := some .clk,
      enableReg := .pccr1, enableShift := Pccr1.perclk1.offset, disable := some .clk }
  | .perClk1 =>
    { id := 1, parent := some .mpllMainClk1, recalc := some .perclkx, enable := some .clk,
      enableReg := .pccr1, enableShift := Pccr1.perclk2.offset, disable := some .clk }
  | .perClk2 =>
    { id := 2, parent := some .mpllMainClk1, roundRate := some .perclkx, setRate := some .perclkx,
      recalc := some .perclkx, enable := some .clk, enableReg := .pccr1,
      enableShift := Pccr1.perclk3.offset, disable := some .clk }
  | .perClk3 =>
    { id := 3, parent := some .mpllMainClk1, roundRate := some .perclkx, setRate := some .perclkx,
      recalc := some .perclkx, enable := some .clk, enableReg := .pccr1,
      enableShift := Pccr1.perclk4.offset, disable := some .clk }
  | .clkoClk =>
    { setParent := some .clko, roundRate := some .clko, setRate := some .clko, recalc := some .clko,
      enable := some .clko, disable := some .clko }
  | .uart1Clk0 => { parent := some .perClk0, secondary := some .uart1Clk1 }
  | .uart1Clk1 =>
    { parent := some .ipgClk, enable := some .clk, enableReg := .pccr1,
      enableShift := Pccr1.uart1.offset, disable := some .clk }
  | .uart2Clk0 => { id := 1, parent := some .perClk0, secondary := some .uart2Clk1 }
  | .uart2Clk1 =>
    { id := 1, parent := some .ipgClk, enable := some .clk, enableReg := .pccr1,
      enableShift := Pccr1.uart2.offset, disable := some .clk }
  | .uart3Clk0 => { id := 2, parent := some .perClk0, secondary := some .uart3Clk1 }
  | .uart3Clk1 =>
    { id := 2, parent := some .ipgClk, enable := some .clk, enableReg := .pccr1,
      enableShift := Pccr1.uart3.offset, disable := some .clk }
  | .uart4Clk0 => { id := 3, parent := some .perClk0, secondary := some .uart4Clk1 }
  | .uart4Clk1 =>
    { id := 3, parent := some .ipgClk, enable := some .clk, enableReg := .pccr1,
      enableShift := Pccr1.uart4.offset, disable := some .clk }
  | .uart5Clk0 => { id := 4, parent := some .perClk0, secondary := some .uart5Clk1 }
  | .uart5Clk1 =>
    { id := 4, parent := some .ipgClk, enable := some .clk, enableReg := .pccr1,
      enableShift := Pccr1.uart5.offset, disable := some .clk }
  | .uart6Clk0 => { id := 5, parent := some .perClk0, secondary := some .uart6Clk1 }
  | .uart6Clk1 =>
    { id := 5, parent := some .ipgClk, enable := some .clk, enableReg := .pccr1,
      enableShift := Pccr1.uart6.offset, disable := some .clk }
  | .gpt1Clk0 => { parent := some .perClk0, secondary := some .gpt1Clk1 }
  | .gpt1Clk1 =>
    { parent := some .ipgClk, enable := some .clk, enableReg := .pccr0,
      enableShift := Pccr0.gpt1.offset, disable := some .clk }
  | .gpt2Clk0 => { id := 1, parent := some .perClk0, secondary := some .gpt2Clk1 }
  | .gpt2Clk1 =>
    { id := 1, parent := some .ipgClk, enable := some .clk, enableReg := .pccr0,
      enableShift := Pccr0.gpt2.offset, disable := some .clk }
  | .gpt3Clk0 => { id := 2, parent := some .perClk0, secondary := some .gpt3Clk1 }
  | .gpt3Clk1 =>
    { id := 2, parent := some .ipgClk, enable := some .clk, enableReg := .pccr0,
      enableShift := Pccr0.gpt3.offset, disable := some .clk }
  | .gpt4Clk0 => { id := 3, parent := some .perClk0, secondary := some .gpt4Clk1 }
  | .gpt4Clk1 =>
    { id := 3, parent := some .ipgClk, enable := some .clk, enableReg := .pccr0,
      enableShift := Pccr0.gpt4.offset, disable := some .clk }
  | .gpt5Clk0 => { id := 4, parent := some .perClk0, secondary := some .gpt5Clk1 }
  | .gpt5Clk1 =>
    { id := 4, parent := some .ipgClk, enable := some .clk, enableReg := .pccr0,
      enableShift := Pccr0.gpt5.offset, disable := some .clk }
  | .gpt6Clk0 => { id := 5, parent := some .perClk0, secondary := some .gpt6Clk1 }
  | .gpt6Clk1 =>
    { id := 5, parent := some .ipgClk, enable := some .clk, enableReg := .pccr0,
      enableShift := Pccr0.gpt6.offset, disable := some .clk }
  | .pwmClk0 => { parent := some .perClk0, secondary := some .pwmClk1 }
  | .pwmClk1 =>
    { parent := some .ipgClk, enable := some .clk, enableReg := .pccr0,
      enableShift := Pccr0.pwm.offset, disable := some .clk }
  | .sdhc1Clk0 => { parent := some .perClk1, secondary := some .sdhc1Clk1 }
  | .sdhc1Clk1 =>
    { parent := some .ipgClk, enable := some .clk, enableReg := .pccr0,
      enableShift := Pccr0.sdhc1.offset, disable := some .clk }
  | .sdhc2Clk0 => { id := 1, parent := some .perClk1, secondary := some .sdhc2Clk1 }
  | .sdhc2Clk1 =>
    { id := 1, parent := some .ipgClk, enable := some .clk, enableReg := .pccr0,
      enableShift := Pccr0.sdhc2.offset, disable := some .clk }
  | .sdhc3Clk0 => { id := 2, parent := some .perClk1, secondary := some .sdhc3Clk1 }
  | .sdhc3Clk1 =>
    { id := 2, parent := some .ipgClk, enable := some .clk, enableReg := .pccr0,
      enableShift := Pccr0.sdhc3.offset, disable := some .clk }
  | .cspi1Clk0 => { parent := some .perClk1, secondary := some .cspi1Clk1 }
  | .cspi1Clk1 =>
    { parent := some .ipgClk, enable := some .clk, enableReg := .pccr0,
      enableShift := Pccr0.cspi1.offset, disable := some .clk }
  | .cspi2Clk0 => { id := 1, parent := some .perClk1, secondary := some .cspi2Clk1 }
  | .cspi2Clk1 =>
    { id := 1, parent := some .ipgClk, enable := some .clk, enableReg := .pccr0,
      enableShift := Pccr0.cspi2.offset, disable := some .clk }
  | .cspi3Clk0 => { id := 2, parent := some .perClk1, secondary := some .cspi3Clk1 }
  | .cspi3Clk1 =>
    { id := 2, parent := some .ipgClk, enable := some .clk, enableReg := .pccr0,
      enableShift := Pccr0.cspi3.offset, disable := some .clk }
  | .lcdcClk0 =>
    { parent := some .perClk2, secondary := some .lcdcClk1, roundRate := some .parent,
      setRate := some .parent }
  | .lcdcClk1 =>
    { parent := some .ipgClk, secondary := some .lcdcClk2, enable := some .clk, enableReg := .pccr0,
      enableShift := Pccr0.lcdc.offset, disable := some .clk }
  | .lcdcClk2 =>
    { parent := some .ahbClk, enable := some .clk, enableReg := .pccr1,
      enableShift := Pccr1.hclkLcdc.offset, disable := some .clk }
  | .csiClk0 =>
    { parent := some .perClk3, secondary := some .csiClk1, roundRate := some .parent,
      setRate := some .parent }
  | .csiClk1 =>
    { parent := some .ahbClk, enable := some .clk, enableReg := .pccr1,
      enableShift := Pccr1.hclkCsi.offset, disable := some .clk }
  | .usbClk0 =>
    { parent := some .spllClk, recalc := some .usb, enable := some .clk, enableReg := .pccr1,
      enableShift := Pccr1.usbotg.offset, disable := some .clk }
  | .usbClk1 =>
    { parent := some .ahbClk, enable := some .clk, enableReg := .pccr1,
      enableShift := Pccr1.hclkUsbotg.offset, disable := some .clk }
  | .ssi1Clk0 =>
    { parent := some .mpllMainClk1, secondary := some .ssi1Clk1, recalc := some .ssi1,
      enable := some .clk, enableReg := .pccr1, enableShift := Pccr1.ssi1Baud.offset,
      disable := some .clk }
  | .ssi1Clk1 =>
    { parent := some .ipgClk, enable := some .clk, enableReg := .pccr0,
      enableShift := Pccr0.ssi1Ipg.offset, disable := some .clk }
  | .ssi2Clk0 =>
    { id := 1, parent := some .mpllMainClk1, secondary := some .ssi2Clk1, recalc := some .ssi2,
      enable := some .clk, enableReg := .pccr1, enableShift := Pccr1.ssi2Baud.offset,
      disable := some .clk }
  | .ssi2Clk1 =>
    { id := 1, parent := some .ipgClk, enable := some .clk, enableReg := .pccr0,
      enableShift := Pccr0.ssi2Ipg.offset, disable := some .clk }
  | .nfcClk =>
    { parent := some .cpuClk, recalc := some .nfc, enable := some .clk, enableReg := .pccr1,
      enableShift := Pccr1.nfcBaud.offset, disable := some .clk }
  | .vpuClk =>
    { parent := some .mpllMainClk1, roundRate := some .vpu, setRate := some .vpu,
      recalc := some .vpu, enable := some .vpu, disable := some .vpu }
  | .dmaClk => { parent := some .ahbClk, enable := some .dma, disable := some .dma }
  | .rticClk => { parent := some .ahbClk, enable := some .rtic, disable := some .rtic }
  | .bromClk =>
    { parent := some .ahbClk, enable := some .clk, enableReg := .pccr1,
      enableShift := Pccr1.hclkBrom.offset, disable := some .clk }
  | .emmaClk => { parent := some .ahbClk, enable := some .emma, disable := some .emma }
  | .slcdcClk => { parent := some .ahbClk, enable := some .slcdc, disable := some .slcdc }
  | .fecClk => { parent := some .ahbClk, enable := some .fec, disable := some .fec }
  | .emiClk =>
    { parent := some .ahbClk, enable := some .clk, enableReg := .pccr1,
      enableShift := Pccr1.hclkEmi.offset, disable := some .clk }
  | .sahara2Clk => { parent := some .ahbClk, enable := some .sahara2, disable := some .sahara2 }
  | .ataClk =>
    { parent := some .ahbClk, enable := some .clk, enableReg := .pccr1,
      enableShift := Pccr1.hclkAta.offset, disable := some .clk }
  | .mstick1Clk => { parent := some .ipgClk, enable := some .mstick1, disable := some .mstick1 }
  | .wdogClk =>
    { parent := some .ipgClk, enable := some .clk, enableReg := .pccr1,
      enableShift := Pccr1.wdt.offset, disable := some .clk }
  | .gpioClk =>
    { parent := some .ipgClk, enable := some .clk, enableReg := .pccr1,
      enableShift := Pccr0.gpio.offset, disable := some .clk }
  | .i2cClk0 =>
    { parent := some .ipgClk, enable := some .clk, enableReg := .pccr0,
      enableShift := Pccr0.i2c1.offset, disable := some .clk }
  | .i2cClk1 =>
    { id := 1, parent := some .ipgClk, enable := some .clk, enableReg := .pccr0,
      enableShift := Pccr0.i2c2.offset, disable := some .clk }
  | .iimClk =>
    { parent := some .ipgClk, enable := some .clk, enableReg := .pccr0,
      enableShift := Pccr0.iim.offset, disable := some .clk }
  | .kppClk =>
    { parent := some .ipgClk, enable := some .clk, enableReg := .pccr0,
      enableShift := Pccr0.kpp.offset, disable := some .clk }
  | .owireClk =>
    { parent := some .ipgClk, enable := some .clk, enableReg := .pccr0,
      enableShift := Pccr0.owire.offset, disable := some .clk }
  | .rtcClk =>
    { parent := some .ipgClk, enable := some .clk, enableReg := .pccr0,
      enableShift := Pccr0.rtc.offset, disable := some .clk }
  | .sccClk =>
    { parent := some .ipgClk, enable := some .clk, enableReg := .pccr0,
      enableShift := Pccr0.scc.offset, disable := some .clk }

def probedDef (rev : ℕ) (c : Mx27Clk) : ClkDef :=
  if c = .cpuClk ∧ ¬ isTo2 rev then
    { mx27ClkDef c with setParent := none, roundRate := none, setRate := none }
  else mx27ClkDef c

section Hooks

variable (rev : ℕ)

def ownRoundRate (c : Mx27Clk) : Option (BitVec 32 → State → Option (BitVec 32)) :=
  match (probedDef rev c).roundRate with
  | some .cpu => some (clkCpuRoundRate c)
  | some .perclkx => some (clkPerclkxRoundRate c)
  | some .vpu => some (clkVpuRoundRate c)
  | some .clko => some (clkClkoRoundRate c)
  | some .parent | none => none

def ownSetRate (c : Mx27Clk) : Option (BitVec 32 → State → Option (ℤ × State)) :=
  match (probedDef rev c).setRate with
  | some .cpu => some (clkCpuSetRate c)
  | some .perclkx => some (clkPerclkxSetRate (probedDef rev c).id c)
  | some .vpu => some (clkVpuSetRate c)
  | some .clko => some (clkClkoSetRate c)
  | some .parent | none => none

def ops (c : Mx27Clk) : Clk.ClkOps Mx27Clk Ccm where
  enable := (probedDef rev c).enable.map
    (GateHook.enable (probedDef rev c).enableReg (probedDef rev c).enableShift)
  disable := (probedDef rev c).disable.map
    (GateHook.disable (probedDef rev c).enableReg (probedDef rev c).enableShift)
  recalc := (probedDef rev c).recalc.map (RecalcHook.run rev c (probedDef rev c).id)
  roundRate :=
    match (probedDef rev c).roundRate with
    | some .parent => some (clkParentRoundRate (ownRoundRate rev) c)
    | _ => ownRoundRate rev c
  setRate :=
    match (probedDef rev c).setRate with
    | some .parent => some (clkParentSetRate (ownSetRate rev) c)
    | _ => ownSetRate rev c
  setParent := (probedDef rev c).setParent.map fun h =>
    match h with
    | .cpu => clkCpuSetParent rev c
    | .clko => clkClkoSetParent c

/-- `mxc_clocks_init` registers a clock unless it is one of the main MPLL
outputs on TO1.0. -/
def Registered (c : Mx27Clk) : Prop :=
  ¬ ((c = .mpllMainClk0 ∨ c = .mpllMainClk1) ∧ cpuIsMx27Rev rev CHIP_REV_1_0 = 1)

instance (c : Mx27Clk) : Decidable (Registered rev c) := inferInstanceAs (Decidable (¬ _))

def mx27 : Clk.Platform Mx27Clk Ccm where
  ops := ops rev
  clocks := (mxcClks.filter (Registered rev)).reverse

end Hooks

/-! ### Boot -/

/-- `system_rev` and `MXC_CKIH_SOURCE()`. -/
structure Board where
  rev : ℕ
  ckihSource : Bool

def initState (hw : Ccm) : State where
  parent c := (mx27ClkDef c).parent
  secondary c := (mx27ClkDef c).secondary
  rate c := (mx27ClkDef c).rate
  usecount _ := 0
  hw := hw

def cscrHas (s : State) (mask : BitVec 32) : Prop := s.hw .cscr &&& mask ≠ 0

instance (s : State) (mask : BitVec 32) : Decidable (cscrHas s mask) := inferInstanceAs (Decidable (_ ≠ _))

def probeMxcClocks (rev : ℕ) (s : State) : State :=
  if isTo2 rev then
    let s := if cscrHas s 0x8000 then s.setParent .cpuClk (some .mpllMainClk0) else s
    let s := if ¬ cscrHas s 0x00800000 then s.setParent .ssi2Clk0 (some .spllClk) else s
    let s := if ¬ cscrHas s 0x00400000 then s.setParent .ssi1Clk0 (some .spllClk) else s
    if ¬ cscrHas s 0x00200000 then s.setParent .vpuClk (some .spllClk) else s
  else
    let s := s.setParent .cpuClk (some .mpllClk)
    let s := s.setParent .ahbClk (some .mpllClk)
    let s := [Mx27Clk.perClk0, .perClk1, .perClk2, .perClk3].foldl (fun s c => s.setParent c (some .mpllClk)) s
    let s := s.setParent .ssi1Clk0 (some .mpllClk)
    let s := s.setParent .ssi2Clk0 (some .mpllClk)
    s.setParent .vpuClk (some .mpllClk)

def callRecalc (rev : ℕ) (c : Mx27Clk) (s : State) : Option State := do
  let h ← (ops rev c).recalc
  let p ← s.parent c
  some (s.setRate c (h s.hw (s.rate c) p (s.rate p)))

def mpllSource (s : State) : Mx27Clk := if cscrHas s cscrMcu then .ckihClk else .ckilClk

def ckihRate (b : Board) : BitVec 32 := if b.ckihSource then ckihClkFreq27MHz else ckihClkFreq

def recalcMpllMain (rev : ℕ) (s : State) : Option State :=
  if isTo2 rev then do
    let s ← callRecalc rev .mpllMainClk0 s
    callRecalc rev .mpllMainClk1 s
  else some s

def clkEarlyGetTimerRate (b : Board) (s : State) : Option (BitVec 32 × State) := do
  let s := s.setParent .mpllClk (some (mpllSource s))
  let s := s.setRate .ckihClk (ckihRate b)
  let s := probeMxcClocks b.rev s
  let s ← callRecalc b.rev .mpllClk s
  let s ← recalcMpllMain b.rev s
  let s ← callRecalc b.rev .perClk0 s
  let s := (Clk.runEnable (mx27 b.rev) .perClk0 s).2
  let s := (Clk.runEnable (mx27 b.rev) .gpt1Clk1 s).2
  some (s.rate .perClk0, s)

def mxcClocksLink (b : Board) (s : State) : State :=
  let s := { s with hw := rawWritel Pccr0.gpt1.mask CcmReg.pccr0.addr s.hw }
  let s := { s with hw := rawWritel (Pccr1.perclk1.mask ||| Pccr1.hclkEmi.mask) CcmReg.pccr1.addr s.hw }
  let s := Clk.runDisable (mx27 b.rev) .spllClk s
  let spllSource := if cscrHas s cscrSp then .ckihClk else .ckilClk
  let s := s.setParent .mpllClk (some (mpllSource s))
  let s := s.setParent .spllClk (some spllSource)
  s.setRate .ckihClk (ckihRate b)

def bootEnables : List Mx27Clk := [.emiClk, .gpioClk, .iimClk, .gpt1Clk0]

def mxcClocksInit (b : Board) (s : State) : Option (ℤ × State) := do
  let s := mxcClocksLink b s
  let s ← Clk.propagateRate (mx27 b.rev) (Fintype.card Mx27Clk) .ckihClk s
  let s ← Clk.propagateRate (mx27 b.rev) (Fintype.card Mx27Clk) .ckilClk s
  let s ← bootEnables.foldlM (fun s c => (Clk.clkEnable (mx27 b.rev) (some c) s).map (·.2)) s
  some (0, s)

def boot (b : Board) (hw : Ccm) : Option State := do
  let (_, s) ← clkEarlyGetTimerRate b (initState hw)
  let (_, s) ← mxcClocksInit b s
  some s

lemma card_mx27Clk : Fintype.card Mx27Clk = 84 := rfl

def clkoSources : List Mx27Clk :=
  [.ckilClk, .ckihClk, .mpllClk, .spllClk, .cpuClk, .ahbClk, .ipgClk, .perClk0, .perClk1, .perClk2,
   .perClk3, .ssi1Clk0, .ssi2Clk0, .nfcClk, .mstick1Clk, .vpuClk, .usbClk0]

def parentChoices (to2 : Bool) : Mx27Clk → List (Option Mx27Clk)
  | .mpllClk | .spllClk => [some .ckihClk, some .ckilClk]
  | .cpuClk => if to2 then [some .mpllMainClk0, some .mpllMainClk1] else [some .mpllClk]
  | .ahbClk | .perClk0 | .perClk1 | .perClk2 | .perClk3 =>
    if to2 then [some .mpllMainClk1] else [some .mpllClk]
  | .ssi1Clk0 | .ssi2Clk0 | .vpuClk =>
    if to2 then [some .mpllMainClk1, some .spllClk] else [some .mpllClk]
  | .clkoClk => none :: clkoSources.map some
  | c => [(mx27ClkDef c).parent]

def ParentsOk (rev : ℕ) (par : Mx27Clk → Option Mx27Clk) : Prop :=
  ∀ c, par c ∈ parentChoices (decide (isTo2 rev)) c

def depth : Mx27Clk → ℕ
  | .ckihClk | .ckilClk => 0
  | .mpllClk | .spllClk => 1
  | .mpllMainClk0 | .mpllMainClk1 => 2
  | .cpuClk | .ahbClk | .perClk0 | .perClk1 | .perClk2 | .perClk3 | .vpuClk => 3
  | .ipgClk | .nfcClk => 4
  | .lcdcClk0 => 7
  | .clkoClk => 8
  | c => if (mx27ClkDef c).secondary.isSome then 6 else 5

lemma depth_lt (c : Mx27Clk) : depth c < 9 := by cases c <;> decide

lemma depth_choices (to2 : Bool) (c : Mx27Clk) :
  (parentChoices to2 c).all (fun o => o.all fun p => decide (depth p < depth c)) = true := by
  cases to2 <;> cases c <;> rfl

lemma depth_secondary (c : Mx27Clk) :
  (mx27ClkDef c).secondary.all (fun d => decide (depth d < depth c)) = true := by
  cases c <;> rfl

lemma main_choices (c : Mx27Clk) : ∀ o ∈ parentChoices false c, o ≠ some .mpllMainClk0 ∧ o ≠ some .mpllMainClk1 := by
  cases c <;> decide

lemma mem_clocks {rev : ℕ} {c : Mx27Clk} : c ∈ (mx27 rev).clocks ↔ Registered rev c := by
  have : c ∈ mxcClks := by cases c <;> decide
  simp [mx27,this]

namespace ParentsOk

variable {rev : ℕ} {par : Mx27Clk → Option Mx27Clk}

lemma depth_lt (h : ParentsOk rev par) {c p : Mx27Clk} (hp : par c = some p) : depth p < depth c := by
  have := List.all_eq_true.mp (depth_choices _ c) _ (h c)
  rw [hp] at this
  exact of_decide_eq_true this

lemma registered (h : ParentsOk rev par) {c p : Mx27Clk} (hp : par c = some p) : Registered rev p := by
  rintro ⟨hm,hr⟩
  have hto : ¬ isTo2 rev := by
    unfold cpuIsMx27Rev at hr
    split at hr
    · rename_i h1
      rw [h1]
      decide
    · split at hr <;> cases hr
  have hc := h c
  rw [decide_eq_false hto,hp] at hc
  have := main_choices c _ hc
  rcases hm with rfl | rfl
  · exact this.1 rfl
  · exact this.2 rfl

end ParentsOk

structure Wired (rev : ℕ) (s : State) : Prop where
  parents : ParentsOk rev s.parent
  secondary : ∀ c, s.secondary c = (mx27ClkDef c).secondary

lemma Wired.depth_secondary_lt {rev : ℕ} {s : State} (h : Wired rev s) {c d : Mx27Clk}
  (hd : s.secondary c = some d) : depth d < depth c := by
  have := depth_secondary c
  rw [← h.secondary,hd] at this
  exact of_decide_eq_true this

end Mx27.Mach
