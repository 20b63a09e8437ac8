/-
# The DMA driver

The functions of `plat-mxc/dma_mx2.c`.
-/
import Mx27Drivers.Dma.Basic

namespace Mx27.Dma

def DMA_CTL_CEN : BitVec 32 := 0x1
def DMA_CTL_RPT : BitVec 32 := 0x4
def DMA_CTL_REN : BitVec 32 := 0x8
def DMA_CTL_MSEL : BitVec 32 := 0x100
def DMA_CTL_MDIR : BitVec 32 := 0x200
def DMA_CTL_ACRPT : BitVec 32 := 0x4000

def DMA_DONE : BitVec 32 := 0x1000
def DMA_BURST_TIMEOUT : BitVec 32 := 0x1
def DMA_REQUEST_TIMEOUT : BitVec 32 := 0x2
def DMA_TRANSFER_ERROR : BitVec 32 := 0x4
def DMA_BUFFER_OVERFLOW : BitVec 32 := 0x8

def DMA_TYPE_FIFO : BitVec 32 := 0x2

def dmaCtlSet (off : ℕ) (x value : BitVec 32) : BitVec 32 := (x &&& ~~~((0x3 : BitVec 32) <<< off)) ||| (value <<< off)

def dmaCtlSetSsiz : BitVec 32 → BitVec 32 → BitVec 32 := dmaCtlSet 4
def dmaCtlSetDsiz : BitVec 32 → BitVec 32 → BitVec 32 := dmaCtlSet 6
def dmaCtlSetSmod : BitVec 32 → BitVec 32 → BitVec 32 := dmaCtlSet 10
def dmaCtlSetDmod : BitVec 32 → BitVec 32 → BitVec 32 := dmaCtlSet 12

def setPorts (info : DmaInfo) (mode : DmaMode) (reg : BitVec 32) : BitVec 32 :=
  match mode with
  | .read => dmaCtlSetDsiz (dmaCtlSetDmod (dmaCtlSetSsiz (dmaCtlSetSmod reg info.sourceType) info.sourcePort)
      info.destType) info.destPort
  | .write => dmaCtlSetDsiz (dmaCtlSetDmod (dmaCtlSetSsiz (dmaCtlSetSmod reg info.destType) info.destPort)
      info.sourceType) info.sourcePort

def getDmaInterrupt (e : Events) : BitVec 32 :=
  (if e.disr then DMA_DONE else 0) ||| (if e.dbtosr then DMA_BURST_TIMEOUT else 0) |||
    (if e.dsesr then DMA_TRANSFER_ERROR else 0) ||| (if e.dbosr then DMA_BUFFER_OVERFLOW else 0) |||
    (if e.drtosr then DMA_REQUEST_TIMEOUT else 0)

variable {H : Type}

def maskDmaInterrupt (channel : ℕ) (s : Shared) : Shared := { s with dimr := s.dimr ||| ((1 : BitVec 32) <<< channel) }

def unmaskDmaInterrupt (channel : ℕ) (s : Shared) : Shared := { s with dimr := s.dimr &&& ~~~((1 : BitVec 32) <<< channel) }

def enableDmaClkLocked (s : Shared) : Shared := { s with clkRefs := s.clkRefs + 1, dcr := s.dcr ||| 0x1 }

def disableDmaClkLocked (s : Shared) : Shared := { s with clkRefs := s.clkRefs - 1, dcr := s.dcr &&& ~~~0x1 }

def enableDmaClk (s : Shared) : Shared := if s.gDmaActived = 0 then enableDmaClkLocked s else s

def disableDmaClk (s : Shared) : Shared := if s.gDmaActived = 0 then disableDmaClkLocked s else s

namespace View

def onShared (f : Shared → Shared) (v : View H) : View H := { v with toShared := f v.toShared }

def onChan (f : Chan H → Chan H) (v : View H) : View H := { v with toChan := f v.toChan }

end View

namespace Chan

def flushDmaBd (c : Chan H) : Chan H := { c with bdUsed := 0, bdRd := c.bdWr }

/-- `next_dma_bd`: the index of the descriptor after the first. -/
def nextDmaBd (c : Chan H) : Option ℕ :=
  if (c.bdRd + 1) % MAX_BD_SIZE = c.bdWr then none else some ((c.bdRd + 1) % MAX_BD_SIZE)

def setState (i : ℕ) (st : BdState) (c : Chan H) : Chan H :=
  { c with bdRing := Function.update c.bdRing i { c.bdRing i with state := st } }

def setBusy (i : ℕ) (c : Chan H) : Chan H :=
  c.setState i { (c.bdRing i).state with busy := true, pend := false }

def initDmaBd (c : Chan H) : Chan H :=
  { c with
    bdRd := 0, bdWr := 0, bdUsed := 0
    bdRing := fun i => if i < MAX_BD_SIZE then { c.bdRing i with state := ⟨false, false, false⟩ } else c.bdRing i }

def push (bd : DmaBd) (c : Chan H) : Chan H :=
  { c with
    bdRing := Function.update c.bdRing c.bdWr bd
    bdWr := (c.bdWr + 1) % MAX_BD_SIZE
    bdUsed := c.bdUsed + 1 }

def pop (c : Chan H) : Chan H := { c with bdRd := (c.bdRd + 1) % MAX_BD_SIZE, bdUsed := c.bdUsed - 1 }

end Chan

section Hardware

variable [Dmac H]

open Dmac

def onRegs (f : H → H) (v : View H) : View H := { v with regs := f v.regs }

def writeBd (p : DmaBd) (h : H) : H :=
  writel p.count .count (writel p.dstAddr .destAddr (writel p.srcAddr .sourceAddr h))

def modeCtl (c : Chan H) (p : DmaBd) (ctrl : BitVec 32) : Option (BitVec 32) :=
  if p.mode ≠ c.mode then c.dmaInfo.map fun info => setPorts info p.mode ctrl else some ctrl

def chainNext (q : Option ℕ) (ctrl : BitVec 32) (v : View H) : View H :=
  match q with
  | some q =>
    if v.dmaChaining then
      { v with
        toChan := Chan.setBusy q { v.toChan with
          regs := writel (ctrl ||| (DMA_CTL_ACRPT ||| DMA_CTL_RPT ||| DMA_CTL_CEN)) .ctl
            (writeBd (v.bdRing q) v.regs) } }
    else v
  | none => v

/-- `setup_dmac` when the first descriptor is not in the controller. -/
def setupFirst (v : View H) : Option (View H) := do
  let p := v.bdRing v.bdRd
  let q := v.nextDmaBd
  let ctrl := readl .ctl v.regs &&& ~~~(DMA_CTL_ACRPT ||| DMA_CTL_RPT ||| DMA_CTL_CEN)
  let h := writel ctrl .ctl v.regs
  let ctrl ← modeCtl v.toChan p ctrl
  let ctrl' := ctrl ||| DMA_CTL_CEN
  let h := writel ctrl' .ctl (writeBd p h)
  some (chainNext q ctrl' { v with toChan := Chan.setBusy v.bdRd { v.toChan with mode := p.mode, regs := h } })

/-- `setup_dmac` when the first descriptor is being transferred. -/
def setupNext (v : View H) : Option (View H) :=
  if ¬ v.dmaChaining then none
  else match v.nextDmaBd with
    | some q =>
      let h := writeBd (v.bdRing q) v.regs
      let h := writel (readl .ctl h ||| (DMA_CTL_ACRPT ||| DMA_CTL_RPT ||| DMA_CTL_CEN)) .ctl h
      let v := { v with regs := h }
      if getDmaInterrupt (events h) = 0 then some { v with toChan := v.toChan.setBusy q } else some v
    | none =>
      some { v with regs := writel (readl .ctl v.regs &&& ~~~(DMA_CTL_ACRPT ||| DMA_CTL_RPT)) .ctl v.regs }

def setupDmac (v : View H) : Option (View H) :=
  if ¬ v.active then some v
  else if v.bdUsed ≤ 0 then some { v with active := false, gDmaActived := v.gDmaActived - 1 }
  else if ¬ (v.bdRing v.bdRd).state.busy then setupFirst v
  else setupNext v

def dropBds (p : ℕ) : ℕ → Chan H → Chan H
  | 0, c => c
  | n + 1, c =>
    if 0 < c.bdUsed then
      if (c.bdRing p).state.last then c.pop.setState p ⟨false, false, false⟩
      else dropBds p n (c.pop.setState p ⟨false, false, false⟩)
    else c

def takeBds (error : Outcome) (c : Chan H) : Bool × Chan H :=
  if error ≠ .done then (true, dropBds c.bdRd c.bdUsed.toNat c)
  else ((c.bdRing c.bdRd).state.last, c.pop)

def consumeDmaBd (error : Outcome) (v : View H) : Option (Bool × View H) :=
  let r := takeBds error v.toChan
  let v := { v with toChan := r.2 }
  if v.bdUsed ≤ 0 then some (r.1, { v with active := false, gDmaActived := v.gDmaActived - 1 })
  else (setupDmac v).map fun v => (r.1, v)

def outcome (state : BitVec 32) : Outcome :=
  if state ≠ DMA_DONE then
    if state &&& DMA_REQUEST_TIMEOUT ≠ 0 then .requestTimeout else .transferError
  else .done

def dmaIrqHandler (v : View H) : Option (Option (Outcome × BitVec 32) × View H) := do
  let error := outcome (getDmaInterrupt (events v.regs))
  let v := onRegs clear v
  let v := { v with transBytes := v.transBytes + readl .transferd v.regs }
  let (notify, v) ← consumeDmaBd error v
  let v := v.onShared disableDmaClk
  if notify then
    some (if v.cbFn then some (error, v.transBytes) else none, { v with transBytes := 0 })
  else some (none, v)

/-! ### Filling the ring -/

/-- `mask_dma_interrupt` before and `restore_dma_interrupt` after. -/
def masked (body : View H → Option (View H)) (v : View H) : Option (View H) :=
  (body (v.onShared (maskDmaInterrupt v.channel))).map fun w => { w with dimr := v.dimr }

def chainSecond (v : View H) : Option (View H) :=
  if v.dmaChaining ∧ v.active then
    if (v.bdRing v.bdRd).state.busy then
      if v.bdUsed = 2 then setupDmac v else some v
    else some v
  else some v

def chainSecondSg (v : View H) : Option (View H) :=
  if v.dmaChaining ∧ v.active then
    match v.nextDmaBd with
    | some q =>
      if (v.bdRing q).state.busy then
        if v.bdUsed = 2 then setupDmac v else some v
      else some v
    | none => some v
  else some v

def recheck (v : View H) : Option (View H) := masked chainSecond v

def recheckSg (v : View H) : Option (View H) := masked chainSecondSg v

def thenCheck (check : View H → Option (View H)) (v : View H) : Option (View H) :=
  if v.bdUsed ≠ 2 then some v else check v

def bufBd (mode : DmaMode) (last : Bool) (b : RequestBuf) : DmaBd :=
  ⟨⟨false, true, last⟩, mode, b.numOfBytes, b.srcAddr, b.dstAddr⟩

def fillBds (mode : DmaMode) : List RequestBuf → View H → Option (View H)
  | [], v => some v
  | b :: bs, v => do
    let v := v.onChan (Chan.push (bufBd mode bs.isEmpty b))
    let v ← thenCheck recheck v
    fillBds mode bs v

def fillDmaBd (buf : List RequestBuf) (mode : DmaMode) (v : View H) : Option (ℤ × View H) :=
  if v.bdUsed + buf.length > MAX_BD_SIZE then some (-EBUSY, v)
  else (fillBds mode buf v).map fun v => (0, v)

def sgBd (info : DmaInfo) (mode : DmaMode) (last : Bool) (count : BitVec 32) (sg : Scatter) : DmaBd :=
  match mode with
  | .read => ⟨⟨false, true, last⟩, mode, count, info.perAddress, sg.dmaAddress⟩
  | .write => ⟨⟨false, true, last⟩, mode, count, sg.dmaAddress, info.perAddress⟩

def sgCount (realBytes totalBytes : ℤ) (sg : Scatter) : BitVec 32 :=
  if 0 < realBytes then
    if (sg.length.toNat : ℤ) ≥ totalBytes then BitVec.ofInt 32 totalBytes else sg.length
  else sg.length

/-- `total_bytes` after an entry. -/
def sgLeft (realBytes totalBytes : ℤ) (sg : Scatter) : ℤ :=
  if 0 < realBytes then totalBytes - (sgCount realBytes totalBytes sg).toNat else totalBytes

def fillSg (mode : DmaMode) (realBytes : ℤ) : List Scatter → ℤ → View H → Option (View H)
  | [], _, v => some v
  | sg :: sgs, totalBytes, v =>
    if realBytes ≤ 0 ∨ 0 < totalBytes then do
      let info ← v.dmaInfo
      let count := sgCount realBytes totalBytes sg
      let left := sgLeft realBytes totalBytes sg
      let last := sgs.isEmpty || decide (0 < realBytes ∧ left = 0)
      let v := v.onChan (Chan.push (sgBd info mode last count sg))
      let v ← thenCheck recheckSg v
      fillSg mode realBytes sgs left v
    else some v

def fillDmaBdBySg (sg : List Scatter) (realBytes : ℤ) (mode : DmaMode) (v : View H) : Option (ℤ × View H) :=
  if v.bdUsed + sg.length > MAX_BD_SIZE then some (-EBUSY, v)
  else (fillSg mode realBytes sg realBytes v).map fun v => (0, v)

def configured (mode : DmaMode) (fill : View H → Option (ℤ × View H)) (v : View H) : Option (ℤ × View H) :=
  if ¬ v.lock then some (-ENODEV, v)
  else if v.dmaChaining ∧ v.mode ≠ mode then some (-EINVAL, v)
  else fill v

def config (buf : List RequestBuf) (mode : DmaMode) (v : View H) : Option (ℤ × View H) :=
  configured mode (fillDmaBd buf mode) v

def sgConfig (sg : List Scatter) (numOfBytes : ℤ) (mode : DmaMode) (v : View H) : Option (ℤ × View H) :=
  configured mode (fillDmaBdBySg sg numOfBytes mode) v

def callbackSet (callback : Bool) (v : View H) : ℤ × View H :=
  if ¬ v.lock then (-ENODEV, v)
  else if v.active then (-EBUSY, v)
  else (0, { v with cbFn := callback })

def disable (v : View H) : ℤ × View H :=
  if ¬ v.lock then (-EINVAL, v)
  else if ¬ v.active then (-EINVAL, v)
  else
    let v := { v with active := false }
    let v := v.onShared enableDmaClk
    let v := onRegs clear v
    let v := onRegs (fun h => writel (readl .ctl h &&& ~~~DMA_CTL_CEN) .ctl h) v
    let v := v.onShared disableDmaClk
    let v := { v with gDmaActived := v.gDmaActived - 1 }
    (0, v.onChan Chan.flushDmaBd)

def enable (v : View H) : Option (ℤ × View H) :=
  if ¬ v.lock then some (-EINVAL, v)
  else if v.active then some (0, v)
  else do
    let v := { v with active := true, transBytes := 0 }
    let v := v.onShared enableDmaClk
    let v := { v with gDmaActived := v.gDmaActived + 1 }
    let v := onRegs clear v
    let v ← setupDmac v
    some (0, v.onShared disableDmaClk)

def free (v : View H) : ℤ × View H :=
  if v.lock then
    let v := if v.active then (disable v).2 else v
    let v := v.onShared fun s => disableDmaClk (maskDmaInterrupt v.channel (enableDmaClk s))
    (0, { v with irqHandlers := v.irqHandlers - 1, lock := false })
  else (0, v)

def infoOk (info : DmaInfo) : Bool :=
  decide (info.sourceType ≤ 3) && decide (info.destType ≤ 3) && decide (info.destPort ≤ 3) &&
    decide (info.sourcePort ≤ 3) && (!info.m2dValid || decide (info.x ≤ info.w))

def set2D (info : DmaInfo) (s : Shared) : Shared :=
  if info.m2dValid then
    if info.msel then { s with wsrb := info.w, xsrb := info.x, ysrb := info.y }
    else { s with wsra := info.w, xsra := info.x, ysra := info.y }
  else s

def infoRen (info : DmaInfo) : Bool :=
  if info.sourceType ≠ DMA_TYPE_FIFO ∧ info.destType ≠ DMA_TYPE_FIFO then false else info.ren

def infoBusUtilt (info : DmaInfo) : BitVec 32 :=
  if info.ren then
    if info.rtoEn then (info.busuntils &&& 0x1FFFF) ||| 0xE000 else info.busuntils &&& 0x1FFFF
  else info.busuntils

def setBit (b : Bool) (bit reg : BitVec 32) : BitVec 32 := if b then reg ||| bit else reg &&& ~~~bit

def infoMode (info : DmaInfo) : DmaMode := if info.mode then .write else .read

def infoCtl (info : DmaInfo) (ctl : BitVec 32) : BitVec 32 :=
  let reg := ctl &&& ~~~(DMA_CTL_ACRPT ||| DMA_CTL_RPT)
  let reg := setBit info.dir DMA_CTL_MDIR reg
  let reg := setBit (infoRen info) DMA_CTL_REN reg
  let reg := setBit (info.m2dValid && info.msel) DMA_CTL_MSEL reg
  setPorts info (infoMode info) reg

def setupRegs (info : DmaInfo) (h : H) : H :=
  let h := writel info.burstLength .burstLength h
  let h := writel info.request .requestSource h
  let h := writel (infoBusUtilt info) .busUtilt h
  clear (writel (infoCtl info (readl .ctl h)) .ctl h)

def setupDmaChannel (info : DmaInfo) (v : View H) : ℤ × View H :=
  if ¬ infoOk info then (-1, v)
  else
    let v := { v with dmaChaining := info.dmaChaining, ren := infoRen info, regs := setupRegs info v.regs }
    (0, v.onShared fun s => disableDmaClk (unmaskDmaInterrupt v.channel (set2D info s)))

def initDmaChannel (info : DmaInfo) (irq : ℕ) (v : View H) : ℤ × View H :=
  let v := v.onShared (maskDmaInterrupt v.channel)
  if irq ≠ 0 then (-irq, v)
  else
    let v := { v with irqHandlers := v.irqHandlers + 1 }
    let v := v.onShared enableDmaClk
    let v := onRegs (writel 0 .ctl) v
    let r := setupDmaChannel info v
    let v := if r.1 ≠ 0 then { r.2 with irqHandlers := r.2.irqHandlers - 1 } else r.2
    (0, v.onShared disableDmaClk)

/-- `mxc_dma_request` on the channel that `get_dma_channel` locked. -/
def requestOn (info : DmaInfo) (irq : ℕ) (v : View H) : ℤ × View H :=
  let v := { v with active := false, dmaInfo := none, cbFn := false, mode := infoMode info }
  let v := v.onChan Chan.initDmaBd
  let r := initDmaChannel info irq v
  if r.1 = 0 then (0, { r.2 with dmaInfo := some info }) else (r.1, { r.2 with lock := false })

end Hardware

/-! ### The driver -/

def chanOf (channelNum : ℤ) : Option (Fin MXC_DMA_CHANNELS) :=
  if h : 0 ≤ channelNum ∧ channelNum < MXC_DMA_CHANNELS then
    some ⟨channelNum.toNat, by omega⟩
  else none

def getDmaChannel (idx : ℤ) (d : Driver H) : Option (Option (Fin MXC_DMA_CHANNELS)) :=
  if idx ≥ MXC_DMA_CHANNELS ∧ idx ≠ MXC_DMA_DYNAMIC_CHANNEL then some none
  else if idx ≠ MXC_DMA_DYNAMIC_CHANNEL then
    match chanOf idx with
    | none => none
    | some i =>
      if (d.chan i).dynamic then none
      else some (if (d.chan i).lock then none else some i)
  else some ((List.finRange MXC_DMA_CHANNELS).find? fun i => (d.chan i).dynamic && !(d.chan i).lock)

def onChannel (channelNum : ℤ) (call : View H → Option (ℤ × View H)) (d : Driver H) : Option (ℤ × Driver H) :=
  match chanOf channelNum with
  | none => some (-EINVAL, d)
  | some i => (call (d.view i)).map fun r => (r.1, d.put i r.2)

variable [Dmac H]

/-- `mxc_dma_request`, for the parameters that `mxc_dma_get_info` finds for the device. -/
def mxcDmaRequest (info : Option DmaInfo) (irq : ℕ) (d : Driver H) : Option (ℤ × Driver H) :=
  match info with
  | none => some (-EINVAL, d)
  | some info => (getDmaChannel info.dmaChan.toInt d).map fun
    | none => (-ENODEV, d)
    | some i =>
      let r := requestOn info irq { d.view i with lock := true }
      (if r.1 = 0 then i.val else r.1, d.put i r.2)

def mxcDmaFree (channelNum : ℤ) (d : Driver H) : Option (ℤ × Driver H) :=
  onChannel channelNum (fun v => some (free v)) d

def mxcDmaConfig (channelNum : ℤ) (dmaBuf : Option (List RequestBuf)) (mode : DmaMode) (d : Driver H) :
  Option (ℤ × Driver H) :=
  match dmaBuf with
  | none | some [] => some (-EINVAL, d)
  | some buf => onChannel channelNum (config buf mode) d

def mxcDmaSgConfig (channelNum : ℤ) (sg : Option (List Scatter)) (numOfBytes : ℤ) (mode : DmaMode) (d : Driver H) :
  Option (ℤ × Driver H) :=
  match sg with
  | none | some [] => some (-EINVAL, d)
  | some sg =>
    if numOfBytes < 0 then some (-EINVAL, d) else onChannel channelNum (sgConfig sg numOfBytes mode) d

def mxcDmaCallbackSet (channelNum : ℤ) (callback : Bool) (d : Driver H) : Option (ℤ × Driver H) :=
  onChannel channelNum (fun v => some (callbackSet callback v)) d

def mxcDmaDisable (channelNum : ℤ) (d : Driver H) : Option (ℤ × Driver H) :=
  onChannel channelNum (fun v => some (disable v)) d

def mxcDmaEnable (channelNum : ℤ) (d : Driver H) : Option (ℤ × Driver H) :=
  onChannel channelNum enable d

def dmaInterrupt (i : Fin MXC_DMA_CHANNELS) (h : H) (d : Driver H) :
  Option (Option (Outcome × BitVec 32) × Driver H) :=
  (dmaIrqHandler (onRegs (fun _ => h) (d.view i))).map fun r => (r.1, d.put i r.2)

/-- `mxc_dma_init`, on the channels that `mxc_dma_load_info` finds to be
dynamic. -/
def mxcDmaInit (dynamic : Fin MXC_DMA_CHANNELS → Bool) (s : Shared) (ring : Fin MXC_DMA_CHANNELS → ℕ → DmaBd)
  (regs : Fin MXC_DMA_CHANNELS → H) : Driver H where
  shared := disableDmaClk { s with gDmaActived := 0, clkRefs := 1, dcr := 0x2 }
  chan i :=
    { channel := i, active := false, lock := false, mode := .read, dynamic := dynamic i, cbFn := false
      dmaChaining := false, ren := false, transBytes := 0, dmaInfo := none, bdRd := 0, bdWr := 0, bdUsed := 0
      bdRing := ring i, irqHandlers := 0, regs := regs i }

def zeroRegs : Regs := ⟨fun _ => 0, ⟨false, false, false, false, false⟩⟩

def freshDriver : Driver Regs :=
  mxcDmaInit (fun _ => true) ⟨0, 0, 0, 0, 0, 0, 0, 0, 0, 0⟩ (fun _ _ => ⟨⟨false, false, false⟩, .read, 0, 0, 0⟩)
    fun _ => zeroRegs

end Mx27.Dma
