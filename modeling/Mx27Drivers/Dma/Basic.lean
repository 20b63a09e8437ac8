/-
# The data of the DMA driver
-/
import Mathlib

namespace Mx27.Dma

open Function

def MAX_BD_SIZE : ℕ := 64
def MXC_DMA_CHANNELS : ℕ := 16
def MXC_DMA_DYNAMIC_CHANNEL : ℤ := 255

instance : NeZero MXC_DMA_CHANNELS := ⟨by decide⟩

def EBUSY : ℤ := 16
def ENODEV : ℤ := 19
def EINVAL : ℤ := 22

inductive DmaMode
  | read
  | write
  deriving DecidableEq

/-- `MXC_DMA_DONE`, `MXC_DMA_REQUEST_TIMEOUT` and `MXC_DMA_TRANSFER_ERROR`, the
outcomes a callback is told. -/
inductive Outcome
  | done
  | requestTimeout
  | transferError
  deriving DecidableEq

/-- `mx2_dma_info_t`, the parameters of a device's channel. -/
structure DmaInfo where
  dmaChan : BitVec 32
  mode : Bool
  rtoEn : Bool
  dir : Bool
  dmaChaining : Bool
  ren : Bool
  m2dValid : Bool
  msel : Bool
  burstLength : BitVec 32
  request : BitVec 32
  busuntils : BitVec 32
  sourceType : BitVec 32
  sourcePort : BitVec 32
  destType : BitVec 32
  destPort : BitVec 32
  perAddress : BitVec 32
  w : BitVec 32
  x : BitVec 32
  y : BitVec 32
  deriving DecidableEq

def hwChainingDmaInfo : DmaInfo where
  dmaChan := 255
  mode := false
  rtoEn := false
  dir := false
  dmaChaining := true
  ren := false
  m2dValid := false
  msel := false
  burstLength := 4
  request := 0
  busuntils := 0
  sourceType := 0
  sourcePort := 0
  destType := 0
  destPort := 0
  perAddress := 0
  w := 0
  x := 0
  y := 0

structure BdState where
  busy : Bool
  pend : Bool
  last : Bool
  deriving DecidableEq

/-- `mx2_dma_bd_t`, a buffer descriptor. -/
structure DmaBd where
  state : BdState
  mode : DmaMode
  count : BitVec 32
  srcAddr : BitVec 32
  dstAddr : BitVec 32
  deriving DecidableEq

structure RequestBuf where
  srcAddr : BitVec 32
  dstAddr : BitVec 32
  numOfBytes : BitVec 32
  deriving DecidableEq

structure Scatter where
  dmaAddress : BitVec 32
  length : BitVec 32
  deriving DecidableEq

/-! ### The controller as the driver sees it -/

/-- `dma_regs_t`, the registers of a channel. -/
inductive ChanReg
  | sourceAddr
  | destAddr
  | count
  | ctl
  | requestSource
  | burstLength
  | busUtilt
  | transferd
  deriving DecidableEq

structure Events where
  disr : Bool
  dbtosr : Bool
  drtosr : Bool
  dsesr : Bool
  dbosr : Bool
  deriving DecidableEq

class Dmac (H : Type) where
  readl : ChanReg → H → BitVec 32
  writel : BitVec 32 → ChanReg → H → H
  events : H → Events
  clear : H → H

@[ext] structure Regs where
  reg : ChanReg → BitVec 32
  events : Events

instance : Dmac Regs where
  readl r h := h.reg r
  writel v r h := { h with reg := Function.update h.reg r v }
  events h := h.events
  clear h := { h with events := ⟨false, false, false, false, false⟩ }

/-! ### The state -/

/-- `mxc_dma_channel_t` with its `mx2_dma_priv_t`, its descriptor ring and its registers. -/
structure Chan (H : Type) where
  channel : ℕ
  active : Bool
  lock : Bool
  mode : DmaMode
  dynamic : Bool
  cbFn : Bool
  dmaChaining : Bool
  ren : Bool
  transBytes : BitVec 32
  dmaInfo : Option DmaInfo
  bdRd : ℕ
  bdWr : ℕ
  bdUsed : ℤ
  bdRing : ℕ → DmaBd
  irqHandlers : ℕ
  regs : H

structure Shared where
  gDmaActived : ℤ
  clkRefs : ℤ
  dcr : BitVec 32
  dimr : BitVec 32
  wsra : BitVec 32
  xsra : BitVec 32
  ysra : BitVec 32
  wsrb : BitVec 32
  xsrb : BitVec 32
  ysrb : BitVec 32

structure View (H : Type) extends Shared, Chan H

structure Driver (H : Type) where
  shared : Shared
  chan : Fin MXC_DMA_CHANNELS → Chan H

namespace Driver

variable {H : Type}

def view (d : Driver H) (i : Fin MXC_DMA_CHANNELS) : View H := ⟨d.shared, d.chan i⟩

def put (d : Driver H) (i : Fin MXC_DMA_CHANNELS) (v : View H) : Driver H :=
  ⟨v.toShared, Function.update d.chan i v.toChan⟩

@[simp] lemma put_chan_self (d : Driver H) (i : Fin MXC_DMA_CHANNELS) (v : View H) :
  (d.put i v).chan i = v.toChan := update_self ..

lemma put_chan_of_ne (d : Driver H) {i j : Fin MXC_DMA_CHANNELS} (h : j ≠ i) (v : View H) :
  (d.put i v).chan j = d.chan j := update_of_ne h ..

@[simp] lemma put_view (d : Driver H) (i : Fin MXC_DMA_CHANNELS) : d.put i (d.view i) = d := by
  simp [view,put]

@[simp] lemma view_put (d : Driver H) (i : Fin MXC_DMA_CHANNELS) (v : View H) : (d.put i v).view i = v := by
  simp [view,put]

end Driver

end Mx27.Dma
