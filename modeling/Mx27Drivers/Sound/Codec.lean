/-
# The audio driver

A playback and a capture stream share one SSI and one codec.
-/
import Mx27Drivers.Lib.Bits
import Mx27Drivers.Lib.Run

namespace Mx27.Sound

inductive Dir
  | playback
  | capture
  deriving DecidableEq, Repr

def Dir.other : Dir → Dir
  | playback => capture
  | capture => playback

structure Ssi where
  scr : BitVec 32
  sier : BitVec 32
  deriving DecidableEq, Repr

def SSI_ENABLE : BitVec 32 := 1 <<< 0
def SSI_TRANSMIT_ENABLE : BitVec 32 := 1 <<< 1
def SSI_RECEIVE_ENABLE : BitVec 32 := 1 <<< 2
def SSI_SYNCHRONOUS_MODE : BitVec 32 := 1 <<< 4
def SSI_I2S_MODE : BitVec 32 := 3 <<< 5
def I2S_SLAVE : BitVec 32 := 2 <<< 5

def ssi_tx_fifo_0_empty : BitVec 32 := 0x00000001
def ssi_rx_fifo_0_full : BitVec 32 := 0x00000004
def ssi_tx_dma_interrupt_enable : BitVec 32 := 0x00100000
def ssi_rx_dma_interrupt_enable : BitVec 32 := 0x00400000

def setRegisterBits (mask data reg : BitVec 32) : BitVec 32 := reg &&& ~~~mask ||| data

namespace Ssi

def control (bit : BitVec 32) (state : Bool) (x : Ssi) : Ssi :=
  { x with scr := setRegisterBits bit (if state then bit else 0) x.scr }

def enable : Bool → Ssi → Ssi := control SSI_ENABLE
def transmitEnable : Bool → Ssi → Ssi := control SSI_TRANSMIT_ENABLE
def receiveEnable : Bool → Ssi → Ssi := control SSI_RECEIVE_ENABLE
def synchronousMode : Bool → Ssi → Ssi := control SSI_SYNCHRONOUS_MODE

def i2sMode (mode : BitVec 32) (x : Ssi) : Ssi := { x with scr := setRegisterBits SSI_I2S_MODE mode x.scr }

def interruptEnable (mask : BitVec 32) (x : Ssi) : Ssi := { x with sier := setRegisterBits 0 mask x.sier }
def interruptDisable (mask : BitVec 32) (x : Ssi) : Ssi := { x with sier := setRegisterBits mask 0 x.sier }

/-- `mxc_ssi_general_config`, as far as the two registers are concerned. -/
def generalConfig (x : Ssi) : Ssi :=
  let x := x.enable false
  let x := x.synchronousMode true
  let x := x.i2sMode I2S_SLAVE
  let x := x.interruptEnable ssi_tx_dma_interrupt_enable
  let x := x.interruptDisable ssi_tx_fifo_0_empty
  let x := x.interruptEnable ssi_rx_dma_interrupt_enable
  let x := x.interruptDisable ssi_rx_fifo_0_full
  x.enable true

end Ssi

def Dir.dmaEnable : Dir → BitVec 32
  | playback => ssi_tx_dma_interrupt_enable
  | capture => ssi_rx_dma_interrupt_enable

def Dir.fifoEnable : Dir → BitVec 32
  | playback => ssi_tx_fifo_0_empty
  | capture => ssi_rx_fifo_0_full

def Dir.sectionEnable : Dir → BitVec 32
  | playback => SSI_TRANSMIT_ENABLE
  | capture => SSI_RECEIVE_ENABLE

/-- `mxc_ssi_tx_config`, `mxc_ssi_rx_config` -/
def Ssi.config (d : Dir) (x : Ssi) : Ssi := (x.interruptEnable d.fifoEnable).control d.sectionEnable true

def Ssi.close (d : Dir) (x : Ssi) : Ssi :=
  ((x.interruptDisable d.dmaEnable).interruptDisable d.fifoEnable).control d.sectionEnable false

def Ssi.recover (d : Dir) (x : Ssi) : Ssi := ((x.enable false).control d.sectionEnable false).enable true

def DMA_BUF_SIZE : ℕ := 8 * 1024

/-- `snd_pcm_runtime`, with the buffer that `hw_params` has allocated. -/
structure Runtime where
  dmaArea : ℕ
  periods : ℕ
  periodSize : ℕ
  frameBytes : ℕ
  periods_pos : 0 < periods
  size_pos : 0 < periodSize
  fits : frameBytes * periodSize ≤ DMA_BUF_SIZE

namespace Runtime

def periodBytes (rt : Runtime) : ℕ := rt.frameBytes * rt.periodSize

def bufferSize (rt : Runtime) : ℕ := rt.periods * rt.periodSize

def addr (rt : Runtime) (k : ℕ) : ℕ := rt.dmaArea + rt.periodBytes * k

end Runtime

structure Transfers where
  requests : List (ℕ × ℕ)
  completed : ℕ
  maps : List ℕ
  unmaps : List ℕ
  inFlight : List ℕ
  deriving DecidableEq, Repr

structure Stream where
  opened : Bool
  prepared : Bool
  active : Bool
  period : ℕ
  periods : ℕ
  rate : ℕ
  dma : Transfers
  deriving DecidableEq, Repr

namespace Stream

/-- `audio_playback_dma`, `audio_capture_dma`; the request is accepted. -/
def dmaFunc (rt : Runtime) (s : Stream) : Stream :=
  if !s.active then s
  else if DMA_BUF_SIZE < rt.periodBytes then s
  else
    let a := rt.addr s.period
    { s with
      period := (s.period + 1) % rt.periods
      dma := { s.dma with
        requests := s.dma.requests ++ [(a, rt.periodBytes)]
        maps := a :: s.dma.maps
        inFlight := s.dma.inFlight ++ [a] } }

def audioStopDma (rt : Runtime) (s : Stream) : Stream :=
  { s with
    active := false
    period := 0
    periods := 0
    dma := { s.dma with
      requests := []
      completed := 0
      unmaps := rt.addr s.periods :: s.dma.unmaps
      inFlight := [] } }

/-- `audio_dma_callback`, when the oldest transfer is done. -/
def audioDmaCallback (rt : Runtime) (stops : Bool) (s : Stream) : Stream :=
  let s := { s with
    periods := (s.periods + 1) % rt.periods
    dma := { s.dma with
      completed := s.dma.completed + 1
      unmaps := rt.addr s.periods :: s.dma.unmaps
      inFlight := s.dma.inFlight.tail } }
  let s := if s.active && stops then s.audioStopDma rt else s
  s.dmaFunc rt

def pointer (rt : Runtime) (s : Stream) : ℕ :=
  let offset := rt.periodSize * s.periods
  if rt.bufferSize ≤ offset then 0 else offset

end Stream

/-! ### The clock of the codec -/

/-- `clk_div`, by the values of `PORT1_DIV_SEL`. -/
def clkDiv : List ℕ := [0x7, 0xd, 0x5, 0xc, 0x4, 0x3, 0xb, 0x2, 0xa, 0x0]

def clkDivider (rate : ℕ) : ℤ :=
  match rate with
  | 8000 => 0
  | 11025 => 1
  | 16000 => 2
  | 22050 => 3
  | 24000 => 4
  | 32000 => 5
  | 44100 => 6
  | 48000 => 7
  | 88200 => 8
  | 96000 => 9
  | _ => -1

def rates : Dir → List ℕ
  | .playback => [8000, 11025, 16000, 22050, 24000, 32000, 44100, 48000, 88200, 96000]
  | .capture => [8000, 16000]

def adjustSpeed (speed : ℕ) : ℕ :=
  if (88200 + 96000) / 2 ≤ speed then 96000
  else if (48000 + 88200) / 2 ≤ speed then 88200
  else if (44100 + 48000) / 2 ≤ speed then 48000
  else if (32000 + 44100) / 2 ≤ speed then 44100
  else if (24000 + 32000) / 2 ≤ speed then 32000
  else if (22050 + 24000) / 2 ≤ speed then 24000
  else if (16000 + 22050) / 2 ≤ speed then 22050
  else if (11025 + 16000) / 2 ≤ speed then 16000
  else if (8000 + 11025) / 2 ≤ speed then 11025
  else 8000

structure Codec where
  stream : Dir → Stream
  ssi : Ssi
  ssiRef : ℕ
  rateIdx : ℤ
  divider : ℕ

namespace Codec

def setStream (c : Codec) (d : Dir) (s : Stream) : Codec := { c with stream := Function.update c.stream d s }

def i2sConfig (clkIdx : ℤ) (c : Codec) : Codec :=
  if clkIdx ≠ c.rateIdx then { c with divider := clkDiv.getD clkIdx.toNat 0, rateIdx := clkIdx } else c

/-- `cx20707_playback_config`, `cx20707_capture_config` -/
def streamConfig (d : Dir) (rate : ℕ) (c : Codec) : Codec :=
  let idx := clkDivider rate
  match d with
  | .playback => if idx < 0 then c else c.i2sConfig idx
  | .capture => if idx ≠ 0 ∧ idx ≠ 2 then c else c.i2sConfig idx

/-- `mx27_codec_open`. -/
def codecOpen (d : Dir) (ok : Bool) (c : Codec) : Codec :=
  if (c.stream d).opened || !ok then c
  else { c with
    stream := Function.update c.stream d { c.stream d with opened := true, prepared := false }
    ssiRef := c.ssiRef + 1
    ssi := if c.ssiRef + 1 = 1 then c.ssi.generalConfig else c.ssi }

def codecClose (d : Dir) (c : Codec) : Codec :=
  { c with
    stream := Function.update c.stream d { c.stream d with opened := false, prepared := false }
    ssi := c.ssi.close d
    ssiRef := c.ssiRef - 1
    rateIdx := if c.ssiRef - 1 = 0 then -1 else c.rateIdx }

def codecPrepare (d : Dir) (rate : ℕ) (c : Codec) : Codec :=
  let s := c.stream d
  let c := { c with
    stream := Function.update c.stream d { s with
      prepared := true
      period := 0
      periods := 0
      rate := adjustSpeed rate
      dma := { s.dma with requests := [], completed := 0 } }
    ssi := c.ssi.config d }
  c.streamConfig d (adjustSpeed rate)

def dmaSsi (d : Dir) (fault : Bool) (active : Bool) (x : Ssi) : Ssi :=
  if !active then x
  else (if fault then x.recover d else x).control d.sectionEnable true

def triggerStart (rt : Runtime) (d : Dir) (fault : Bool) (c : Codec) : Codec :=
  { c.setStream d ({ c.stream d with active := true }.dmaFunc rt) with ssi := dmaSsi d fault true c.ssi }

def triggerStop (rt : Runtime) (d : Dir) (c : Codec) : Codec := c.setStream d ((c.stream d).audioStopDma rt)

def callback (rt : Runtime) (d : Dir) (stops fault : Bool) (c : Codec) : Codec :=
  { c.setStream d ((c.stream d).audioDmaCallback rt stops) with
    ssi := dmaSsi d fault ((c.stream d).active && !stops) c.ssi }

end Codec

inductive Event
  | opens (d : Dir) (ok : Bool)
  | prepare (d : Dir) (rate : ℕ)
  | start (d : Dir) (fault : Bool)
  | stop (d : Dir)
  | callback (d : Dir) (stops fault : Bool)
  | close (d : Dir)
  deriving DecidableEq, Repr

def step (rt : Dir → Runtime) (c : Codec) : Event → Option Codec
  | .opens d ok => some (c.codecOpen d ok)
  | .prepare d rate => if (c.stream d).opened ∧ rate ∈ rates d then some (c.codecPrepare d rate) else none
  | .start d fault => if (c.stream d).opened then some (c.triggerStart (rt d) d fault) else none
  | .stop d => if (c.stream d).opened then some (c.triggerStop (rt d) d) else none
  | .callback d stops fault =>
    if (c.stream d).opened ∧ (c.stream d).dma.inFlight ≠ [] then some (c.callback (rt d) d stops fault) else none
  | .close d => if (c.stream d).opened then some (c.codecClose d) else none

def start (ssi : Ssi) (divider : ℕ) : Codec where
  stream := fun _ => ⟨false, false, false, 0, 0, 0, ⟨[], 0, [], [], []⟩⟩
  ssi := ssi
  ssiRef := 0
  rateIdx := -1
  divider := divider

end Mx27.Sound
