/-
# The transmit half of the Ethernet driver
-/
import Mx27Drivers.Lib.Run
import Mx27Drivers.Fec.Descriptors

namespace Mx27.Fec

open Bits (hits)

def BD_ENET_TX_READY : BitVec 16 := 0x8000
def BD_ENET_TX_INTR : BitVec 16 := 0x1000
def BD_ENET_TX_LAST : BitVec 16 := 0x0800
def BD_ENET_TX_TC : BitVec 16 := 0x0400
def BD_ENET_TX_DEF : BitVec 16 := 0x0200
def BD_ENET_TX_HB : BitVec 16 := 0x0100
def BD_ENET_TX_LC : BitVec 16 := 0x0080
def BD_ENET_TX_RL : BitVec 16 := 0x0040
def BD_ENET_TX_UN : BitVec 16 := 0x0002
def BD_ENET_TX_CSL : BitVec 16 := 0x0001
def BD_ENET_TX_STATS : BitVec 16 := 0x03ff

def FEC_ALIGNMENT : BitVec 32 := 0x0f

structure Skb where
  data : BitVec 32
  frame : List UInt8
  fits : frame.length ≤ FEC_ENET_TX_FRSIZE
  deriving DecidableEq

inductive TxBuf
  | null
  | data (skb : Skb)
  | bounce (i : ℕ)
  deriving DecidableEq

structure TxBd where
  sc : BitVec 16
  datlen : ℕ
  bufaddr : TxBuf
  deriving DecidableEq

structure TxStats where
  bytes : ℕ
  packets : ℕ
  errors : ℕ
  heartbeatErrors : ℕ
  windowErrors : ℕ
  abortedErrors : ℕ
  fifoErrors : ℕ
  carrierErrors : ℕ
  collisions : ℕ
  deriving DecidableEq

/-- The transmit half of `fec_enet_private`. -/
structure Tx where
  bd : ℕ → TxBd
  bounce : ℕ → List UInt8
  skbuff : ℕ → Option Skb
  skbCur : ℕ
  skbDirty : ℕ
  curTx : ℕ
  dirtyTx : ℕ
  txFull : Bool
  link : Bool
  fullDuplex : Bool
  stats : TxStats
  stopped : Bool
  hw : ℕ
  enabled : Bool
  txEvent : Bool
  accepted : List Skb
  freed : List (Option Skb)
  handed : List (List UInt8)
  sent : List (List UInt8)

def Tx.onWire (s : Tx) (b : TxBd) : List UInt8 :=
  (match b.bufaddr with
    | .null => []
    | .data skb => skb.frame
    | .bounce i => s.bounce i).take b.datlen

def Tx.inRing (s : Tx) : List (Option Skb) := ((List.range TX_RING_SIZE).map s.skbuff).filter Option.isSome

def Tx.fillIn (s : Tx) (skb : Skb) : Tx :=
  let status := ((s.bd s.curTx).sc &&& ~~~BD_ENET_TX_STATS) |||
    (BD_ENET_TX_READY ||| BD_ENET_TX_INTR ||| BD_ENET_TX_LAST ||| BD_ENET_TX_TC)
  -- data that is not aligned goes through the bounce buffer of the descriptor
  let aligned := !hits skb.data FEC_ALIGNMENT
  let bdp := nextBd status s.curTx
  { s with
    bd := Function.update s.bd s.curTx
      { sc := status
        datlen := skb.frame.length % 2 ^ 16
        bufaddr := if aligned then .data skb else .bounce s.curTx }
    bounce := if aligned then s.bounce
      else Function.update s.bounce s.curTx (skb.frame ++ (s.bounce s.curTx).drop skb.frame.length)
    skbuff := Function.update s.skbuff s.skbCur (some skb)
    skbCur := (s.skbCur + 1) &&& TX_RING_MOD_MASK
    stats := { s.stats with bytes := s.stats.bytes + skb.frame.length }
    txFull := if bdp = s.dirtyTx then true else s.txFull
    stopped := if bdp = s.dirtyTx then true else s.stopped
    curTx := bdp
    accepted := s.accepted ++ [skb]
    handed := s.handed ++ [skb.frame] }

def fecEnetStartXmit (s : Tx) (skb : Skb) : ℕ × Tx :=
  if s.link = false then (1, s)
  else if hits (s.bd s.curTx).sc BD_ENET_TX_READY then (1, s)
  else (0, s.fillIn skb)

def TxStats.count (t : TxStats) (status : BitVec 16) : TxStats :=
  let one := fun bit => if hits status bit then 1 else 0
  let t := if hits status (BD_ENET_TX_HB ||| BD_ENET_TX_LC ||| BD_ENET_TX_RL ||| BD_ENET_TX_UN ||| BD_ENET_TX_CSL) then
      { t with
        errors := t.errors + 1
        heartbeatErrors := t.heartbeatErrors + one BD_ENET_TX_HB
        windowErrors := t.windowErrors + one BD_ENET_TX_LC
        abortedErrors := t.abortedErrors + one BD_ENET_TX_RL
        fifoErrors := t.fifoErrors + one BD_ENET_TX_UN
        carrierErrors := t.carrierErrors + one BD_ENET_TX_CSL }
    else { t with packets := t.packets + 1 }
  { t with collisions := t.collisions + one BD_ENET_TX_DEF }

def Tx.reap (s : Tx) (status : BitVec 16) : Tx :=
  { s with
    stats := s.stats.count status
    freed := s.freed ++ [s.skbuff s.skbDirty]
    skbuff := Function.update s.skbuff s.skbDirty none
    skbDirty := (s.skbDirty + 1) &&& TX_RING_MOD_MASK
    txFull := false
    stopped := if s.txFull then false else s.stopped }

def reapLoop : ℕ → Tx → ℕ → Option Tx
  | 0, _, _ => none
  | fuel + 1, s, bdp =>
    if hits (s.bd bdp).sc BD_ENET_TX_READY then some { s with dirtyTx := bdp }
    else if bdp = s.curTx ∧ s.txFull = false then some { s with dirtyTx := bdp }
    else reapLoop fuel (s.reap (s.bd bdp).sc) (nextBd (s.bd bdp).sc bdp)

def fecEnetTx (s : Tx) : Option Tx := reapLoop (TX_RING_SIZE + 1) s s.dirtyTx

/-- `fec_enet_interrupt`, as far as it is about transmission. -/
def fecEnetInterrupt (s : Tx) : Option Tx :=
  if s.txEvent then fecEnetTx { s with txEvent := false } else some s

/-! ### Restart -/

/-- `fec_restart`, as far as it is about transmission. -/
def fecRestartTx (s : Tx) (duplex : Bool) : Tx :=
  { s with
    txEvent := false
    dirtyTx := 0
    curTx := 0
    skbCur := 0
    skbDirty := 0
    freed := s.freed ++ s.inRing
    skbuff := fun _ => none
    bd := fun i => { s.bd i with sc := resetSc TX_RING_SIZE 0 i, bufaddr := .null }
    fullDuplex := duplex
    hw := 0
    enabled := true
    stopped := false
    handed := []
    sent := [] }

def fecTimeout (s : Tx) : Tx :=
  let s := fecRestartTx { s with stats := { s.stats with errors := s.stats.errors + 1 } } s.fullDuplex
  { s with stopped := false }

/-- `fec_stop`, as far as it is about transmission. -/
def fecStop (s : Tx) : Tx := { s with stopped := true, enabled := false }

/-- `mii_relink`: the link came up with this duplex mode, or went down. -/
def miiRelink (s : Tx) (up duplex : Bool) : Tx :=
  if up then fecRestartTx { s with link := true } duplex else fecStop { s with link := false }

def Tx.sendFrame (s : Tx) (status : BitVec 16) : Tx :=
  let b := s.bd s.hw
  { s with
    sent := s.sent ++ [s.onWire b]
    bd := Function.update s.bd s.hw
      { b with sc := (b.sc &&& ~~~BD_ENET_TX_READY) ||| (status &&& BD_ENET_TX_STATS) }
    hw := nextBd b.sc s.hw
    txEvent := true }

def transmitFrame (s : Tx) (status : BitVec 16) : Tx :=
  if s.enabled && hits (s.bd s.hw).sc BD_ENET_TX_READY then s.sendFrame status else s

inductive TxEvent
  | startXmit (skb : Skb)
  | transmit (status : BitVec 16)
  | interrupt
  | timeout
  | relink (up duplex : Bool)
  deriving DecidableEq

def txStep (s : Tx) : TxEvent → Option Tx
  | .startXmit skb => some (fecEnetStartXmit s skb).2
  | .transmit status => some (transmitFrame s status)
  | .interrupt => fecEnetInterrupt s
  | .timeout => some (fecTimeout s)
  | .relink up duplex => some (miiRelink s up duplex)

def Tx.start (link fullDuplex : Bool) : Tx where
  bd i := { sc := resetSc TX_RING_SIZE 0 i, datlen := 0, bufaddr := .null }
  bounce _ := []
  skbuff _ := none
  skbCur := 0
  skbDirty := 0
  curTx := 0
  dirtyTx := 0
  txFull := false
  link := link
  fullDuplex := fullDuplex
  stats := ⟨0, 0, 0, 0, 0, 0, 0, 0, 0⟩
  stopped := false
  hw := 0
  enabled := true
  txEvent := false
  accepted := []
  freed := []
  handed := []
  sent := []

end Mx27.Fec
