/-
# The receive half of the Ethernet driver
-/
import Mx27Drivers.Lib.Run
import Mx27Drivers.Fec.Descriptors

namespace Mx27.Fec

open Bits (hits)

def BD_ENET_RX_EMPTY : BitVec 16 := 0x8000
def BD_ENET_RX_LG : BitVec 16 := 0x0020
def BD_ENET_RX_NO : BitVec 16 := 0x0010
def BD_ENET_RX_SH : BitVec 16 := 0x0008
def BD_ENET_RX_CR : BitVec 16 := 0x0004
def BD_ENET_RX_OV : BitVec 16 := 0x0002
def BD_ENET_RX_CL : BitVec 16 := 0x0001
def BD_ENET_RX_STATS : BitVec 16 := 0x013f

def fec_copy_threshold : ℤ := 192

structure RxBd where
  sc : BitVec 16
  datlen : ℕ
  buf : ℕ
  deriving DecidableEq

structure Frame where
  status : BitVec 16
  bytes : List UInt8
  deriving DecidableEq

structure Passed where
  buf : ℕ
  bytes : List UInt8
  deriving DecidableEq

structure Handled where
  frame : Frame
  opened : Bool
  memory : Bool
  deriving DecidableEq

structure RxStats where
  errors : ℕ
  lengthErrors : ℕ
  frameErrors : ℕ
  crcErrors : ℕ
  fifoErrors : ℕ
  packets : ℕ
  bytes : ℕ
  dropped : ℕ
  deriving DecidableEq

/-- The receive half of `fec_enet_private`. -/
structure Rx where
  bd : ℕ → RxBd
  skbuff : ℕ → ℕ
  curRx : ℕ
  opened : Bool
  stats : RxStats
  handler : Option ℕ
  mem : ℕ → List UInt8
  hw : ℕ
  held : List Passed
  received : List Frame
  handled : List Handled
  up : List Passed
  puts : List ℤ
  crashed : Bool

def Rx.pos (s : Rx) : ℕ := s.handler.getD s.curRx

def Rx.frameAt (s : Rx) (i : ℕ) : Frame := ⟨(s.bd i).sc, (s.mem (s.bd i).buf).take (s.bd i).datlen⟩

def Rx.waiting (s : Rx) : List Frame :=
  (((List.range RX_RING_SIZE).map fun j => (s.pos + j) % RX_RING_SIZE).filter fun i =>
    !hits (s.bd i).sc BD_ENET_RX_EMPTY).map s.frameAt

def RxStats.count (t : RxStats) (status : BitVec 16) : RxStats :=
  let one := fun bit => if hits status bit then 1 else 0
  if hits status (BD_ENET_RX_LG ||| BD_ENET_RX_SH ||| BD_ENET_RX_NO ||| BD_ENET_RX_CR ||| BD_ENET_RX_OV) then
    { t with
      errors := t.errors + 1
      lengthErrors := t.lengthErrors + one (BD_ENET_RX_LG ||| BD_ENET_RX_SH)
      frameErrors := t.frameErrors + one BD_ENET_RX_NO
      crcErrors := t.crcErrors + one BD_ENET_RX_CR
      fifoErrors := t.fifoErrors + one BD_ENET_RX_OV }
  else t

def Rx.netifRx (s : Rx) (skb : Passed) : Rx := { s with up := s.up ++ [skb], held := s.held ++ [skb] }

def Rx.copyFrame (s : Rx) (i b : ℕ) : Rx :=
  let len := (s.bd i).datlen
  let s := { s with puts := s.puts ++ [(len : ℤ) - 4] }
  if len < 4 then { s with crashed := true }
  else
    let data := (s.mem (s.bd i).buf).take (len - 4)
    { s with mem := Function.update s.mem b data }.netifRx ⟨b, data⟩

def Rx.swapBuffer (s : Rx) (i b : ℕ) : Rx :=
  let len := (s.bd i).datlen
  let pskb := s.skbuff i
  { s with
    skbuff := Function.update s.skbuff i b
    bd := Function.update s.bd i { s.bd i with buf := b }
    puts := s.puts ++ [(len : ℤ) - 4] }.netifRx ⟨pskb, (s.mem pskb).take (len - 4)⟩

def Rx.process (s : Rx) (i : ℕ) (alloc : Option ℕ) : Rx :=
  let status := (s.bd i).sc
  let len := (s.bd i).datlen
  if s.opened = false then s
  else
    let t := s.stats.count status
    if hits status BD_ENET_RX_CL then
      { s with stats := { t with errors := t.errors + 1, frameErrors := t.frameErrors + 1 } }
    else
      let t := { t with packets := t.packets + 1, bytes := t.bytes + len }
      match alloc with
      | none => { s with stats := { t with dropped := t.dropped + 1 } }
      | some b =>
        let s := { s with stats := t }
        if (len : ℤ) - 4 < fec_copy_threshold then s.copyFrame i b else s.swapBuffer i b

def Rx.giveBack (s : Rx) (i : ℕ) : Rx :=
  let status := ((s.bd i).sc &&& ~~~BD_ENET_RX_STATS) ||| BD_ENET_RX_EMPTY
  { s with bd := Function.update s.bd i { s.bd i with sc := status }, handler := some (nextBd status i) }

def Rx.note (s : Rx) (i : ℕ) (alloc : Option ℕ) : Rx :=
  { s with handled := s.handled ++ [{ frame := s.frameAt i, opened := s.opened, memory := alloc.isSome }] }

def Rx.pass (s : Rx) (i : ℕ) (alloc : Option ℕ) : Rx :=
  let s' := (s.note i alloc).process i alloc
  if s'.crashed then s' else s'.giveBack i

def allocRing : List (Option ℕ) → ℕ → List ℕ → Except (List ℕ) (List ℕ)
  | _, 0, got => .ok got
  | some b :: allocs, n + 1, got => allocRing allocs n (got ++ [b])
  | _, _ + 1, got => .error got.reverse

def Rx.start (bufs : List ℕ) : Rx where
  bd i := { sc := resetSc RX_RING_SIZE BD_ENET_RX_EMPTY i, datlen := 0, buf := bufs.getD i 0 }
  skbuff i := bufs.getD i 0
  curRx := 0
  opened := false
  stats := ⟨0, 0, 0, 0, 0, 0, 0, 0⟩
  handler := none
  mem _ := []
  hw := 0
  held := []
  received := []
  handled := []
  up := []
  puts := []
  crashed := false

/-- `fec_enet_init`, as far as it is about the receive ring. -/
def fecEnetInitRx (allocs : List (Option ℕ)) : Except (List ℕ) Rx :=
  (allocRing allocs RX_RING_SIZE []).map Rx.start

/-- `fec_restart`, as far as it is about the receive ring. -/
def fecRestartRx (s : Rx) : Rx :=
  { s with
    curRx := 0
    bd := fun i => { s.bd i with sc := resetSc RX_RING_SIZE BD_ENET_RX_EMPTY i }
    hw := 0 }

def Rx.fill (s : Rx) (status : BitVec 16) (bytes : List UInt8) : Rx :=
  let b := s.bd s.hw
  let sc := (status &&& ~~~(BD_ENET_RX_EMPTY ||| BD_SC_WRAP)) ||| (b.sc &&& BD_SC_WRAP)
  { s with
    mem := Function.update s.mem b.buf (bytes ++ (s.mem b.buf).drop bytes.length)
    bd := Function.update s.bd s.hw { b with sc := sc, datlen := bytes.length }
    hw := nextBd b.sc s.hw
    received := s.received ++ [⟨sc, bytes⟩] }

def Rx.Free (s : Rx) (b : ℕ) : Prop := (∀ i < RX_RING_SIZE, s.skbuff i ≠ b) ∧ ∀ u ∈ s.held, u.buf ≠ b

instance (s : Rx) (b : ℕ) : Decidable (s.Free b) := instDecidableAnd

inductive RxEvent
  | fill (status : BitVec 16) (bytes : List UInt8)
  | enter
  | pass (alloc : Option ℕ)
  | leave
  | restart
  | setOpened (b : Bool)
  | consume (i : ℕ)
  deriving DecidableEq

def rxStep (s : Rx) (e : RxEvent) : Option Rx :=
  if s.crashed then none
  else match e with
  | .fill status bytes =>
    if hits (s.bd s.hw).sc BD_ENET_RX_EMPTY = true ∧ bytes.length ≤ FEC_ENET_RX_FRSIZE then some (s.fill status bytes)
    else none
  | .enter => if s.handler = none then some { s with handler := some s.curRx } else none
  | .pass alloc => s.handler.bind fun bdp =>
    if hits (s.bd bdp).sc BD_ENET_RX_EMPTY = false ∧ ∀ b ∈ alloc, s.Free b then some (s.pass bdp alloc) else none
  | .leave => s.handler.bind fun bdp =>
    if hits (s.bd bdp).sc BD_ENET_RX_EMPTY then some { s with curRx := bdp, handler := none } else none
  | .restart => if s.handler = none then some (fecRestartRx s) else none
  | .setOpened b => if s.handler = none then some { s with opened := b } else none
  | .consume i => some { s with held := s.held.eraseIdx i }

end Mx27.Fec
