/-
# The I2C master
-/
import Mathlib

namespace Mx27.I2c

open List

def EREMOTEIO : ℤ := 121

/-- `i2c_msg`, with `I2C_M_RD` of its flags; the length is that of the buffer. -/
structure Msg where
  addr : UInt16
  rd : Bool
  buf : List UInt8
  deriving DecidableEq, Repr

inductive BusEvent
  | start
  | repStart
  | stop
  | sent (b : UInt8)
  | received (b : UInt8) (ack : Bool)
  deriving DecidableEq, Repr

structure Slave where
  ack : ℕ → Bool
  data : ℕ → UInt8

structure Control where
  msta : Bool
  mtx : Bool
  txak : Bool
  rsta : Bool
  deriving DecidableEq, Repr

structure State where
  lowPower : Bool
  cr : Control
  repeatPending : Bool
  ibb : Bool
  dr : UInt8
  transferDone : Bool
  txSuccess : Bool
  sent : ℕ
  received : ℕ
  trace : List BusEvent

def crEvents (old new : Control) : List BusEvent :=
  if new.msta then
    if old.msta then if new.rsta then [.repStart] else [] else [.start]
  else if old.msta then [.stop] else []

def writeI2cr (c : Control) (s : State) : State :=
  { s with
    cr := { c with rsta := false }
    repeatPending := c.msta && (c.rsta || s.repeatPending)
    ibb := if c.msta then true else if s.cr.msta then false else s.ibb
    trace := s.trace ++ crEvents s.cr c }

/-- `mxc_i2c_handler`, when a byte has been transferred. -/
def handler (rxak : Bool) (s : State) : State :=
  { s with txSuccess := s.cr.mtx && !rxak, transferDone := true }

def writeI2dr (sl : Slave) (b : UInt8) (s : State) : State :=
  if s.cr.msta && s.cr.mtx then
    handler (!sl.ack s.sent)
      { s with repeatPending := false, sent := s.sent + 1, trace := s.trace ++ [.sent b] }
  else s

def readI2dr (sl : Slave) (s : State) : UInt8 × State :=
  if s.cr.msta && !s.cr.mtx && !s.repeatPending then
    (s.dr, handler true
      { s with
        dr := sl.data s.received
        received := s.received + 1
        trace := s.trace ++ [.received (sl.data s.received) (!s.cr.txak)] })
  else (s.dr, s)

/-! ### The driver -/

def stop (s : State) : State := writeI2cr { s.cr with msta := false, mtx := false } s

/-- `mxc_i2c_wait_for_tc`: it fails if no byte is transferred. -/
def waitForTc (rd : Bool) (s : State) : State × Bool :=
  ({ s with transferDone := false }, s.transferDone && (rd || s.txSuccess))

/-- `addr_trans`, in the eight bits of the data register. -/
def addrTrans (m : Msg) : UInt8 := UInt8.ofNat (m.addr.toNat <<< 1 ||| if m.rd then 1 else 0)

def start (sl : Slave) (m : Msg) (s : State) : State :=
  let s := writeI2cr { s.cr with msta := true } s
  let s := writeI2cr { s.cr with mtx := true } s
  writeI2dr sl (addrTrans m) s

def repstart (sl : Slave) (m : Msg) (s : State) : State :=
  writeI2dr sl (addrTrans m) (writeI2cr { s.cr with rsta := true } s)

structure ReadResult where
  state : State
  bytes : List UInt8
  ok : Bool

def readLoop (sl : Slave) (m : Msg) (last : Bool) : ℕ → ℕ → State → ReadResult
  | _, 0, s => ⟨s, [], true⟩
  | i, n + 1, s =>
    let w := waitForTc m.rd s
    if w.2 then
      let s :=
        if i + 2 = m.buf.length then writeI2cr { w.1.cr with txak := true } w.1
        else if i + 1 = m.buf.length ∧ last = true then stop w.1
        else w.1
      let r := readI2dr sl s
      let t := readLoop sl m last (i + 1) n r.2
      { t with bytes := r.1 :: t.bytes }
    else ⟨stop w.1, [], false⟩

def readbytes (sl : Slave) (m : Msg) (last addrComp : Bool) (s : State) : ReadResult :=
  let s := writeI2cr { s.cr with mtx := false, txak := m.buf.length == 1 } s
  let s := if addrComp then (readI2dr sl s).2 else s
  readLoop sl m last 0 m.buf.length s

def writeLoop (sl : Slave) (m : Msg) : List UInt8 → State → State × Bool
  | [], s => (s, true)
  | b :: bs, s =>
    let w := waitForTc m.rd (writeI2dr sl b s)
    if w.2 then writeLoop sl m bs w.1 else (stop w.1, false)

def writebytes (sl : Slave) (m : Msg) (last : Bool) (s : State) : State × Bool :=
  let r := writeLoop sl m m.buf (writeI2cr { s.cr with mtx := true } s)
  if r.2 && last then (stop r.1, true) else r

def moduleEn (s : State) : State := writeI2cr ⟨false, false, false, false⟩ s

def moduleDis (s : State) : State := writeI2cr ⟨false, false, false, false⟩ s

def Msg.Differs (p m : Msg) : Prop := m.addr ≠ p.addr ∨ m.rd ≠ p.rd

instance (p m : Msg) : Decidable (p.Differs m) := inferInstanceAs (Decidable (_ ∨ _))

def addressCycle (sl : Slave) (prev : Option Msg) (m : Msg) (s : State) : (State × Bool) × Bool :=
  match prev with
  | none => (waitForTc m.rd (start sl m s), true)
  | some p => if p.Differs m then (waitForTc m.rd (repstart sl m s), true) else ((s, true), false)

structure Outcome where
  state : State
  ret : ℤ
  msgs : List Msg

def xferLoop (sl : Slave) : ℕ → Option Msg → List Msg → State → Outcome
  | i, _, [], s => ⟨moduleDis s, i - 1, []⟩
  | i, prev, m :: ms, s =>
    let a := addressCycle sl prev m s
    if a.1.2 then
      if m.rd then
        let r := readbytes sl m ms.isEmpty a.2 a.1.1
        let m' := { m with buf := r.bytes ++ m.buf.drop r.bytes.length }
        if r.ok then
          let t := xferLoop sl (i + 1) (some m) ms r.state
          { t with msgs := m' :: t.msgs }
        else ⟨moduleDis r.state, i - 1, m' :: ms⟩
      else
        let r := writebytes sl m ms.isEmpty a.1.1
        if r.2 then
          let t := xferLoop sl (i + 1) (some m) ms r.1
          { t with msgs := m :: t.msgs }
        else ⟨moduleDis r.1, i - 1, m :: ms⟩
    else ⟨moduleDis (stop a.1.1), - EREMOTEIO, m :: ms⟩

def xfer (sl : Slave) (msgs : List Msg) (s : State) : Outcome :=
  if s.lowPower then ⟨s, - EREMOTEIO, msgs⟩
  else if msgs = [] then ⟨s, 0, []⟩
  else
    let s := moduleEn s
    if s.ibb then ⟨moduleDis s, - EREMOTEIO, msgs⟩
    else xferLoop sl 0 none msgs { s with transferDone := false, txSuccess := false }

section Extends

variable (sl : Slave)

lemma writeI2cr_extends (c : Control) (s : State) : s.trace <+: (writeI2cr c s).trace := prefix_append _ _

lemma writeI2dr_extends (b : UInt8) (s : State) : s.trace <+: (writeI2dr sl b s).trace := by
  unfold writeI2dr
  split
  · exact prefix_append _ _
  · exact prefix_rfl

lemma readI2dr_extends (s : State) : s.trace <+: (readI2dr sl s).2.trace := by
  unfold readI2dr
  split
  · exact prefix_append _ _
  · exact prefix_rfl

lemma repstart_extends (m : Msg) (s : State) : s.trace <+: (repstart sl m s).trace :=
  (writeI2cr_extends _ s).trans (writeI2dr_extends sl _ _)

lemma start_extends (m : Msg) (s : State) : s.trace <+: (start sl m s).trace :=
  ((writeI2cr_extends _ s).trans (writeI2cr_extends _ _)).trans (writeI2dr_extends sl _ _)

lemma readLoop_extends (m : Msg) (last : Bool) : ∀ (n i : ℕ) (s : State),
  s.trace <+: (readLoop sl m last i n s).state.trace
  | 0, _, _ => prefix_rfl
  | n + 1, i, s => by
    unfold readLoop
    dsimp only
    split
    · refine List.IsPrefix.trans ?_ (readLoop_extends m last n (i + 1) _)
      refine List.IsPrefix.trans ?_ (readI2dr_extends sl _)
      split_ifs
      · exact writeI2cr_extends _ _
      · exact writeI2cr_extends _ _
      · exact prefix_rfl
    · exact writeI2cr_extends _ _

lemma readbytes_extends (m : Msg) (last addrComp : Bool) (s : State) :
  s.trace <+: (readbytes sl m last addrComp s).state.trace := by
  refine (writeI2cr_extends { s.cr with mtx := false, txak := m.buf.length == 1 } s).trans ?_
  unfold readbytes
  dsimp only
  refine List.IsPrefix.trans ?_ (readLoop_extends sl m last _ 0 _)
  split
  · exact readI2dr_extends sl _
  · exact prefix_rfl

lemma writeLoop_extends (m : Msg) : ∀ (bs : List UInt8) (s : State), s.trace <+: (writeLoop sl m bs s).1.trace
  | [], _ => prefix_rfl
  | b :: bs, s => by
    have hb : s.trace <+: (waitForTc m.rd (writeI2dr sl b s)).1.trace := writeI2dr_extends sl b s
    unfold writeLoop
    dsimp only
    split
    · exact hb.trans (writeLoop_extends m bs _)
    · exact hb.trans (writeI2cr_extends _ _)

lemma writebytes_extends (m : Msg) (last : Bool) (s : State) : s.trace <+: (writebytes sl m last s).1.trace := by
  have hloop := (writeI2cr_extends { s.cr with mtx := true } s).trans (writeLoop_extends sl m m.buf _)
  unfold writebytes
  dsimp only
  split
  · exact hloop.trans (writeI2cr_extends _ _)
  · exact hloop

lemma addressCycle_extends (prev : Option Msg) (m : Msg) (s : State) :
  s.trace <+: (addressCycle sl prev m s).1.1.trace := by
  unfold addressCycle
  split
  · exact start_extends sl m s
  · split
    · exact repstart_extends sl m s
    · exact prefix_rfl

lemma xferLoop_extends : ∀ (ms : List Msg) (i : ℕ) (prev : Option Msg) (s : State),
  s.trace <+: (xferLoop sl i prev ms s).state.trace
  | [], _, _, s => writeI2cr_extends _ s
  | m :: ms, i, prev, s => by
    refine (addressCycle_extends sl prev m s).trans ?_
    unfold xferLoop
    dsimp only
    split_ifs
    · exact (readbytes_extends sl m _ _ _).trans (xferLoop_extends ms (i + 1) (some m) _)
    · exact (readbytes_extends sl m _ _ _).trans (writeI2cr_extends _ _)
    · exact (writebytes_extends sl m _ _).trans (xferLoop_extends ms (i + 1) (some m) _)
    · exact (writebytes_extends sl m _ _).trans (writeI2cr_extends _ _)
    · exact (writeI2cr_extends _ _).trans (writeI2cr_extends _ _)

end Extends

end Mx27.I2c
