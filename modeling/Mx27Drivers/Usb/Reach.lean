/-
# What the controller can reach

The controller follows the descriptors that a primed queue head leads to.
-/
import Mx27Drivers.Lib.PtrList
import Mx27Drivers.Usb.Callbacks

namespace Mx27.Usb

open PtrList (Reach Linked)

def DMA_ADDR_INVALID : ℕ := 2 ^ 32 - 1

namespace Bus

structure Dtd where
  active : Bool
  next : Option ℕ
  start : ℕ
  size : ℕ
  deriving DecidableEq, Repr

end Bus

structure Bus where
  drv : State
  slot : ℕ → ℕ
  out : ℕ → Bool
  td : ℕ → Bus.Dtd
  head : ℕ → Option ℕ
  window : ReqId → Option (ℕ × ℕ)
  mapped : ReqId → Bool
  statusDma : ℕ

namespace Bus

def next (x : Bus) (a : ℕ) : Option ℕ := (x.td a).next

def place (x : Bus) (r : ReqId) : ℕ := x.slot ((x.drv.books.reqs r).dtds.headD 0)

def qh (c : Control) (p : ℕ) : ℕ := if p = 0 then (if c.ep0DirIn then 1 else 0) else p

/-! ### The driver -/

/-- `arcotg_build_dtd` and `arcotg_queue_td`, on what the controller sees. -/
def attach (p i : ℕ) (r : ReqId) (dma length slot : ℕ) (after : State) (x : Bus) : Option Bus :=
  if after.oops then some { x with drv := after }
  else if x.out slot then none
  else
    let td := Function.update x.td slot ⟨true, none, dma, length⟩
    let tail := (x.drv.books.queue p).getLast?.map fun last => if last = r then slot else x.place last
    some { x with
      drv := after
      slot := Function.update x.slot x.drv.books.count slot
      out := Function.update x.out slot true
      td := tail.elim td fun c => Function.update td c { td c with next := some slot }
      -- linked, the descriptor is found by an endpoint that is primed
      head := if tail.isSome && (x.head i).isSome then x.head else Function.update x.head i (some slot) }

def retire (p : ℕ) (r : ReqId) (status : ℤ) (x : Bus) : Bus :=
  { x with
    drv := { x.drv with books := done p r status x.drv.books }
    out := (x.drv.books.reqs r).dtds.head?.elim x.out fun d => Function.update x.out (x.slot d) false
    window := if x.mapped r then Function.update x.window r none else x.window
    mapped := Function.update x.mapped r false }

def nuke (p : ℕ) (status : ℤ) (x : Bus) : Bus :=
  (x.drv.books.queue p).foldl (fun x r => x.retire p r status) x

/-- `arcotg_ep_queue`. -/
def queue (p n length : ℕ) (zero : Bool) (dma : ℕ) (own : Bool) (slot : ℕ) (x : Bus) : Option Bus :=
  let y := epQueue p n length zero x.drv
  if y.2 ≠ 0 then some { x with drv := y.1 }
  else attach p (qh x.drv.ctl p) (.gadget n) dma length slot y.1
    { x with
      window := Function.update x.window (.gadget n) (some (dma, length))
      mapped := Function.update x.mapped (.gadget n) (!own) }

def dequeue (p n : ℕ) (x : Bus) : Bus :=
  if .gadget n ∈ x.drv.books.queue p then x.retire p (.gadget n) (-ECONNRESET) else x

def disable (p : ℕ) (x : Bus) : Bus :=
  if (x.drv.ctl.desc p).isNone then x else { x.nuke p (-ESHUTDOWN) with drv := (epDisable p x.drv).1 }

/-- `setup_received_irq`, for a packet that is not followed by calls of the gadget driver. -/
def setup (u : Setup) (ret : ℤ) (slot : ℕ) (x : Bus) : Option Bus :=
  let after := setupReceivedIrq u ⟨[], ret⟩ x.drv
  let x := x.nuke 0 (-ECONNRESET)
  match (after.books.queue 0).head? with
  | none => some { x with drv := after }
  | some .status => attach 0 (qh after.ctl 0) .status x.statusDma 0 slot after x
  | some r => attach 0 (qh after.ctl 0) r DMA_ADDR_INVALID 2 slot after x

/-- `reset_irq`, which flushes the endpoints first. -/
def reset (x : Bus) : Bus :=
  { (List.range USB_MAX_PIPES).foldl (fun x pipe => x.nuke (epByPipe pipe) (-ECONNRESET)) { x with head := fun _ => none }
    with drv := resetIrq x.drv }

def sts (x : Bus) (res : ℕ → TdStatus) (d : ℕ) : TdStatus :=
  if (x.td (x.slot d)).active then ⟨true, false, false, false, (x.td (x.slot d)).size⟩ else { res d with active := false }

/-- `process_ep_req`, which frees the descriptors of a request that is complete. -/
def scanned (pipe : ℕ) (sts : ℕ → TdStatus) (r : ReqId) (x : Bus) : Bus :=
  { x with
    drv := { x.drv with books := (processEpReq pipe sts r x.drv.books).1 }
    out := match x.drv.books.verdict pipe sts r with
      | .complete _ => (x.drv.books.reqs r).dtds.foldl (fun out d => Function.update out (x.slot d) false) x.out
      | _ => x.out }

def scanLoop (pipe : ℕ) (sts : ℕ → TdStatus) : List ReqId → Bus → Bus
  | [], x => x
  | r :: rs, x =>
    match x.drv.books.verdict pipe sts r with
    | .uncomplete => x.scanned pipe sts r
    | .failed status => scanLoop pipe sts rs ((x.scanned pipe sts r).retire pipe r status)
    | .complete _ => scanLoop pipe sts rs ((x.scanned pipe sts r).retire pipe r 0)

/-- `dtd_complete_irq`, for one pipe whose bit is set. -/
def complete (pipe : ℕ) (res : ℕ → TdStatus) (slot : ℕ) (x : Bus) : Option Bus :=
  let after := dtdComplete pipe (x.sts res) x.drv
  if pipe / 2 = 0 then
    match x.drv.books.queue (epByPipe pipe) with
    | [] => some x
    | r :: _ =>
      let y := x.scanned pipe (x.sts res) r
      if x.drv.books.verdict pipe (x.sts res) r = .uncomplete then some { y with drv := after }
      else match x.drv.ctl.ep0State with
        | .dataStateXmit | .dataStateRecv =>
          attach 0 (qh after.ctl 0) .status x.statusDma 0 slot after (y.retire 0 r 0)
        | .waitForOutStatus => some { y.retire 0 r 0 with drv := after }
        | _ => some { y with drv := after }
  else some { x.scanLoop pipe (x.sts res) (x.drv.books.queue pipe) with drv := after }

def transfer (i : ℕ) (x : Bus) : Bus :=
  match x.head i with
  | none => x
  | some a => { x with
      td := Function.update x.td a { x.td a with active := false }
      head := Function.update x.head i (x.next a) }

def halt (i : ℕ) (x : Bus) : Bus :=
  match x.head i with
  | none => x
  | some a => { x with
      td := Function.update x.td a { x.td a with active := false }
      head := Function.update x.head i none }

inductive Event
  | queue (p n length : ℕ) (zero : Bool) (dma : ℕ) (own : Bool) (slot : ℕ)
  | dequeue (p n : ℕ)
  | disable (p : ℕ)
  | setup (u : Setup) (ret : ℤ) (slot : ℕ)
  | reset
  | complete (pipe : ℕ) (res : ℕ → TdStatus) (slot : ℕ)
  | transfer (i : ℕ)
  | halt (i : ℕ)

def hwStep (x : Bus) (e : Event) : Option Bus :=
  if x.drv.oops then none
  else match e with
  | .queue p n length zero dma own slot => if p = 1 then none else x.queue p n length zero dma own slot
  | .dequeue p n => if p = 1 then none else some (x.dequeue p n)
  | .disable p => if p = 1 then none else some (x.disable p)
  | .setup u ret slot => x.setup u ret slot
  | .reset => some x.reset
  | .complete pipe res slot => x.complete pipe res slot
  | .transfer i => some (x.transfer i)
  | .halt i => some (x.halt i)

def start (ctl : Control) (statusDma : ℕ) : Bus where
  drv := Usb.start ctl
  slot := fun _ => 0
  out := fun _ => false
  td := fun _ => ⟨false, none, 0, 0⟩
  head := fun _ => none
  window := fun _ => none
  mapped := fun _ => false
  statusDma := statusDma

def Live (x : Bus) : Prop :=
  ∀ i a, Reach x.next (x.head i) a → (x.td a).active = true →
    ∀ y, (x.td a).start ≤ y → y < (x.td a).start + (x.td a).size →
      ∃ r ∈ x.drv.books.queue (epByPipe i), ∃ w, x.window r = some w ∧ w.1 ≤ y ∧ y < w.1 + w.2

def Unreached (x : Bus) (r : ReqId) : Prop := ∀ i, ¬Reach x.next (x.head i) (x.place r)

def OneWay (x : Bus) (i : ℕ) : Prop := ∀ j < 2, j ≠ i → x.head j = none

def GetsStatus (u : Setup) : Prop :=
  u.bRequestType &&& USB_TYPE_MASK = 0 ∧ u.bRequest = USB_REQ_GET_STATUS ∧ u.bRequestType &&& USB_DIR_IN ≠ 0

def Ep0Ok (pipe : ℕ) (sts : ℕ → TdStatus) (x : Bus) : Prop :=
  match x.drv.books.queue (epByPipe pipe) with
  | [] => True
  | r :: rs =>
    x.drv.books.verdict pipe sts r ≠ .uncomplete →
      match x.drv.ctl.ep0State with
      | .dataStateXmit => .status ∉ rs ∧ x.OneWay 0
      | .dataStateRecv => .status ∉ rs ∧ x.OneWay 1
      | .waitForOutStatus => True
      | _ => ∀ actual, x.drv.books.verdict pipe sts r ≠ .complete actual

def BusOk (x : Bus) : Event → Prop
  | .queue p _ length zero _ _ _ => Fits length zero ∧ (p = 0 → x.OneWay (qh x.drv.ctl 0))
  | .dequeue p n => .gadget n ∈ x.drv.books.queue p → x.Unreached (.gadget n)
  | .disable p => ∀ r ∈ x.drv.books.queue p, x.Unreached r
  | .setup u _ _ => ¬GetsStatus u ∧ ∀ r ∈ x.drv.books.queue 0, x.Unreached r
  | .complete pipe res _ => pipe / 2 = 0 → x.Ep0Ok pipe (x.sts res)
  | _ => True

end Bus
end Mx27.Usb
