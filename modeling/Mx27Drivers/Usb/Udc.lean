/-
# The USB gadget controller

A request that is queued to an endpoint gets its transfer descriptors (dTDs) from `dtd_pool`.
-/
import Mx27Drivers.Lib.Pool
import Mx27Drivers.Lib.Run

namespace Mx27.Usb

def EAGAIN : ℤ := 11
def EINVAL : ℤ := 22
def EPIPE : ℤ := 32
def EPROTO : ℤ := 71
def EILSEQ : ℤ := 84
def EMSGSIZE : ℤ := 90
def EOPNOTSUPP : ℤ := 95
def ECONNRESET : ℤ := 104
def ESHUTDOWN : ℤ := 108
def EINPROGRESS : ℤ := 115

def EP_MAX_LENGTH_TRANSFER : ℕ := 0x4000
def USB_MAX_PIPES : ℕ := 16

inductive ReqId
  | status
  | getStatus (n : ℕ)
  | gadget (n : ℕ)
  deriving DecidableEq, Repr

structure Req where
  length : ℕ
  zero : Bool
  status : ℤ
  actual : ℤ
  dtds : List ℕ
  linked : Bool
  deriving DecidableEq, Repr

structure Books where
  reqs : ReqId → Req
  queue : ℕ → List ReqId
  count : ℕ
  log : List (Pool.Op ℕ)
  made : ℕ

namespace Books

def op (b : Books) (o : Pool.Op ℕ) : Books := { b with log := o :: b.log }

def setReq (b : Books) (r : ReqId) (q : Req) : Books := { b with reqs := Function.update b.reqs r q }

end Books

/-! ### Building and queueing descriptors -/

/-- `arcotg_build_dtd`: a descriptor for what is left of the request; its size. -/
def buildDtd (r : ReqId) (b : Books) : Books × ℕ :=
  let q := b.reqs r
  let length := min (q.length - q.actual.toNat) EP_MAX_LENGTH_TRANSFER
  let b := { b with count := b.count + 1, log := .touch b.count :: .take b.count :: b.log }
  (b.setReq r { q with actual := q.actual + length }, length)

def isLast (count : ℕ) (q : Req) : Bool :=
  count != EP_MAX_LENGTH_TRANSFER || (decide ((q.length : ℤ) = q.actual) && !q.zero)

/-- `arcotg_req_to_dtd`, which does not return if a second descriptor is needed. -/
def reqToDtd (r : ReqId) (b : Books) : Books × Bool :=
  let x := buildDtd r b
  if isLast x.2 (x.1.reqs r) then (x.1.setReq r { x.1.reqs r with dtds := [b.count] }, true)
  else ((buildDtd r x.1).1, false)

/-- `arcotg_queue_td`: the chain is linked to the tail of the last request in the queue. -/
def queueTd (p : ℕ) (r : ReqId) (b : Books) : Books :=
  let b := match (b.reqs r).dtds.head? with
    | none => b
    | some d => b.op (.touch d)
  match (b.queue p).getLast?.bind fun last => (b.reqs last).dtds.getLast? with
  | none => b
  | some d => b.op (.touch d)

/-- `list_add_tail`. -/
def link (p : ℕ) (r : ReqId) (b : Books) : Books :=
  { b with
    queue := Function.update b.queue p ((b.queue p).takeWhile (· != r) ++ [r])
    reqs := Function.update b.reqs r { b.reqs r with linked := true } }

def submit (p : ℕ) (r : ReqId) (b : Books) : Books × Bool :=
  let x := reqToDtd r b
  if x.2 then (link p r (queueTd p r x.1), true) else x

def done (p : ℕ) (r : ReqId) (status : ℤ) (b : Books) : Books :=
  let q := b.reqs r
  let b := match q.dtds.head? with
    | none => b
    | some d => (b.op (.touch d)).op (.give d)
  { b with
    queue := Function.update b.queue p ((b.queue p).erase r)
    reqs := Function.update b.reqs r
      { q with linked := false, status := if q.status = -EINPROGRESS then status else q.status } }

def nuke (p : ℕ) (status : ℤ) (b : Books) : Books := (b.queue p).foldl (fun b r => done p r status b) b

/-! ### The completion scan -/

/-- `size_ioc_sts` of a descriptor, as the controller has left it. -/
structure TdStatus where
  active : Bool
  halted : Bool
  dataBuffErr : Bool
  transactionErr : Bool
  remaining : ℕ
  deriving DecidableEq, Repr

inductive Verdict
  | uncomplete
  | failed (status : ℤ)
  | complete (actual : ℤ)
  deriving DecidableEq, Repr

def scanTds (dirIn : Bool) (sts : ℕ → TdStatus) : ℤ → List ℕ → Verdict × List ℕ
  | actual, [] => (.complete actual, [])
  | actual, d :: ds =>
    let t := sts d
    let actual := actual - t.remaining
    if t.halted then (.failed (-EPIPE), [d])
    else if t.dataBuffErr then (.failed (-EPROTO), [d])
    else if t.transactionErr then (.failed (-EILSEQ), [d])
    else if t.active then (.uncomplete, [d])
    else if t.remaining ≠ 0 then
      if dirIn then (.failed (-EPROTO), [d]) else (.complete actual, [d])
    else
      let x := scanTds dirIn sts actual ds
      (x.1, d :: x.2)

def processEpReq (pipe : ℕ) (sts : ℕ → TdStatus) (r : ReqId) (b : Books) : Books × Verdict :=
  let q := b.reqs r
  let x := scanTds (pipe % 2 == 1) sts q.length q.dtds
  let b := x.2.foldl (fun b d => b.op (.touch d)) b
  match x.1 with
  | .uncomplete => (b, .uncomplete)
  | .failed status => (b, .failed status)
  | .complete actual =>
    (q.dtds.foldl (fun b d => (b.op (.touch d)).op (.give d)) (b.setReq r { q with actual := actual }), .complete actual)

inductive Ep0State
  | waitForSetup
  | dataStateXmit
  | dataStateNeedZlp
  | waitForOutStatus
  | dataStateRecv
  deriving DecidableEq, Repr

structure Desc where
  isoc : Bool
  maxpacket : ℕ
  deriving DecidableEq, Repr

structure Control where
  desc : ℕ → Option Desc
  ep0State : Ep0State
  ep0DirIn : Bool
  running : Bool
  isOtg : Bool

structure State where
  books : Books
  ctl : Control
  oops : Bool

/-- `arcotg_ep_queue`, for a request with a buffer and a completion function. -/
def epQueue (p n length : ℕ) (zero : Bool) (s : State) : State × ℤ :=
  let q := s.books.reqs (.gadget n)
  if q.linked then (s, -EINVAL)
  else match s.ctl.desc p with
  | none => (s, -EINVAL)
  | some desc =>
    if desc.isoc && decide (desc.maxpacket < length) then (s, -EMSGSIZE)
    else if !s.ctl.running then (s, -ESHUTDOWN)
    else
      let x := submit p (.gadget n) (s.books.setReq (.gadget n)
        { q with length := length, zero := zero, status := -EINPROGRESS, actual := 0 })
      if x.2 then
        ({ s with books := x.1, ctl := if p = 0 then { s.ctl with ep0State := .dataStateXmit } else s.ctl }, 0)
      else ({ s with books := x.1, oops := true }, 0)

def epDequeue (p n : ℕ) (s : State) : State × ℤ :=
  if .gadget n ∈ s.books.queue p then ({ s with books := done p (.gadget n) (-ECONNRESET) s.books }, 0)
  else (s, -EINVAL)

def epDisable (p : ℕ) (s : State) : State × ℤ :=
  if (s.ctl.desc p).isNone then (s, -EINVAL)
  else ({ s with
    books := nuke p (-ESHUTDOWN) s.books
    ctl := { s.ctl with desc := Function.update s.ctl.desc p none } }, 0)

def epSetHalt (p : ℕ) (value : Bool) (s : State) : State × ℤ :=
  let epIsIn := if p / 2 = 0 then s.ctl.ep0DirIn else p % 2 == 1
  match s.ctl.desc p with
  | none => (s, -EINVAL)
  | some desc =>
    if desc.isoc then (s, -EOPNOTSUPP)
    else if value && epIsIn && !(s.books.queue p).isEmpty then (s, -EAGAIN)
    else if p / 2 = 0 then ({ s with ctl := { s.ctl with ep0State := .waitForSetup, ep0DirIn := false } }, 0)
    else (s, 0)

inductive Call
  | queue (p n length : ℕ) (zero : Bool)
  | dequeue (p n : ℕ)
  | disable (p : ℕ)
  deriving DecidableEq, Repr

def call (s : State) (c : Call) : State :=
  if s.oops then s
  else match c with
  | .queue p n length zero => (epQueue p n length zero s).1
  | .dequeue p n => (epDequeue p n s).1
  | .disable p => (epDisable p s).1

/-! ### ep0 -/

def ep0Stall (s : State) : State := { s with ctl := { s.ctl with ep0State := .waitForSetup, ep0DirIn := false } }

def submitEp0 (r : ReqId) (length : ℕ) (s : State) : State :=
  let x := submit 0 r (s.books.setReq r
    { s.books.reqs r with length := length, zero := false, status := -EINPROGRESS, actual := 0 })
  { s with books := x.1, oops := !x.2 }

def ep0PrimeStatus (dirIn : Bool) (s : State) : State :=
  submitEp0 .status 0 { s with ctl := { s.ctl with ep0State := .waitForOutStatus, ep0DirIn := dirIn } }

def ch9GetStatus (s : State) : State :=
  submitEp0 (.getStatus s.books.made) 2
    { s with
      books := { s.books with made := s.books.made + 1 }
      ctl := { s.ctl with ep0State := .dataStateXmit } }

structure Setup where
  bRequestType : ℕ
  bRequest : ℕ
  wValue : ℕ
  wIndex : ℕ
  wLength : ℕ
  deriving DecidableEq, Repr

def USB_DIR_IN : ℕ := 0x80
def USB_TYPE_MASK : ℕ := 0x60
def USB_TYPE_CLASS : ℕ := 0x20
def USB_RECIP_INTERFACE : ℕ := 1
def USB_RECIP_ENDPOINT : ℕ := 2
def USB_REQ_GET_STATUS : ℕ := 0
def USB_REQ_CLEAR_FEATURE : ℕ := 1
def USB_REQ_SET_FEATURE : ℕ := 3
def USB_REQ_SET_ADDRESS : ℕ := 5
def USB_REQ_SET_CONFIGURATION : ℕ := 9
def USB_REQ_SET_INTERFACE : ℕ := 11
def USB_BULK_RESET_REQUEST : ℕ := 0xff

structure Gadget where
  calls : List Call
  ret : ℤ
  deriving DecidableEq, Repr

def driverSetup (g : Gadget) (s : State) : State := g.calls.foldl call s

def Setup.pipe (u : Setup) : ℕ := (u.wIndex &&& 0xf) * 2 + if u.wIndex &&& 0x80 = 0 then 0 else 1

def feature (u : Setup) (s : State) : State :=
  if u.bRequestType = USB_RECIP_ENDPOINT then
    if u.wValue ≠ 0 ∨ u.wLength ≠ 0 ∨ USB_MAX_PIPES < u.pipe then s
    else
      let x := epSetHalt u.pipe (u.bRequest == USB_REQ_SET_FEATURE) s
      if x.2 = 0 then ep0PrimeStatus true x.1 else x.1
  else if u.bRequestType = 0 ∧ s.ctl.isOtg = true then ep0PrimeStatus true s
  else s

def unhandled (u : Setup) (g : Gadget) (s : State) : State :=
  let s := driverSetup g s
  if s.oops then s
  else if g.ret ≠ 0 then ep0Stall s
  else { s with ctl := { s.ctl with
    ep0State := if u.bRequestType &&& USB_DIR_IN = 0 then .dataStateRecv else .dataStateXmit } }

def askDriver (g : Gadget) (st : Option Ep0State) (s : State) : State :=
  let s := driverSetup g { s with ctl := { s.ctl with ep0DirIn := true } }
  if s.oops then s
  else if g.ret < 0 then s
  else { s with ctl := { s.ctl with ep0State := st.getD s.ctl.ep0State } }

def setupReceivedIrq (u : Setup) (g : Gadget) (s : State) : State :=
  let s := { s with
    books := nuke 0 (-ECONNRESET) s.books
    ctl := { s.ctl with ep0DirIn := u.bRequestType &&& USB_DIR_IN != 0 } }
  if u.bRequestType &&& USB_TYPE_MASK = USB_TYPE_CLASS then
    if u.bRequest = USB_BULK_RESET_REQUEST then askDriver g (some .waitForSetup) s
    else unhandled u g s
  else if u.bRequestType &&& USB_TYPE_MASK = 0 then
    if u.bRequest = USB_REQ_GET_STATUS then
      if u.bRequestType &&& USB_DIR_IN = 0 then s else ch9GetStatus s
    else if u.bRequest = USB_REQ_SET_ADDRESS then
      if u.bRequestType ≠ 0 then s else ep0PrimeStatus true s
    else if u.bRequest = USB_REQ_SET_CONFIGURATION then
      if u.bRequestType ≠ 0 then s else askDriver g (some .waitForOutStatus) s
    else if u.bRequest = USB_REQ_SET_INTERFACE then
      if u.bRequestType ≠ USB_RECIP_INTERFACE then s
      else
        let s := askDriver g none s
        -- refused by the gadget driver, it is taken for a feature request
        if s.oops then s else if g.ret < 0 then feature u s else s
    else if u.bRequest = USB_REQ_CLEAR_FEATURE ∨ u.bRequest = USB_REQ_SET_FEATURE then feature u s
    else unhandled u g s
  else unhandled u g s

def ep0ReqComplete (r : ReqId) (s : State) : State :=
  match s.ctl.ep0State with
  | .dataStateXmit => ep0PrimeStatus false { s with books := done 0 r 0 s.books }
  | .dataStateRecv => ep0PrimeStatus true { s with books := done 0 r 0 s.books }
  | .waitForOutStatus =>
    { s with books := done 0 r 0 s.books, ctl := { s.ctl with ep0State := .waitForSetup } }
  | .waitForSetup => s
  | .dataStateNeedZlp => ep0Stall s

def epByPipe (pipe : ℕ) : ℕ := if pipe = 1 then 0 else pipe

def completeLoop (pipe : ℕ) (sts : ℕ → TdStatus) : List ReqId → Books → Books
  | [], b => b
  | r :: rs, b =>
    let x := processEpReq pipe sts r b
    match x.2 with
    | .uncomplete => x.1
    | .failed status => completeLoop pipe sts rs (done pipe r status x.1)
    | .complete _ => completeLoop pipe sts rs (done pipe r 0 x.1)

/-- `dtd_complete_irq`, for one pipe whose bit is set. -/
def dtdComplete (pipe : ℕ) (sts : ℕ → TdStatus) (s : State) : State :=
  if pipe / 2 = 0 then
    match s.books.queue (epByPipe pipe) with
    | [] => s
    | r :: _ =>
      let x := processEpReq pipe sts r s.books
      if x.2 = .uncomplete then { s with books := x.1 }
      else ep0ReqComplete r { s with books := x.1 }
  else { s with books := completeLoop pipe sts (s.books.queue pipe) s.books }

def resetQueues (b : Books) : Books :=
  (List.range USB_MAX_PIPES).foldl (fun b pipe => nuke (epByPipe pipe) (-ECONNRESET) b) b

/-- `reset_irq`, as far as the queues and ep0 are concerned. -/
def resetIrq (s : State) : State :=
  { s with
    books := resetQueues s.books
    ctl := { s.ctl with ep0State := .waitForSetup, ep0DirIn := false } }

inductive Event
  | call (c : Call)
  | setup (u : Setup) (g : Gadget)
  | reset
  | complete (pipe : ℕ) (sts : ℕ → TdStatus)

def act (s : State) : Event → State
  | .call c => call s c
  | .setup u g => if s.oops then s else setupReceivedIrq u g s
  | .reset => if s.oops then s else resetIrq s
  | .complete pipe sts => if s.oops then s else dtdComplete pipe sts s

def step (s : State) (e : Event) : Option State := some (act s e)

def start (ctl : Control) : State where
  books :=
    { reqs := fun _ => ⟨0, false, 0, 0, [], false⟩
      queue := fun _ => []
      count := 0
      log := []
      made := 0 }
  ctl := ctl
  oops := false

end Mx27.Usb
