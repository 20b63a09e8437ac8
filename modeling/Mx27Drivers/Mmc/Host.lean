/-
# Requests of the SD/MMC host

A request is a command, or a command with a data transfer and perhaps a stop command after it.
-/
import Mx27Drivers.Lib.Mealy

namespace Mx27.Mmc

/-- `MMC_ERR_NONE`, `MMC_ERR_TIMEOUT`, `MMC_ERR_BADCRC` -/
inductive MmcErr
  | none
  | timeout
  | badcrc
  deriving DecidableEq, Repr

structure Command where
  rspCrc : Bool
  keepClkRun : Bool
  deriving DecidableEq, Repr

/-- `MMC_DATA_READ` or `MMC_DATA_WRITE` -/
inductive Direction
  | read
  | write
  deriving DecidableEq, Repr

structure Request where
  id : ℕ
  cmd : Command
  data : Option Direction
  stop : Option Command
  deriving DecidableEq, Repr

inductive Which
  | cmd
  | stop
  deriving DecidableEq, Repr

/-- `mxcmci_host`, the error fields of the request under way, and whether the bus clock runs. -/
structure Host where
  req : Option Request
  cmd : Option (Which × Command)
  data : Option Direction
  cmdError : MmcErr
  stopError : MmcErr
  dataError : MmcErr
  clock : Bool
  deriving DecidableEq, Repr

structure State where
  host : Host
  active : List Request
  deriving DecidableEq, Repr

structure Completion where
  req : Request
  cmdError : MmcErr
  stopError : MmcErr
  dataError : MmcErr
  deriving DecidableEq, Repr

structure Effects where
  issued : Option Request := none
  done : Option Completion := none
  bug : Bool := false
  deriving DecidableEq, Repr

structure Status where
  endCmdResp : Bool
  timeOutResp : Bool
  respCrcErr : Bool
  deriving DecidableEq, Repr

structure Pio where
  timeOutRead : Bool
  readCrcErr : Bool
  writeCrcErr : Bool
  deriving DecidableEq, Repr

def startCmd (which : Which) (cmd : Command) (s : State) : State × Effects :=
  ({ s with host := { s.host with cmd := some (which, cmd), clock := true } }, { bug := s.host.cmd.isSome })

/-- `mxcmci_finish_request`, of `host->req` -/
def finishRequest (s : State) : State × Effects :=
  match s.host.req with
  | none => (s, { bug := true })
  | some req =>
    ({ host := { s.host with
          req := none, cmd := none, data := none, clock := req.cmd.keepClkRun && s.host.clock },
        active := s.active.erase req },
      { done := some ⟨req, s.host.cmdError, s.host.stopError, s.host.dataError⟩ })

def dataDone (s : State) : State × Effects :=
  match s.host.data with
  | none => (s, {})
  | some _ =>
    let s₁ : State := { s with host := { s.host with data := none } }
    match s.host.req with
    | none => (s₁, { bug := true })
    | some req =>
      match req.stop with
      | some stop => if s.host.dataError = .none then startCmd .stop stop s₁ else finishRequest s₁
      | none => finishRequest s₁

def respError (stat : Status) (cmd : Command) : MmcErr :=
  if stat.timeOutResp then .timeout else if stat.respCrcErr && cmd.rspCrc then .badcrc else .none

def pioError (pio : Pio) : Direction → MmcErr
  | .read => if pio.timeOutRead then .timeout else if pio.readCrcErr then .badcrc else .none
  | .write => if pio.writeCrcErr then .badcrc else .none

def MmcErr.set (new old : MmcErr) : MmcErr := if new = .none then old else new

def Host.error (h : Host) : Which → MmcErr
  | .cmd => h.cmdError
  | .stop => h.stopError

def Host.setError (h : Host) (e : MmcErr) : Which → Host
  | .cmd => { h with cmdError := e.set h.cmdError }
  | .stop => { h with stopError := e.set h.stopError }

def cmdDone (stat : Status) (pio : Pio) (s : State) : State × Effects :=
  match s.host.cmd with
  | none => (s, {})
  | some (which, cmd) =>
    let h := { s.host.setError (respError stat cmd) which with cmd := none }
    match s.host.data with
    | none => finishRequest { s with host := h }
    | some dir =>
      if h.error which ≠ .none then finishRequest { s with host := h }
      else dataDone { s with host := { h with dataError := (pioError pio dir).set h.dataError } }

def gpioIrq (inserted : Bool) (pio : Pio) (s : State) : State × Effects :=
  if inserted then (s, {}) else cmdDone ⟨false, true, false⟩ pio s

def irq (stat : Status) (pio : Pio) (s : State) : State × Effects :=
  if stat.endCmdResp then cmdDone stat pio s else (s, {})

/-- `mxcmci_request`, after `mmc_start_request` has cleared the errors -/
def request (req : Request) (s : State) : State × Effects :=
  let h := { s.host with
    req := some req, data := req.data.orElse fun _ => s.host.data, cmdError := .none, stopError := .none,
    dataError := .none }
  let r := startCmd .cmd req.cmd { host := h, active := s.active ++ [req] }
  (r.1, { r.2 with issued := some req, bug := s.host.req.isSome || r.2.bug })

inductive Event
  | request (req : Request)
  | irq (stat : Status) (pio : Pio)
  | gpio (inserted : Bool) (pio : Pio)
  deriving DecidableEq, Repr

def act (s : State) : Event → State × Effects
  | .request req => if s.active = [] then request req s else (s, {})
  | .irq stat pio => irq stat pio s
  | .gpio inserted pio => gpioIrq inserted pio s

def step : State → Event → Option State := Mealy.step act

def init : State := ⟨⟨none, none, none, .none, .none, .none, false⟩, []⟩

/-! ### The properties -/

def Idle (h : Host) : Prop := h.req = none ∧ h.cmd = none ∧ h.data = none

def Last (s : State) : Event → Prop
  | .request _ => False
  | .gpio inserted _ => inserted = false
  | .irq stat pio => stat.endCmdResp = true ∧ ∀ req ∈ s.active,
      (∃ cmd, s.host.cmd = some (.stop, cmd)) ∨ req.stop = none ∨ respError stat req.cmd ≠ .none ∨
        ∀ dir ∈ req.data, pioError pio dir ≠ .none

def issuedIn (s : State) (l : List Event) : List Request := Mealy.seen act (fun o => o.issued.toList) s l

def doneIn (s : State) (l : List Event) : List Request :=
  Mealy.seen act (fun o => (o.done.map Completion.req).toList) s l

inductive Shape (s : State) : Prop
  | idle (h : Idle s.host) (hactive : s.active = [])
  | first (req : Request) (hactive : s.active = [req]) (hreq : s.host.req = some req)
      (hcmd : s.host.cmd = some (.cmd, req.cmd)) (hdata : s.host.data = req.data) (herr : s.host.cmdError = .none)
      (hdataErr : s.host.dataError = .none)
  | stop (req : Request) (cmd : Command) (hactive : s.active = [req]) (hreq : s.host.req = some req)
      (hcmd : s.host.cmd = some (.stop, cmd)) (hdata : s.host.data = none)

section Step

variable {s : State}

structure Finished (req : Request) (r : State × Effects) : Prop where
  idle : Idle r.1.host
  active : r.1.active = []
  done : r.2.done.map Completion.req = some req
  issued : r.2.issued = none
  bug : r.2.bug = false

variable {req : Request}

lemma Finished.shape {r : State × Effects} (h : Finished req r) : Shape r.1 := .idle h.idle h.active

lemma finishRequest_finished (hreq : s.host.req = some req) (hactive : s.active = [req]) :
  Finished req (finishRequest s) := by
  simp only [finishRequest,hreq]
  exact ⟨⟨rfl,rfl,rfl⟩,by simp [hactive],rfl,rfl,rfl⟩

structure Stopping (req : Request) (r : State × Effects) : Prop where
  shape : Shape r.1
  active : r.1.active = [req]
  done : r.2.done = none
  issued : r.2.issued = none
  bug : r.2.bug = false

lemma cmdDone_first (hactive : s.active = [req]) (hreq : s.host.req = some req)
  (hcmd : s.host.cmd = some (.cmd, req.cmd)) (hdata : s.host.data = req.data) (herr : s.host.cmdError = .none)
  (hdataErr : s.host.dataError = .none) (stat : Status) (pio : Pio) :
  ((req.stop = none ∨ respError stat req.cmd ≠ .none ∨ ∀ dir ∈ req.data, pioError pio dir ≠ .none) ∧
      Finished req (cmdDone stat pio s)) ∨
  (¬ (req.stop = none ∨ respError stat req.cmd ≠ .none ∨ ∀ dir ∈ req.data, pioError pio dir ≠ .none) ∧
      Stopping req (cmdDone stat pio s)) := by
  have herror : ∀ h : Host, h = { s.host.setError (respError stat req.cmd) .cmd with cmd := none } →
      h.error .cmd = respError stat req.cmd := by
    rintro h rfl
    by_cases he : respError stat req.cmd = .none
    · simp [Host.error,Host.setError,MmcErr.set,he,herr]
    · simp [Host.error,Host.setError,MmcErr.set,he]
  simp only [cmdDone,hcmd,hdata]
  cases hd : req.data with
  | none =>
    exact Or.inl ⟨by simp,finishRequest_finished (by simpa [Host.setError] using hreq) hactive⟩
  | some dir =>
    simp only
    rw [herror _ rfl]
    by_cases he : respError stat req.cmd = .none
    · rw [if_neg (by simpa using he)]
      simp only [dataDone,hreq,Host.setError,hdata,hd]
      cases hstop : req.stop with
      | none =>
        exact Or.inl ⟨by simp,finishRequest_finished rfl hactive⟩
      | some stop =>
        simp only [hdataErr,he]
        by_cases hp : pioError pio dir = .none
        · refine Or.inr ⟨by simp [hp],?_⟩
          simp only [hp,MmcErr.set,if_true]
          exact ⟨.stop req stop hactive rfl rfl rfl,hactive,rfl,rfl,rfl⟩
        · refine Or.inl ⟨by simp [hp],?_⟩
          simp only [hp,MmcErr.set,if_false]
          exact finishRequest_finished rfl hactive
    · rw [if_pos he]
      exact Or.inl ⟨by simp [he],finishRequest_finished (by simpa [Host.setError] using hreq) hactive⟩

lemma cmdDone_stop {cmd : Command} (hactive : s.active = [req]) (hreq : s.host.req = some req)
  (hcmd : s.host.cmd = some (.stop, cmd)) (hdata : s.host.data = none) (stat : Status) (pio : Pio) :
  Finished req (cmdDone stat pio s) := by
  simp only [cmdDone,hcmd,hdata]
  exact finishRequest_finished (by simpa [Host.setError] using hreq) hactive

structure Accounts (s : State) (e : Event) : Prop where
  shape : Shape (act s e).1
  fifo : s.active ++ (act s e).2.issued.toList =
    ((act s e).2.done.map Completion.req).toList ++ (act s e).1.active
  last : s.active ≠ [] → ((act s e).1.active = [] ↔ Last s e)
  bug : (act s e).2.bug = false

lemma Accounts.of_finished {e : Event} (hactive : s.active = [req]) (h : Finished req (act s e))
  (hlast : Last s e) : Accounts s e where
  shape := h.shape
  fifo := by simp [hactive,h.issued,h.done,h.active]
  last _ := ⟨fun _ => hlast, fun _ => h.active⟩
  bug := h.bug

lemma Accounts.of_stopping {e : Event} (hactive : s.active = [req]) (h : Stopping req (act s e))
  (hlast : ¬ Last s e) : Accounts s e where
  shape := h.shape
  fifo := by simp [hactive,h.issued,h.done,h.active]
  last _ := ⟨fun he => by simp [h.active] at he, fun he => absurd he hlast⟩
  bug := h.bug

lemma Accounts.of_same {e : Event} (h : Shape s) (he : act s e = (s, {})) (hlast : s.active ≠ [] → ¬ Last s e) :
  Accounts s e where
  shape := by rwa [he]
  fifo := by simp [he]
  last hne := ⟨fun hnil => absurd (by rwa [he] at hnil) hne, fun hl => absurd hl (hlast hne)⟩
  bug := by rw [he]

lemma accounts_request (h : Shape s) (req : Request) : Accounts s (.request req) := by
  by_cases hactive : s.active = []
  · cases h with
    | idle hidle _ =>
      obtain ⟨hreq,hcmd,hdata⟩ := hidle
      have he : act s (.request req) = request req s := by simp [act,hactive]
      refine ⟨?_,?_,fun hne => absurd hactive hne,?_⟩
      · rw [he]
        refine .first req (by simp [request,startCmd,hactive]) rfl rfl ?_ rfl rfl
        simp [request,startCmd,hdata]
      · rw [he]
        simp [request,startCmd,hactive]
      · rw [he]
        simp [request,startCmd,hreq,hcmd]
    | first _ hone | stop _ _ hone => simp [hactive] at hone
  · exact Accounts.of_same h (by simp [act,hactive]) fun _ hl => hl

lemma accounts_irq (h : Shape s) (stat : Status) (pio : Pio) : Accounts s (.irq stat pio) := by
  by_cases hend : stat.endCmdResp = true
  · have he : act s (.irq stat pio) = cmdDone stat pio s := by simp [act,irq,hend]
    cases h with
    | idle hidle hactive =>
      exact Accounts.of_same (.idle hidle hactive) (by simp [he,cmdDone,hidle.2.1]) fun hne => absurd hactive hne
    | first req hactive hreq hcmd hdata herr hdataErr =>
      have hlast : Last s (.irq stat pio) ↔
          (req.stop = none ∨ respError stat req.cmd ≠ .none ∨ ∀ dir ∈ req.data, pioError pio dir ≠ .none) := by
        simp [Last,hend,hactive,hcmd]
      obtain ⟨hl,hf⟩ | ⟨hl,hs⟩ := cmdDone_first hactive hreq hcmd hdata herr hdataErr stat pio
      · exact Accounts.of_finished hactive (by rwa [he]) (hlast.mpr hl)
      · exact Accounts.of_stopping hactive (by rwa [he]) (fun hl' => hl (hlast.mp hl'))
    | stop req cmd hactive hreq hcmd hdata =>
      refine Accounts.of_finished hactive (by rw [he]; exact cmdDone_stop hactive hreq hcmd hdata stat pio) ?_
      exact ⟨hend,fun _ _ => Or.inl ⟨cmd,hcmd⟩⟩
  · exact Accounts.of_same h (by simp [act,irq,hend]) fun _ hl => hend hl.1

lemma accounts_gpio (h : Shape s) (inserted : Bool) (pio : Pio) : Accounts s (.gpio inserted pio) := by
  cases inserted with
  | true => exact Accounts.of_same h rfl fun _ hl => by cases hl
  | false =>
    have he : act s (.gpio false pio) = cmdDone ⟨false,true,false⟩ pio s := rfl
    cases h with
    | idle hidle hactive =>
      exact Accounts.of_same (.idle hidle hactive) (by simp [he,cmdDone,hidle.2.1]) fun hne => absurd hactive hne
    | first req hactive hreq hcmd hdata herr hdataErr =>
      -- the timeout is an error of the command
      obtain ⟨-,hf⟩ | ⟨hl,-⟩ := cmdDone_first hactive hreq hcmd hdata herr hdataErr ⟨false,true,false⟩ pio
      · exact Accounts.of_finished hactive (by rwa [he]) rfl
      · exact absurd (Or.inr (Or.inl (by simp [respError]))) hl
    | stop req cmd hactive hreq hcmd hdata =>
      exact Accounts.of_finished hactive (by rw [he]; exact cmdDone_stop hactive hreq hcmd hdata _ pio) rfl

lemma accounts_act (h : Shape s) (e : Event) : Accounts s e := by
  cases e with
  | request req => exact accounts_request h req
  | irq stat pio => exact accounts_irq h stat pio
  | gpio inserted pio => exact accounts_gpio h inserted pio

lemma Shape.idle_of_active (h : Shape s) (hactive : s.active = []) : Idle s.host := by
  cases h with
  | idle hidle _ => exact hidle
  | first _ hone | stop _ _ hone => simp [hactive] at hone

end Step

end Mx27.Mmc
