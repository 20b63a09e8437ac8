/-
# The V4L2 camera driver
-/
import Mx27Drivers.Lib.Run
import Mx27Drivers.Capture.Prp

namespace Mx27.Capture

open Function

def FRAME_NUM : ℕ := 3
def PAGE_SIZE : ℕ := 4096

def pageAlign (x : ℕ) : ℕ := (x + PAGE_SIZE - 1) % 2 ^ 32 / PAGE_SIZE * PAGE_SIZE

structure Frame where
  paddress : ℕ
  length : ℕ
  allocated : Bool
  mapped : Bool
  queued : Bool
  done : Bool
  deriving DecidableEq, Repr

def Frame.Free (f : Frame) : Prop := f.mapped = true ∧ f.queued = false ∧ f.done = false

instance (f : Frame) : Decidable f.Free := inferInstanceAs (Decidable (_ ∧ _ ∧ _))

structure Format where
  pixelformat : PixelFormat
  width : ℕ
  height : ℕ
  sizeimage : ℕ
  deriving DecidableEq, Repr

/-- `cam_data` and the driver's globals, with channel 2 of the pre-processor. -/
structure State where
  openCount : ℤ
  frame : ℕ → Frame
  readyQ : List ℕ
  workingQ : List ℕ
  doneQ : List ℕ
  undiQ : List ℕ
  pingPong : Bool
  skipFrame : ℕ
  encCounter : ℕ
  captureOn : Bool
  v2f : Format
  imageSz : ℕ
  devMinor : Bool
  selected : Bool
  scheduled : Bool
  cfg : Cfg
  prp : Prp

namespace State

def setFrame (s : State) (i : ℕ) (f : Frame) : State := { s with frame := Function.update s.frame i f }

def offset (s : State) : ℕ := if s.devMinor then s.imageSz else 0

def eba (s : State) (i : ℕ) : ℕ := (s.frame i).paddress + s.offset

def dest (s : State) (i : ℕ) : Dest := s.cfg.image.dest (s.eba i)

end State

structure Answers where
  resize : Bool
  input : Bool
  deriving DecidableEq, Repr

/-- `prp_enc_update_eba`, called through `cam->enc_update_eba`. -/
def encUpdateEba (s : State) (i : ℕ) : Option State :=
  if s.selected then
    let cfg := if s.pingPong then { s.cfg with ch2Ptr2 := s.eba i } else { s.cfg with ch2Ptr := s.eba i }
    some { s with cfg := cfg, prp := prphwCh2ptr s.pingPong cfg s.prp, pingPong := !s.pingPong }
  else none

/-- `prp_enc_enable`, and whether it succeeds. -/
def encEnable (a : Answers) (s : State) : State × Bool :=
  let cfg := prpV4l2Cfg s.v2f.pixelformat s.v2f.width s.v2f.height s.cfg
  if a.resize then
    if a.input then
      ({ s with cfg := cfg.align, prp := prphwEnable (prphwCh2Cfg cfg.align (prphwReset s.prp)) }, true)
    else ({ s with cfg := cfg, prp := prphwReset s.prp }, false)
  else ({ s with cfg := cfg }, false)

def armReady (s : State) : Option State :=
  match s.readyQ with
  | [] => none
  | i :: q => encUpdateEba { s with readyQ := q, workingQ := s.workingQ ++ [i] } i

def mxcFreeFrameBuf (s : State) : State := { s with frame := fun i => { s.frame i with allocated := false } }

def bufferLength (s : State) : ℕ :=
  if s.devMinor then pageAlign (s.v2f.sizeimage * 2 % 2 ^ 32) else pageAlign s.v2f.sizeimage

/-- `mxc_allocate_frame_buf`, for the frames of the list. -/
def mxcAllocateFrameBuf (alloc : ℕ → Option ℕ) : List ℕ → State → State
  | [], s => s
  | i :: l, s =>
    match alloc i with
    | none => mxcFreeFrameBuf s
    | some a => mxcAllocateFrameBuf alloc l (s.setFrame i ⟨a, bufferLength s, true, true, false, false⟩)

def mxcFreeFrames (s : State) : State :=
  { s with
    frame := fun i => { s.frame i with mapped := true, queued := false, done := false }
    encCounter := 0
    skipFrame := 0
    readyQ := []
    workingQ := []
    doneQ := []
    undiQ := [] }

def deinterlace (s : State) : State :=
  match s.undiQ with
  | [] => s
  | i :: q => { s with undiQ := q, doneQ := s.doneQ ++ [i], encCounter := s.encCounter + 1 }

def runTasklet (s : State) : State := if s.scheduled then deinterlace { s with scheduled := false } else s

/-- `mxc_streamon` up to the first frame it arms: the channel runs already. -/
def streamonEnabled (a : Answers) (s : State) : Option State :=
  if s.readyQ = [] ∨ s.selected = false ∨ (encEnable a s).2 = false then none
  else some { (encEnable a s).1 with pingPong := false }

def mxcStreamon (a : Answers) (s : State) : Option State :=
  if s.readyQ = [] then some s
  else if s.selected = false then some { s with pingPong := false }
  else if (encEnable a s).2 = false then some (encEnable a s).1
  else do
    let s₁ ← armReady { (encEnable a s).1 with pingPong := false }
    let s₂ ← armReady s₁
    some { s₂ with scheduled := if s₂.devMinor then false else s₂.scheduled }

def mxcStreamoff (s : State) : State :=
  let s₁ := if s.selected then { s with prp := prphwDisable s.prp } else s
  mxcFreeFrames (if s₁.devMinor then runTasklet s₁ else s₁)

def refill (s : State) : Option State :=
  match s.readyQ with
  | [] => some { s with skipFrame := s.skipFrame + 1 }
  | _ :: _ => armReady s

def cameraCallback (s : State) : Option State :=
  match s.workingQ with
  | [] => refill s
  | i :: _ =>
    if (s.frame i).queued then do
      let s₁ ← refill (s.setFrame i { s.frame i with queued := false, done := true })
      if s₁.devMinor then
        some { s₁ with workingQ := s₁.workingQ.tail, undiQ := s₁.undiQ ++ [i], scheduled := true }
      else
        some { s₁ with workingQ := s₁.workingQ.tail, doneQ := s₁.doneQ ++ [i], encCounter := s₁.encCounter + 1 }
    else some s

def frameInterrupt (s : State) : Option State :=
  match s.prp.fill with
  | none => some s
  | some (_, prp) => if s.captureOn then cameraCallback { s with prp := prp } else some { s with prp := prp }

/-! ### The requests -/

inductive Opening
  | absent
  | signalled
  | opened
  deriving DecidableEq, Repr

def mxcV4lOpen (minor : Bool) (r : Opening) (s : State) : State :=
  let s₁ := { s with devMinor := minor }
  match r with
  | .absent => s₁
  | .signalled => s₁
  | .opened =>
    let s₂ := { s₁ with openCount := s.openCount + 1 }
    if s.openCount = 0 then
      { s₂ with selected := true, encCounter := 0, skipFrame := 0, readyQ := [], workingQ := [], doneQ := [], undiQ := [] }
    else s₂

def mxcV4l2SFmt (f : Format) (s : State) : State :=
  let width :=
    match f.pixelformat with
    | .yuyv => f.width / 2 * 2
    | .yuv420 => f.width / 8 * 8
    | .other => f.width
  let height :=
    match f.pixelformat with
    | .yuv420 => f.height / 2 * 2
    | _ => f.height
  let size :=
    match f.pixelformat with
    | .yuyv => width * height * 2 % 2 ^ 32
    | .yuv420 => width * height * 3 % 2 ^ 32 / 2
    | .other => width * height * 4 % 2 ^ 32
  let size := if size < f.sizeimage then f.sizeimage else size
  { s with v2f := ⟨f.pixelformat, width, height, size⟩, imageSz := pageAlign (size * 2 % 2 ^ 32) / 2 }

def reqbufs (count : ℕ) (alloc : ℕ → Option ℕ) (s : State) : State :=
  mxcAllocateFrameBuf alloc (List.range (min count FRAME_NUM)) (mxcFreeFrameBuf (mxcStreamoff s))

/-- `VIDIOC_QBUF`. -/
def qbuf (i : ℕ) (s : State) : Option State :=
  if i < FRAME_NUM then
    if (s.frame i).Free then
      let s₁ := s.setFrame i { s.frame i with queued := true }
      if 0 < s.skipFrame then do
        let s₂ ← encUpdateEba { s₁ with workingQ := s₁.workingQ ++ [i] } i
        some { s₂ with skipFrame := 0 }
      else some { s₁ with readyQ := s₁.readyQ ++ [i] }
    else if (s.frame i).queued then some s
    else if (s.frame i).done then some (s.setFrame i { s.frame i with done := false, queued := true })
    else some s
  else none

/-- `mxc_v4l_dqueue`: waits in vain while no frame is counted. -/
def mxcV4lDqueue (s : State) : Option State :=
  if s.encCounter = 0 then some s
  else
    match s.doneQ with
    | [] => none
    | i :: q =>
      let s₁ := { s with encCounter := s.encCounter - 1, doneQ := q }
      if (s.frame i).done then some (s₁.setFrame i { s.frame i with done := false })
      else if (s.frame i).queued then some (s₁.setFrame i { s.frame i with queued := false })
      else some s₁

/-- `mxc_v4l_close`, by the process that started the stream or by another one. -/
def mxcV4lClose (own : Bool) (s : State) : State :=
  let s₁ := if own then { mxcStreamoff s with captureOn := false } else s
  let s₂ := { s₁ with openCount := s₁.openCount - 1 }
  if s₂.openCount = 0 then
    let s₃ := mxcFreeFrames (mxcFreeFrameBuf { s₂ with prp := prphwDisable s₂.prp, selected := false })
    { s₃ with encCounter := s₃.encCounter + 1 }
  else s₂

inductive Event
  | open (minor : Bool) (r : Opening)
  | sFmt (f : Format)
  | reqbufs (count : ℕ) (alloc : ℕ → Option ℕ)
  | qbuf (index : ℕ)
  | dqbuf
  | streamon (a : Answers)
  | streamoff
  | close (own : Bool)
  | frame
  | tasklet

def step (s : State) : Event → Option State
  | .open minor r => some (mxcV4lOpen minor r s)
  | .sFmt f => some (mxcV4l2SFmt f s)
  | .reqbufs count alloc => some (reqbufs count alloc s)
  | .qbuf i => qbuf i s
  | .dqbuf => mxcV4lDqueue s
  | .streamon a => mxcStreamon a { s with captureOn := true }
  | .streamoff => some { mxcStreamoff s with captureOn := false }
  | .close own => some (mxcV4lClose own s)
  | .frame => frameInterrupt s
  | .tasklet => some (runTasklet s)

/-- `init_camera_struct`: no file is open and nothing was ever configured. -/
def initCameraStruct : State where
  openCount := 0
  frame := fun _ => ⟨0, 0, false, false, false, false⟩
  readyQ := []
  workingQ := []
  doneQ := []
  undiQ := []
  pingPong := false
  skipFrame := 0
  encCounter := 0
  captureOn := false
  v2f := ⟨.yuv420, 288, 352, 352 * 288 * 3 / 2⟩
  imageSz := 0
  devMinor := false
  selected := false
  scheduled := false
  cfg := ⟨.yuv420, 0, 0, 0, 0⟩
  prp := ⟨false, ⟨.unused, 0, 0⟩, fun _ => none, false⟩

section Parts

variable {s : State} {i j : ℕ}

@[simp] lemma setFrame_same (f : Frame) : (s.setFrame i f).frame i = f := update_self ..

lemma setFrame_other (f : Frame) (h : j ≠ i) : (s.setFrame i f).frame j = s.frame j := update_of_ne h ..

def State.armed (s : State) (i : ℕ) : State :=
  { s with
    cfg := if s.pingPong then { s.cfg with ch2Ptr2 := s.eba i } else { s.cfg with ch2Ptr := s.eba i }
    prp := { s.prp with buf := s.prp.buf.arm s.pingPong (s.dest i) }
    pingPong := !s.pingPong }

lemma encUpdateEba_eq (hsel : s.selected = true) (hpix : s.cfg.ch2Pix ≠ .unused) :
  encUpdateEba s i = some (s.armed i) := by
  unfold encUpdateEba State.armed prphwCh2ptr
  rw [if_pos hsel]
  cases hp : s.pingPong with
  | false | true => simp [hpix,State.dest,Cfg.image]

@[simp] lemma armed_image : (s.armed i).cfg.image = s.cfg.image := by
  unfold State.armed
  cases s.pingPong <;> rfl

def State.armedReady (s : State) (i : ℕ) (q : List ℕ) : State :=
  ({ s with readyQ := q, workingQ := s.workingQ ++ [i] } : State).armed i

lemma armReady_cons {q : List ℕ} (hsel : s.selected = true) (hpix : s.cfg.ch2Pix ≠ .unused)
  (hq : s.readyQ = i :: q) : armReady s = some (s.armedReady i q) := by
  simp only [armReady,hq]
  exact encUpdateEba_eq hsel hpix

end Parts

end Mx27.Capture
