/-
# Where the camera's DMA writes
-/
import Mx27Drivers.Capture.Stream

namespace Mx27.Capture

open List

def State.Covers (s : State) (d : Dest) : Prop :=
  ∃ i < FRAME_NUM, (s.frame i).allocated = true ∧ (s.frame i).queued = true ∧
    s.prp.image.Inside d (s.frame i).paddress (s.frame i).length

def Safe (s : State) : Prop := s.prp.ch2en = true → ∀ j d, s.prp.buf.slot j = some d → s.Covers d

def moments (s : State) : Event → List State
  | .streamon a =>
    match streamonEnabled a { s with captureOn := true } with
    | none => []
    | some s₁ => s₁ :: (armReady s₁).toList
  | _ => []

def SafeDuring (s : State) (e : Event) : Prop := (∃ s', step s e = some s' ∧ Safe s') ∧ ∀ m ∈ moments s e, Safe m

def State.Left (s : State) (ptr : ℕ) : Prop :=
  ∃ i < FRAME_NUM, (s.frame i).allocated = true ∧ (s.frame i).queued = true ∧ (s.frame i).paddress ≤ ptr ∧
    ptr + s.programmed.image.bytes ≤ (s.frame i).paddress + (s.frame i).length

def Careful (s : State) : Event → Prop
  -- the images of a running stream do not move in their buffers
  | .open minor _ => s.prp.ch2en = true → minor = s.devMinor
  | .sFmt f => s.prp.ch2en = true → (mxcV4l2SFmt f s).offset = s.offset
  -- a frame that gets queued has a buffer
  | .qbuf i => i < FRAME_NUM ∧ ((s.frame i).Free → (s.frame i).allocated = true)
  | .dqbuf => s.encCounter ≠ 0 → s.doneQ ≠ []
  -- a running stream is not configured in vain; a start finds two frames, room for the
  -- image in all of them, and addresses of the last session in queued ones
  | .streamon a =>
    s.readyQ ≠ [] → s.selected = true →
      (a.resize = false → s.prp.ch2en = false) ∧
      (a.resize = true → a.input = true → 2 ≤ s.readyQ.length ∧
        (∀ i < FRAME_NUM, (s.frame i).allocated = true → s.offset + s.programmed.image.bytes ≤ (s.frame i).length) ∧
        s.Left s.cfg.ch2Ptr ∧ s.Left s.cfg.second)
  | .reqbufs _ _ | .streamoff | .close _ | .frame | .tasklet => True

instance (s : State) (d : Dest) : Decidable (s.Covers d) := inferInstanceAs (Decidable (∃ i < FRAME_NUM, _))

instance (s : State) (ptr : ℕ) : Decidable (s.Left ptr) := inferInstanceAs (Decidable (∃ i < FRAME_NUM, _))

instance (s : State) : Decidable (Safe s) :=
  decidable_of_iff (s.prp.ch2en = true → ∀ j, ∀ d ∈ (s.prp.buf.slot j).toList, s.Covers d) (by simp [Safe])

instance (s : State) : DecidablePred (Careful s)
  | .open minor _ => inferInstanceAs (Decidable (s.prp.ch2en = true → minor = s.devMinor))
  | .sFmt f => inferInstanceAs (Decidable (s.prp.ch2en = true → (mxcV4l2SFmt f s).offset = s.offset))
  | .qbuf i => inferInstanceAs (Decidable (i < FRAME_NUM ∧ ((s.frame i).Free → (s.frame i).allocated = true)))
  | .dqbuf => inferInstanceAs (Decidable (s.encCounter ≠ 0 → s.doneQ ≠ []))
  | .streamon a =>
    inferInstanceAs (Decidable (s.readyQ ≠ [] → s.selected = true → (a.resize = false → s.prp.ch2en = false) ∧
      (a.resize = true → a.input = true → 2 ≤ s.readyQ.length ∧
        (∀ i < FRAME_NUM, (s.frame i).allocated = true → s.offset + s.programmed.image.bytes ≤ (s.frame i).length) ∧
        s.Left s.cfg.ch2Ptr ∧ s.Left s.cfg.second)))
  | .reqbufs _ _ | .streamoff | .close _ | .frame | .tasklet => isTrue trivial

structure Idle (s : State) : Prop where
  closed : s.openCount = 0 ∧ s.selected = false
  off : s.prp.ch2en = false
  lists : s.workingQ = [] ∧ s.readyQ = [] ∧ s.doneQ = [] ∧ s.undiQ = []
  skip : s.skipFrame = 0
  flags : ∀ i, (s.frame i).queued = false ∧ (s.frame i).done = false

/-! ### The invariant -/

structure Running (s : State) : Prop where
  captureOn : s.captureOn = true
  ringed : ∃ old live, Ringed s old live
  image : s.prp.image = s.cfg.image
  fits : ∀ i < FRAME_NUM, (s.frame i).allocated = true → s.offset + s.cfg.image.bytes ≤ (s.frame i).length

structure Confined (s : State) : Prop where
  listed : Listed s
  alive : ∀ i, i ∈ s.workingQ ∨ i ∈ s.readyQ → i < FRAME_NUM ∧ (s.frame i).allocated = true
  files : s.selected = true ↔ 1 ≤ s.openCount
  off : s.prp.ch2en = false → s.skipFrame = 0
  running : s.prp.ch2en = true → Running s

section

variable {s s' : State}

lemma covers_dest {i : ℕ} (hi : i < FRAME_NUM) (ha : (s.frame i).allocated = true)
  (hq : (s.frame i).queued = true) (himg : s.prp.image = s.cfg.image)
  (hfit : s.offset + s.cfg.image.bytes ≤ (s.frame i).length) : s.Covers (s.dest i) := by
  refine ⟨i,hi,ha,hq,?_⟩
  rw [himg]
  exact Image.planes_inside hfit

lemma Confined.safe (h : Confined s) : Safe s := by
  intro hen j d hd
  have hrun := h.running hen
  obtain ⟨old,live,hring⟩ := hrun.ringed
  obtain ⟨i,hi,rfl⟩ := List.mem_map.mp (hring.holds.mem hd)
  have hw : i ∈ s.workingQ := by
    rw [hring.working]
    exact mem_append_right _ hi
  obtain ⟨hlt,ha⟩ := h.alive i (Or.inl hw)
  exact covers_dest hlt ha (h.listed.queued i (Or.inl hw)) hrun.image (hrun.fits i hlt ha)

lemma Confined.selected (h : Confined s) (hen : s.prp.ch2en = true) : s.selected = true := by
  obtain ⟨old,live,hring⟩ := (h.running hen).ringed
  exact hring.selected

lemma Confined.skip_zero (h : Confined s) (hready : s.readyQ ≠ []) : s.skipFrame = 0 := by
  cases hen : s.prp.ch2en with
  | false => exact h.off hen
  | true =>
    obtain ⟨old,live,hring⟩ := (h.running hen).ringed
    by_contra hne
    exact hready (hring.skip (Nat.pos_of_ne_zero hne)).1

lemma Confined.of_off (hone : ∀ i, (s.frame i).queued = true → (s.frame i).done = false)
  (hlists : s.workingQ = [] ∧ s.readyQ = [] ∧ s.doneQ = [] ∧ s.undiQ = []) (hskip : s.skipFrame = 0)
  (hfiles : s.selected = true ↔ 1 ≤ s.openCount) (hoff : s.prp.ch2en = false) : Confined s := by
  refine ⟨⟨hone,fun i => by simp [State.count,hlists],fun i hi => ?_⟩,fun i hi => ?_,hfiles,fun _ => hskip,
    fun hen => ?_⟩
  · simp [hlists] at hi
  · simp [hlists] at hi
  · simp [hoff] at hen

lemma Idle.confined (h : Idle s) : Confined s :=
  Confined.of_off (fun i _ => (h.flags i).2) h.lists h.skip (by simp [h.closed]) h.off

lemma Confined.next (h : Confined s) (hsame : SameSession s s') (hl : Listed s')
  (halive : ∀ i, i ∈ s'.workingQ ∨ i ∈ s'.readyQ → i < FRAME_NUM ∧ (s.frame i).allocated = true)
  (hskip : s.prp.ch2en = false → s'.skipFrame = 0)
  (hring : s.prp.ch2en = true → ∃ old live, Ringed s' old live) : Confined s' := by
  refine ⟨hl,fun i hi => ?_,?_,fun hoff => hskip (hsame.prp.2 ▸ hoff),fun hen => ?_⟩
  · rw [(hsame.frame i).2.2]
    exact halive i hi
  · rw [hsame.selected,hsame.openCount]
    exact h.files
  · rw [hsame.prp.2] at hen
    have hrun := h.running hen
    refine ⟨hsame.captureOn.trans hrun.captureOn,hring hen,?_,fun i hi ha => ?_⟩
    · rw [hsame.prp.1,hsame.image,hrun.image]
    · rw [hsame.offset,hsame.image,(hsame.frame i).2.1]
      exact hrun.fits i hi ((hsame.frame i).2.2 ▸ ha)

lemma Confined.streamoff (h : Confined s) : (mxcStreamoff s).prp.ch2en = false := by
  rw [(mxcStreamoff_session s).2.2.2]
  cases hen : s.prp.ch2en with
  | false => rfl
  | true => simp [h.selected hen]

end

/-! ### One event each -/

section Events

variable {s : State}

lemma confined_open (h : Confined s) (minor : Bool) (r : Opening)
  (hok : s.prp.ch2en = true → minor = s.devMinor) : Confined (mxcV4lOpen minor r s) := by
  -- the minor number matters only while the channel runs
  have hminor : ∀ n : ℤ, (s.selected = true ↔ 1 ≤ n) → Confined { s with devMinor := minor, openCount := n } := by
    intro n hn
    refine ⟨⟨h.listed.one,h.listed.count_le,h.listed.queued⟩,h.alive,hn,h.off,fun hen => ?_⟩
    have hrun := h.running hen
    obtain ⟨old,live,hring⟩ := hrun.ringed
    rw [hok hen]
    exact ⟨hrun.captureOn,⟨old,live,hring.working,hring.holds,hring.skip,hring.selected,hring.pix⟩,hrun.image,
      hrun.fits⟩
  unfold mxcV4lOpen
  cases r with
  | absent | signalled => exact hminor s.openCount h.files
  | opened =>
    simp only
    split
    · rename_i hzero
      have hoff : s.prp.ch2en = false := by
        by_contra hne
        have := h.files.mp (h.selected (by simpa using hne))
        omega
      exact Confined.of_off h.listed.one ⟨rfl,rfl,rfl,rfl⟩ rfl (by simp [hzero]) hoff
    · rename_i hne
      refine hminor (s.openCount + 1) (h.files.trans ?_)
      omega

lemma confined_sFmt (h : Confined s) (f : Format)
  (hok : s.prp.ch2en = true → (mxcV4l2SFmt f s).offset = s.offset) : Confined (mxcV4l2SFmt f s) := by
  refine ⟨⟨h.listed.one,h.listed.count_le,h.listed.queued⟩,h.alive,h.files,h.off,fun hen => ?_⟩
  have hrun := h.running hen
  obtain ⟨old,live,hring⟩ := hrun.ringed
  have hdest : (mxcV4l2SFmt f s).dest = s.dest := by
    funext i
    unfold State.dest State.eba
    rw [hok hen]
    rfl
  refine ⟨hrun.captureOn,⟨old,live,hring.working,?_,hring.skip,hring.selected,hring.pix⟩,hrun.image,
    fun i hi ha => ?_⟩
  · rw [hdest]
    exact hring.holds
  · rw [hok hen]
    exact hrun.fits i hi ha

lemma confined_reqbufs (h : Confined s) (count : ℕ) (alloc : ℕ → Option ℕ) : Confined (reqbufs count alloc s) := by
  obtain ⟨frame,he,hfree,-⟩ := mxcAllocateFrameBuf_frame alloc (List.range (min count FRAME_NUM))
    (mxcFreeFrameBuf (mxcStreamoff s))
  unfold reqbufs
  rw [he]
  refine Confined.of_off (fun i _ => (hfree (fun i => ⟨rfl,rfl,rfl⟩) i).2.2) ⟨rfl,rfl,rfl,rfl⟩ rfl ?_ h.streamoff
  show (mxcStreamoff s).selected = true ↔ 1 ≤ (mxcStreamoff s).openCount
  rw [(mxcStreamoff_session s).2.1,(mxcStreamoff_session s).2.2.1]
  exact h.files

lemma confined_streamoff (h : Confined s) : Confined { mxcStreamoff s with captureOn := false } := by
  refine Confined.of_off (fun i _ => rfl) ⟨rfl,rfl,rfl,rfl⟩ rfl ?_ h.streamoff
  show (mxcStreamoff s).selected = true ↔ 1 ≤ (mxcStreamoff s).openCount
  rw [(mxcStreamoff_session s).2.1,(mxcStreamoff_session s).2.2.1]
  exact h.files

lemma confined_close (h : Confined s) (own : Bool) : Confined (mxcV4lClose own s) := by
  have h1 : Confined (if own then { mxcStreamoff s with captureOn := false } else s) := by
    cases own with
    | true => exact confined_streamoff h
    | false => exact h
  unfold mxcV4lClose
  generalize (if own = true then { mxcStreamoff s with captureOn := false } else s) = s1 at h1
  simp only
  split
  · rename_i hzero
    refine Confined.of_off (fun i _ => rfl) ⟨rfl,rfl,rfl,rfl⟩ rfl ⟨fun hsel => ?_,fun hle => ?_⟩ rfl
    · cases hsel
    · have hle' : 1 ≤ s1.openCount - 1 := hle
      omega
  · rename_i hne
    refine ⟨⟨h1.listed.one,h1.listed.count_le,h1.listed.queued⟩,h1.alive,h1.files.trans ?_,h1.off,fun hen => ?_⟩
    · show 1 ≤ s1.openCount ↔ 1 ≤ s1.openCount - 1
      omega
    · have hrun := h1.running hen
      obtain ⟨old,live,hring⟩ := hrun.ringed
      exact ⟨hrun.captureOn,⟨old,live,hring.working,hring.holds,hring.skip,hring.selected,hring.pix⟩,hrun.image,
        hrun.fits⟩

lemma confined_qbuf (h : Confined s) {i : ℕ} (hi : i < FRAME_NUM)
  (hfree : (s.frame i).Free → (s.frame i).allocated = true) : ∃ s', qbuf i s = some s' ∧ Confined s' := by
  have hskip : 0 < s.skipFrame → s.selected = true ∧ s.cfg.ch2Pix ≠ .unused := by
    intro hs
    cases hen : s.prp.ch2en with
    | false =>
      have := h.off hen
      omega
    | true =>
      obtain ⟨old,live,hring⟩ := (h.running hen).ringed
      exact ⟨hring.selected,hring.pix⟩
  obtain ⟨s',hs,hsame,hl,-,-,-,-,hle,hmem,hring⟩ := qbuf_spec h.listed hi hskip
  refine ⟨s',hs,h.next hsame hl (fun j hj => ?_) (fun hoff => ?_) (fun hen => ?_)⟩
  · rcases hmem j hj with ⟨rfl,hf⟩ | hj
    · exact ⟨hi,hfree hf⟩
    · exact h.alive j hj
  · have := h.off hoff
    omega
  · obtain ⟨old,live,hr⟩ := (h.running hen).ringed
    obtain ⟨l,hr'⟩ := hring old live hr
    exact ⟨old,_,hr'⟩

lemma confined_dqbuf (h : Confined s) (hd : s.encCounter ≠ 0 → s.doneQ ≠ []) :
  ∃ s', mxcV4lDqueue s = some s' ∧ Confined s' := by
  obtain ⟨s',hs,hsame,hl,-,hw,hr,-,-,hskip,-,hring⟩ := mxcV4lDqueue_spec h.listed hd
  refine ⟨s',hs,h.next hsame hl (fun j hj => h.alive j (by rwa [hw,hr] at hj)) (fun hoff => ?_) (fun hen => ?_)⟩
  · exact hskip.trans (h.off hoff)
  · obtain ⟨old,live,hr⟩ := (h.running hen).ringed
    exact ⟨old,live,hring old live hr⟩

lemma confined_frame (h : Confined s) : ∃ s', frameInterrupt s = some s' ∧ Confined s' := by
  cases hen : s.prp.ch2en with
  | false => exact ⟨s,by simp [frameInterrupt,Prp.fill,hen],h⟩
  | true =>
    have hrun := h.running hen
    obtain ⟨old,live,hring⟩ := hrun.ringed
    obtain ⟨-,-,he⟩ | ⟨i,l,j,b,-,-,-,he,hr,hl,-⟩ := frameInterrupt_spec hring h.listed hen hrun.captureOn
    · exact ⟨s,he,h⟩
    · have hsame := completed_same (s.filled b) j
      refine ⟨_,he,h.next ⟨hsame.frame,hsame.image,hsame.prp,hsame.selected,hsame.openCount,hsame.captureOn,
        hsame.minor⟩ hl (fun k hk => h.alive k (mem_completed (s := s.filled b) hk)) (fun hoff => ?_) (fun _ => ⟨_,_,hr⟩)⟩
      rw [hen] at hoff
      cases hoff

lemma confined_tasklet (h : Confined s) : Confined (runTasklet s) := by
  obtain ⟨hsame,hl,hw,hr,hskip,hring⟩ := runTasklet_spec h.listed
  refine h.next hsame hl (fun j hj => h.alive j (by rwa [hw,hr] at hj)) (fun hoff => hskip.trans (h.off hoff))
    (fun hen => ?_)
  obtain ⟨old,live,hr⟩ := (h.running hen).ringed
  exact ⟨old,live,hring old live hr⟩

lemma Confined.captureOn (h : Confined s) : Confined { s with captureOn := true } := by
  refine ⟨⟨h.listed.one,h.listed.count_le,h.listed.queued⟩,h.alive,h.files,h.off,fun hen => ?_⟩
  have hrun := h.running hen
  obtain ⟨old,live,hring⟩ := hrun.ringed
  exact ⟨rfl,⟨old,live,hring.working,hring.holds,hring.skip,hring.selected,hring.pix⟩,hrun.image,hrun.fits⟩

lemma Confined.reconfigured (h : Confined s) (cfg : Cfg) {prp : Prp} (hprp : prp.ch2en = false) (pingPong : Bool)
  (hskip : s.skipFrame = 0) : Confined { s with cfg := cfg, prp := prp, pingPong := pingPong } :=
  ⟨⟨h.listed.one, h.listed.count_le, h.listed.queued⟩, h.alive, h.files, fun _ => hskip, fun hen => by
    rw [show prp.ch2en = true from hen] at hprp
    cases hprp⟩

def State.Roomy (s : State) : Prop :=
  ∀ i < FRAME_NUM, (s.frame i).allocated = true → s.offset + s.programmed.image.bytes ≤ (s.frame i).length

lemma confined_started (h : Confined s) (hon : s.captureOn = true) (hsel : s.selected = true) {i j : ℕ} {q : List ℕ}
  (hq : s.readyQ = i :: j :: q) (hroom : s.Roomy) : Confined (s.started i j q) := by
  have hskip : s.skipFrame = 0 := h.skip_zero (by simp [hq])
  refine ⟨(h.listed.started hq).1,fun k hk => h.alive k ?_,h.files,fun hoff => (by cases hoff),fun _ => ?_⟩
  · simp only [State.started,State.armedReady,State.armed,State.enabled,mem_append,mem_singleton] at hk
    rw [hq]
    simp only [mem_cons]
    tauto
  · exact ⟨hon,⟨_,_,ringed_started hsel hskip⟩,rfl,hroom⟩

lemma mxcStreamon_failed {a : Answers} (hready : s.readyQ ≠ []) (hsel : s.selected = true)
  (hfail : (encEnable a s).2 = false) : mxcStreamon a s = some (encEnable a s).1 := by
  simp only [mxcStreamon,hready,hsel,hfail,if_true,if_false,Bool.true_eq_false]

lemma confined_streamon (h : Confined s) (hon : s.captureOn = true) (a : Answers)
  (hresize : s.readyQ ≠ [] → s.selected = true → a.resize = false → s.prp.ch2en = false)
  (hstart : s.readyQ ≠ [] → s.selected = true → a.resize = true → a.input = true → 2 ≤ s.readyQ.length ∧ s.Roomy) :
  ∃ s', mxcStreamon a s = some s' ∧ Confined s' := by
  by_cases hready : s.readyQ = []
  · exact ⟨s,by simp [mxcStreamon,hready],h⟩
  have hskip := h.skip_zero hready
  cases hsel : s.selected with
  | false =>
    have hoff : s.prp.ch2en = false := by
      by_contra hne
      have := h.selected (by simpa using hne)
      rw [hsel] at this
      cases this
    refine ⟨{ s with pingPong := false },by simp [mxcStreamon,hready,hsel],?_⟩
    exact h.reconfigured s.cfg hoff false hskip
  | true =>
    obtain ⟨resize,input⟩ := a
    cases resize with
    | false =>
      exact ⟨_,mxcStreamon_failed hready hsel rfl,
        h.reconfigured _ (hresize hready hsel rfl) s.pingPong hskip⟩
    | true =>
      cases input with
      | false =>
        exact ⟨_,mxcStreamon_failed hready hsel rfl,h.reconfigured _ rfl s.pingPong hskip⟩
      | true =>
        obtain ⟨hlen,hroom⟩ := hstart hready hsel rfl rfl
        obtain ⟨i,j,q,hq⟩ : ∃ i j q, s.readyQ = i :: j :: q := by
          match hr : s.readyQ with
          | [] => exact absurd hr hready
          | [_] => simp [hr] at hlen
          | i :: j :: q => exact ⟨i,j,q,rfl⟩
        exact ⟨_,mxcStreamon_two hsel hq,confined_started h hon hsel hq hroom⟩

lemma safe_enabled (hptr : s.Left s.cfg.ch2Ptr) (hsecond : s.Left s.cfg.second) : Safe s.enabled := by
  have hcover : ∀ p, s.Left p → s.enabled.Covers (s.programmed.image.dest p) := by
    rintro p ⟨i,hi,ha,hq,hle,hfit⟩
    refine ⟨i,hi,ha,hq,?_⟩
    obtain ⟨off,rfl⟩ := Nat.exists_eq_add_of_le hle
    have hroom : off + s.programmed.image.bytes ≤ (s.frame i).length := by omega
    exact Image.planes_inside hroom
  have hsame : s.programmed.ch2Ptr = s.cfg.ch2Ptr ∧ s.programmed.second = s.cfg.second := by
    unfold State.programmed Cfg.align prpV4l2Cfg
    cases s.v2f.pixelformat <;> exact ⟨rfl,rfl⟩
  intro _ j d hd
  cases j with
  | false =>
    obtain rfl : s.programmed.image.dest s.programmed.ch2Ptr = d := Option.some.inj hd
    rw [hsame.1]
    exact hcover _ hptr
  | true =>
    obtain rfl : s.programmed.image.dest s.programmed.second = d := Option.some.inj hd
    rw [hsame.2]
    exact hcover _ hsecond

lemma safe_armedReady (h : Confined s) {i : ℕ} {q : List ℕ} (hq : s.readyQ = i :: q) (hroom : s.Roomy)
  (hsafe : Safe s.enabled) : Safe (s.enabled.armedReady i q) := by
  obtain ⟨hlt,ha⟩ := h.alive i (by simp [hq])
  intro _ j d hd
  cases j with
  | false =>
    obtain rfl : s.enabled.dest i = d := Option.some.inj hd
    exact covers_dest (s := s.enabled) hlt ha (h.listed.queued i (by simp [hq])) rfl (hroom i hlt ha)
  | true => exact hsafe rfl true d hd

lemma moments_eq {a : Answers} {m : State} (hm : m ∈ moments s (.streamon a)) :
  s.readyQ ≠ [] ∧ s.selected = true ∧ a = ⟨true, true⟩ ∧
    (m = ({ s with captureOn := true } : State).enabled ∨
      armReady ({ s with captureOn := true } : State).enabled = some m) := by
  obtain ⟨resize,input⟩ := a
  simp only [moments,streamonEnabled] at hm
  split at hm
  · cases hm
  · rename_i s1 he
    split at he
    · cases he
    · rename_i hne
      simp only [not_or,Bool.not_eq_false] at hne
      obtain ⟨hready,hsel,hok⟩ := hne
      cases resize with
      | false => cases hok
      | true =>
        cases input with
        | false => cases hok
        | true =>
          rw [encEnable_ok] at he
          have hs1 : ({ s with captureOn := true } : State).enabled = s1 := Option.some.inj he
          subst hs1
          exact ⟨hready,hsel,rfl,by simpa only [mem_cons,Option.mem_toList] using hm⟩

lemma moments_safe (h : Confined s) {e : Event} (hok : Careful s e) : ∀ m ∈ moments s e, Safe m := by
  intro m hm
  cases e with
  | streamon a =>
    obtain ⟨hready,hsel,rfl,hcases⟩ := moments_eq hm
    obtain ⟨-,hroom,hptr,hsecond⟩ := (hok hready hsel).2 rfl rfl
    have hsafe : Safe ({ s with captureOn := true } : State).enabled := safe_enabled hptr hsecond
    rcases hcases with he | he
    · rw [he]
      exact hsafe
    · obtain ⟨i,q,hq⟩ := exists_cons_of_ne_nil hready
      rw [armReady_cons (s := ({ s with captureOn := true } : State).enabled) hsel (programmed_pix _) hq] at he
      rw [← Option.some.inj he]
      exact safe_armedReady h.captureOn hq hroom hsafe
  | «open» | sFmt | reqbufs | qbuf | dqbuf | streamoff | close | frame | tasklet => cases hm

end Events

lemma confined_step {s : State} (h : Confined s) {e : Event} (hok : Careful s e) :
  ∃ s', step s e = some s' ∧ Confined s' := by
  cases e with
  | «open» minor r => exact ⟨_,rfl,confined_open h minor r hok⟩
  | sFmt f => exact ⟨_,rfl,confined_sFmt h f hok⟩
  | reqbufs count alloc => exact ⟨_,rfl,confined_reqbufs h count alloc⟩
  | qbuf i => exact confined_qbuf h hok.1 hok.2
  | dqbuf => exact confined_dqbuf h hok
  | streamon a =>
    exact confined_streamon h.captureOn rfl a (fun hr hs => (hok hr hs).1)
      fun hr hs hresize hinput => ⟨((hok hr hs).2 hresize hinput).1,((hok hr hs).2 hresize hinput).2.1⟩
  | streamoff => exact ⟨_,rfl,confined_streamoff h⟩
  | close own => exact ⟨_,rfl,confined_close h own⟩
  | frame => exact confined_frame h
  | tasklet => exact ⟨_,rfl,confined_tasklet h⟩

/-- **The DMA stays in queued frames**. -/
theorem confined_run {s : State} (hidle : Idle s) {l : List Event} (hok : Run.AllSteps step Careful s l) :
  Run.AllSteps step SafeDuring s l := by
  refine hok.entails (J := Confined) (fun e s s' h hok he => ?_) (fun e s h hok => ?_) hidle.confined
  · obtain ⟨s1,e1,h1⟩ := confined_step h hok
    obtain rfl := Option.some.inj (e1.symm.trans he)
    exact h1
  · obtain ⟨s',he,h'⟩ := confined_step h hok
    exact ⟨⟨s',he,h'.safe⟩,moments_safe h hok⟩

def sameBuffers (i : ℕ) : Option ℕ := some (0xa0100000 + 0x100000 * i)

def secondSession : State := { initCameraStruct with cfg := ⟨.yuv420, 288, 352, 0xa0100000, 0xa0200000⟩ }

theorem confined_secondSession : Idle secondSession ∧
  Run.AllSteps step SafeDuring secondSession
    [.open false .opened, .sFmt ⟨.yuv420, 640, 480, 0⟩, .reqbufs 3 sameBuffers, .qbuf 0, .qbuf 1, .qbuf 2,
      .streamon ⟨true, true⟩, .frame, .dqbuf, .sFmt ⟨.yuyv, 800, 600, 0⟩, .qbuf 0, .frame, .streamoff, .close true] :=
  have hidle : Idle secondSession := ⟨⟨rfl, rfl⟩, rfl, ⟨rfl, rfl, rfl, rfl⟩, rfl, fun _ => ⟨rfl, rfl⟩⟩
  ⟨hidle, confined_run hidle (by decide)⟩

theorem dma_escapes :
  (∃ s, [Event.open false .opened, .sFmt ⟨.yuv420, 320, 240, 0⟩, .reqbufs 2 sameBuffers, .sFmt ⟨.yuv420, 640, 480, 0⟩,
      .qbuf 0, .qbuf 1, .streamon ⟨true, true⟩].foldlM step initCameraStruct = some s ∧ ¬ Safe s) ∧
    ∃ s, [Event.open false .opened, .sFmt ⟨.yuv420, 640, 480, 0⟩, .reqbufs 2 sameBuffers, .qbuf 0, .qbuf 1].foldlM step
      initCameraStruct = some s ∧ ∃ m ∈ moments s (.streamon ⟨true, true⟩), ¬ Safe m := by
  refine ⟨⟨_,rfl,?_⟩,_,rfl,?_⟩
  · decide
  · decide

end Mx27.Capture
