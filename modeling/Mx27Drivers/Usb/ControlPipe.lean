/-
# Is a control request answered?

`setup_received_irq` with what the host sees of it.
-/
import Mx27Drivers.Usb.Descriptors

namespace Mx27.Usb

open List Function

structure Seen where
  state : State
  stalled : Bool
  takenOver : Bool
  eps : List ℕ

def seePrimeStatus (dirIn : Bool) (x : Seen) : Seen :=
  { x with state := ep0PrimeStatus dirIn x.state, eps := 0 :: x.eps }

def seeGetStatus (x : Seen) : Seen := { x with state := ch9GetStatus x.state, eps := 0 :: x.eps }

def seeAskDriver (g : Gadget) (st : Option Ep0State) (x : Seen) : Seen :=
  { x with state := askDriver g st x.state, takenOver := decide (0 ≤ g.ret) }

def seeUnhandled (u : Setup) (g : Gadget) (x : Seen) : Seen :=
  { x with state := unhandled u g x.state, stalled := decide (g.ret ≠ 0), takenOver := decide (0 ≤ g.ret) }

def seeFeature (u : Setup) (x : Seen) : Seen :=
  if u.bRequestType = USB_RECIP_ENDPOINT then
    if u.wValue ≠ 0 ∨ u.wLength ≠ 0 ∨ USB_MAX_PIPES < u.pipe then x
    else
      let r := epSetHalt u.pipe (u.bRequest == USB_REQ_SET_FEATURE) x.state
      let x := { x with state := r.1, eps := u.pipe :: x.eps }
      if r.2 = 0 then seePrimeStatus true x else x
  else if u.bRequestType = 0 ∧ x.state.ctl.isOtg = true then seePrimeStatus true x
  else x

def setupReceived (u : Setup) (g : Gadget) (s : State) : Seen :=
  let x : Seen :=
    { state := { s with
        books := nuke 0 (-ECONNRESET) s.books
        ctl := { s.ctl with ep0DirIn := u.bRequestType &&& USB_DIR_IN != 0 } }
      stalled := false
      takenOver := false
      eps := [0] }
  if u.bRequestType &&& USB_TYPE_MASK = USB_TYPE_CLASS then
    if u.bRequest = USB_BULK_RESET_REQUEST then seeAskDriver g (some .waitForSetup) x
    else seeUnhandled u g x
  else if u.bRequestType &&& USB_TYPE_MASK = 0 then
    if u.bRequest = USB_REQ_GET_STATUS then
      if u.bRequestType &&& USB_DIR_IN = 0 then x else seeGetStatus x
    else if u.bRequest = USB_REQ_SET_ADDRESS then
      if u.bRequestType ≠ 0 then x else seePrimeStatus true x
    else if u.bRequest = USB_REQ_SET_CONFIGURATION then
      if u.bRequestType ≠ 0 then x else seeAskDriver g (some .waitForOutStatus) x
    else if u.bRequest = USB_REQ_SET_INTERFACE then
      if u.bRequestType ≠ USB_RECIP_INTERFACE then x
      else
        let x := seeAskDriver g none x
        if x.state.oops then x else if g.ret < 0 then seeFeature u x else x
    else if u.bRequest = USB_REQ_CLEAR_FEATURE ∨ u.bRequest = USB_REQ_SET_FEATURE then seeFeature u x
    else seeUnhandled u g x
  else seeUnhandled u g x

/-! ### Answers -/

def Answered (x : Seen) : Prop :=
  (∀ i ∈ x.eps, i < USB_MAX_PIPES) ∧ (x.stalled = true ∨ x.takenOver = true ∨ x.state.books.queue 0 ≠ [])

def FeatureHandled (u : Setup) (b : Books) (c : Control) : Prop :=
  (u.bRequestType = 0 ∧ c.isOtg = true) ∨
  (u.bRequestType = USB_RECIP_ENDPOINT ∧ u.wValue = 0 ∧ u.wLength = 0 ∧ u.pipe < USB_MAX_PIPES ∧
    ∃ desc, c.desc u.pipe = some desc ∧ desc.isoc = false ∧
      ¬(u.bRequest = USB_REQ_SET_FEATURE ∧ u.pipe / 2 ≠ 0 ∧ u.pipe % 2 = 1 ∧ b.queue u.pipe ≠ []))

def Handled (u : Setup) (ret : ℤ) (b : Books) (c : Control) : Prop :=
  if u.bRequestType &&& USB_TYPE_MASK = USB_TYPE_CLASS then u.bRequest = USB_BULK_RESET_REQUEST → 0 ≤ ret
  else if u.bRequestType &&& USB_TYPE_MASK = 0 then
    if u.bRequest = USB_REQ_GET_STATUS then u.bRequestType &&& USB_DIR_IN ≠ 0
    else if u.bRequest = USB_REQ_SET_ADDRESS then u.bRequestType = 0
    else if u.bRequest = USB_REQ_SET_CONFIGURATION then u.bRequestType = 0 ∧ 0 ≤ ret
    else if u.bRequest = USB_REQ_SET_INTERFACE then u.bRequestType = USB_RECIP_INTERFACE ∧ 0 ≤ ret
    else if u.bRequest = USB_REQ_CLEAR_FEATURE ∨ u.bRequest = USB_REQ_SET_FEATURE then FeatureHandled u b c
    else True
  else True

structure Untouched (x : Seen) : Prop where
  stalled : x.stalled = false
  takenOver : x.takenOver = false
  queue : x.state.books.queue 0 = []
  eps : x.eps = [0]

section Answers

variable {u : Setup} {x : Seen} {s : State}

lemma not_answered (hs : x.stalled = false) (ht : x.takenOver = false) (hq : x.state.books.queue 0 = []) :
  ¬Answered x := by
  rintro ⟨-,h | h | h⟩
  · cases hs.symm.trans h
  · cases ht.symm.trans h
  · exact h hq

lemma Untouched.not_answered (h : Untouched x) : ¬Answered x := Usb.not_answered h.stalled h.takenOver h.queue

lemma nuke_queue {p : ℕ} (status : ℤ) : ∀ {l : List ReqId} {b : Books}, b.queue p = l →
  (l.foldl (fun b r => done p r status b) b).queue p = [] ∧
  ∀ p', p' ≠ p → (l.foldl (fun b r => done p r status b) b).queue p' = b.queue p'
  | [], _, h => ⟨h, fun _ _ => rfl⟩
  | r :: l, b, h => by
    have hdone := done_queue p r status b
    have hself : (done p r status b).queue p = l := by rw [hdone,update_self,h,erase_cons_head]
    obtain ⟨h1,h2⟩ := nuke_queue status hself
    refine ⟨h1,fun p' hp' => (h2 p' hp').trans ?_⟩
    rw [hdone,update_of_ne hp']

lemma submitEp0_queue (r : ReqId) {length : ℕ} (h : length < EP_MAX_LENGTH_TRANSFER) :
  (submitEp0 r length s).books.queue 0 ≠ [] := by
  have hq : (s.books.setReq r { s.books.reqs r with
      length := length, zero := false, status := -EINPROGRESS, actual := 0 }).reqs r =
    { s.books.reqs r with length := length, zero := false, status := -EINPROGRESS, actual := 0 } :=
    update_self ..
  have e := reqToDtd_fits (b := s.books.setReq r { s.books.reqs r with
    length := length, zero := false, status := -EINPROGRESS, actual := 0 }) (r := r) (by rw [hq]; exact .inl h)
    (by rw [hq])
  simp [submitEp0,submit,e,link]

lemma answered_prime (d : Bool) : Answered (seePrimeStatus d x) ↔ ∀ i ∈ x.eps, i < USB_MAX_PIPES := by
  have hq : (ep0PrimeStatus d x.state).books.queue 0 ≠ [] := submitEp0_queue _ (by decide)
  refine ⟨fun h i hi => h.1 i (mem_cons_of_mem 0 hi),fun h => ⟨fun i hi => ?_,.inr (.inr hq)⟩⟩
  rcases mem_cons.mp hi with rfl | hi
  · decide
  · exact h i hi

lemma answered_getStatus (h : x.eps = [0]) : Answered (seeGetStatus x) := by
  have hq : (ch9GetStatus x.state).books.queue 0 ≠ [] := submitEp0_queue _ (by decide)
  refine ⟨fun i hi => ?_,.inr (.inr hq)⟩
  simp only [seeGetStatus,h,mem_cons,not_mem_nil,or_false,or_self] at hi
  rw [hi]
  decide

lemma answered_unhandled (ret : ℤ) (h : x.eps = [0]) : Answered (seeUnhandled u ⟨[], ret⟩ x) := by
  refine ⟨fun i hi => ?_,?_⟩
  · simp only [seeUnhandled,h,mem_singleton] at hi
    rw [hi]
    decide
  · by_cases h0 : ret = 0
    · exact .inr (.inl (by simp [seeUnhandled,h0]))
    · exact .inl (by simp [seeUnhandled,h0])

lemma answered_askDriver {ret : ℤ} {st : Option Ep0State} (hx : Untouched x) :
  Answered (seeAskDriver ⟨[], ret⟩ st x) ↔ 0 ≤ ret := by
  have hbooks : (askDriver ⟨[],ret⟩ st x.state).books = x.state.books := by
    cases ho : x.state.oops <;> by_cases hr : ret < 0 <;> simp [askDriver,driverSetup,ho,hr]
  simp [Answered,seeAskDriver,hx.eps,hx.stalled,hbooks,hx.queue,USB_MAX_PIPES]

lemma epSetHalt_ok (p : ℕ) (value : Bool) (hdir : s.ctl.ep0DirIn = false) : (epSetHalt p value s).2 = 0 ↔
  ∃ desc, s.ctl.desc p = some desc ∧ desc.isoc = false ∧
    ¬(value = true ∧ p / 2 ≠ 0 ∧ p % 2 = 1 ∧ s.books.queue p ≠ []) := by
  unfold epSetHalt
  cases hd : s.ctl.desc p with
  | none => simp [EINVAL]
  | some desc =>
    cases hi : desc.isoc with
    | true => simp [hi,EOPNOTSUPP]
    | false =>
      by_cases h0 : p / 2 = 0
      · simp [h0,hi,hdir]
      · by_cases hbusy : value = true ∧ p % 2 = 1 ∧ s.books.queue p ≠ []
        · obtain ⟨hv,hin,hq⟩ := hbusy
          simp [h0,hi,hv,hin,hq,EAGAIN]
        · have hcond : (value && (p % 2 == 1) && !(s.books.queue p).isEmpty) = false := by
            rw [← Bool.not_eq_true]
            simpa [and_assoc] using hbusy
          simp only [h0,if_false,hcond,Bool.false_eq_true,hi]
          simp only [true_iff]
          exact ⟨desc,rfl,hi,fun h => hbusy ⟨h.1,h.2.2⟩⟩

lemma feature_answered_iff (hx : Untouched x)
  (hdir : u.bRequestType = USB_RECIP_ENDPOINT → x.state.ctl.ep0DirIn = false) :
  Answered (seeFeature u x) ↔ FeatureHandled u x.state.books x.state.ctl := by
  unfold seeFeature FeatureHandled
  by_cases hep : u.bRequestType = USB_RECIP_ENDPOINT
  · have h0 : ¬(u.bRequestType = 0 ∧ x.state.ctl.isOtg = true) := fun h => by
      rw [hep] at h
      cases h.1
    rw [if_pos hep,or_iff_right h0,and_iff_right hep]
    by_cases hbad : u.wValue ≠ 0 ∨ u.wLength ≠ 0 ∨ USB_MAX_PIPES < u.pipe
    · rw [if_pos hbad]
      refine iff_of_false hx.not_answered fun h => ?_
      obtain ⟨h1,h2,h3,-⟩ := h
      rcases hbad with h | h | h
      · exact h h1
      · exact h h2
      · omega
    · rw [if_neg hbad]
      obtain ⟨h1,h2,-⟩ : u.wValue = 0 ∧ u.wLength = 0 ∧ u.pipe ≤ USB_MAX_PIPES := by
        simpa only [not_or,not_not,not_lt] using hbad
      rw [and_iff_right h1,and_iff_right h2]
      have hok := epSetHalt_ok u.pipe (u.bRequest == USB_REQ_SET_FEATURE) (hdir hep)
      rw [beq_iff_eq] at hok
      rw [← hok]
      dsimp only
      by_cases hhalt : (epSetHalt u.pipe (u.bRequest == USB_REQ_SET_FEATURE) x.state).2 = 0
      · rw [if_pos hhalt,answered_prime,and_iff_left hhalt]
        simp [hx.eps,USB_MAX_PIPES]
      · rw [if_neg hhalt]
        refine iff_of_false (Usb.not_answered hx.stalled hx.takenOver ?_) fun h => hhalt h.2
        rw [(epSetHalt_books ..).1]
        exact hx.queue
  · rw [if_neg hep,or_iff_left fun h => hep h.1]
    by_cases hotg : u.bRequestType = 0 ∧ x.state.ctl.isOtg = true
    · rw [if_pos hotg,answered_prime]
      simp [hx.eps,hotg,USB_MAX_PIPES]
    · rw [if_neg hotg]
      exact iff_of_false hx.not_answered hotg

end Answers

lemma interface_answered_iff {u : Setup} {x : Seen} {ret : ℤ} (hx : Untouched x)
  (h1 : u.bRequestType = USB_RECIP_INTERFACE) (hruns : x.state.oops = false) :
  Answered (if (seeAskDriver ⟨[], ret⟩ none x).state.oops = true then seeAskDriver ⟨[], ret⟩ none x
    else if ret < 0 then seeFeature u (seeAskDriver ⟨[], ret⟩ none x) else seeAskDriver ⟨[], ret⟩ none x) ↔
  0 ≤ ret := by
  have hoops : (seeAskDriver ⟨[],ret⟩ none x).state.oops = false := by
    by_cases hr : ret < 0 <;> simp [seeAskDriver,askDriver,driverSetup,hruns,hr]
  have hfeature : seeFeature u (seeAskDriver ⟨[],ret⟩ none x) = seeAskDriver ⟨[],ret⟩ none x := by
    simp [seeFeature,h1,USB_RECIP_INTERFACE,USB_RECIP_ENDPOINT]
  rw [hoops,if_neg Bool.false_ne_true,hfeature,ite_self]
  exact answered_askDriver hx

def received (u : Setup) (b : Books) (c : Control) : Seen where
  state := ⟨nuke 0 (-ECONNRESET) b, { c with ep0DirIn := u.bRequestType &&& USB_DIR_IN != 0 }, false⟩
  stalled := false
  takenOver := false
  eps := [0]

lemma received_untouched (u : Setup) (b : Books) (c : Control) : Untouched (received u b c) :=
  ⟨rfl, rfl, (nuke_queue (-ECONNRESET) rfl).1, rfl⟩

lemma featureHandled_received {u : Setup} {b : Books} {c : Control} :
  FeatureHandled u (received u b c).state.books (received u b c).state.ctl ↔ FeatureHandled u b c := by
  have hqueue : ∀ p, p / 2 ≠ 0 → (nuke 0 (-ECONNRESET) b).queue p = b.queue p := fun p hp =>
    (nuke_queue (-ECONNRESET) rfl).2 p fun e => hp (by rw [e])
  unfold FeatureHandled
  refine or_congr Iff.rfl (and_congr Iff.rfl (and_congr Iff.rfl (and_congr Iff.rfl (and_congr Iff.rfl ?_))))
  refine exists_congr fun desc => and_congr Iff.rfl (and_congr Iff.rfl (not_congr (and_congr Iff.rfl ?_)))
  refine and_congr_right fun hp => ?_
  show _ ∧ (nuke 0 (-ECONNRESET) b).queue u.pipe ≠ [] ↔ _
  rw [hqueue _ hp]

/-- **Which control requests are answered.** -/
theorem answered_iff (u : Setup) (ret : ℤ) (b : Books) (c : Control) :
  Answered (setupReceived u ⟨[], ret⟩ ⟨b, c, false⟩) ↔ Handled u ret b c := by
  have hx := received_untouched u b c
  have hprime : Answered (seePrimeStatus true (received u b c)) := (answered_prime true).mpr fun i hi => by
    rw [mem_singleton.mp hi]
    decide
  have hunhandled : Answered (seeUnhandled u ⟨[],ret⟩ (received u b c)) := answered_unhandled ret hx.eps
  unfold setupReceived Handled
  dsimp only
  by_cases hclass : u.bRequestType &&& USB_TYPE_MASK = USB_TYPE_CLASS
  · rw [if_pos hclass,if_pos hclass]
    by_cases hbulk : u.bRequest = USB_BULK_RESET_REQUEST
    · rw [if_pos hbulk]
      exact (answered_askDriver hx).trans ⟨fun h _ => h,fun h => h hbulk⟩
    · rw [if_neg hbulk]
      exact iff_of_true hunhandled fun h => absurd h hbulk
  rw [if_neg hclass,if_neg hclass]
  by_cases hstd : u.bRequestType &&& USB_TYPE_MASK = 0
  case neg =>
    rw [if_neg hstd,if_neg hstd]
    exact iff_of_true hunhandled trivial
  rw [if_pos hstd,if_pos hstd]
  by_cases hget : u.bRequest = USB_REQ_GET_STATUS
  · rw [if_pos hget,if_pos hget]
    by_cases hin : u.bRequestType &&& USB_DIR_IN = 0
    · rw [if_pos hin]
      exact iff_of_false hx.not_answered fun h => h hin
    · rw [if_neg hin]
      exact iff_of_true (answered_getStatus hx.eps) hin
  rw [if_neg hget,if_neg hget]
  by_cases haddr : u.bRequest = USB_REQ_SET_ADDRESS
  · rw [if_pos haddr,if_pos haddr]
    by_cases h0 : u.bRequestType = 0
    · rw [if_neg (not_not.mpr h0)]
      exact iff_of_true hprime h0
    · rw [if_pos h0]
      exact iff_of_false hx.not_answered h0
  rw [if_neg haddr,if_neg haddr]
  by_cases hconf : u.bRequest = USB_REQ_SET_CONFIGURATION
  · rw [if_pos hconf,if_pos hconf]
    by_cases h0 : u.bRequestType = 0
    · rw [if_neg (not_not.mpr h0),and_iff_right h0]
      exact answered_askDriver hx
    · rw [if_pos h0]
      exact iff_of_false hx.not_answered fun h => h0 h.1
  rw [if_neg hconf,if_neg hconf]
  by_cases hface : u.bRequest = USB_REQ_SET_INTERFACE
  · rw [if_pos hface,if_pos hface]
    by_cases h1 : u.bRequestType = USB_RECIP_INTERFACE
    · rw [if_neg (not_not.mpr h1),and_iff_right h1]
      exact interface_answered_iff hx h1 rfl
    · rw [if_pos h1]
      exact iff_of_false hx.not_answered fun h => h1 h.1
  rw [if_neg hface,if_neg hface]
  by_cases hfeat : u.bRequest = USB_REQ_CLEAR_FEATURE ∨ u.bRequest = USB_REQ_SET_FEATURE
  · rw [if_pos hfeat,if_pos hfeat]
    have hdir : u.bRequestType = USB_RECIP_ENDPOINT → (received u b c).state.ctl.ep0DirIn = false := fun h => by
      simp only [received,h]
      decide
    exact (feature_answered_iff hx hdir).trans featureHandled_received
  · rw [if_neg hfeat,if_neg hfeat]
    exact iff_of_true hunhandled trivial

/-- All 16 endpoints are enabled and no request is queued. -/
theorem refused_configuration :
  ¬Answered (setupReceived ⟨0, USB_REQ_SET_CONFIGURATION, 9, 0, 0⟩ ⟨[], -EINVAL⟩ (start bulk)) ∧
  16 ∈ (setupReceived ⟨USB_RECIP_ENDPOINT, USB_REQ_SET_FEATURE, 0, 8, 0⟩ ⟨[], 0⟩ (start bulk)).eps :=
  ⟨not_answered (by decide) (by decide) (by decide), by decide⟩

end Mx27.Usb
