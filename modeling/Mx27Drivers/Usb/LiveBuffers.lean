/-
# The controller comes to live buffers only

Every event keeps the lines of the queue heads if the requests it takes back are not in line.
-/
import Mx27Drivers.Usb.Lines

namespace Mx27.Usb

open List Option Function

namespace Bus

section Steps

variable {x y : Bus} {p : ℕ} {r : ReqId}

/-! ### Loops of the driver -/

lemma Retired.unreached {r' : ReqId} (hs : Retired p r x y) (hne : r' ≠ r) (h : x.Unreached r') : y.Unreached r' := by
  have hnext : y.next = x.next := by
    unfold Bus.next
    rw [hs.td]
  intro i
  rw [hnext,hs.head,hs.place hne]
  exact h i

lemma Wired.retire (h : Wired x) (hr : r ∈ x.drv.books.queue p) (hun : x.Unreached r) (status : ℤ) :
  Retired p r x (x.retire p r status) ∧ Wired (x.retire p r status) := by
  obtain ⟨d,-,hd⟩ := h.held p r hr
  have hs := retire_retired (Scanned.refl r x) hd p status
  exact ⟨hs,retired_wired h hr hun hs⟩

lemma nuke_books (p : ℕ) (status : ℤ) (x : Bus) : (x.nuke p status).drv.books = Usb.nuke p status x.drv.books := by
  have hloop : ∀ (rs : List ReqId) (x : Bus), (rs.foldl (fun x r => x.retire p r status) x).drv.books =
      rs.foldl (fun b r => done p r status b) x.drv.books := by
    intro rs
    induction rs with
    | nil => exact fun x => rfl
    | cons r rs ih => exact fun x => ih (x.retire p r status)
  exact hloop _ x

lemma nuke_head (p : ℕ) (status : ℤ) (x : Bus) : (x.nuke p status).head = x.head := by
  have hloop : ∀ (rs : List ReqId) (x : Bus), (rs.foldl (fun x r => x.retire p r status) x).head = x.head := by
    intro rs
    induction rs with
    | nil => exact fun x => rfl
    | cons r rs ih => exact fun x => ih (x.retire p r status)
  exact hloop _ x

lemma Wired.nuke (h : Wired x) (p : ℕ) (status : ℤ) (hun : ∀ r ∈ x.drv.books.queue p, x.Unreached r) :
  Wired (x.nuke p status) ∧ (x.nuke p status).drv.books.queue p = [] := by
  have hloop : ∀ (rs : List ReqId) {x : Bus}, Wired x → x.drv.books.queue p = rs → (∀ r ∈ rs, x.Unreached r) →
      Wired (rs.foldl (fun x r => x.retire p r status) x) ∧
        (rs.foldl (fun x r => x.retire p r status) x).drv.books.queue p = [] := by
    intro rs
    induction rs with
    | nil => exact fun h hq _ => ⟨h,hq⟩
    | cons r rs ih =>
      intro x h hq hun
      have hr : r ∈ x.drv.books.queue p := hq ▸ mem_cons_self
      obtain ⟨hs,hw⟩ := h.retire hr (hun r mem_cons_self) status
      have hnodup := h.nodup p
      rw [hq] at hnodup
      refine ih hw ?_ fun r' hr' => hs.unreached ?_ (hun r' (mem_cons_of_mem r hr'))
      · rw [hs.queue,update_self,hq,erase_cons_head]
      · rintro rfl
        exact (nodup_cons.mp hnodup).1 hr'
  exact hloop _ h rfl hun

variable {pipe dma slot : ℕ} {sts : ℕ → TdStatus} {after : State}

lemma verdict_idle {d : ℕ} (hd : (x.drv.books.reqs r).dtds = [d])
  (hsts : (x.td (x.slot d)).active = true → ∃ n, sts d = ⟨true, false, false, false, n⟩)
  (hv : x.drv.books.verdict pipe sts r ≠ .uncomplete) : (x.td (x.place r)).active = false := by
  have hplace : x.place r = x.slot d := by simp [Bus.place,hd]
  rw [hplace]
  by_contra hactive
  obtain ⟨n,e⟩ := hsts (by simpa using hactive)
  apply hv
  unfold Books.verdict
  rw [hd]
  simp [scanTds,e]

lemma scanLoop_books (pipe : ℕ) (sts : ℕ → TdStatus) : ∀ (rs : List ReqId) (x : Bus),
  (x.scanLoop pipe sts rs).drv.books = completeLoop pipe sts rs x.drv.books ∧
    (x.scanLoop pipe sts rs).drv.oops = x.drv.oops
  | [], _ => ⟨rfl, rfl⟩
  | r :: rs, x => by
    unfold scanLoop completeLoop
    dsimp only
    rw [(processEpReq_processed pipe sts r x.drv.books).1]
    cases x.drv.books.verdict pipe sts r with
    | uncomplete => exact ⟨rfl, rfl⟩
    | failed | complete => exact scanLoop_books pipe sts rs _

lemma Wired.scanLoop : ∀ (rs : List ReqId) {x : Bus}, Wired x →
  x.drv.books.queue pipe = rs →
  (∀ d, (x.td (x.slot d)).active = true → ∃ n, sts d = ⟨true, false, false, false, n⟩) →
  Wired (x.scanLoop pipe sts rs)
  | [], _, h, _, _ => h
  | r :: rs, x, h, hq, hsts => by
    have hr : r ∈ x.drv.books.queue pipe := hq ▸ mem_cons_self
    obtain ⟨d,-,hd⟩ := h.held pipe r hr
    have hscan := scanned_scanned pipe sts hd
    have hnext : ∀ status, x.drv.books.verdict pipe sts r ≠ .uncomplete →
        Wired (((x.scanned pipe sts r).retire pipe r status).scanLoop pipe sts rs) := by
      intro status hv
      have hs := retire_retired hscan hd pipe status
      refine Wired.scanLoop rs (retired_wired h hr (h.unreached hr (verdict_idle hd (hsts d) hv)) hs) ?_ fun d' => ?_
      · rw [hs.queue,update_self,hq,erase_cons_head]
      · rw [hs.td,hs.slot]
        exact hsts d'
    unfold Bus.scanLoop
    cases hv : x.drv.books.verdict pipe sts r with
    | uncomplete => exact hscan.wired h (scanned_out pipe sts (by simp [hv]))
    | failed status => exact hnext status (by simp [hv])
    | complete actual => exact hnext 0 (by simp [hv])

/-! ### ep0 -/

def Primed (b : Books) (after : State) : Prop :=
  ∃ q : Req, q.length = 0 ∧ q.zero = false ∧ q.actual = 0 ∧
    after.books = (submit 0 .status (b.setReq .status q)).1 ∧ after.oops = !(submit 0 .status (b.setReq .status q)).2

lemma primed_status (dirIn : Bool) (s : State) : Primed s.books (ep0PrimeStatus dirIn s) :=
  ⟨_, rfl, rfl, rfl, rfl, rfl⟩

lemma Primed.submitted {b : Books} (h : Primed b after) (hno : .status ∉ b.queue 0) :
  after.oops = false ∧ ∃ q, Submitted 0 .status (b.setReq .status q) after.books := by
  obtain ⟨q,hlength,hzero,hactual,hbooks,hoops⟩ := h
  have hq : (b.setReq .status q).reqs .status = q := by simp [Books.setReq]
  obtain ⟨hok,hs⟩ := submit_spec (p := 0) (b := b.setReq .status q) (r := .status) hno
    (by rw [hq,hlength,hzero]; exact .inl (by decide)) (by rw [hq,hactual])
  exact ⟨by rw [hoops,hok]; rfl,q,hbooks ▸ hs⟩

lemma qh_ep0 (c : Control) : epByPipe (qh c 0) = 0 := by
  unfold qh
  cases c.ep0DirIn <;> rfl

lemma qh_of_ne (c : Control) {p : ℕ} (hp : p ≠ 1) : epByPipe (qh c p) = p := by
  by_cases h0 : p = 0
  · rw [h0,qh_ep0]
  · rw [qh,if_neg h0,epByPipe,if_neg hp]

lemma OneWay.others {c : Control} (hp : p ≠ 1) (h : p = 0 → x.OneWay (qh c 0)) :
  ∀ j, j ≠ qh c p → epByPipe j = p → x.head j = none := by
  intro j hj he
  rcases epByPipe_eq (he.trans (qh_of_ne c hp).symm) with e | ⟨rfl,e⟩ | ⟨rfl,e⟩
  · exact absurd e hj
  · obtain rfl : p = 0 := he.symm
    exact h rfl 0 (by decide) hj
  · obtain rfl : p = 0 := he.symm
    exact h rfl 1 (by decide) hj

lemma Wired.prime (h : Wired x) (hp : Primed x.drv.books after)
  (hno : .status ∉ x.drv.books.queue 0) (hone : x.OneWay (qh after.ctl 0))
  (e : x.attach 0 (qh after.ctl 0) .status dma 0 slot after = some y) : Wired y := by
  obtain ⟨hoops,q,hs⟩ := hp.submitted hno
  have hfree : ∀ p', .status ∉ x.drv.books.queue p' := by
    intro p' hp'
    obtain rfl := h.status p' hp'
    exact hno hp'
  exact (attach_attached h hs hoops hfree e).wired h (fun _ => rfl) (qh_ep0 _)
    (OneWay.others (by decide) fun _ => hone) (.inl rfl)

lemma setup_cases (u : Setup) (ret : ℤ) (s : State) (hu : ¬GetsStatus u) :
  ((setupReceivedIrq u ⟨[], ret⟩ s).books = Usb.nuke 0 (-ECONNRESET) s.books ∧
    (setupReceivedIrq u ⟨[], ret⟩ s).oops = s.oops) ∨
  Primed (Usb.nuke 0 (-ECONNRESET) s.books) (setupReceivedIrq u ⟨[], ret⟩ s) := by
  have hfeature : ∀ s : State, ((feature u s).books = s.books ∧ (feature u s).oops = s.oops) ∨
      Primed s.books (feature u s) := by
    intro s
    obtain ⟨hbooks,hoops⟩ := epSetHalt_books u.pipe (u.bRequest == USB_REQ_SET_FEATURE) s
    unfold feature
    dsimp only
    split_ifs
    · exact .inl ⟨rfl,rfl⟩
    · exact .inr (hbooks ▸ primed_status true _)
    · exact .inl ⟨hbooks,hoops⟩
    · exact .inr (primed_status true s)
    · exact .inl ⟨rfl,rfl⟩
  have hunhandled : ∀ s : State, (unhandled u ⟨[],ret⟩ s).books = s.books ∧ (unhandled u ⟨[],ret⟩ s).oops = s.oops := by
    intro s
    unfold unhandled driverSetup
    dsimp only
    split_ifs <;> exact ⟨rfl,rfl⟩
  have hask : ∀ st s, (askDriver ⟨[],ret⟩ st s).books = s.books ∧ (askDriver ⟨[],ret⟩ st s).oops = s.oops := by
    intro st s
    unfold askDriver driverSetup
    dsimp only
    split_ifs <;> exact ⟨rfl,rfl⟩
  unfold setupReceivedIrq
  dsimp only
  generalize hs : State.mk (Usb.nuke 0 (-ECONNRESET) s.books) _ s.oops = s1
  obtain ⟨hb,ho⟩ : Usb.nuke 0 (-ECONNRESET) s.books = s1.books ∧ s.oops = s1.oops := by
    rw [← hs]
    exact ⟨rfl,rfl⟩
  rw [hb,ho]
  split_ifs with h1 h2 h3 h4 h5
  · exact .inl (hask _ _)
  · exact .inl (hunhandled _)
  · exact .inl ⟨rfl,rfl⟩
  · exact absurd ⟨h3,h4,h5⟩ hu
  · exact .inl ⟨rfl,rfl⟩
  · exact .inr (primed_status true _)
  · exact .inl ⟨rfl,rfl⟩
  · exact .inl (hask _ _)
  · exact .inl ⟨rfl,rfl⟩
  · exact .inl (hask _ _)
  · rcases hfeature (askDriver ⟨[],ret⟩ none _) with ⟨hb,ho⟩ | hp
    · exact .inl ⟨hb.trans (hask _ _).1,ho.trans (hask _ _).2⟩
    · exact .inr ((hask _ _).1 ▸ hp)
  · exact .inl (hask _ _)
  · exact hfeature _
  · exact .inl (hunhandled _)
  · exact .inl (hunhandled _)

/-! ### Steps -/

lemma Wired.queue {n length : ℕ} {zero own : Bool} (h : Wired x) (hp : p ≠ 1) (hfits : Fits length zero)
  (hone : p = 0 → x.OneWay (qh x.drv.ctl 0)) (e : x.queue p n length zero dma own slot = some y) : Wired y := by
  unfold Bus.queue at e
  dsimp only at e
  rcases epQueue_cases p n length zero x.drv with ⟨hsame,hret⟩ | ⟨hl,hret,q,hlength,hzero,hactual,hbooks,hoops⟩
  · rw [if_pos hret] at e
    cases e
    exact h.of_drv (congrArg State.books hsame) ((congrArg State.oops hsame).trans h.runs)
  · rw [if_neg (not_not.mpr hret)] at e
    have hfree : ∀ p', .gadget n ∉ x.drv.books.queue p' := by
      intro p' hp'
      rw [h.linked p' _ hp'] at hl
      cases hl
    have hq : (x.drv.books.setReq (.gadget n) q).reqs (.gadget n) = q := by simp [Books.setReq]
    obtain ⟨hok,hs⟩ := submit_spec (p := p) (b := x.drv.books.setReq (.gadget n) q) (hfree p)
      (by rwa [hq,hlength,hzero]) (by rwa [hq])
    rw [← hbooks] at hs
    have hx : Wired { x with
        window := Function.update x.window (.gadget n) (some (dma, length))
        mapped := Function.update x.mapped (.gadget n) (!own) } :=
      h.of_window fun p' r' hr' => update_of_ne (fun e : r' = .gadget n => hfree p' (e ▸ hr')) _ _
    refine (attach_attached hx hs ((hoops hok).trans h.runs) hfree e).wired hx (fun e => by cases e)
      (qh_of_ne _ hp) (OneWay.others hp hone) (.inr ?_)
    exact update_self ..

lemma Wired.disable (h : Wired x) (hun : ∀ r ∈ x.drv.books.queue p, x.Unreached r) : Wired (x.disable p) := by
  unfold Bus.disable
  split_ifs with hd
  · exact h
  · refine (h.nuke p _ hun).1.of_drv ?_ ?_
    · rw [nuke_books,epDisable,if_neg hd]
    · rw [epDisable,if_neg hd]
      exact h.runs

lemma Wired.setup {u : Setup} {ret : ℤ} (h : Wired x) (hu : ¬GetsStatus u)
  (hun : ∀ r ∈ x.drv.books.queue 0, x.Unreached r) (e : x.setup u ret slot = some y) : Wired y := by
  obtain ⟨hw,hempty⟩ := h.nuke 0 (-ECONNRESET) hun
  have hbooks := nuke_books 0 (-ECONNRESET) x
  have hno : .status ∉ (x.nuke 0 (-ECONNRESET)).drv.books.queue 0 := by simp [hempty]
  unfold Bus.setup at e
  dsimp only at e
  rcases setup_cases u ret x.drv hu with ⟨hb,ho⟩ | hp
  · rw [hb,← hbooks,hempty] at e
    cases e
    exact hw.of_drv (hb.trans hbooks.symm) (ho.trans h.runs)
  · rw [← hbooks] at hp
    obtain ⟨-,q,hs⟩ := hp.submitted hno
    have hqueue : (setupReceivedIrq u ⟨[],ret⟩ x.drv).books.queue 0 = [.status] := by
      rw [hs.queue]
      simp [Books.setReq,hempty]
    rw [hqueue] at e
    refine hw.prime hp hno (fun j hj _ => ?_) e
    -- nothing is in line at ep0
    obtain ⟨rs,hsuffix,hlinked,-⟩ := hw.line j
    have hj0 : epByPipe j = 0 := by
      unfold epByPipe
      split <;> omega
    rw [hj0,hempty] at hsuffix
    obtain rfl := suffix_nil.mp hsuffix
    exact hlinked

lemma Wired.flush (h : Wired x) : Wired { x with head := fun _ => none } :=
  ⟨h.runs, h.held, h.alone, h.nodup, h.linked, h.status, h.out, h.apart, .inl rfl,
    fun _ => ⟨[], nil_suffix, rfl, fun _ hr => by cases hr⟩⟩

lemma Wired.reset (h : Wired x) : Wired x.reset := by
  have hloop : ∀ (pipes : List ℕ) {x : Bus}, Wired x → (∀ i, x.head i = none) →
      Wired (pipes.foldl (fun x pipe => x.nuke (epByPipe pipe) (-ECONNRESET)) x) ∧
      (pipes.foldl (fun x pipe => x.nuke (epByPipe pipe) (-ECONNRESET)) x).drv.books =
        pipes.foldl (fun b pipe => Usb.nuke (epByPipe pipe) (-ECONNRESET) b) x.drv.books := by
    intro pipes
    induction pipes with
    | nil => exact fun h _ => ⟨h,rfl⟩
    | cons pipe pipes ih =>
      intro x h hnone
      have hun : ∀ r, x.Unreached r := by
        intro r i
        rw [hnone]
        exact PtrList.not_reach_none
      obtain ⟨hw,hb⟩ := ih (h.nuke (epByPipe pipe) (-ECONNRESET) fun r _ => hun r).1
        (fun i => by rw [nuke_head,hnone])
      exact ⟨hw,by rw [foldl_cons,foldl_cons,hb,nuke_books]⟩
  unfold Bus.reset resetIrq resetQueues
  generalize List.range USB_MAX_PIPES = pipes
  obtain ⟨hw,hb⟩ := hloop pipes h.flush fun _ => rfl
  exact hw.of_drv hb.symm h.runs

lemma sts_active (x : Bus) (res : ℕ → TdStatus) (d : ℕ) (h : (x.td (x.slot d)).active = true) :
  ∃ n, x.sts res d = ⟨true, false, false, false, n⟩ := by
  unfold Bus.sts
  rw [if_pos h]
  exact ⟨_,rfl⟩

lemma Retired.statusPhase {rs : List ReqId}
  (hs : Retired 0 r x ((x.scanned pipe sts r).retire 0 r 0))
  (hw : Wired ((x.scanned pipe sts r).retire 0 r 0)) (hq : x.drv.books.queue 0 = r :: rs) (hno : .status ∉ rs)
  (hone : x.OneWay (qh after.ctl 0)) (hp : Primed ((x.scanned pipe sts r).retire 0 r 0).drv.books after)
  (e : attach 0 (qh after.ctl 0) .status dma 0 slot after ((x.scanned pipe sts r).retire 0 r 0) = some y) : Wired y := by
  have hqueue : ((x.scanned pipe sts r).retire 0 r 0).drv.books.queue 0 = rs := by
    rw [hs.queue,update_self,hq,erase_cons_head]
  exact hw.prime hp (by rwa [hqueue]) (fun j hj hne => hs.head ▸ hone j hj hne) e

lemma Wired.complete {res : ℕ → TdStatus} (h : Wired x) (hok : pipe / 2 = 0 → x.Ep0Ok pipe (x.sts res))
  (e : x.complete pipe res slot = some y) : Wired y := by
  have hsts := sts_active x res
  unfold Bus.complete at e
  dsimp only at e
  split_ifs at e with hep
  · have hp : epByPipe pipe = 0 := by
      unfold epByPipe
      split <;> omega
    replace hok := hok hep
    unfold Ep0Ok at hok
    unfold dtdComplete at e
    rw [if_pos hep] at e
    rw [hp] at e hok
    cases hq : x.drv.books.queue 0 with
    | nil =>
      rw [hq] at e
      cases e
      exact h
    | cons r rs =>
      rw [hq] at e hok
      have hr : r ∈ x.drv.books.queue 0 := hq ▸ mem_cons_self
      obtain ⟨d,-,hd⟩ := h.held 0 r hr
      have hscan := scanned_scanned pipe (x.sts res) hd
      dsimp only at e hok
      rw [(processEpReq_processed pipe (x.sts res) r x.drv.books).1] at e
      by_cases hv : x.drv.books.verdict pipe (x.sts res) r = .uncomplete
      · rw [if_pos hv,if_pos hv] at e
        cases e
        exact (hscan.wired h (scanned_out pipe _ (by simp [hv]))).of_drv rfl h.runs
      · rw [if_neg hv,if_neg hv] at e
        replace hok := hok hv
        have hs := retire_retired hscan hd 0 0
        have hw := retired_wired h hr (h.unreached hr (verdict_idle hd (hsts d) hv)) hs
        unfold ep0ReqComplete at e
        dsimp only at e
        cases hst : x.drv.ctl.ep0State <;> rw [hst] at e hok <;> dsimp only at e hok
        case dataStateXmit =>
          refine hs.statusPhase hw hq hok.1 ?_ (primed_status false _) e
          exact hok.2
        case dataStateRecv =>
          refine hs.statusPhase hw hq hok.1 ?_ (primed_status true _) e
          exact hok.2
        case waitForOutStatus =>
          cases e
          exact hw.of_drv rfl h.runs
        all_goals
          cases e
          exact (hscan.wired h (scanned_out pipe _ hok)).of_drv rfl h.runs
  · cases e
    obtain ⟨hb,-⟩ := scanLoop_books pipe (x.sts res) (x.drv.books.queue pipe) x
    refine (h.scanLoop _ rfl hsts).of_drv ?_ ?_
    · rw [hb,dtdComplete,if_neg hep]
    · rw [dtdComplete,if_neg hep]
      exact h.runs

lemma wired_step {a : Event} (h : Wired x) (hok : x.BusOk a) (e : x.hwStep a = some y) : Wired y := by
  unfold hwStep at e
  obtain ⟨-,e⟩ := ite_none_left_eq_some.mp e
  cases a with
  | queue p n length zero dma own slot =>
    obtain ⟨hp,e⟩ := ite_none_left_eq_some.mp e
    exact h.queue hp hok.1 hok.2 e
  | dequeue p n =>
    obtain ⟨-,e⟩ := ite_none_left_eq_some.mp e
    obtain rfl := Option.some.inj e
    unfold Bus.dequeue
    split_ifs with hr
    · exact (h.retire hr (hok hr) _).2
    · exact h
  | disable p =>
    obtain ⟨-,e⟩ := ite_none_left_eq_some.mp e
    obtain rfl := Option.some.inj e
    exact h.disable hok
  | setup u ret slot => exact h.setup hok.1 hok.2 e
  | reset =>
    obtain rfl := Option.some.inj e
    exact h.reset
  | complete pipe res slot => exact h.complete hok e
  | transfer i =>
    obtain rfl := Option.some.inj e
    exact h.transfer i
  | halt i =>
    obtain rfl := Option.some.inj e
    exact h.halt i

end Steps

/-- **The controller only comes to mapped buffers of queued requests**. -/
theorem reach_run (ctl : Control) (statusDma : ℕ) (l : List Event)
  (h : Run.AllSteps hwStep BusOk (start ctl statusDma) l) :
  Run.AllStates hwStep Live (start ctl statusDma) l :=
  h.keeps (J := Wired) (fun _ _ _ hJ hok e => wired_step hJ hok e) (fun _ hJ => hJ.live) (wired_start ctl statusDma)

def bulkRun : List Event :=
  [.queue 2 0 64 false 0x1000 false 5, .transfer 2, .complete 2 (fun _ => tdDone) 0, .queue 2 0 64 false 0x1000 false 5]

theorem reach_bulk : ((bulkRun.foldlM hwStep (start bulk 0)).map fun x => (x.head 2, x.drv.books.queue 2)) =
  some (some 5, [.gadget 0]) ∧
  Run.AllSteps hwStep BusOk (start bulk 0) bulkRun ∧ Run.AllStates hwStep Live (start bulk 0) bulkRun := by
  have hfits : ∀ x : Bus, x.BusOk (.queue 2 0 64 false 0x1000 false 5) := fun x =>
    ⟨.inl (by decide),fun e => by cases e⟩
  have h : Run.AllSteps hwStep BusOk (start bulk 0) bulkRun :=
    ⟨hfits _,fun _ _ => ⟨trivial,fun _ _ => ⟨fun e => absurd e (by decide),fun _ _ => ⟨hfits _,fun _ _ => trivial⟩⟩⟩⟩
  exact ⟨by decide +kernel,h,reach_run bulk 0 bulkRun h⟩

/-- **The controller comes to a buffer that is no longer mapped**. -/
theorem stale_descriptor :
  ¬Run.AllStates hwStep Live (start bulk 0) [.queue 2 0 64 false 0x1000 false 5, .dequeue 2 0] ∧
  ¬Run.AllStates hwStep Live (start bulk 0) [.setup ⟨USB_DIR_IN, USB_REQ_GET_STATUS, 0, 0, 2⟩ 0 5] := by
  constructor
  · rintro ⟨-,h⟩
    obtain ⟨-,h⟩ := h _ rfl
    obtain ⟨r,hr,-⟩ := (h _ rfl).head 2 5 (.here 5) rfl 0x1000 (by decide) (by decide)
    cases hr
  · rintro ⟨-,h⟩
    obtain ⟨r,-,w,hw,-⟩ := (h _ rfl).head 1 5 (.here 5) rfl DMA_ADDR_INVALID (by decide) (by decide)
    cases hw

end Bus
end Mx27.Usb
