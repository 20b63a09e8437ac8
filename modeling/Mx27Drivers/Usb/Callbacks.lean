/-
# The callbacks of an endpoint

The driver drops its lock around each `complete()`.
-/
import Mx27Drivers.Usb.Descriptors

namespace Mx27.Usb

open List Option Function

structure Callback where
  req : ReqId
  status : ℤ
  actual : ℤ
  moved : ℤ
  byScan : Bool
  first : Bool
  deriving DecidableEq, Repr

inductive Frame
  | idle
  | scan (cur : Option ReqId) (turns limit built : ℕ)
  | nuke
  deriving DecidableEq, Repr

def Frame.cur : Frame → Option ReqId
  | scan cur _ _ _ => cur
  | _ => none

structure Sys where
  drv : State
  frame : Frame
  accepted : List ℕ
  called : List Callback

def Req.moved (q : Req) (sts : ℕ → TdStatus) : ℤ := q.length - (q.dtds.map fun d => (sts d).remaining).sum

def retire (p : ℕ) (r : ReqId) (status : ℤ) (sts : ℕ → TdStatus) (byScan : Bool) (s : Sys) : Sys :=
  let b := done p r status s.drv.books
  { s with
    drv := { s.drv with books := b }
    called := ⟨r, (b.reqs r).status, (b.reqs r).actual, (b.reqs r).moved sts, byScan,
      (s.drv.books.queue p).head? == some r⟩ :: s.called }

def nextOf (p : ℕ) (r : ReqId) (s : Sys) : Option ReqId :=
  if r ∈ s.drv.books.queue p then (((s.drv.books.queue p).dropWhile (· != r)).tail).head? else some r

def turn (p : ℕ) (sts : ℕ → TdStatus) (s : Sys) : Sys :=
  match s.frame with
  | .idle => s
  | .scan none _ _ _ => { s with frame := .idle }
  | .scan (some r) turns limit built =>
    let next := nextOf p r s
    let x := processEpReq p sts r s.drv.books
    let s' := { s with drv := { s.drv with books := x.1 } }
    match x.2 with
    | .uncomplete => { s' with frame := .idle }
    | .failed status => { retire p r status sts true s' with frame := .scan next (turns + 1) limit built }
    | .complete _ => { retire p r 0 sts true s' with frame := .scan next (turns + 1) limit built }
  | .nuke =>
    match s.drv.books.queue p with
    | [] =>
      let ctl := { s.drv.ctl with desc := Function.update s.drv.ctl.desc p none }
      { s with drv := { s.drv with ctl := ctl }, frame := .idle }
    | r :: _ => retire p r (-ESHUTDOWN) sts false s

inductive Action
  | queue (n length : ℕ) (zero : Bool)
  | dequeue (n : ℕ) (sts : ℕ → TdStatus)
  | disable (sts : ℕ → TdStatus)
  | interrupt (sts : ℕ → TdStatus)
  | resume (sts : ℕ → TdStatus)

def scanning (p : ℕ) (s : Sys) : Sys :=
  { s with frame := .scan (s.drv.books.queue p).head? 0 (s.drv.books.queue p).length s.drv.books.count }

def deliver (p : ℕ) (s : Sys) (a : Action) : Option Sys :=
  if s.drv.oops then none
  else match a with
  | .queue n length zero =>
    let x := epQueue p n length zero s.drv
    some { s with drv := x.1, accepted := if x.2 = 0 then n :: s.accepted else s.accepted }
  | .dequeue n sts =>
    if .gadget n ∈ s.drv.books.queue p then some (retire p (.gadget n) (-ECONNRESET) sts false s) else some s
  | .disable sts =>
    if s.frame = .idle then
      some (if (s.drv.ctl.desc p).isNone then s else turn p sts { s with frame := .nuke })
    else none
  | .interrupt sts => if s.frame = .idle then some (turn p sts (scanning p s)) else none
  | .resume sts => if s.frame = .idle then none else some (turn p sts s)

def Sys.start (ctl : Control) : Sys := ⟨Usb.start ctl, .idle, [], []⟩

structure Delivered (p : ℕ) (s : Sys) : Prop where
  runs : s.drv.oops = false
  once : ∀ n, s.accepted.count n =
    (s.called.map Callback.req).count (.gadget n) + if .gadget n ∈ s.drv.books.queue p then 1 else 0
  count : ∀ c ∈ s.called, c.actual = c.moved
  order : ∀ c ∈ s.called, c.byScan = true → c.first = true
  ends : ∀ cur turns limit built, s.frame = .scan cur turns limit built → turns ≤ limit

def Req.Whole (q : Req) (sts : ℕ → TdStatus) : Prop := (q.dtds.map fun d => (sts d).remaining).sum = 0

instance (q : Req) (sts : ℕ → TdStatus) : Decidable (q.Whole sts) := inferInstanceAs (Decidable (_ = _))

def TurnOk (p : ℕ) (sts : ℕ → TdStatus) (s : Sys) : Prop :=
  match s.frame with
  | .idle => True
  | .scan none _ _ _ => True
  | .scan (some r) _ _ built =>
    match s.drv.books.verdict p sts r with
    | .uncomplete => True
    | .failed _ => (s.drv.books.reqs r).Whole sts ∧ ∀ d ∈ (s.drv.books.reqs r).dtds, d < built
    | .complete _ => ∀ d ∈ (s.drv.books.reqs r).dtds, d < built
  | .nuke =>
    match s.drv.books.queue p with
    | [] => True
    | r :: _ => (s.drv.books.reqs r).Whole sts

def DeliverOk (p : ℕ) (s : Sys) : Action → Prop
  | .queue _ length zero => Fits length zero
  | .dequeue n sts => .gadget n ∈ s.drv.books.queue p → (s.drv.books.reqs (.gadget n)).Whole sts ∧
      s.frame.cur ≠ some (.gadget n)
  | .disable sts => TurnOk p sts { s with frame := .nuke }
  | .interrupt sts => TurnOk p sts (scanning p s)
  | .resume sts => TurnOk p sts s

instance (p : ℕ) (sts : ℕ → TdStatus) (s : Sys) : Decidable (TurnOk p sts s) := by
  unfold TurnOk
  split
  · infer_instance
  · infer_instance
  · split <;> infer_instance
  · split <;> infer_instance

instance (p : ℕ) (s : Sys) (a : Action) : Decidable (DeliverOk p s a) := by
  cases a <;> unfold DeliverOk <;> infer_instance

section Facts

variable {b : Books} {p : ℕ} {r : ReqId} {sts : ℕ → TdStatus}

lemma submit_req (hfits : Fits (b.reqs r).length (b.reqs r).zero) (hactual : (b.reqs r).actual = 0) :
  (submit p r b).1.reqs r = { b.reqs r with actual := (b.reqs r).length, dtds := [b.count], linked := true } := by
  have e := reqToDtd_fits hfits hactual
  obtain ⟨ds,hlink,-⟩ := queueTd_touches p r (reqToDtd r b).1
  have hsubmit : submit p r b = (link p r (queueTd p r (reqToDtd r b).1), true) := by
    unfold submit
    rw [e]
    rfl
  rw [hsubmit,hlink,e]
  simp [link]

lemma foldl_give : ∀ (ds : List ℕ) (b : Books),
  ∃ l, ds.foldl (fun b d => (b.op (.touch d)).op (.give d)) b = { b with log := l }
  | [], b => ⟨b.log, rfl⟩
  | d :: ds, b => by
    obtain ⟨l,hl⟩ := foldl_give ds ((b.op (.touch d)).op (.give d))
    exact ⟨l,by rw [foldl_cons,hl]; rfl⟩

structure SameBut (r : ReqId) (b b' : Books) : Prop where
  queue : b'.queue = b.queue
  count : b'.count = b.count
  reqs : ∀ r', r' ≠ r → b'.reqs r' = b.reqs r'
  dtds : (b'.reqs r).dtds = (b.reqs r).dtds
  length : (b'.reqs r).length = (b.reqs r).length
  linked : (b'.reqs r).linked = (b.reqs r).linked

lemma SameBut.refl (r : ReqId) (b : Books) : SameBut r b b := ⟨rfl, rfl, fun _ _ => rfl, rfl, rfl, rfl⟩

/-- `process_ep_req` changes the count of a request that is complete. -/
structure Processed (p : ℕ) (sts : ℕ → TdStatus) (r : ReqId) (b b' : Books) : Prop extends SameBut r b b' where
  kept : (∀ a, b.verdict p sts r ≠ .complete a) → (b'.reqs r).actual = (b.reqs r).actual
  actual : ∀ a, b.verdict p sts r = .complete a → (b'.reqs r).actual = a

lemma processEpReq_processed (p : ℕ) (sts : ℕ → TdStatus) (r : ReqId) (b : Books) :
  (processEpReq p sts r b).2 = b.verdict p sts r ∧ Processed p sts r b (processEpReq p sts r b).1 := by
  unfold processEpReq Books.verdict
  dsimp only
  rw [foldl_touch]
  cases hv : (scanTds (p % 2 == 1) sts (b.reqs r).length (b.reqs r).dtds).1 with
  | uncomplete | failed =>
    refine ⟨rfl,⟨rfl,rfl,fun _ _ => rfl,rfl,rfl,rfl⟩,fun _ => rfl,fun a ha => ?_⟩
    cases hv.symm.trans ha
  | complete actual =>
    dsimp only
    generalize hb : Books.setReq _ r _ = b1
    obtain ⟨l,hl⟩ := foldl_give (b.reqs r).dtds b1
    rw [hl,← hb]
    refine ⟨rfl,⟨rfl,rfl,fun r' hr' => update_of_ne hr' _ _,?_,?_,?_⟩,fun hno => ?_,fun a ha => ?_⟩
    · simp [Books.setReq]
    · simp [Books.setReq]
    · simp [Books.setReq]
    · exact absurd hv (hno actual)
    · obtain rfl := Verdict.complete.inj (hv.symm.trans ha)
      simp [Books.setReq]

lemma verdict_single {d : ℕ} {a : ℤ} (hd : (b.reqs r).dtds = [d]) (h : b.verdict p sts r = .complete a) :
  a = (b.reqs r).length - (sts d).remaining := by
  unfold Books.verdict at h
  rw [hd] at h
  simp only [scanTds] at h
  split_ifs at h
  · exact (Verdict.complete.inj h).symm
  · exact (Verdict.complete.inj h).symm

end Facts

/-! ### The books of an endpoint -/

structure Posted (p : ℕ) (s : Sys) : Prop where
  runs : s.drv.oops = false
  nodup : (s.drv.books.queue p).Nodup
  held : ∀ r ∈ s.drv.books.queue p, ∃ d, (s.drv.books.reqs r).dtds = [d] ∧ d < s.drv.books.count
  cursor : ∀ r ∈ s.drv.books.queue p, (s.drv.books.reqs r).actual = (s.drv.books.reqs r).length
  linked : ∀ n, (s.drv.books.reqs (.gadget n)).linked = true ↔ .gadget n ∈ s.drv.books.queue p
  once : ∀ n, s.accepted.count n =
    (s.called.map Callback.req).count (.gadget n) + if .gadget n ∈ s.drv.books.queue p then 1 else 0
  count : ∀ c ∈ s.called, c.actual = c.moved
  order : ∀ c ∈ s.called, c.byScan = true → c.first = true

section Posted

variable {p : ℕ} {s : Sys} {sts : ℕ → TdStatus}

lemma posted_start (p : ℕ) (ctl : Control) : Posted p (.start ctl) where
  runs := rfl
  nodup := nodup_nil
  held _ h := by cases h
  cursor _ h := by cases h
  linked n := iff_of_false Bool.false_ne_true not_mem_nil
  once n := rfl
  count _ h := by cases h
  order _ h := by cases h

lemma done_req (p : ℕ) (r : ReqId) (status : ℤ) (b : Books) : ∃ st, (done p r status b).reqs r =
  { b.reqs r with linked := false, status := st } ∧ (done p r status b).count = b.count := by
  unfold done
  dsimp only
  split <;> exact ⟨_,update_self ..,rfl⟩

lemma posted_retire {r : ReqId} {b₁ : Books} (h : Posted p s) (hb : SameBut r s.drv.books b₁)
  (hr : r ∈ s.drv.books.queue p) (hcount : (b₁.reqs r).actual = (b₁.reqs r).moved sts) (status : ℤ)
  (byScan : Bool) (hfirst : byScan = true → (s.drv.books.queue p).head? = some r) :
  Posted p (retire p r status sts byScan { s with drv := { s.drv with books := b₁ } }) := by
  obtain ⟨st,hreq,hc⟩ := done_req p r status b₁
  have hqueue : (done p r status b₁).queue p = (s.drv.books.queue p).erase r := by
    rw [done_queue,update_self,hb.queue]
  have hmem : ∀ r', r' ∈ (done p r status b₁).queue p ↔ r' ≠ r ∧ r' ∈ s.drv.books.queue p := by
    intro r'
    rw [hqueue,h.nodup.mem_erase_iff]
  have hother : ∀ r', r' ≠ r → (done p r status b₁).reqs r' = s.drv.books.reqs r' := fun r' hr' =>
    (done_reqs p status b₁ hr').trans (hb.reqs r' hr')
  refine ⟨h.runs,?_,fun r' hr' => ?_,fun r' hr' => ?_,fun n => ?_,fun n => ?_,fun c hc' => ?_,fun c hc' => ?_⟩
  · show ((done p r status b₁).queue p).Nodup
    rw [hqueue]
    exact h.nodup.erase r
  · obtain ⟨hne,hr'⟩ := (hmem r').mp hr'
    obtain ⟨d,hd,hlt⟩ := h.held r' hr'
    show ∃ d, ((done p r status b₁).reqs r').dtds = [d] ∧ d < (done p r status b₁).count
    rw [hother r' hne,hc,hb.count]
    exact ⟨d,hd,hlt⟩
  · obtain ⟨hne,hr'⟩ := (hmem r').mp hr'
    show ((done p r status b₁).reqs r').actual = ((done p r status b₁).reqs r').length
    rw [hother r' hne]
    exact h.cursor r' hr'
  · show ((done p r status b₁).reqs (.gadget n)).linked = true ↔ .gadget n ∈ (done p r status b₁).queue p
    rw [hmem]
    by_cases hn : .gadget n = r
    · subst hn
      rw [hreq]
      simp
    · rw [hother _ hn,h.linked]
      simp [hn]
  · show s.accepted.count n = ((r :: s.called.map Callback.req).count (.gadget n)) +
      if .gadget n ∈ (done p r status b₁).queue p then 1 else 0
    rw [h.once n]
    by_cases hn : .gadget n = r
    · subst hn
      rw [if_pos hr,if_neg fun hin => ((hmem _).mp hin).1 rfl,count_cons_self]
    · have hiff : .gadget n ∈ (done p r status b₁).queue p ↔ .gadget n ∈ s.drv.books.queue p := by
        rw [hmem,and_iff_right hn]
      rw [count_cons_of_ne (Ne.symm hn)]
      simp only [hiff]
  · rcases mem_cons.mp hc' with rfl | hc'
    · show ((done p r status b₁).reqs r).actual = ((done p r status b₁).reqs r).moved sts
      rw [hreq]
      exact hcount
    · exact h.count c hc'
  · rcases mem_cons.mp hc' with rfl | hc'
    · intro hscan
      show (((b₁.queue p).head? == some r) = true)
      rw [hb.queue,hfirst hscan]
      exact beq_self_eq_true _
    · exact h.order c hc'

structure Queued (p n : ℕ) (b b' : Books) : Prop where
  free : .gadget n ∉ b.queue p
  queue : b'.queue p = b.queue p ++ [.gadget n]
  count : b'.count = b.count + 1
  dtds : (b'.reqs (.gadget n)).dtds = [b.count]
  cursor : (b'.reqs (.gadget n)).actual = (b'.reqs (.gadget n)).length
  linked : (b'.reqs (.gadget n)).linked = true
  reqs : ∀ r', r' ≠ .gadget n → b'.reqs r' = b.reqs r'

lemma epQueue_queued {n length : ℕ} {zero : Bool} (h : Posted p s) (hfits : Fits length zero) :
  ((epQueue p n length zero s.drv).1 = s.drv ∧ (epQueue p n length zero s.drv).2 ≠ 0) ∨
  ((epQueue p n length zero s.drv).2 = 0 ∧ (epQueue p n length zero s.drv).1.oops = false ∧
    Queued p n s.drv.books (epQueue p n length zero s.drv).1.books) := by
  rcases epQueue_cases p n length zero s.drv with he | ⟨hl,hret,q,hlength,hzero,hactual,e,hoops⟩
  · exact .inl he
  · have hfree : .gadget n ∉ s.drv.books.queue p := fun hin => by
      rw [(h.linked n).mpr hin] at hl
      cases hl
    have hq : (s.drv.books.setReq (.gadget n) q).reqs (.gadget n) = q := update_self ..
    have hfits' : Fits q.length q.zero := by rwa [hlength,hzero]
    obtain ⟨hok,hs⟩ := submit_spec (b := s.drv.books.setReq (.gadget n) q) (p := p) hfree (by rwa [hq])
      (by rw [hq,hactual])
    have hreq := submit_req (b := s.drv.books.setReq (.gadget n) q) (p := p) (by rwa [hq]) (by rw [hq,hactual])
    refine .inr ⟨hret,(hoops hok).trans h.runs,?_⟩
    rw [e]
    refine ⟨hfree,?_,hs.count,hs.dtds,by rw [hreq],hs.linked,fun r' hr' => ?_⟩
    · rw [hs.queue,update_self]
      rfl
    · rw [hs.reqs r' hr']
      exact update_of_ne hr' _ _

lemma posted_queued {n : ℕ} {d : State} (h : Posted p s) (hruns : d.oops = false)
  (hq : Queued p n s.drv.books d.books) : Posted p { s with drv := d, accepted := n :: s.accepted } := by
  have hmem : ∀ r, r ∈ d.books.queue p ↔ r ∈ s.drv.books.queue p ∨ r = .gadget n := by
    intro r
    rw [hq.queue,mem_append,mem_singleton]
  have hne : ∀ r ∈ s.drv.books.queue p, r ≠ .gadget n := fun r hr e => hq.free (e ▸ hr)
  refine ⟨hruns,?_,fun r hr => ?_,fun r hr => ?_,fun m => ?_,fun m => ?_,h.count,h.order⟩
  · show (d.books.queue p).Nodup
    rw [hq.queue]
    exact h.nodup.append (nodup_singleton _) (disjoint_singleton.mpr hq.free)
  · show ∃ x, (d.books.reqs r).dtds = [x] ∧ x < d.books.count
    rw [hq.count]
    rcases (hmem r).mp hr with hr | rfl
    · rw [hq.reqs r (hne r hr)]
      obtain ⟨x,hx,hlt⟩ := h.held r hr
      exact ⟨x,hx,Nat.lt_succ_of_lt hlt⟩
    · exact ⟨_,hq.dtds,Nat.lt_succ_self _⟩
  · show (d.books.reqs r).actual = (d.books.reqs r).length
    rcases (hmem r).mp hr with hr | rfl
    · rw [hq.reqs r (hne r hr)]
      exact h.cursor r hr
    · exact hq.cursor
  · show (d.books.reqs (.gadget m)).linked = true ↔ .gadget m ∈ d.books.queue p
    rw [hmem]
    by_cases hm : ReqId.gadget m = .gadget n
    · rw [hm]
      exact iff_of_true hq.linked (.inr rfl)
    · rw [hq.reqs _ hm,h.linked,or_iff_left hm]
  · show (n :: s.accepted).count m =
      (s.called.map Callback.req).count (.gadget m) + if .gadget m ∈ d.books.queue p then 1 else 0
    by_cases hm : m = n
    · subst hm
      have hold := h.once m
      rw [if_neg hq.free] at hold
      rw [if_pos ((hmem _).mpr (.inr rfl)),count_cons_self,hold]
    · have hiff : ReqId.gadget m ∈ d.books.queue p ↔ ReqId.gadget m ∈ s.drv.books.queue p := by
        rw [hmem,or_iff_left fun e => hm (ReqId.gadget.inj e)]
      rw [count_cons_of_ne (Ne.symm hm),h.once m]
      simp only [hiff]

end Posted

/-! ### The loops -/

def oldCount (p built : ℕ) (b : Books) : ℕ := (b.queue p).countP fun r => (b.reqs r).dtds.all (· < built)

def FrameOk (p : ℕ) (s : Sys) : Prop :=
  ∀ cur turns limit built, s.frame = .scan cur turns limit built →
    built ≤ s.drv.books.count ∧ turns + oldCount p built s.drv.books ≤ limit ∧
    ∀ r, cur = some r → (s.drv.books.queue p).head? = some r

section Loops

variable {p : ℕ} {s : Sys} {sts : ℕ → TdStatus}

lemma frameOk_idle (h : s.frame = .idle) : FrameOk p s := by
  intro cur turns limit built e
  cases h.symm.trans e

lemma oldCount_queued {n built : ℕ} {b b' : Books} (hq : Queued p n b b') (hb : built ≤ b.count) :
  oldCount p built b' = oldCount p built b := by
  have hnew : ((b'.reqs (.gadget n)).dtds.all (· < built)) = false := by
    rw [hq.dtds]
    simpa using hb
  have hold : ∀ r ∈ b.queue p, (b'.reqs r).dtds.all (· < built) = true ↔ (b.reqs r).dtds.all (· < built) = true := by
    intro r hr
    rw [hq.reqs r fun e => hq.free (e ▸ hr)]
  unfold oldCount
  rw [hq.queue,countP_append,countP_congr hold,countP_singleton,hnew]
  rfl

lemma oldCount_done {r : ReqId} {b b₁ : Books} (built : ℕ) (hb : SameBut r b b₁) (hr : r ∈ b.queue p)
  (status : ℤ) : oldCount p built (done p r status b₁) +
    (if (b.reqs r).dtds.all (· < built) then 1 else 0) = oldCount p built b := by
  have hdtds : ∀ r', ((done p r status b₁).reqs r').dtds = (b.reqs r').dtds := by
    intro r'
    rw [done_dtds]
    by_cases hr' : r' = r
    · rw [hr',hb.dtds]
    · rw [hb.reqs r' hr']
  unfold oldCount
  simp only [hdtds]
  rw [done_queue,update_self,hb.queue,countP_erase]
  simp only [hr,true_and]
  split
  case isTrue h =>
    have hpos : 0 < (b.queue p).countP fun r => (b.reqs r).dtds.all (· < built) :=
      countP_pos_iff.mpr ⟨r,hr,h⟩
    omega
  case isFalse h => omega

lemma frameOk_queued {n : ℕ} {d : State} {l : List ℕ} (h : FrameOk p s) (hq : Queued p n s.drv.books d.books) :
  FrameOk p { s with drv := d, accepted := l } := by
  intro cur turns limit built e
  obtain ⟨hb,hle,hhead⟩ := h cur turns limit built e
  refine ⟨?_,?_,fun r hr => ?_⟩
  · show built ≤ d.books.count
    rw [hq.count]
    omega
  · show turns + oldCount p built d.books ≤ limit
    rw [oldCount_queued hq hb]
    exact hle
  · show (d.books.queue p).head? = some r
    rw [hq.queue,head?_append,hhead r hr]
    rfl

lemma nextOf_head {r : ReqId} {rs : List ReqId} (hq : s.drv.books.queue p = r :: rs) : nextOf p r s = rs.head? := by
  unfold nextOf
  rw [hq,if_pos mem_cons_self]
  simp

lemma frameOk_dequeue {n : ℕ} (h : FrameOk p s) (hr : .gadget n ∈ s.drv.books.queue p)
  (hok : s.frame.cur ≠ some (.gadget n)) (status : ℤ) :
  FrameOk p (retire p (.gadget n) status sts false s) := by
  intro cur turns limit built e
  obtain ⟨hb,hle,hhead⟩ := h cur turns limit built e
  obtain ⟨-,-,hc⟩ := done_req p (.gadget n) status s.drv.books
  have hold := oldCount_done built (SameBut.refl (.gadget n) s.drv.books) hr status
  refine ⟨?_,?_,fun r hcur => ?_⟩
  · show built ≤ (done p (.gadget n) status s.drv.books).count
    rw [hc]
    exact hb
  · show turns + oldCount p built (done p (.gadget n) status s.drv.books) ≤ limit
    omega
  · have hne : r ≠ .gadget n := by
      rintro rfl
      refine hok ?_
      replace e : s.frame = .scan cur turns limit built := e
      rw [e]
      exact hcur
    obtain ⟨rs,hrs⟩ : ∃ rs, s.drv.books.queue p = r :: rs := by
      cases hq : s.drv.books.queue p with
      | nil => rw [hq] at hr; cases hr
      | cons r' rs =>
        have := hhead r hcur
        rw [hq] at this
        exact ⟨rs,by rw [Option.some.inj this]⟩
    show ((done p (.gadget n) status s.drv.books).queue p).head? = some r
    rw [done_queue,update_self,hrs,erase_cons_tail (by simpa using hne)]
    rfl

lemma moved_whole {q : Req} (h : q.Whole sts) : q.moved sts = q.length := by
  unfold Req.moved
  rw [h]
  simp

lemma posted_same {r : ReqId} {b₁ : Books} {f : Frame} (h : Posted p s) (hb : SameBut r s.drv.books b₁)
  (hactual : (b₁.reqs r).actual = (s.drv.books.reqs r).actual) :
  Posted p { s with drv := { s.drv with books := b₁ }, frame := f } := by
  have hreqs : ∀ r', (b₁.reqs r').dtds = (s.drv.books.reqs r').dtds ∧
      (b₁.reqs r').actual = (s.drv.books.reqs r').actual ∧ (b₁.reqs r').length = (s.drv.books.reqs r').length ∧
      (b₁.reqs r').linked = (s.drv.books.reqs r').linked := by
    intro r'
    by_cases hr : r' = r
    · subst hr
      exact ⟨hb.dtds,hactual,hb.length,hb.linked⟩
    · rw [hb.reqs r' hr]
      exact ⟨rfl,rfl,rfl,rfl⟩
  have hqueue : b₁.queue p = s.drv.books.queue p := by rw [hb.queue]
  refine ⟨h.runs,?_,fun r' hr' => ?_,fun r' hr' => ?_,fun n => ?_,fun n => ?_,h.count,h.order⟩
  · show (b₁.queue p).Nodup
    rw [hqueue]
    exact h.nodup
  · show ∃ d, (b₁.reqs r').dtds = [d] ∧ d < b₁.count
    rw [(hreqs r').1,hb.count]
    exact h.held r' (hqueue ▸ hr')
  · show (b₁.reqs r').actual = (b₁.reqs r').length
    rw [(hreqs r').2.1,(hreqs r').2.2.1]
    exact h.cursor r' (hqueue ▸ hr')
  · show (b₁.reqs (.gadget n)).linked = true ↔ .gadget n ∈ b₁.queue p
    rw [(hreqs _).2.2.2,hqueue]
    exact h.linked n
  · show s.accepted.count n = _ + if .gadget n ∈ b₁.queue p then 1 else 0
    rw [hqueue]
    exact h.once n

lemma scan_retires {r : ReqId} {b₁ : Books} {turns limit built : ℕ} {cur : Option ReqId} (h : Posted p s)
  (hframe : s.frame = .scan (some r) turns limit built) (hf : FrameOk p s) (hb : SameBut r s.drv.books b₁)
  (hcur : cur = nextOf p r s) (hold : ∀ d ∈ (s.drv.books.reqs r).dtds, d < built)
  (hcount : (b₁.reqs r).actual = (b₁.reqs r).moved sts) (status : ℤ) :
  Posted p { retire p r status sts true { s with drv := { s.drv with books := b₁ } } with
    frame := .scan cur (turns + 1) limit built } ∧
  FrameOk p { retire p r status sts true { s with drv := { s.drv with books := b₁ } } with
    frame := .scan cur (turns + 1) limit built } := by
  obtain ⟨hbuilt,hle,hhead⟩ := hf _ _ _ _ hframe
  obtain ⟨rs,hrs⟩ := head?_eq_some_iff.mp (hhead r rfl)
  have hr : r ∈ s.drv.books.queue p := by
    rw [hrs]
    exact mem_cons_self
  have hp := posted_retire h hb hr hcount status true fun _ => hhead r rfl
  refine ⟨⟨hp.runs,hp.nodup,hp.held,hp.cursor,hp.linked,hp.once,hp.count,hp.order⟩,?_⟩
  intro cur' turns' limit' built' e
  obtain ⟨rfl,rfl,rfl,rfl⟩ := Frame.scan.inj e
  obtain ⟨-,-,hc⟩ := done_req p r status b₁
  have hdone := oldCount_done built hb hr status
  rw [if_pos (List.all_eq_true.mpr fun d hd => decide_eq_true (hold d hd))] at hdone
  refine ⟨?_,?_,fun r' hr' => ?_⟩
  · show built ≤ (done p r status b₁).count
    rw [hc,hb.count]
    exact hbuilt
  · show turns + 1 + oldCount p built (done p r status b₁) ≤ limit
    omega
  · show ((done p r status b₁).queue p).head? = some r'
    rw [done_queue,update_self,hb.queue,hrs,erase_cons_head,← nextOf_head hrs,← hcur,hr']

end Loops

section Steps

variable {p : ℕ} {s : Sys} {sts : ℕ → TdStatus}

lemma inv_turn (h : Posted p s) (hf : FrameOk p s) (hok : TurnOk p sts s) :
  Posted p (turn p sts s) ∧ FrameOk p (turn p sts s) := by
  unfold TurnOk at hok
  unfold turn
  cases hframe : s.frame with
  | idle => exact ⟨h,hf⟩
  | scan cur turns limit built =>
    cases cur with
    | none => exact ⟨⟨h.runs,h.nodup,h.held,h.cursor,h.linked,h.once,h.count,h.order⟩,frameOk_idle rfl⟩
    | some r =>
      obtain ⟨hverdict,hproc⟩ := processEpReq_processed p sts r s.drv.books
      have hhead := (hf _ _ _ _ hframe).2.2 r rfl
      have hr : r ∈ s.drv.books.queue p := mem_of_mem_head? hhead
      simp only [hframe] at hok
      dsimp only
      rw [hverdict]
      cases hv : s.drv.books.verdict p sts r with
      | uncomplete => exact ⟨posted_same h hproc.toSameBut (hproc.kept (by simp [hv])),frameOk_idle rfl⟩
      | failed status =>
        rw [hv] at hok
        refine scan_retires h hframe hf hproc.toSameBut rfl hok.2 ?_ status
        have hwhole : (((processEpReq p sts r s.drv.books).1.reqs r).Whole sts) := by
          unfold Req.Whole
          rw [hproc.dtds]
          exact hok.1
        rw [moved_whole hwhole,hproc.kept (by simp [hv]),h.cursor r hr,hproc.length]
      | complete a =>
        rw [hv] at hok
        refine scan_retires h hframe hf hproc.toSameBut rfl hok ?_ 0
        obtain ⟨d,hd,-⟩ := h.held r hr
        rw [hproc.actual a hv,verdict_single hd hv]
        unfold Req.moved
        rw [hproc.dtds,hproc.length,hd]
        simp
  | nuke =>
    simp only [hframe] at hok
    cases hq : s.drv.books.queue p with
    | nil =>
      refine ⟨⟨h.runs,h.nodup,h.held,h.cursor,h.linked,h.once,h.count,h.order⟩,frameOk_idle rfl⟩
    | cons r rs =>
      rw [hq] at hok
      have hr : r ∈ s.drv.books.queue p := by
        rw [hq]
        exact mem_cons_self
      refine ⟨posted_retire h (SameBut.refl r _) hr ?_ _ false (fun hc => by cases hc),fun cur turns limit built e => ?_⟩
      · rw [moved_whole hok]
        exact h.cursor r hr
      · cases hframe.symm.trans e

lemma frameOk_scanning (p : ℕ) (s : Sys) : FrameOk p (scanning p s) := by
  intro cur turns limit built e
  obtain ⟨rfl,rfl,rfl,rfl⟩ := Frame.scan.inj e
  refine ⟨le_rfl,?_,fun r hr => hr⟩
  show 0 + oldCount p s.drv.books.count s.drv.books ≤ (s.drv.books.queue p).length
  rw [Nat.zero_add]
  exact countP_le_length

lemma inv_deliver {a : Action} {s' : Sys} (h : Posted p s) (hf : FrameOk p s) (hok : DeliverOk p s a)
  (e : deliver p s a = some s') : Posted p s' ∧ FrameOk p s' := by
  unfold deliver at e
  rw [if_neg (by simp [h.runs])] at e
  cases a with
  | queue n length zero =>
    cases e
    rcases epQueue_queued (n := n) h hok with ⟨he,hne⟩ | ⟨hret,hruns,hq⟩
    · rw [he,if_neg hne]
      exact ⟨h,hf⟩
    · rw [if_pos hret]
      exact ⟨posted_queued h hruns hq,frameOk_queued hf hq⟩
  | dequeue n sts =>
    dsimp only at e
    split at e
    case isTrue hr =>
      cases e
      obtain ⟨hwhole,hcur⟩ := hok hr
      refine ⟨posted_retire h (SameBut.refl _ _) hr ?_ _ false (fun hc => by cases hc),frameOk_dequeue hf hr hcur _⟩
      rw [moved_whole hwhole]
      exact h.cursor _ hr
    case isFalse hr =>
      cases e
      exact ⟨h,hf⟩
  | disable sts =>
    obtain ⟨-,e⟩ := ite_none_right_eq_some.mp e
    cases e
    split
    · exact ⟨h,hf⟩
    · refine inv_turn (s := { s with frame := .nuke }) ?_ (fun cur turns limit built e => by cases e) hok
      exact ⟨h.runs,h.nodup,h.held,h.cursor,h.linked,h.once,h.count,h.order⟩
  | interrupt sts =>
    obtain ⟨-,e⟩ := ite_none_right_eq_some.mp e
    cases e
    refine inv_turn (s := scanning p s) ?_ (frameOk_scanning p s) hok
    exact ⟨h.runs,h.nodup,h.held,h.cursor,h.linked,h.once,h.count,h.order⟩
  | resume sts =>
    obtain ⟨-,e⟩ := ite_none_left_eq_some.mp e
    cases e
    exact inv_turn h hf hok

end Steps

def tdDone : TdStatus := ⟨false, false, false, false, 0⟩
def tdActive (length : ℕ) : TdStatus := ⟨true, false, false, false, length⟩

def requeueRun : List Action :=
  [.queue 0 64 false, .queue 1 32 false, .interrupt fun d => if d < 2 then tdDone else tdActive 64,
    .queue 0 64 false, .resume fun d => if d < 2 then tdDone else tdActive 64,
    .resume fun d => if d < 2 then tdDone else tdActive 64]

def dequeueRun : List Action := [.queue 0 64 false, .dequeue 0 fun _ => tdActive 64]

def dequeueNextRun : List Action :=
  [.queue 0 64 false, .queue 1 32 false, .interrupt fun _ => tdDone, .dequeue 1 fun _ => tdDone,
    .resume fun _ => tdDone, .resume fun _ => tdDone, .resume fun _ => tdDone]

end Mx27.Usb
