/-
# Who frees the descriptors

`process_ep_req` frees the descriptors of a request that is complete, and `done` does too.
-/
import Mx27Drivers.Usb.Udc

namespace Mx27.Usb

open List Function

open Pool (Out Sound)

structure Kept (b : Books) : Prop where
  sound : Sound b.log
  fresh : ∀ d, Pool.Op.take d ∈ b.log → d < b.count
  held : ∀ p, ∀ r ∈ b.queue p, ∃ d, (b.reqs r).dtds = [d] ∧ Out b.log d
  one : ∀ p p' d, ∀ r ∈ b.queue p, ∀ r' ∈ b.queue p', (b.reqs r).dtds = [d] → (b.reqs r').dtds = [d] →
    p = p' ∧ r = r'
  nodup : ∀ p, (b.queue p).Nodup
  covered : ∀ d, Out b.log d → ∃ p, ∃ r ∈ b.queue p, (b.reqs r).dtds = [d]
  linked : ∀ p, ∀ r ∈ b.queue p, (b.reqs r).linked = true
  status : ∀ p, .status ∈ b.queue p → p = 0
  made : ∀ p n, .getStatus n ∈ b.queue p → n < b.made

lemma kept_start (ctl : Control) : Kept (start ctl).books where
  sound := trivial
  fresh _ h := by cases h
  held _ _ h := by cases h
  one _ _ _ _ h := by cases h
  nodup _ := nodup_nil
  covered _ h := by cases h.1
  linked _ _ h := by cases h
  status _ h := by cases h
  made _ _ h := by cases h

section Books

variable {b : Books} {p : ℕ} {r : ReqId}

lemma setReq_kept (h : Kept b) (hr : ∀ p, r ∉ b.queue p) (q : Req) : Kept (b.setReq r q) := by
  have hreqs : ∀ p, ∀ r' ∈ b.queue p, (b.setReq r q).reqs r' = b.reqs r' := by
    intro p r' hr'
    refine update_of_ne (fun e => ?_) _ _
    rw [e] at hr'
    exact hr p hr'
  refine ⟨h.sound,h.fresh,fun p r' hr' => ?_,fun p p' d r1 h1 r2 h2 e1 e2 => ?_,h.nodup,fun d hd => ?_,
    fun p r' hr' => ?_,h.status,h.made⟩
  · rw [hreqs p r' hr']
    exact h.held p r' hr'
  · rw [hreqs p r1 h1] at e1
    rw [hreqs p' r2 h2] at e2
    exact h.one p p' d r1 h1 r2 h2 e1 e2
  · obtain ⟨p,r',hr',e⟩ := h.covered d hd
    exact ⟨p,r',hr',by rw [hreqs p r' hr',e]⟩
  · rw [hreqs p r' hr']
    exact h.linked p r' hr'

/-! ### Building and queueing -/

def Fits (length : ℕ) (zero : Bool) : Prop :=
  length < EP_MAX_LENGTH_TRANSFER ∨ (length = EP_MAX_LENGTH_TRANSFER ∧ zero = false)

instance (length : ℕ) (zero : Bool) : Decidable (Fits length zero) := inferInstanceAs (Decidable (_ ∨ _))

lemma reqToDtd_fits (hfits : Fits (b.reqs r).length (b.reqs r).zero) (hactual : (b.reqs r).actual = 0) :
  reqToDtd r b = ({ b with
    count := b.count + 1
    log := .touch b.count :: .take b.count :: b.log
    reqs := Function.update b.reqs r { b.reqs r with actual := (b.reqs r).length, dtds := [b.count] } }, true) := by
  have hmin : min (b.reqs r).length EP_MAX_LENGTH_TRANSFER = (b.reqs r).length := by
    rcases hfits with hlt | ⟨heq,-⟩ <;> omega
  have hlast : isLast (buildDtd r b).2 ((buildDtd r b).1.reqs r) = true := by
    simp only [isLast,buildDtd,Books.setReq,update_self,hactual,Int.toNat_zero,Nat.sub_zero,zero_add]
    rcases hfits with hlt | ⟨heq,hzero⟩
    · have hne : min (b.reqs r).length EP_MAX_LENGTH_TRANSFER ≠ EP_MAX_LENGTH_TRANSFER := by omega
      simp [hne]
    · simp [heq,hzero]
  unfold reqToDtd
  simp only [hlast,if_true]
  simp [buildDtd,Books.setReq,hactual,hmin]

lemma queueTd_touches (p : ℕ) (r : ReqId) (b : Books) :
  ∃ ds : List ℕ, queueTd p r b = { b with log := ds.map .touch ++ b.log } ∧
    ∀ d ∈ ds, d ∈ (b.reqs r).dtds ∨ ∃ r' ∈ b.queue p, d ∈ (b.reqs r').dtds := by
  have htail : ∀ d, ((b.queue p).getLast?.bind fun last => (b.reqs last).dtds.getLast?) = some d →
      ∃ r' ∈ b.queue p, d ∈ (b.reqs r').dtds := by
    intro d hd
    obtain ⟨last,hlast,hd⟩ := Option.bind_eq_some_iff.mp hd
    exact ⟨last,mem_of_getLast? hlast,mem_of_getLast? hd⟩
  unfold queueTd
  cases hh : (b.reqs r).dtds.head? with
  | none =>
    cases hl : (b.queue p).getLast?.bind fun last => (b.reqs last).dtds.getLast? with
    | none => exact ⟨[],by simp [hl],by simp⟩
    | some d =>
      refine ⟨[d],by simp [hl,Books.op],fun d' hd' => .inr ?_⟩
      obtain rfl := mem_singleton.mp hd'
      exact htail d' hl
  | some c =>
    have hc : c ∈ (b.reqs r).dtds := mem_of_head? hh
    cases hl : (b.queue p).getLast?.bind fun last => (b.reqs last).dtds.getLast? with
    | none =>
      refine ⟨[c],by simp [hl,Books.op],fun d' hd' => .inl ?_⟩
      obtain rfl := mem_singleton.mp hd'
      exact hc
    | some d =>
      refine ⟨[d,c],by simp [hl,Books.op],fun d' hd' => ?_⟩
      rcases mem_cons.mp hd' with rfl | hd'
      · exact .inr (htail d' hl)
      · obtain rfl := mem_singleton.mp hd'
        exact .inl hc

structure Submitted (p : ℕ) (r : ReqId) (b b' : Books) : Prop where
  count : b'.count = b.count + 1
  made : b'.made = b.made
  queue : b'.queue = Function.update b.queue p (b.queue p ++ [r])
  dtds : (b'.reqs r).dtds = [b.count]
  linked : (b'.reqs r).linked = true
  reqs : ∀ r', r' ≠ r → b'.reqs r' = b.reqs r'
  log : ∃ ds : List ℕ, b'.log = ds.map .touch ++ .take b.count :: b.log ∧
    ∀ d ∈ ds, d = b.count ∨ ∃ r' ∈ b.queue p, d ∈ (b.reqs r').dtds

lemma submit_spec (hr : r ∉ b.queue p) (hfits : Fits (b.reqs r).length (b.reqs r).zero)
  (hactual : (b.reqs r).actual = 0) : (submit p r b).2 = true ∧ Submitted p r b (submit p r b).1 := by
  have e := reqToDtd_fits hfits hactual
  obtain ⟨ds,hlink,hds⟩ := queueTd_touches ..
  have hne : ∀ r' ∈ b.queue p, r' ≠ r := fun r' hr' e => hr (e ▸ hr')
  have hwhile : (b.queue p).takeWhile (· != r) = b.queue p :=
    takeWhile_eq_self_iff.mpr fun r' hr' => bne_iff_ne.mpr (hne r' hr')
  have hsubmit : submit p r b = (link p r (queueTd p r (reqToDtd r b).1), true) := by
    unfold submit
    rw [e]
    rfl
  rw [hsubmit,hlink]
  rw [e] at hds ⊢
  refine ⟨rfl,rfl,rfl,?_,?_,?_,fun r' hr' => ?_,ds ++ [b.count],?_,fun d hd => ?_⟩
  · show Function.update b.queue p ((b.queue p).takeWhile (· != r) ++ [r]) = _
    rw [hwhile]
  · simp [link]
  · simp [link]
  · simp [link,hr']
  · simp [link]
  · rcases mem_append.mp hd with hd | hd
    · rcases hds d hd with hd | ⟨r',hr',hd⟩
      · dsimp only at hd
        rw [update_self] at hd
        exact .inl (mem_singleton.mp hd)
      · dsimp only at hd
        rw [update_of_ne (hne r' hr')] at hd
        exact .inr ⟨r',hr',hd⟩
    · exact .inl (mem_singleton.mp hd)

lemma submitted_kept {b' : Books} (h : Kept b) (hs : Submitted p r b b') (hr : ∀ p', r ∉ b.queue p')
  (hstatus : r = .status → p = 0) (hmade : ∀ n, r = .getStatus n → n < b.made) : Kept b' := by
  have hnew : Pool.Op.take .. ∉ b.log := fun hc => (Nat.lt_irrefl _ (h.fresh _ hc))
  obtain ⟨ds,hlog,hds⟩ := hs.log
  have hout : ∀ d, Out b'.log d ↔ d = b.count ∨ Out b.log d := by
    intro d
    rw [hlog,Pool.out_touches,h.sound.out_take hnew]
  have hmem : ∀ p' r', r' ∈ b'.queue p' ↔ r' ∈ b.queue p' ∨ (p' = p ∧ r' = r) := by
    intro p' r'
    rw [hs.queue]
    by_cases hp : p' = p
    · subst hp
      simp
    · simp [hp]
  -- a request that was in a queue before keeps its descriptor, which is not the new one
  have hold : ∀ p' r', r' ∈ b.queue p' → b'.reqs r' = b.reqs r' :=
    fun p' r' hr' => hs.reqs r' fun e => hr p' (e ▸ hr')
  have hlt : ∀ p' r' d, r' ∈ b.queue p' → (b.reqs r').dtds = [d] → d ≠ b.count := by
    intro p' r' d hr' hd e
    obtain ⟨d',hd',hout'⟩ := h.held p' r' hr'
    obtain rfl : d' = d := singleton_inj.mp (hd'.symm.trans hd)
    exact Nat.lt_irrefl _ (e ▸ h.fresh d' hout'.1)
  refine ⟨?_,fun d hd => ?_,fun p' r' hr' => ?_,fun p1 p2 d r1 h1 r2 h2 e1 e2 => ?_,fun p' => ?_,fun d hd => ?_,
    fun p' r' hr' => ?_,fun p' hp' => ?_,fun p' n hn => ?_⟩
  · rw [hlog]
    refine Sound.touches ⟨hnew,h.sound⟩ fun d hd => ?_
    rw [h.sound.out_take hnew]
    rcases hds d hd with rfl | ⟨r',hr',hd⟩
    · exact .inl rfl
    · obtain ⟨d',hd',hout'⟩ := h.held p r' hr'
      rw [hd',mem_singleton] at hd
      exact .inr (hd ▸ hout')
  · rw [hlog] at hd
    have hd : Pool.Op.take d ∈ Pool.Op.take b.count :: b.log := by simpa using hd
    rw [hs.count]
    rcases mem_cons.mp hd with e | hd
    · obtain rfl := Pool.Op.take.inj e
      exact Nat.lt_succ_self _
    · exact Nat.lt_succ_of_lt (h.fresh d hd)
  · rcases (hmem ..).mp hr' with hr' | ⟨rfl,rfl⟩
    · obtain ⟨d,hd,hout'⟩ := h.held p' r' hr'
      exact ⟨d,by rw [hold p' r' hr',hd],(hout d).mpr (.inr hout')⟩
    · exact ⟨b.count,hs.dtds,(hout _).mpr (.inl rfl)⟩
  · rcases (hmem ..).mp h1 with h1 | ⟨rfl,rfl⟩ <;> rcases (hmem ..).mp h2 with h2 | ⟨rfl,rfl⟩
    · rw [hold p1 r1 h1] at e1
      rw [hold p2 r2 h2] at e2
      exact h.one p1 p2 d r1 h1 r2 h2 e1 e2
    · rw [hold p1 r1 h1] at e1
      rw [hs.dtds] at e2
      exact absurd (singleton_inj.mp e2).symm (hlt p1 r1 d h1 e1)
    · rw [hold p2 r2 h2] at e2
      rw [hs.dtds] at e1
      exact absurd (singleton_inj.mp e1).symm (hlt p2 r2 d h2 e2)
    · exact ⟨rfl,rfl⟩
  · rw [hs.queue]
    by_cases hp : p' = p
    · subst hp
      rw [update_self]
      exact (h.nodup p').append (nodup_singleton r) (disjoint_singleton.mpr (hr p'))
    · rw [update_of_ne hp]
      exact h.nodup p'
  · rcases (hout d).mp hd with rfl | hd
    · exact ⟨p,r,(hmem p r).mpr (.inr ⟨rfl,rfl⟩),hs.dtds⟩
    · obtain ⟨p',r',hr',e⟩ := h.covered d hd
      exact ⟨p',r',(hmem ..).mpr (.inl hr'),by rw [hold p' r' hr',e]⟩
  · rcases (hmem ..).mp hr' with hr' | ⟨rfl,rfl⟩
    · rw [hold p' r' hr']
      exact h.linked p' r' hr'
    · exact hs.linked
  · rcases (hmem ..).mp hp' with hp' | ⟨rfl,e⟩
    · exact h.status p' hp'
    · exact hstatus e.symm
  · rw [hs.made]
    rcases (hmem ..).mp hn with hn | ⟨rfl,e⟩
    · exact h.made p' n hn
    · exact hmade n e.symm

lemma submit_kept (h : Kept b) (p : ℕ) {q : Req} (hr : ∀ p', r ∉ b.queue p') (hfits : Fits q.length q.zero)
  (hactual : q.actual = 0) (hstatus : r = .status → p = 0) (hmade : ∀ n, r = .getStatus n → n < b.made) :
  (submit p r (b.setReq r q)).2 = true ∧ Kept (submit p r (b.setReq r q)).1 ∧
  (submit p r (b.setReq r q)).1.queue = Function.update b.queue p (b.queue p ++ [r]) := by
  have hq : (b.setReq r q).reqs r = q := update_self ..
  obtain ⟨hok,hs⟩ := submit_spec (b := b.setReq r q) (hr p) (by rw [hq]; exact hfits) (by rw [hq]; exact hactual)
  exact ⟨hok,submitted_kept (setReq_kept h hr q) hs hr hstatus hmade,hs.queue⟩

/-! ### Retiring -/

lemma done_queue (p : ℕ) (r : ReqId) (status : ℤ) (b : Books) :
  (done p r status b).queue = Function.update b.queue p ((b.queue p).erase r) := by
  unfold done
  dsimp only
  split <;> rfl

variable {r' : ReqId} {p p' pipe : ℕ} {sts : ℕ → TdStatus}

lemma done_reqs (p : ℕ) (status : ℤ) (b : Books) (hr' : r' ≠ r) :
  (done p r status b).reqs r' = b.reqs r' := by
  unfold done
  dsimp only
  split <;> exact update_of_ne hr' ..

lemma done_dtds (p : ℕ) (r r' : ReqId) (status : ℤ) (b : Books) :
  ((done p r status b).reqs r').dtds = (b.reqs r').dtds := by
  by_cases hr' : r' = r
  · subst hr'
    unfold done
    dsimp only
    split <;> simp
  · rw [done_reqs p status b hr']

lemma done_held {d : ℕ} (hd : (b.reqs r).dtds = [d]) (p : ℕ) (status : ℤ) : (done p r status b).log = .give d :: .touch d :: b.log ∧
  (done p r status b).count = b.count ∧ (done p r status b).made = b.made := by
  simp only [done,hd]
  exact ⟨rfl,rfl,rfl⟩

lemma done_kept (h : Kept b) (hr : r ∈ b.queue p) (status : ℤ) : Kept (done p r status b) := by
  obtain ⟨d,hd,hout⟩ := h.held p r hr
  obtain ⟨hlog,hcount,hmade⟩ := done_held hd p status
  have hmem : ∀ p' r', r' ∈ (done p r status b).queue p' ↔ r' ∈ b.queue p' ∧ ¬(p' = p ∧ r' = r) := by
    intro p' r'
    rw [done_queue]
    by_cases hp : p' = p
    · subst hp
      rw [update_self,(h.nodup p').mem_erase_iff]
      tauto
    · rw [update_of_ne hp]
      tauto
  -- the request was in no other queue
  have hgone : ∀ p' r', r' ∈ (done p r status b).queue p' → r' ≠ r := by
    rintro p' r' hr' rfl
    obtain ⟨hr',hne⟩ := (hmem ..).mp hr'
    exact hne ⟨(h.one p' p d r' hr' r' hr hd hd).1,rfl⟩
  have hout' : ∀ x, Out (done p r status b).log x ↔ Out b.log x ∧ x ≠ d := by
    intro x
    rw [hlog,Pool.out_give,Pool.out_touch]
  refine ⟨?_,fun x hx => ?_,fun p' r' hr' => ?_,fun p1 p2 x r1 h1 r2 h2 e1 e2 => ?_,fun p' => ?_,fun x hx => ?_,
    fun p' r' hr' => ?_,fun p' hp' => ?_,fun p' n hn => ?_⟩
  · rw [hlog]
    exact ⟨Pool.out_touch.mpr hout,hout,h.sound⟩
  · rw [hlog] at hx
    rw [hcount]
    exact h.fresh x (by simpa using hx)
  · obtain ⟨x,hx,hxout⟩ := h.held p' r' ((hmem ..).mp hr').1
    refine ⟨x,by rw [done_dtds,hx],(hout' x).mpr ⟨hxout,fun e => ?_⟩⟩
    subst e
    exact ((hmem ..).mp hr').2 (h.one p' p x r' ((hmem ..).mp hr').1 r hr hx hd)
  · rw [done_dtds] at e1 e2
    exact h.one p1 p2 x r1 ((hmem ..).mp h1).1 r2 ((hmem ..).mp h2).1 e1 e2
  · rw [done_queue]
    by_cases hp : p' = p
    · subst hp
      rw [update_self]
      exact (h.nodup p').erase r
    · rw [update_of_ne hp]
      exact h.nodup p'
  · obtain ⟨hx,hne⟩ := (hout' x).mp hx
    obtain ⟨p',r',hr',e⟩ := h.covered x hx
    refine ⟨p',r',(hmem ..).mpr ⟨hr',?_⟩,by rw [done_dtds,e]⟩
    rintro ⟨-,rfl⟩
    exact hne (singleton_inj.mp (e.symm.trans hd))
  · rw [done_reqs p status b (hgone p' r' hr')]
    exact h.linked p' r' ((hmem ..).mp hr').1
  · exact h.status p' ((hmem ..).mp hp').1
  · rw [hmade]
    exact h.made p' n ((hmem ..).mp hn).1

lemma nuke_loop (status : ℤ) : ∀ (rs : List ReqId) {b : Books}, Kept b → b.queue p = rs →
  Kept (rs.foldl (fun b r => done p r status b) b) ∧ (rs.foldl (fun b r => done p r status b) b).queue p = []
  | [], _, h, hq => ⟨h, hq⟩
  | r :: rs, b, h, hq => by
    refine nuke_loop status rs (done_kept h (by rw [hq]; exact mem_cons_self) status) ?_
    rw [done_queue,update_self,hq,erase_cons_head]

lemma nuke_kept (h : Kept b) (p : ℕ) (status : ℤ) : Kept (nuke p status b) ∧ (nuke p status b).queue p = [] :=
  nuke_loop status (b.queue p) h rfl

lemma mem_of_done {status : ℤ} (h : r' ∈ (done p r status b).queue p') : r' ∈ b.queue p' := by
  rw [done_queue] at h
  by_cases hp : p' = p
  · subst hp
    rw [update_self] at h
    exact mem_of_mem_erase h
  · rwa [update_of_ne hp] at h

lemma mem_of_nuke {status : ℤ} (h : r' ∈ (nuke p status b).queue p') : r' ∈ b.queue p' := by
  have hloop : ∀ (rs : List ..) {b : Books}, r' ∈ (rs.foldl (fun b r => done p r status b) b).queue p' →
      r' ∈ b.queue p' := by
    intro rs
    induction rs with
    | nil => exact fun h => h
    | cons r rs ih => exact fun h => mem_of_done (ih h)
  exact hloop _ h

/-! ### The completion scan -/

def Books.verdict (b : Books) (pipe : ℕ) (sts : ℕ → TdStatus) (r : ReqId) : Verdict :=
  (scanTds (pipe % 2 == 1) sts (b.reqs r).length (b.reqs r).dtds).1

lemma scanTds_reads (dirIn : Bool) (sts : ℕ → TdStatus) : ∀ (ds : List ℕ) (actual : ℤ),
  ∀ d ∈ (scanTds dirIn sts actual ds).2, d ∈ ds
  | [], _, _, h => h
  | d :: ds, actual, c, h => by
    have hone : ∀ {c}, c ∈ [d] → c ∈ d :: ds := fun hc => mem_cons.mpr (.inl (mem_singleton.mp hc))
    unfold scanTds at h
    dsimp only at h
    split_ifs at h
    · exact hone h
    · exact hone h
    · exact hone h
    · exact hone h
    · exact hone h
    · exact hone h
    · exact mem_cons.mpr ((mem_cons.mp h).imp_right (scanTds_reads dirIn sts ds _ c))

lemma foldl_touch : ∀ (ds : List ℕ) (b : Books),
  ds.foldl (fun b d => b.op (.touch d)) b = { b with log := ds.reverse.map .touch ++ b.log }
  | [], _ => rfl
  | d :: ds, b => by
    rw [foldl_cons,foldl_touch]
    simp [Books.op]

lemma processEpReq_spec (hv : ∀ actual, b.verdict pipe sts r ≠ .complete actual) :
  (processEpReq pipe sts r b).2 = b.verdict pipe sts r ∧ ∃ ds : List ℕ,
    (processEpReq pipe sts r b).1 = { b with log := ds.map .touch ++ b.log } ∧ ∀ d ∈ ds, d ∈ (b.reqs r).dtds := by
  have hreads := scanTds_reads (pipe % 2 == 1) sts (b.reqs r).dtds (b.reqs r).length
  unfold Books.verdict at hv ⊢
  unfold processEpReq
  dsimp only
  rw [foldl_touch]
  cases hs : (scanTds ..).1 with
  | uncomplete | failed => exact ⟨rfl,_,rfl,fun d hd => hreads d (mem_reverse.mp hd)⟩
  | complete actual => exact absurd hs (hv actual)

lemma touch_kept {ds : List ℕ} (h : Kept b) (hds : ∀ d ∈ ds, Out b.log d) :
  Kept { b with log := ds.map .touch ++ b.log } where
  sound := h.sound.touches hds
  fresh d hd := h.fresh d (by simpa using hd)
  held p r hr := by
    obtain ⟨d,hd,hout⟩ := h.held p r hr
    exact ⟨d,hd,Pool.out_touches.mpr hout⟩
  one := h.one
  nodup := h.nodup
  covered d hd := h.covered d (Pool.out_touches.mp hd)
  linked := h.linked
  status := h.status
  made := h.made

lemma processEpReq_kept (pipe : ℕ) (sts : ℕ → TdStatus) (h : Kept b) (hr : r ∈ b.queue p)
  (hv : ∀ actual, b.verdict pipe sts r ≠ .complete actual) :
  Kept (processEpReq pipe sts r b).1 ∧ (processEpReq pipe sts r b).2 = b.verdict pipe sts r ∧
  (processEpReq pipe sts r b).1.queue = b.queue ∧ (processEpReq pipe sts r b).1.reqs = b.reqs := by
  obtain ⟨hv,ds,e,hds⟩ := processEpReq_spec hv
  obtain ⟨d,hd,hout⟩ := h.held p r hr
  refine ⟨?_,hv,by rw [e],by rw [e]⟩
  rw [e]
  refine touch_kept h fun c hc => ?_
  have hc := hds c hc
  rw [hd,mem_singleton] at hc
  exact hc ▸ hout

def NoneComplete (verdict : ReqId → Verdict) : List ReqId → Prop
  | [] => True
  | r :: rs =>
    match verdict r with
    | .uncomplete => True
    | .failed _ => NoneComplete verdict rs
    | .complete _ => False

lemma NoneComplete.congr {v v' : ReqId → Verdict} : ∀ {rs : List ReqId}, NoneComplete v rs →
  (∀ r ∈ rs, v' r = v r) → NoneComplete v' rs
  | [], _, _ => trivial
  | r :: rs, h, hv => by
    unfold NoneComplete at h ⊢
    rw [hv r mem_cons_self]
    cases e : v r with
    | uncomplete => trivial
    | failed status =>
      rw [e] at h
      exact h.congr fun r' hr' => hv r' (mem_cons_of_mem r hr')
    | complete actual =>
      rw [e] at h
      exact h

lemma completeLoop_kept : ∀ (rs : List ReqId) {b : Books}, Kept b →
  b.queue pipe = rs → NoneComplete (b.verdict pipe sts) rs → Kept (completeLoop pipe sts rs b)
  | [], _, h, _, _ => h
  | r :: rs, b, h, hq, hnone => by
    have hr : r ∈ b.queue pipe := by
      rw [hq]
      exact mem_cons_self
    unfold NoneComplete at hnone
    unfold completeLoop
    dsimp only
    cases hv : b.verdict .. with
    | complete actual =>
      rw [hv] at hnone
      exact hnone.elim
    | uncomplete =>
      obtain ⟨hkept,hproc,-,-⟩ := processEpReq_kept pipe sts h hr (by simp [hv])
      rw [hproc,hv]
      exact hkept
    | failed status =>
      rw [hv] at hnone
      obtain ⟨hkept,hproc,hqueue,hreqs⟩ := processEpReq_kept pipe sts h hr (by simp [hv])
      rw [hproc,hv]
      refine completeLoop_kept rs (done_kept hkept (hqueue ▸ hr) status) ?_ (hnone.congr fun r' hr' => ?_)
      · rw [done_queue,update_self,hqueue,hq,erase_cons_head]
      · -- the requests behind it are as they were
        have hne : r' ≠ r := by
          rintro rfl
          have hnodup := h.nodup pipe
          rw [hq] at hnodup
          exact (nodup_cons.mp hnodup).1 hr'
        unfold Books.verdict
        rw [done_reqs pipe status _ hne,hreqs]

end Books

/-! ### Calls and interrupts -/

structure Good (s : State) : Prop where
  kept : Kept s.books
  runs : s.oops = false

def Call.Fits : Call → Prop
  | .queue _ _ length zero => Usb.Fits length zero
  | .dequeue _ _ => True
  | .disable _ => True

section Calls

variable {s : State}

lemma epQueue_cases (p n length : ℕ) (zero : Bool) (s : State) :
  ((epQueue p n length zero s).1 = s ∧ (epQueue p n length zero s).2 ≠ 0) ∨
  ((s.books.reqs (.gadget n)).linked = false ∧ (epQueue p n length zero s).2 = 0 ∧
    ∃ q : Req, q.length = length ∧ q.zero = zero ∧ q.actual = 0 ∧
      (epQueue p n length zero s).1.books = (submit p (.gadget n) (s.books.setReq (.gadget n) q)).1 ∧
      ((submit p (.gadget n) (s.books.setReq (.gadget n) q)).2 = true →
        (epQueue p n length zero s).1.oops = s.oops)) := by
  unfold epQueue
  dsimp only
  by_cases hl : (s.books.reqs (.gadget n)).linked = true
  · rw [if_pos hl]
    exact .inl ⟨rfl,show -EINVAL ≠ 0 by decide⟩
  · rw [if_neg hl]
    split
    · exact .inl ⟨rfl,show -EINVAL ≠ 0 by decide⟩
    · split
      · exact .inl ⟨rfl,show -EMSGSIZE ≠ 0 by decide⟩
      · split
        · exact .inl ⟨rfl,show -ESHUTDOWN ≠ 0 by decide⟩
        · refine .inr ⟨Bool.eq_false_iff.mpr hl,?_,{ s.books.reqs (.gadget n) with
            length := length, zero := zero, status := -EINPROGRESS, actual := 0 },rfl,rfl,rfl,?_,fun hok => ?_⟩
          · split <;> rfl
          · split <;> rfl
          · rw [if_pos hok]

lemma epQueue_good (h : Good s) {p n length : ℕ} {zero : Bool} (hfits : Fits length zero) :
  Good (epQueue p n length zero s).1 ∧
    (.status ∉ s.books.queue 0 → .status ∉ (epQueue p n length zero s).1.books.queue 0) := by
  rcases epQueue_cases .. with ⟨e,-⟩ | ⟨hl,-,q,hlength,hzero,hactual,e,hoops⟩
  · rw [e]
    exact ⟨h,id⟩
  · have hfree : ∀ p, .gadget n ∉ s.books.queue p := by
      intro p hp
      rw [h.kept.linked p _ hp] at hl
      cases hl
    obtain ⟨hok,hkept,hqueue⟩ := submit_kept h.kept p hfree (by rwa [hlength,hzero]) hactual
      (fun e => by cases e) (fun n e => by cases e)
    refine ⟨⟨e ▸ hkept,(hoops hok).trans h.runs⟩,fun hno => ?_⟩
    rw [e,hqueue]
    by_cases hp : 0 = p
    · subst hp
      simpa using hno
    · rwa [update_of_ne hp]

lemma epDequeue_good (h : Good s) (p n : ℕ) :
  Good (epDequeue p n s).1 ∧ (.status ∉ s.books.queue 0 → .status ∉ (epDequeue p n s).1.books.queue 0) := by
  unfold epDequeue
  split_ifs with hr
  · exact ⟨⟨done_kept h.kept hr _,h.runs⟩,fun hno hin => hno (mem_of_done hin)⟩
  · exact ⟨h,id⟩

lemma epDisable_good (h : Good s) (p : ℕ) :
  Good (epDisable p s).1 ∧ (.status ∉ s.books.queue 0 → .status ∉ (epDisable p s).1.books.queue 0) := by
  unfold epDisable
  split_ifs
  · exact ⟨h,id⟩
  · exact ⟨⟨(nuke_kept h.kept ..).1,h.runs⟩,fun hno hin => hno (mem_of_nuke hin)⟩

lemma call_good (h : Good s) {c : Call} (hc : c.Fits) :
  Good (call s c) ∧ (.status ∉ s.books.queue 0 → .status ∉ (call s c).books.queue 0) := by
  unfold call
  rw [if_neg (by simp [h.runs])]
  cases c with
  | queue p n length zero => exact epQueue_good h hc
  | dequeue p n => exact epDequeue_good h ..
  | disable p => exact epDisable_good h p

variable {g : Gadget}

lemma driverSetup_good (hg : ∀ c ∈ g.calls, c.Fits) (h : Good s) (hno : .status ∉ s.books.queue 0) :
  Good (driverSetup g s) ∧ .status ∉ (driverSetup g s).books.queue 0 := by
  have hloop : ∀ (cs : List ..) {s : State}, (∀ c ∈ cs, c.Fits) → Good s → .status ∉ s.books.queue 0 →
      Good (cs.foldl call s) ∧ .status ∉ (cs.foldl call s).books.queue 0 := by
    intro cs
    induction cs with
    | nil => exact fun _ h hno => ⟨h,hno⟩
    | cons c cs ih =>
      intro s hcs h hno
      obtain ⟨hgood,hno'⟩ := call_good h (hcs c mem_cons_self)
      exact ih (fun c' hc' => hcs c' (mem_cons_of_mem c hc')) hgood (hno' hno)
  exact hloop g.calls hg h hno

/-! ### ep0 -/

lemma Good.of_books {s' : State} (h : Good s) (hbooks : s'.books = s.books) (hoops : s'.oops = s.oops) : Good s' :=
  ⟨hbooks ▸ h.kept, hoops.trans h.runs⟩

lemma submitEp0_good (h : Good s) {r : ReqId} {length : ℕ} (hr : ∀ p, r ∉ s.books.queue p)
  (hmade : ∀ n, r = .getStatus n → n < s.books.made) (hfits : Fits length false) : Good (submitEp0 r length s) := by
  obtain ⟨hok,hkept,-⟩ := submit_kept h.kept 0
    (q := { s.books.reqs r with length := length, zero := false, status := -EINPROGRESS, actual := 0 })
    hr hfits rfl (fun _ => rfl) hmade
  refine ⟨hkept,?_⟩
  show (!_) = false
  rw [hok]
  rfl

lemma ep0PrimeStatus_good (h : Good s) (dirIn : Bool) (hno : .status ∉ s.books.queue 0) :
  Good (ep0PrimeStatus dirIn s) := by
  have hfree : ∀ p, .status ∉ s.books.queue p := by
    intro p hp
    obtain rfl := h.kept.status p hp
    exact hno hp
  exact submitEp0_good (s := { s with ctl := { s.ctl with ep0State := .waitForOutStatus, ep0DirIn := dirIn } })
    (h.of_books rfl rfl) hfree (fun n e => by cases e) (.inl (by decide))

lemma ch9GetStatus_good (h : Good s) : Good (ch9GetStatus s) := by
  have hk := h.kept
  have hmade : Kept { s.books with made := s.books.made + 1 } :=
    ⟨hk.sound,hk.fresh,hk.held,hk.one,hk.nodup,hk.covered,hk.linked,hk.status,
      fun p n hn => Nat.lt_succ_of_lt (hk.made p n hn)⟩
  have hgood : Good { s with
      books := { s.books with made := s.books.made + 1 }
      ctl := { s.ctl with ep0State := .dataStateXmit } } := ⟨hmade,h.runs⟩
  refine submitEp0_good hgood (fun p hp => ?_) (fun n hn => ?_) (.inl (by decide))
  · exact Nat.lt_irrefl _ (hk.made p _ hp)
  · obtain rfl := ReqId.getStatus.inj hn
    exact Nat.lt_succ_self _

lemma epSetHalt_books (p : ℕ) (value : Bool) (s : State) :
  (epSetHalt p value s).1.books = s.books ∧ (epSetHalt p value s).1.oops = s.oops := by
  unfold epSetHalt
  dsimp only
  split
  · exact ⟨rfl,rfl⟩
  · split_ifs <;> exact ⟨rfl,rfl⟩

lemma feature_good (u : Setup) (h : Good s) (hno : .status ∉ s.books.queue 0) : Good (feature u s) := by
  unfold feature
  dsimp only
  obtain ⟨hbooks,hoops⟩ := epSetHalt_books ..
  split_ifs
  · exact h
  · exact ep0PrimeStatus_good (h.of_books hbooks hoops) true (by rwa [hbooks])
  · exact h.of_books hbooks hoops
  · exact ep0PrimeStatus_good h true hno
  · exact h

lemma unhandled_good (u : Setup) (hg : ∀ c ∈ g.calls, c.Fits) (h : Good s)
  (hno : .status ∉ s.books.queue 0) : Good (unhandled u g s) := by
  have hsetup := (driverSetup_good hg h hno).1
  unfold unhandled
  dsimp only
  split_ifs
  · exact hsetup
  · exact hsetup.of_books rfl rfl
  all_goals exact hsetup.of_books rfl rfl

lemma askDriver_good (hg : ∀ c ∈ g.calls, c.Fits) (st : Option Ep0State) (h : Good s)
  (hno : .status ∉ s.books.queue 0) : Good (askDriver g st s) ∧ .status ∉ (askDriver g st s).books.queue 0 := by
  obtain ⟨hsetup,hno'⟩ := driverSetup_good hg (s := { s with ctl := { s.ctl with ep0DirIn := true } })
    (h.of_books rfl rfl) hno
  unfold askDriver
  dsimp only
  split_ifs
  · exact ⟨hsetup,hno'⟩
  · exact ⟨hsetup,hno'⟩
  · exact ⟨hsetup.of_books rfl rfl,hno'⟩

lemma setupReceivedIrq_good (u : Setup) (hg : ∀ c ∈ g.calls, c.Fits) (h : Good s) :
  Good (setupReceivedIrq u g s) := by
  -- the queue of ep0 is empty first
  obtain ⟨hkept,hempty⟩ := nuke_kept h.kept ..
  have hgood : Good { s with
      books := nuke ..
      ctl := { s.ctl with ep0DirIn := u.bRequestType &&& USB_DIR_IN != 0 } } := ⟨hkept,h.runs⟩
  have hno : .status ∉ (nuke 0 (-ECONNRESET) s.books).queue 0 := by
    rw [hempty]
    exact not_mem_nil
  have hask := fun st => askDriver_good hg st hgood hno
  have hrest := unhandled_good u hg hgood hno
  unfold setupReceivedIrq
  dsimp only
  split_ifs
  · exact (hask _).1
  · exact hrest
  · exact hgood
  · exact ch9GetStatus_good hgood
  · exact hgood
  · exact ep0PrimeStatus_good hgood true hno
  · exact hgood
  · exact (hask _).1
  · exact hgood
  · exact (hask ..).1
  · exact feature_good u (hask ..).1 (hask ..).2
  · exact (hask ..).1
  · exact feature_good u hgood hno
  · exact hrest
  · exact hrest

lemma ep0ReqComplete_good {r : ReqId} {rs : List ReqId} (h : Good s) (hq : s.books.queue 0 = r :: rs)
  (hno : s.ctl.ep0State = .dataStateXmit ∨ s.ctl.ep0State = .dataStateRecv → .status ∉ rs) :
  Good (ep0ReqComplete r s) := by
  have hr : r ∈ s.books.queue 0 := by
    rw [hq]
    exact mem_cons_self
  have hgood : Good { s with books := done .. } := ⟨done_kept h.kept hr 0,h.runs⟩
  have hqueue : (done 0 r 0 s.books).queue 0 = rs := by
    rw [done_queue,update_self,hq,erase_cons_head]
  unfold ep0ReqComplete
  cases hst : s.ctl.ep0State with
  | dataStateXmit => exact ep0PrimeStatus_good hgood false (by rw [hqueue]; exact hno (.inl hst))
  | dataStateRecv => exact ep0PrimeStatus_good hgood true (by rw [hqueue]; exact hno (.inr hst))
  | waitForOutStatus => exact hgood.of_books rfl rfl
  | waitForSetup => exact h
  | dataStateNeedZlp => exact h.of_books rfl rfl

lemma resetQueues_kept {b : Books} (h : Kept b) : Kept (resetQueues b) := by
  unfold resetQueues
  generalize List.range .. = pipes
  induction pipes generalizing b with
  | nil => exact h
  | cons pipe pipes ih => exact ih (nuke_kept h ..).1

lemma resetIrq_good (h : Good s) : Good (resetIrq s) := by
  have hbooks : (resetIrq s).books = resetQueues s.books := by simp only [resetIrq]
  have hoops : (resetIrq s).oops = s.oops := by simp only [resetIrq]
  refine ⟨?_,hoops.trans h.runs⟩
  rw [hbooks]
  exact resetQueues_kept h.kept

end Calls

/-! ### Runs -/

def ScanOk (s : State) (pipe : ℕ) (sts : ℕ → TdStatus) : Prop :=
  if pipe / 2 = 0 then
    match s.books.queue (epByPipe pipe) with
    | [] => True
    | r :: rs =>
      match s.books.verdict pipe sts r with
      | .uncomplete => True
      | .failed _ => s.ctl.ep0State = .dataStateXmit ∨ s.ctl.ep0State = .dataStateRecv → .status ∉ rs
      | .complete _ => False
  else NoneComplete (s.books.verdict pipe sts) (s.books.queue pipe)

def Ok (s : State) : Event → Prop
  | .call c => c.Fits
  | .setup _ g => ∀ c ∈ g.calls, c.Fits
  | .reset => True
  | .complete pipe sts => ScanOk s pipe sts

lemma dtdComplete_good {s : State} {pipe : ℕ} {sts : ℕ → TdStatus} (h : Good s) (hok : ScanOk s pipe sts) :
  Good (dtdComplete pipe sts s) := by
  unfold ScanOk at hok
  unfold dtdComplete
  split_ifs at hok ⊢ with hp
  · have hep : epByPipe pipe = 0 := by
      unfold epByPipe
      split_ifs with h1
      · rfl
      · omega
    rw [hep] at hok ⊢
    cases hq : s.books.queue 0 with
    | nil => exact h
    | cons r rs =>
      simp only [hq] at hok ⊢
      have hr : r ∈ s.books.queue 0 := by
        rw [hq]
        exact mem_cons_self
      cases hv : s.books.verdict pipe sts r with
      | complete actual => simp [hv] at hok
      | uncomplete =>
        obtain ⟨hkept,hproc,-,-⟩ := processEpReq_kept pipe sts h.kept hr (by simp [hv])
        rw [hproc,hv,if_pos rfl]
        exact ⟨hkept,h.runs⟩
      | failed status =>
        obtain ⟨hkept,hproc,hqueue,-⟩ := processEpReq_kept pipe sts h.kept hr (by simp [hv])
        simp only [hv] at hok
        rw [hproc,hv,if_neg (by simp)]
        exact ep0ReqComplete_good ⟨hkept,h.runs⟩
          (by rw [← hq,← hqueue]) hok
  · exact ⟨completeLoop_kept _ h.kept rfl hok,h.runs⟩

lemma good_act {s : State} {e : Event} (h : Good s) (hok : Ok s e) : Good (act s e) := by
  cases e with
  | call c => exact (call_good h hok).1
  | setup u g =>
    show Good (if s.oops = true then s else setupReceivedIrq ..)
    rw [if_neg (by simp [h.runs])]
    exact setupReceivedIrq_good u hok h
  | reset =>
    show Good (if s.oops = true then s else resetIrq s)
    rw [if_neg (by simp [h.runs])]
    exact resetIrq_good h
  | complete pipe sts =>
    show Good (if s.oops = true then s else dtdComplete ..)
    rw [if_neg (by simp [h.runs])]
    exact dtdComplete_good h hok

def Returned (s : State) : Prop :=
  Sound s.books.log ∧ ∀ d, Out s.books.log d → ∃ p, ∃ r ∈ s.books.queue p, d ∈ (s.books.reqs r).dtds

/-- **Descriptors are returned exactly once**. -/
theorem descriptors_run (ctl : Control) (l : List Event) (h : Run.AllSteps step Ok (start ctl) l) :
  Run.AllStates step Returned (start ctl) l := by
  refine Run.AllSteps.keeps (J := Good) ?_ ?_ h ⟨kept_start ctl,rfl⟩
  · intro e s s' hgood hok hs
    cases hs
    exact good_act hgood hok
  · intro s hgood
    refine ⟨hgood.kept.sound,fun d hd => ?_⟩
    obtain ⟨p,r,hr,e⟩ := hgood.kept.covered d hd
    exact ⟨p,r,hr,by rw [e]; exact mem_singleton_self d⟩

def bulk : Control where
  desc _ := some ⟨false, 512⟩
  ep0State := .waitForSetup
  ep0DirIn := false
  running := true
  isOtg := false

/-- A transfer that halted, one that is dequeued, a new address, and a reset. -/
theorem descriptors_halted : Run.AllStates step Returned (start bulk)
  [.call (.queue 2 0 64 false), .complete 2 (fun _ => ⟨false, true, false, false, 64⟩), .call (.queue 3 1 64 false),
    .call (.dequeue 3 1), .setup ⟨0, 5, 7, 0, 0⟩ ⟨[], 0⟩, .reset] := by
  refine descriptors_run bulk _ ⟨.inl (by decide),fun s e => ?_⟩
  cases e
  refine ⟨trivial,fun s e => ⟨.inl (by decide),fun s' e' => ⟨trivial,fun s'' e'' => ⟨?_,fun _ _ => ?_⟩⟩⟩⟩
  · intro c hc
    cases hc
  · exact ⟨trivial,fun _ _ => trivial⟩

/-- A transfer of 64 bytes that is complete: its descriptor is returned twice. -/
theorem freed_twice : ¬Run.AllStates step Returned (start bulk)
  [.call (.queue 2 0 64 false), .complete 2 (fun _ => ⟨false, false, false, false, 0⟩)] := by
  rintro ⟨-,h⟩
  obtain ⟨-,h⟩ := h _ rfl
  exact absurd (h _ rfl).1 (by decide)

end Mx27.Usb
