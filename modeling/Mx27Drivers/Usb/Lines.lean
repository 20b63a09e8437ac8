/-
# The lines of the queue heads
-/
import Mx27Drivers.Usb.Reach

namespace Mx27.Usb

open List Function

open PtrList (Reach Linked)

namespace Bus

structure Fed (x : Bus) (r : ReqId) : Prop where
  active : (x.td (x.place r)).active = true
  within : (x.td (x.place r)).size = 0 ∨ x.window r = some ((x.td (x.place r)).start, (x.td (x.place r)).size)

structure Wired (x : Bus) : Prop where
  runs : x.drv.oops = false
  held : ∀ p, ∀ r ∈ x.drv.books.queue p, ∃ d < x.drv.books.count, (x.drv.books.reqs r).dtds = [d]
  alone : ∀ p p' r, r ∈ x.drv.books.queue p → r ∈ x.drv.books.queue p' → p = p'
  nodup : ∀ p, (x.drv.books.queue p).Nodup
  linked : ∀ p, ∀ r ∈ x.drv.books.queue p, (x.drv.books.reqs r).linked = true
  status : ∀ p, .status ∈ x.drv.books.queue p → p = 0
  out : ∀ p, ∀ r ∈ x.drv.books.queue p, x.out (x.place r) = true
  apart : ∀ p p', ∀ r ∈ x.drv.books.queue p, ∀ r' ∈ x.drv.books.queue p', x.place r = x.place r' → r = r'
  oneWay : x.head 0 = none ∨ x.head 1 = none
  line : ∀ i, ∃ rs, rs <:+ x.drv.books.queue (epByPipe i) ∧ Linked x.next (x.head i) (rs.map x.place) ∧
    ∀ r ∈ rs, x.Fed r

lemma wired_start (ctl : Control) (statusDma : ℕ) : Wired (start ctl statusDma) where
  runs := rfl
  held _ _ h := by cases h
  alone _ _ _ h := by cases h
  nodup _ := nodup_nil
  linked _ _ h := by cases h
  status _ h := by cases h
  out _ _ h := by cases h
  apart _ _ _ h := by cases h
  oneWay := .inl rfl
  line _ := ⟨[], suffix_rfl, rfl, fun _ h => by cases h⟩

section Wired

variable {x y : Bus} {p : ℕ} {r : ReqId}

lemma Wired.live (h : Wired x) : Live x := by
  intro i a hreach hactive b hb hb'
  obtain ⟨rs,hsuffix,hlinked,hfed⟩ := h.line i
  obtain ⟨r,hr,rfl⟩ := List.mem_map.mp (hlinked.reach_iff.mp hreach)
  refine ⟨r,hsuffix.subset hr,?_⟩
  rcases (hfed r hr).within with h0 | hw
  · omega
  · exact ⟨_,hw,hb,hb'⟩

lemma Wired.of_drv {s : State} (h : Wired x) (hbooks : s.books = x.drv.books) (hoops : s.oops = false) :
  Wired { x with drv := s } := by
  obtain ⟨b,c,o⟩ := s
  obtain rfl : b = x.drv.books := hbooks
  refine ⟨hoops,h.held,h.alone,h.nodup,h.linked,h.status,h.out,h.apart,h.oneWay,fun i => ?_⟩
  obtain ⟨rs,hsuffix,hlinked,hfed⟩ := h.line i
  exact ⟨rs,hsuffix,hlinked,fun r hr => ⟨(hfed r hr).active,(hfed r hr).within⟩⟩

lemma Wired.of_window {window : ReqId → Option (ℕ × ℕ)} {mapped : ReqId → Bool} (h : Wired x)
  (hw : ∀ p, ∀ r ∈ x.drv.books.queue p, window r = x.window r) :
  Wired { x with window := window, mapped := mapped } := by
  refine ⟨h.runs,h.held,h.alone,h.nodup,h.linked,h.status,h.out,h.apart,h.oneWay,fun i => ?_⟩
  obtain ⟨rs,hsuffix,hlinked,hfed⟩ := h.line i
  refine ⟨rs,hsuffix,hlinked,fun r hr => ⟨(hfed r hr).active,?_⟩⟩
  show _ ∨ window r = _
  rw [hw _ r (hsuffix.subset hr)]
  exact (hfed r hr).within

lemma Unreached.not_mem {i : ℕ} {rs : List ReqId} (hr : x.Unreached r) (h : Linked x.next (x.head i) (rs.map x.place)) :
  r ∉ rs := fun hmem => hr i (h.reach_iff.mpr (List.mem_map.mpr ⟨r, hmem, rfl⟩))

lemma Wired.unreached (h : Wired x) (hr : r ∈ x.drv.books.queue p) (hidle : (x.td (x.place r)).active = false) :
  x.Unreached r := by
  intro i hreach
  obtain ⟨rs,hsuffix,hlinked,hfed⟩ := h.line i
  obtain ⟨r',hr',e⟩ := List.mem_map.mp (hlinked.reach_iff.mp hreach)
  obtain rfl := h.apart _ _ r' (hsuffix.subset hr') r hr e
  exact Bool.false_ne_true (hidle.symm.trans (hfed r' hr').active)

/-! ### Requests that are retired -/

structure Scanned (r : ReqId) (x y : Bus) : Prop where
  books : SameBut r x.drv.books y.drv.books
  oops : y.drv.oops = x.drv.oops
  slot : y.slot = x.slot
  td : y.td = x.td
  head : y.head = x.head
  window : y.window = x.window
  out : ∀ a, a ≠ x.place r → y.out a = x.out a

lemma Scanned.refl (r : ReqId) (x : Bus) : Scanned r x x :=
  ⟨SameBut.refl r _, rfl, rfl, rfl, rfl, rfl, fun _ _ => rfl⟩

lemma scanned_scanned {d : ℕ} (pipe : ℕ) (sts : ℕ → TdStatus) (hd : (x.drv.books.reqs r).dtds = [d]) :
  Scanned r x (x.scanned pipe sts r) := by
  refine ⟨(processEpReq_processed pipe sts r x.drv.books).2.toSameBut,rfl,rfl,rfl,rfl,rfl,fun a ha => ?_⟩
  have hplace : x.place r = x.slot d := by simp [place,hd]
  unfold scanned
  dsimp only
  cases x.drv.books.verdict pipe sts r with
  | uncomplete => rfl
  | failed status => rfl
  | complete actual =>
    rw [hd]
    exact update_of_ne (hplace ▸ ha) _ _

lemma scanned_out (pipe : ℕ) (sts : ℕ → TdStatus) (hv : ∀ a, x.drv.books.verdict pipe sts r ≠ .complete a) :
  (x.scanned pipe sts r).out = x.out := by
  unfold scanned
  dsimp only
  split
  · exact absurd ‹_› (hv _)
  · rfl

lemma Scanned.place (h : Scanned r x y) (r' : ReqId) : y.place r' = x.place r' := by
  unfold Bus.place
  rw [h.slot]
  by_cases hr' : r' = r
  · rw [hr',h.books.dtds]
  · rw [h.books.reqs r' hr']

lemma Scanned.fed (h : Scanned r x y) {r' : ReqId} (hf : x.Fed r') : y.Fed r' := by
  obtain ⟨hactive,hwithin⟩ := hf
  refine ⟨?_,?_⟩ <;> rw [h.place,h.td]
  · exact hactive
  · rwa [h.window]

lemma Scanned.wired (h : Wired x) (hs : Scanned r x y) (hout : y.out = x.out) : Wired y := by
  have hnext : y.next = x.next := by
    unfold Bus.next
    rw [hs.td]
  have hreq : ∀ r', (y.drv.books.reqs r').dtds = (x.drv.books.reqs r').dtds ∧
      (y.drv.books.reqs r').linked = (x.drv.books.reqs r').linked := by
    intro r'
    by_cases hr' : r' = r
    · rw [hr']
      exact ⟨hs.books.dtds,hs.books.linked⟩
    · rw [hs.books.reqs r' hr']
      exact ⟨rfl,rfl⟩
  refine ⟨hs.oops.trans h.runs,?_,?_,?_,?_,?_,?_,?_,hs.head ▸ h.oneWay,fun i => ?_⟩ <;>
    simp only [hs.books.queue,hs.books.count]
  · intro p r' hr'
    rw [(hreq r').1]
    exact h.held p r' hr'
  · exact h.alone
  · exact h.nodup
  · intro p r' hr'
    rw [(hreq r').2]
    exact h.linked p r' hr'
  · exact h.status
  · intro p r' hr'
    rw [hout,hs.place]
    exact h.out p r' hr'
  · intro p p' r1 h1 r2 h2 e
    rw [hs.place,hs.place] at e
    exact h.apart p p' r1 h1 r2 h2 e
  · obtain ⟨rs,hsuffix,hlinked,hfed⟩ := h.line i
    refine ⟨rs,hsuffix,?_,fun r' hr' => hs.fed (hfed r' hr')⟩
    rw [hnext,hs.head,map_congr_left fun r' _ => hs.place r']
    exact hlinked

structure Retired (p : ℕ) (r : ReqId) (x y : Bus) : Prop where
  queue : y.drv.books.queue = Function.update x.drv.books.queue p ((x.drv.books.queue p).erase r)
  reqs : ∀ r', r' ≠ r → y.drv.books.reqs r' = x.drv.books.reqs r'
  count : y.drv.books.count = x.drv.books.count
  oops : y.drv.oops = x.drv.oops
  slot : y.slot = x.slot
  td : y.td = x.td
  head : y.head = x.head
  out : ∀ a, a ≠ x.place r → y.out a = x.out a
  window : ∀ r', r' ≠ r → y.window r' = x.window r'

lemma retire_retired {d : ℕ} (hs : Scanned r x y) (hd : (x.drv.books.reqs r).dtds = [d]) (p : ℕ) (status : ℤ) :
  Retired p r x (y.retire p r status) := by
  obtain ⟨_,-,hcount⟩ := done_req p r status y.drv.books
  have hplace : x.place r = x.slot d := by simp [Bus.place,hd]
  refine ⟨?_,fun r' hr' => ?_,hcount.trans hs.books.count,hs.oops,hs.slot,hs.td,hs.head,fun a ha => ?_,
    fun r' hr' => ?_⟩
  · show (done p r status y.drv.books).queue = _
    rw [done_queue,hs.books.queue]
  · show (done p r status y.drv.books).reqs r' = _
    rw [done_reqs p status _ hr',hs.books.reqs r' hr']
  · show ((y.drv.books.reqs r).dtds.head?.elim y.out fun d => Function.update y.out (y.slot d) false) a = _
    rw [hs.books.dtds,hd,hs.slot]
    exact (update_of_ne (hplace ▸ ha) _ _).trans (hs.out a ha)
  · show (if y.mapped r then Function.update y.window r none else y.window) r' = _
    rw [hs.window]
    split
    · exact update_of_ne hr' _ _
    · rfl

lemma Retired.place (h : Retired p r x y) {r' : ReqId} (hr' : r' ≠ r) : y.place r' = x.place r' := by
  unfold Bus.place
  rw [h.slot,h.reqs r' hr']

lemma suffix_erase {α : Type} [DecidableEq α] {a : α} {l s : List α} (h : s <:+ l) (ha : a ∉ s) : s <:+ l.erase a := by
  obtain ⟨t,rfl⟩ := h
  rw [erase_append]
  split
  · exact suffix_append _ _
  · rw [erase_of_not_mem ha]
    exact suffix_append _ _

lemma retired_wired (h : Wired x) (hr : r ∈ x.drv.books.queue p) (hun : x.Unreached r) (hs : Retired p r x y) :
  Wired y := by
  have hmem : ∀ {p' r'}, r' ∈ y.drv.books.queue p' → r' ∈ x.drv.books.queue p' ∧ r' ≠ r := by
    intro p' r' hr'
    rw [hs.queue] at hr'
    by_cases hp : p' = p
    · subst hp
      rw [update_self,(h.nodup p').mem_erase_iff] at hr'
      exact hr'.symm
    · rw [update_of_ne hp] at hr'
      exact ⟨hr',fun e => hp (h.alone p' p r (e ▸ hr') hr)⟩
  have hnext : y.next = x.next := by
    unfold Bus.next
    rw [hs.td]
  refine ⟨hs.oops.trans h.runs,fun p' r' hr' => ?_,fun p1 p2 r' h1 h2 => ?_,fun p' => ?_,fun p' r' hr' => ?_,
    fun p' hp' => ?_,fun p' r' hr' => ?_,fun p1 p2 r1 h1 r2 h2 e => ?_,hs.head ▸ h.oneWay,fun i => ?_⟩
  · obtain ⟨hr',hne⟩ := hmem hr'
    rw [hs.reqs r' hne,hs.count]
    exact h.held p' r' hr'
  · exact h.alone p1 p2 r' (hmem h1).1 (hmem h2).1
  · rw [hs.queue]
    by_cases hp : p' = p
    · subst hp
      rw [update_self]
      exact (h.nodup p').erase r
    · rw [update_of_ne hp]
      exact h.nodup p'
  · obtain ⟨hr',hne⟩ := hmem hr'
    rw [hs.reqs r' hne]
    exact h.linked p' r' hr'
  · exact h.status p' (hmem hp').1
  · obtain ⟨hr',hne⟩ := hmem hr'
    rw [hs.place hne,hs.out _ fun e => hne (h.apart p' p r' hr' r hr e)]
    exact h.out p' r' hr'
  · rw [hs.place (hmem h1).2,hs.place (hmem h2).2] at e
    exact h.apart p1 p2 r1 (hmem h1).1 r2 (hmem h2).1 e
  · obtain ⟨rs,hsuffix,hlinked,hfed⟩ := h.line i
    have hno := hun.not_mem hlinked
    have hne : ∀ r' ∈ rs, r' ≠ r := fun r' hr' e => hno (e ▸ hr')
    refine ⟨rs,?_,?_,fun r' hr' => ⟨?_,?_⟩⟩
    · rw [hs.queue]
      by_cases hp : epByPipe i = p
      · rw [hp,update_self]
        exact suffix_erase (hp ▸ hsuffix) hno
      · rwa [update_of_ne hp]
    · rw [hnext,hs.head,map_congr_left fun r' hr' => hs.place (hne r' hr')]
      exact hlinked
    · rw [hs.place (hne r' hr'),hs.td]
      exact (hfed r' hr').active
    · rw [hs.place (hne r' hr'),hs.td,hs.window r' (hne r' hr')]
      exact (hfed r' hr').within

/-! ### Requests that are queued -/

structure Attached (p i : ℕ) (r : ReqId) (dma length slot : ℕ) (x y : Bus) : Prop where
  runs : y.drv.oops = false
  new : ∀ p', r ∉ x.drv.books.queue p'
  queue : y.drv.books.queue = Function.update x.drv.books.queue p (x.drv.books.queue p ++ [r])
  reqs : ∀ r', r' ≠ r → y.drv.books.reqs r' = x.drv.books.reqs r'
  count : y.drv.books.count = x.drv.books.count + 1
  dtds : (y.drv.books.reqs r).dtds = [x.drv.books.count]
  linked : (y.drv.books.reqs r).linked = true
  free : x.out slot = false
  slots : y.slot = Function.update x.slot x.drv.books.count slot
  out : y.out = Function.update x.out slot true
  window : y.window = x.window
  stored : y.td slot = ⟨true, none, dma, length⟩
  others : ∀ a, a ≠ slot → (∀ last, (x.drv.books.queue p).getLast? = some last → a ≠ x.place last) → y.td a = x.td a
  last : ∀ last, (x.drv.books.queue p).getLast? = some last →
    y.td (x.place last) = { x.td (x.place last) with next := some slot }
  head : y.head = if !(x.drv.books.queue p).isEmpty && (x.head i).isSome then x.head
    else Function.update x.head i (some slot)

section Attach

variable {i dma length slot : ℕ} {after : State} {q : Req}

lemma Wired.place_ne (h : Wired x) (hfree : x.out slot = false) {p' : ℕ} {r' : ReqId}
  (hr' : r' ∈ x.drv.books.queue p') : x.place r' ≠ slot := by
  intro e
  have hout := h.out p' r' hr'
  rw [e,hfree] at hout
  cases hout

lemma attach_attached (h : Wired x) (hs : Submitted p r (x.drv.books.setReq r q) after.books)
  (hoops : after.oops = false) (hr : ∀ p', r ∉ x.drv.books.queue p')
  (e : x.attach p i r dma length slot after = some y) : Attached p i r dma length slot x y := by
  unfold attach at e
  rw [if_neg (by simp [hoops])] at e
  obtain ⟨hfree,e⟩ := Option.ite_none_left_eq_some.mp e
  replace hfree := Bool.eq_false_iff.mpr hfree
  obtain rfl := Option.some.inj e
  have hreqs : ∀ r', r' ≠ r → after.books.reqs r' = x.drv.books.reqs r' := fun r' hr' =>
    (hs.reqs r' hr').trans (update_of_ne hr' _ _)
  cases hl : (x.drv.books.queue p).getLast? with
  | none =>
    have hempty := getLast?_eq_none_iff.mp hl
    refine ⟨hoops,hr,hs.queue,hreqs,hs.count,hs.dtds,hs.linked,hfree,rfl,rfl,rfl,?_,fun a ha _ => ?_,
      fun last e => ?_,?_⟩
    · exact update_self ..
    · exact update_of_ne ha _ _
    · cases hl.symm.trans e
    · simp [hempty]
  | some last =>
    have hmem : last ∈ x.drv.books.queue p := mem_of_getLast? hl
    have hne : last ≠ r := fun e => hr p (e ▸ hmem)
    have hslot := h.place_ne hfree hmem
    have hempty : (x.drv.books.queue p).isEmpty = false := by
      rw [isEmpty_eq_false_iff]
      exact ne_nil_of_mem hmem
    refine ⟨hoops,hr,hs.queue,hreqs,hs.count,hs.dtds,hs.linked,hfree,rfl,rfl,rfl,?_,fun a ha hlast => ?_,
      fun last' e => ?_,?_⟩
    · simp [hne,hslot.symm]
    · simp [hne,ha,hlast last hl]
    · obtain rfl := Option.some.inj (hl.symm.trans e)
      simp [hne,hslot]
    · simp [hempty]

section

variable (h : Wired x) (ha : Attached p i r dma length slot x y)
include ha

lemma Attached.mem_iff (p' : ℕ) (r' : ReqId) :
  r' ∈ y.drv.books.queue p' ↔ r' ∈ x.drv.books.queue p' ∨ (p' = p ∧ r' = r) := by
  rw [ha.queue]
  by_cases hp : p' = p
  · subst hp
    simp
  · simp [hp]

variable {r' : ReqId}

lemma Attached.ne {p' : ℕ} (hr' : r' ∈ x.drv.books.queue p') : r' ≠ r := fun e => ha.new p' (e ▸ hr')

lemma Attached.place_new : y.place r = slot := by
  unfold Bus.place
  rw [ha.dtds,ha.slots]
  exact update_self ..

lemma Attached.next_new : y.next (y.place r) = none := by
  rw [ha.place_new]
  exact congrArg Dtd.next ha.stored

lemma Attached.head_other {j : ℕ} (hj : j ≠ i) : y.head j = x.head j := by
  rw [ha.head]
  split
  · rfl
  · exact update_of_ne hj _ _

include h

lemma Attached.place_old {p' : ℕ} (hr' : r' ∈ x.drv.books.queue p') : y.place r' = x.place r' := by
  obtain ⟨d,hd,hdt⟩ := h.held p' r' hr'
  unfold Bus.place
  rw [ha.reqs r' (ha.ne hr'),hdt,ha.slots]
  exact update_of_ne hd.ne _ _

lemma Attached.next_old {p' : ℕ} (hr' : r' ∈ x.drv.books.queue p')
  (hlast : (x.drv.books.queue p).getLast? ≠ some r') : y.next (x.place r') = x.next (x.place r') := by
  refine congrArg Dtd.next (ha.others _ (h.place_ne ha.free hr') fun last hl e => hlast ?_)
  rw [hl,h.apart p' p r' hr' last (mem_of_getLast? hl) e]

lemma Attached.fed_old {p' : ℕ} (hr' : r' ∈ x.drv.books.queue p') (hf : x.Fed r') : y.Fed r' := by
  obtain ⟨nx,htd⟩ : ∃ nx, y.td (x.place r') = { x.td (x.place r') with next := nx } := by
    by_cases hl : (x.drv.books.queue p).getLast? = some r'
    · exact ⟨_,ha.last r' hl⟩
    · refine ⟨_,ha.others _ (h.place_ne ha.free hr') fun last hl' e => hl ?_⟩
      rw [hl',h.apart p' p r' hr' last (mem_of_getLast? hl') e]
  refine ⟨?_,?_⟩ <;> rw [ha.place_old h hr',htd]
  · exact hf.active
  · rw [ha.window]
    exact hf.within

lemma Attached.line_other {j : ℕ} (hi : epByPipe i = p) (hj : epByPipe j ≠ p) :
  ∃ rs, rs <:+ y.drv.books.queue (epByPipe j) ∧ Linked y.next (y.head j) (rs.map y.place) ∧ ∀ r' ∈ rs, y.Fed r' := by
  obtain ⟨rs,hsuffix,hlinked,hfed⟩ := h.line j
  refine ⟨rs,?_,?_,fun r' hr' => ha.fed_old h (hsuffix.subset hr') (hfed r' hr')⟩
  · rw [ha.queue,update_of_ne hj]
    exact hsuffix
  · have hji : j ≠ i := by
      rintro rfl
      exact hj hi
    rw [ha.head_other hji,map_congr_left fun r' hr' => ha.place_old h (hsuffix.subset hr')]
    refine hlinked.congr fun a hm => ?_
    obtain ⟨r',hr',rfl⟩ := List.mem_map.mp hm
    exact ha.next_old h (hsuffix.subset hr') fun hl =>
      hj (h.alone _ _ r' (hsuffix.subset hr') (mem_of_getLast? hl))

lemma Attached.line_own (hi : epByPipe i = p) (hfed : y.Fed r) :
  ∃ rs, rs <:+ y.drv.books.queue (epByPipe i) ∧ Linked y.next (y.head i) (rs.map y.place) ∧ ∀ r' ∈ rs, y.Fed r' := by
  rw [hi,ha.queue,update_self]
  by_cases hprimed : (!(x.drv.books.queue p).isEmpty && (x.head i).isSome) = true
  · -- the endpoint is primed, and the last descriptor in line is that of the last request
    obtain ⟨rs,hsuffix,hlinked,hfeds⟩ := h.line i
    rw [hi] at hsuffix
    obtain ⟨rs,last,rfl⟩ : ∃ rs' last, rs = rs' ++ [last] := by
      rcases eq_nil_or_concat rs with rfl | ⟨rs',last,rfl⟩
      · have hnone : x.head i = none := hlinked
        simp [hnone] at hprimed
      · exact ⟨rs',last,concat_eq_append⟩
    obtain ⟨pre,hpre⟩ := hsuffix
    have hl : (x.drv.books.queue p).getLast? = some last := by
      rw [← hpre]
      simp
    have hmem : ∀ r' ∈ rs ++ [last], r' ∈ x.drv.books.queue p := fun r' hr' => by
      rw [← hpre]
      exact mem_append_right pre hr'
    have hlastmem : last ∈ x.drv.books.queue p := hmem last (by simp)
    have hnodup : (rs ++ [last]).Nodup := by
      have := h.nodup p
      rw [← hpre] at this
      exact this.of_append_right
    have hnot : ∀ r' ∈ rs, r' ≠ last := fun r' hr' e => by
      rw [nodup_append] at hnodup
      exact hnodup.2.2 r' hr' last (by simp) e
    refine ⟨rs ++ [last] ++ [r],⟨pre,by rw [← List.append_assoc,hpre]⟩,?_,fun r' hr' => ?_⟩
    · have hhead : y.head i = x.head i := by rw [ha.head,if_pos hprimed]
      have hmap : (rs ++ [last] ++ [r]).map y.place = rs.map x.place ++ [x.place last] ++ [slot] := by
        rw [map_append,map_congr_left fun r' hr' => ha.place_old h (hmem r' hr')]
        simp [ha.place_new]
      have hend : Function.update x.next slot none slot = none := update_self ..
      have hsnoc := PtrList.Linked.snoc hend (h.place_ne ha.free hlastmem) (l := rs.map x.place) (p := x.head i)
        (PtrList.Linked.congr (by simpa using hlinked) fun a hm => ?_) ?_
      · rw [hhead,hmap]
        refine hsnoc.congr fun a hm => ?_
        by_cases halast : a = x.place last
        · rw [halast,update_self]
          exact congrArg Dtd.next (ha.last last hl)
        rw [update_of_ne halast]
        by_cases haslot : a = slot
        · rw [haslot,update_self]
          exact congrArg Dtd.next ha.stored
        rw [update_of_ne haslot]
        refine congrArg Dtd.next (ha.others a haslot fun last' hl' => ?_)
        obtain rfl := Option.some.inj (hl.symm.trans hl')
        exact halast
      · refine update_of_ne ?_ _ _
        rw [← map_singleton,← map_append] at hm
        obtain ⟨r',hr',rfl⟩ := List.mem_map.mp hm
        exact h.place_ne ha.free (hmem r' hr')
      · intro hm
        obtain ⟨r',hr',e⟩ := List.mem_map.mp hm
        exact hnot r' hr' (h.apart p p r' (hmem r' (mem_append_left _ hr')) last hlastmem e)
    · rcases mem_append.mp hr' with hr' | hr'
      · exact ha.fed_old h (hmem r' hr') (hfeds r' hr')
      · obtain rfl := mem_singleton.mp hr'
        exact hfed
  · refine ⟨[r],suffix_append _ _,?_,fun r' hr' => ?_⟩
    · rw [ha.head,if_neg hprimed,update_self]
      exact ⟨congrArg some ha.place_new.symm,ha.next_new⟩
    · obtain rfl := mem_singleton.mp hr'
      exact hfed

lemma Attached.wired (hstatus : r = .status → p = 0) (hi : epByPipe i = p)
  (hone : ∀ j, j ≠ i → epByPipe j = p → x.head j = none) (hfed : length = 0 ∨ x.window r = some (dma, length)) :
  Wired y := by
  have hmem := ha.mem_iff
  have hfednew : y.Fed r := by
    refine ⟨?_,?_⟩ <;> rw [ha.place_new,ha.stored]
    rw [ha.window]
    exact hfed
  refine ⟨ha.runs,fun p' r' hr' => ?_,fun p1 p2 r' h₁ h2 => ?_,fun p' => ?_,fun p' r' hr' => ?_,
    fun p' hp' => ?_,fun p' r' hr' => ?_,fun p1 p2 r1 h₁ r2 h2 e => ?_,?_,fun j => ?_⟩
  · rw [ha.count]
    rcases (hmem p' r').mp hr' with hr' | ⟨rfl,rfl⟩
    · obtain ⟨d,hd,hdt⟩ := h.held p' r' hr'
      exact ⟨d,Nat.lt_succ_of_lt hd,by rw [ha.reqs r' (ha.ne hr'),hdt]⟩
    · exact ⟨_,Nat.lt_succ_self _,ha.dtds⟩
  · rcases (hmem p1 r').mp h₁ with h₁ | ⟨rfl,rfl⟩ <;> rcases (hmem p2 r').mp h2 with h2 | ⟨rfl,e⟩
    · exact h.alone p1 p2 r' h₁ h2
    · exact absurd e (ha.ne h₁)
    · exact absurd h2 (ha.new p2)
    · rfl
  · rw [ha.queue]
    by_cases hp : p' = p
    · subst hp
      rw [update_self]
      exact (h.nodup p').append (nodup_singleton r) (disjoint_singleton.mpr (ha.new p'))
    · rw [update_of_ne hp]
      exact h.nodup p'
  · rcases (hmem p' r').mp hr' with hr' | ⟨rfl,rfl⟩
    · rw [ha.reqs r' (ha.ne hr')]
      exact h.linked p' r' hr'
    · exact ha.linked
  · rcases (hmem p' .status).mp hp' with hp' | ⟨rfl,e⟩
    · exact h.status p' hp'
    · exact hstatus e.symm
  · rw [ha.out]
    rcases (hmem p' r').mp hr' with hr' | ⟨rfl,rfl⟩
    · rw [ha.place_old h hr',update_of_ne (h.place_ne ha.free hr')]
      exact h.out p' r' hr'
    · rw [ha.place_new,update_self]
  · rcases (hmem p1 r1).mp h₁ with h₁ | ⟨rfl,rfl⟩ <;> rcases (hmem p2 r2).mp h2 with h2 | ⟨rfl,rfl⟩
    · rw [ha.place_old h h₁,ha.place_old h h2] at e
      exact h.apart p1 p2 r1 h₁ r2 h2 e
    · rw [ha.place_old h h₁,ha.place_new] at e
      exact absurd e (h.place_ne ha.free h₁)
    · rw [ha.place_old h h2,ha.place_new] at e
      exact absurd e.symm (h.place_ne ha.free h2)
    · rfl
  · by_cases h0 : i = 0
    · subst h0
      exact .inr ((ha.head_other (by decide)).trans (hone 1 (by decide) hi))
    · by_cases h1 : i = 1
      · subst h1
        exact .inl ((ha.head_other (by decide)).trans (hone 0 (by decide) hi))
      · rw [ha.head_other (Ne.symm h0),ha.head_other (Ne.symm h1)]
        exact h.oneWay
  · by_cases hj : epByPipe j = p
    · by_cases hji : j = i
      · rw [hji]
        exact ha.line_own h hi hfednew
      · -- the other direction of ep0
        refine ⟨[],nil_suffix,?_,fun r' hr' => by cases hr'⟩
        exact (ha.head_other hji).trans (hone j hji hj)
    · exact ha.line_other h hi hj

end

end Attach

/-! ### The controller goes on -/

lemma epByPipe_eq {i j : ℕ} (h : epByPipe i = epByPipe j) : i = j ∨ (i = 0 ∧ j = 1) ∨ (i = 1 ∧ j = 0) := by
  unfold epByPipe at h
  split_ifs at h <;> omega

lemma Wired.pass {i a : ℕ} {head : Option ℕ} (h : Wired x) (ha : x.head i = some a)
  (hhead : head = x.next a ∨ head = none) :
  Wired { x with
    td := Function.update x.td a { x.td a with active := false }
    head := Function.update x.head i head } := by
  have hnext : ∀ b, (Function.update x.td a { x.td a with active := false } b).next = (x.td b).next := by
    intro b
    by_cases hb : b = a
    · rw [hb,update_self]
    · rw [update_of_ne hb]
  obtain ⟨rs,hsuffix,hlinked,hfed⟩ := h.line i
  obtain ⟨r,rs,rfl⟩ : ∃ r rs', rs = r :: rs' := by
    cases rs with
    | nil => cases ha.symm.trans hlinked
    | cons r rs' => exact ⟨r,rs',rfl⟩
  obtain ⟨e,hlinked⟩ := hlinked
  obtain rfl : a = x.place r := Option.some.inj (ha.symm.trans e)
  have hr : r ∈ x.drv.books.queue (epByPipe i) := hsuffix.subset mem_cons_self
  have hnodup : (r :: rs).Nodup := (h.nodup _).sublist hsuffix.sublist
  -- the other descriptors in line are as they were
  have hkeep : ∀ p' r', r' ∈ x.drv.books.queue p' → r' ≠ r → x.Fed r' → Fed { x with
      td := Function.update x.td (x.place r) { x.td (x.place r) with active := false }
      head := Function.update x.head i head } r' := by
    intro p' r' hr' hne hf
    have htd : Function.update x.td (x.place r) { x.td (x.place r) with active := false } (x.place r') =
        x.td (x.place r') := update_of_ne (fun e => hne (h.apart p' _ r' hr' r hr e)) _ _
    refine ⟨?_,?_⟩
    · exact (congrArg Dtd.active htd).trans hf.active
    · have hwithin := hf.within
      rw [← htd] at hwithin
      exact hwithin
  have hother : ∀ j, j ≠ i → Function.update x.head i head j = x.head j := fun j hj => update_of_ne hj _ _
  refine ⟨h.runs,h.held,h.alone,h.nodup,h.linked,h.status,h.out,h.apart,?_,fun j => ?_⟩
  · by_cases h0 : i = 0
    · subst h0
      exact .inr ((hother 1 (by decide)).trans (h.oneWay.resolve_left (by simp [ha])))
    · by_cases h1 : i = 1
      · subst h1
        exact .inl ((hother 0 (by decide)).trans (h.oneWay.resolve_right (by simp [ha])))
      · show Function.update x.head i head 0 = none ∨ Function.update x.head i head 1 = none
        rw [hother 0 (Ne.symm h0),hother 1 (Ne.symm h1)]
        exact h.oneWay
  by_cases hj : j = i
  · subst hj
    rcases hhead with rfl | rfl
    · refine ⟨rs,(suffix_cons r rs).trans hsuffix,?_,fun r' hr' => ?_⟩
      · show Linked _ (Function.update x.head j _ j) _
        rw [update_self]
        exact hlinked.congr fun b _ => hnext b
      · refine hkeep _ r' (hsuffix.subset (mem_cons_of_mem r hr')) ?_ (hfed r' (mem_cons_of_mem r hr'))
        rintro rfl
        exact (nodup_cons.mp hnodup).1 hr'
    · exact ⟨[],nil_suffix,update_self ..,fun r' hr' => by cases hr'⟩
  · obtain ⟨rs',hsuffix',hlinked',hfed'⟩ := h.line j
    have hne : ∀ r' ∈ rs', r' ≠ r := by
      rintro r' hr' rfl
      have hp := h.alone _ _ r' (hsuffix'.subset hr') hr
      -- only the two directions of ep0 share a queue, and one of them has no line
      have hnone : x.head j = none := by
        rcases epByPipe_eq hp with e | ⟨rfl,rfl⟩ | ⟨rfl,rfl⟩
        · exact absurd e hj
        · exact h.oneWay.resolve_right (by simp [ha])
        · exact h.oneWay.resolve_left (by simp [ha])
      rw [hnone] at hlinked'
      exact PtrList.not_reach_none (hlinked'.reach_iff.mpr (List.mem_map.mpr ⟨r',hr',rfl⟩))
    refine ⟨rs',hsuffix',?_,fun r' hr' => hkeep _ r' (hsuffix'.subset hr') (hne r' hr') (hfed' r' hr')⟩
    show Linked _ (Function.update x.head i head j) _
    rw [hother j hj]
    exact hlinked'.congr fun b _ => hnext b

lemma Wired.transfer (h : Wired x) (i : ℕ) : Wired (x.transfer i) := by
  unfold Bus.transfer
  split
  · exact h
  · exact h.pass ‹_› (.inl rfl)

lemma Wired.halt (h : Wired x) (i : ℕ) : Wired (x.halt i) := by
  unfold Bus.halt
  split
  · exact h
  · exact h.pass ‹_› (.inr rfl)

end Wired

end Bus
end Mx27.Usb
