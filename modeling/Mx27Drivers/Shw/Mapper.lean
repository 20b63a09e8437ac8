/-
# Chains in kernel memory

`sah_memory_mapper.c` turns the pointers of a chain into bus addresses while it walks along them.
-/
import Mx27Drivers.Lib.PtrList
import Mx27Drivers.Shw.Wiped

namespace Mx27.Shw
namespace Mapper

open List Function

open PtrList (Linked)

inductive KPtr
  | virt (i : ℕ)
  | bus (i : ℕ)
  deriving DecidableEq

def KPtr.block : KPtr → ℕ
  | .virt i => i
  | .bus i => i

/-- `sah_Link` with its pointers to links; `dma_addr` is the bus address of the block. -/
structure Cell where
  link : Link
  next : Option KPtr
  originalNext : Option KPtr

structure Heap where
  cell : ℕ → Cell
  free : List ℕ

def Heap.set (h : Heap) (i : ℕ) (c : Cell) : Heap := { h with cell := Function.update h.cell i c }

def sahAllocLink (h : Heap) : Option (ℕ × Heap) :=
  match h.free with
  | [] => none
  | i :: free => some (i, { h with free := free })

def sahFreeLink (i : ℕ) (h : Heap) : Heap := { h with free := i :: h.free }

def busOf : Option KPtr → Option (Option KPtr)
  | none => some none
  | some (.virt i) => some (some (.bus i))
  | some (.bus _) => none

section
variable (e : Exec)

def physNext (i : ℕ) (h : Heap) : Option (Option KPtr × Heap) :=
  (busOf (h.cell i).next).map fun next =>
    ((h.cell i).next, h.set i { h.cell i with next := next, originalNext := (h.cell i).next })

def physLink (i : ℕ) (h : Heap) : Option (Option KPtr × Heap) :=
  let link := e.physical (h.cell i).link
  if link.Crosses then
    (sahAllocLink h).bind fun new =>
      physNext new.1 ((new.2.set i ⟨link.withLen link.toBorder, some (.bus new.1), some (.virt new.1)⟩).set new.1
        ⟨link.beyondBorder, (h.cell i).next, none⟩)
  else physNext i (h.set i { h.cell i with link := link })

def physLoop : ℕ → Option KPtr → Heap → Option Heap
  | _, none, h => some h
  | fuel + 1, some (.virt i), h => (physLink e i h).bind fun r => physLoop fuel r.1 r.2
  | _, some _, _ => none

def sahPhysicaliseLinks (fuel : ℕ) (firstLink : ℕ) (h : Heap) : Option (KPtr × Heap) :=
  (physLoop e fuel (some (.virt firstLink)) h).map fun h => (.bus firstLink, h)

end

def dephysLink (prev : Option ℕ) (i : ℕ) (h : Heap) : Option (ℕ × Heap) :=
  let link := (h.cell i).link.virtual
  let h := h.set i { h.cell i with link := link }
  if link.flags.inserted then
    prev.map fun p => (p, sahFreeLink i (h.set p
      ⟨(h.cell p).link.withLen ((h.cell p).link.len + link.len), (h.cell i).next, (h.cell i).originalNext⟩))
  else some (i, h)

def restore (ptr original : Option KPtr) : Option KPtr := if ptr = none then none else original

def dephysNext (i : ℕ) (h : Heap) : Option KPtr × Heap :=
  let next := restore (h.cell i).next (h.cell i).originalNext
  (next, h.set i { h.cell i with next := next })

def sahDePhysicaliseLinks : ℕ → Option ℕ → Option KPtr → Heap → Option Heap
  | _, _, none, h => some h
  | fuel + 1, prev, some (.virt i), h => (dephysLink prev i h).bind fun r =>
    sahDePhysicaliseLinks fuel (some r.1) (dephysNext r.1 r.2).1 (dephysNext r.1 r.2).2
  | _, _, some _, _ => none

structure DescCell where
  ptr1 : Option KPtr
  ptr2 : Option KPtr
  next : Option KPtr
  originalPtr1 : Option KPtr
  originalPtr2 : Option KPtr
  originalNext : Option KPtr

def physPtr (e : Exec) (fuel : ℕ) (ptr : Option KPtr) (h : Heap) : Option (Option KPtr × Heap) :=
  match ptr with
  | none => some (none, h)
  | some (.virt i) => (sahPhysicaliseLinks e fuel i h).map fun r => (some r.1, r.2)
  | some (.bus _) => none

def physDescs (e : Exec) (fuel : ℕ) : List DescCell → Heap → Option (List DescCell × Heap)
  | [], h => some ([], h)
  | c :: cs, h =>
    (physPtr e fuel c.ptr1 h).bind fun r1 =>
      (physPtr e fuel c.ptr2 r1.2).bind fun r2 =>
        (busOf c.next).bind fun next =>
          (physDescs e fuel cs r2.2).map fun r => (⟨r1.1, r2.1, next, c.ptr1, c.ptr2, c.next⟩ :: r.1, r.2)

def sahPhysicaliseDescriptors (e : Exec) (fuel : ℕ) (descs : List DescCell) (h : Heap) : Option (List DescCell × Heap) :=
  if e.prephysicalized then some (descs, h) else physDescs e fuel descs h

def dephysDescs (fuel : ℕ) : List DescCell → Heap → Option (List DescCell × Heap)
  | [], h => some ([], h)
  | c :: cs, h =>
    (sahDePhysicaliseLinks fuel none (restore c.ptr1 c.originalPtr1) h).bind fun h =>
      (sahDePhysicaliseLinks fuel none (restore c.ptr2 c.originalPtr2) h).bind fun h =>
        (dephysDescs fuel cs h).map fun r =>
          ({ c with ptr1 := restore c.ptr1 c.originalPtr1, ptr2 := restore c.ptr2 c.originalPtr2,
                    next := restore c.next c.originalNext } :: r.1, r.2)

def sahDePhysicaliseDescriptors (e : Exec) (fuel : ℕ) (descs : List DescCell) (h : Heap) : Option (List DescCell × Heap) :=
  if e.prephysicalized then some (descs, h) else dephysDescs fuel descs h

abbrev Part : Type := ℕ × Option ℕ

def Part.blocks (x : Part) : List ℕ := x.1 :: x.2.toList

def blocks (parts : List Part) : List ℕ := parts.flatMap Part.blocks

def taken (parts : List Part) : List ℕ := parts.filterMap Prod.snd

def put (v : Part → ℕ → Cell) (cell : ℕ → Cell) (x : Part) (j : ℕ) : Cell := if j ∈ x.blocks then v x j else cell j

def puts (v : Part → ℕ → Cell) : (ℕ → Cell) → List Part → ℕ → Cell := foldl (put v)

section
variable {v : Part → ℕ → Cell}

lemma puts_of_not_mem : ∀ {parts : List Part} {cell : ℕ → Cell} {j : ℕ}, j ∉ blocks parts → puts v cell parts j = cell j
  | [], _, _, _ => rfl
  | x :: rest, cell, j, hj => by
    have hj : j ∉ x.blocks ∧ j ∉ blocks rest := by simpa [blocks,not_or] using hj
    exact (puts_of_not_mem hj.2).trans (if_neg hj.1)

lemma puts_of_mem : ∀ {parts : List Part} {cell : ℕ → Cell} {x : Part} {j : ℕ}, (blocks parts).Nodup → x ∈ parts →
  j ∈ x.blocks → puts v cell parts j = v x j
  | y :: rest, cell, x, j, hnodup, hx, hj => by
    have hnodup : (y.blocks ++ blocks ..).Nodup := hnodup
    rcases mem_cons.mp hx with rfl | hx
    · exact (puts_of_not_mem fun hm => disjoint_of_nodup_append hnodup hj hm).trans (if_pos hj)
    · show puts v (put v cell y) rest j = v x j
      exact puts_of_mem (nodup_append.mp hnodup).2.1 hx hj

end

lemma blocks_perm : ∀ parts : List Part, (blocks parts).Perm (parts.map Prod.fst ++ taken parts)
  | [] => .nil
  | (i, none) :: rest => (blocks_perm ..).cons i
  | (i, some n) :: rest => (((blocks_perm ..).cons n).trans perm_middle.symm).cons i

/-! ### To the bus -/

def follow (cell : ℕ → Cell) (p : KPtr) : Option KPtr := (cell p.block).next

def toBus (p : Option KPtr) : Option KPtr := p.map fun q => .bus q.block

def need (e : Exec) (cell : ℕ → Cell) (l : List ℕ) : ℕ := l.countP fun i => (e.physical (cell i).link).Crosses

section
variable (e : Exec) (orig : ℕ → Cell)

def busCell (x : Part) (j : ℕ) : Cell :=
  match x.2 with
  | none => ⟨e.physical (orig x.1).link, toBus (orig x.1).next, (orig x.1).next⟩
  | some n =>
    if j = x.1 then
      ⟨(e.physical (orig x.1).link).withLen (e.physical (orig x.1).link).toBorder, some (.bus n), some (.virt n)⟩
    else ⟨(e.physical (orig x.1).link).beyondBorder, toBus (orig x.1).next, (orig x.1).next⟩

structure Walked (h h' : Heap) (parts : List Part) : Prop where
  cells : h'.cell = puts (busCell e orig) h.cell parts
  free : h.free = taken parts ++ h'.free
  splits : ∀ x ∈ parts, x.2.isSome ↔ (e.physical (orig x.1).link).Crosses

structure Room (h : Heap) (l : List ℕ) : Prop where
  cells : ∀ j ∈ l, h.cell j = orig j
  nodup : (l ++ h.free).Nodup
  enough : need e orig l ≤ h.free.length

variable {e orig} {h h₁ h₂ : Heap} {i : ℕ} {l l₁ l₂ : List ℕ} {p : Option KPtr}

lemma Linked.busOf (hl : Linked (follow orig) p (l.map .virt)) : Mapper.busOf p = some (toBus p) := by
  cases l with
  | nil => rw [hl]; rfl
  | cons i l => rw [hl.1]; rfl

lemma physLink_eq (hi : h.cell i = orig i) (hb : Mapper.busOf (orig i).next = some (toBus (orig i).next)) (hfree : i ∉ h.free)
  (hroom : (e.physical (orig i).link).Crosses → h.free ≠ []) :
  ∃ x h₁, physLink e i h = some ((orig i).next, h₁) ∧ Walked e orig h h₁ [(i, x)] := by
  by_cases hc : (e.physical (orig i).link).Crosses
  · obtain ⟨n,free,hn⟩ := exists_cons_of_ne_nil (hroom hc)
    have hni : i ≠ n := fun hm => hfree (by rw [hn,hm]; exact mem_cons_self)
    refine ⟨some n,⟨put (busCell e orig) h.cell (i,some n),free⟩,?_,rfl,hn,by simpa using hc⟩
    simp only [physLink,hi,if_pos hc,sahAllocLink,hn,Option.bind_some,physNext,Heap.set,update_self,hb,
      Option.map_some,update_idem,Option.some.injEq,Prod.mk.injEq,Heap.mk.injEq,and_true,true_and]
    funext j
    simp only [put,busCell,Part.blocks,Option.toList_some,mem_cons,not_mem_nil,or_false,update_apply]
    by_cases hji : j = i
    · simp [hji,hni]
    · simp [hji]
  · refine ⟨none,⟨put (busCell e orig) h.cell (i,none),h.free⟩,?_,rfl,rfl,by simpa using hc⟩
    simp only [physLink,hi,if_neg hc,physNext,Heap.set,update_self,hb,Option.map_some,update_idem,
      Option.some.injEq,Prod.mk.injEq,Heap.mk.injEq,and_true,true_and]
    funext j
    simp [put,busCell,Part.blocks,update_apply]

variable {q₁ q₂ : List Part}

lemma Walked.trans (hw₁ : Walked e orig h h₁ q₁) (hw₂ : Walked e orig h₁ h₂ q₂) :
  Walked e orig h h₂ (q₁ ++ q₂) where
  cells := by rw [hw₂.cells,hw₁.cells]; exact (foldl_append ..).symm
  free := by rw [hw₁.free,hw₂.free,taken,taken,taken,filterMap_append,List.append_assoc]
  splits x hx := (mem_append.mp hx).elim (hw₁.splits x) (hw₂.splits x)

lemma length_taken : ∀ {parts : List Part}, (∀ x ∈ parts, x.2.isSome ↔ (e.physical (orig x.1).link).Crosses) →
  (taken parts).length = need e orig (parts.map Prod.fst)
  | [], _ => rfl
  | (i, x) :: rest, h => by
    have ih := length_taken fun y hy => h y (mem_cons_of_mem _ hy)
    have hx := h (i, x) mem_cons_self
    cases x with
    | none =>
      rw [map_cons,need,countP_cons_of_neg (by simpa using hx)]
      exact ih
    | some n =>
      rw [map_cons,need,countP_cons_of_pos (by simpa using hx)]
      exact congrArg Nat.succ ih

lemma Room.rest {parts : List Part} (hr : Room e orig h (parts.map Prod.fst ++ l)) (hw : Walked e orig h h₁ parts) :
  Room e orig h₁ l := by
  have hnodup := hr.nodup
  rw [hw.free] at hnodup
  obtain ⟨hl,-,hdisj⟩ := nodup_append'.mp hnodup
  refine ⟨fun j hj => ?_,hnodup.sublist ((sublist_append_right _ _).append (sublist_append_right _ _)),?_⟩
  · rw [hw.cells,puts_of_not_mem]
    · exact hr.cells j (mem_append_right _ hj)
    · intro hm
      rcases mem_append.mp ((blocks_perm ..).mem_iff.mp hm) with hm | hm
      · exact disjoint_of_nodup_append hl hm hj
      · exact hdisj (mem_append_right _ hj) (mem_append_left _ hm)
  · have henough := hr.enough
    rw [hw.free,length_append,length_taken hw.splits,need,need,countP_append] at henough
    rw [need]
    omega

lemma physLoop_eq : ∀ (l : List ℕ) (fuel : ℕ) {p : Option KPtr} {h : Heap}, Linked (follow orig) p (l.map .virt) →
  Room e orig h (l ++ l₂) → l.length ≤ fuel →
  ∃ h' parts, physLoop e fuel p h = some h' ∧ parts.map Prod.fst = l ∧ Walked e orig h h' parts
  | [], fuel, p, h, hl, _, _ => by
    obtain rfl : p = none := hl
    exact ⟨h,[],by unfold physLoop; rfl,rfl,rfl,rfl,fun _ hx => absurd hx not_mem_nil⟩
  | i :: l, 0, _, _, _, _, hfuel => absurd hfuel (Nat.not_succ_le_zero _)
  | i :: l, fuel + 1, p, h, ⟨hp, hl⟩, hr, hfuel => by
    subst hp
    have hi : i ∉ h.free := fun hm => disjoint_of_nodup_append hr.nodup (mem_append_left _ mem_cons_self) hm
    obtain ⟨x,h₁,hstep,hw1⟩ := physLink_eq (hr.cells i (mem_append_left _ mem_cons_self)) (Linked.busOf hl) hi
      fun hc hnil => by
        have henough := hr.enough
        rw [List.cons_append,need,countP_cons_of_pos (by simpa using hc),hnil] at henough
        exact absurd henough (Nat.not_succ_le_zero _)
    obtain ⟨h',parts,hrun,rfl,hw2⟩ := physLoop_eq l fuel hl (Room.rest (hr) hw1)
      (Nat.le_of_succ_le_succ hfuel)
    exact ⟨h',(i,x) :: parts,by rw [physLoop,hstep]; exact hrun,rfl,hw1.trans hw2⟩

/-! ### And back -/

variable (e orig)

def backCell (x : Part) (j : ℕ) : Cell :=
  if j = x.1 then ⟨e.used (orig x.1).link, (orig x.1).next, (orig x.1).next⟩
  else ⟨(e.physical (orig x.1).link).beyondBorder.virtual, toBus (orig x.1).next, (orig x.1).next⟩

def OnBus (h : Heap) (parts : List Part) : Prop := ∀ x ∈ parts, ∀ j ∈ x.blocks, h.cell j = busCell e orig x j

structure Returned (h h' : Heap) (parts : List Part) : Prop where
  cells : h'.cell = puts (backCell e orig) h.cell parts
  free : h'.free = (taken parts).reverse ++ h.free

variable {e orig}

lemma Returned.trans (hw₁ : Returned e orig h h₁ q₁) (hw₂ : Returned e orig h₁ h₂ q₂) :
  Returned e orig h h₂ (q₁ ++ q₂) where
  cells := by rw [hw₂.cells,hw₁.cells]; exact (foldl_append ..).symm
  free := by simp [hw₂.free,hw₁.free,taken]

lemma OnBus.rest (hbus : OnBus e orig h (q₁ ++ q₂)) (hnodup : (blocks q₁ ++ blocks q₂).Nodup)
  (hw : Returned e orig h h₁ q₁) : OnBus e orig h₁ q₂ := by
  intro x hx j hj
  rw [hw.cells,puts_of_not_mem]
  · exact hbus x (mem_append_right _ hx) j hj
  · exact fun hm => disjoint_of_nodup_append hnodup hm (mem_flatMap.mpr ⟨x,hx,hj⟩)

lemma restore_toBus (p : Option KPtr) : restore (toBus p) p = p := by cases p <;> rfl

lemma dephys_own {c : Cell} (hi : h.cell i = c) (hins : c.link.flags.inserted = false) (fuel : ℕ) (prev : Option ℕ) :
  sahDePhysicaliseLinks (fuel + 1) prev (some (.virt i)) h =
    sahDePhysicaliseLinks fuel (some i) (restore c.next c.originalNext)
      (h.set i ⟨c.link.virtual, restore c.next c.originalNext, c.originalNext⟩) := by
  have hv : c.link.virtual.flags.inserted = false := by rw [virtual_flags,hins]
  simp [sahDePhysicaliseLinks,dephysLink,dephysNext,Heap.set,hi,hv]

lemma dephys_inserted {n : ℕ} {c d : Cell} (hi : h.cell i = c) (hn : h.cell n = d) (hni : i ≠ n)
  (hins : d.link.flags.inserted = true) (fuel : ℕ) :
  sahDePhysicaliseLinks (fuel + 1) (some i) (some (.virt n)) h =
    sahDePhysicaliseLinks fuel (some i) (restore d.next d.originalNext)
      (Heap.set ⟨Function.update h.cell n ⟨d.link.virtual, d.next, d.originalNext⟩, n :: h.free⟩ i
        ⟨c.link.withLen (c.link.len + d.link.virtual.len), restore d.next d.originalNext, d.originalNext⟩) := by
  have hv : d.link.virtual.flags.inserted = true := by rw [virtual_flags,hins]
  simp [sahDePhysicaliseLinks,dephysLink,dephysNext,Heap.set,sahFreeLink,hi,hn,hv,update_of_ne hni]

lemma virtual_merge (link : Link) : (link.withLen link.toBorder).virtual.withLen
  ((link.withLen link.toBorder).virtual.len + link.beyondBorder.virtual.len) = link.virtual := by
  have hlen : (link.virtual.withLen link.toBorder).len + link.beyondBorder.virtual.len = link.virtual.len := by
    rw [virtual_len,virtual_len]
    exact add_sub_cancel ..
  rw [virtual_withLen,hlen,withLen_withLen]

lemma dephys_part {x : Part} (hbus : ∀ j ∈ x.blocks, h.cell j = busCell e orig x j) (hx : x.blocks.Nodup)
  (hins : (orig x.1).link.flags.inserted = false) : ∃ h₁ : Heap, Returned e orig h h₁ [x] ∧
    ∀ fuel prev, sahDePhysicaliseLinks (fuel + x.blocks.length) prev (some (.virt x.1)) h =
      sahDePhysicaliseLinks fuel (some x.1) (orig x.1).next h₁ := by
  obtain ⟨i,x⟩ := x
  have hflags : (e.physical (orig i).link).flags.inserted = false := by rw [physical_flags,hins]
  cases x with
  | none =>
    refine ⟨h.set i ⟨e.used (orig i).link,(orig i).next,(orig i).next⟩,⟨?_,rfl⟩,fun fuel prev => ?_⟩
    · funext j
      by_cases hj : j = i <;> simp [puts,put,backCell,Part.blocks,Heap.set,hj]
    · have hi : h.cell i = ⟨e.physical ..,toBus ..,(orig i).next⟩ := hbus i mem_cons_self
      have hown := dephys_own hi hflags fuel prev
      rw [restore_toBus] at hown
      exact hown
  | some n =>
    have hin : i ≠ n := by simpa [Part.blocks] using hx
    have hi := (hbus i mem_cons_self).trans (if_pos rfl)
    have hn := (hbus n (by simp [Part.blocks])).trans (if_neg hin.symm)
    obtain ⟨near,hnear⟩ : ∃ c : Cell, c = ⟨((e.physical (orig i).link).withLen (e.physical (orig i).link).toBorder).virtual,
      some (.virt n),some (.virt n)⟩ := ⟨_,rfl⟩
    refine ⟨Heap.set ⟨Function.update (h.set i near).cell n ⟨(e.physical (orig i).link).beyondBorder.virtual,
      toBus (orig i).next,(orig i).next⟩,n :: h.free⟩ i ⟨e.used (orig i).link,(orig i).next,(orig i).next⟩,⟨?_,rfl⟩,
      fun fuel prev => ?_⟩
    · funext j
      by_cases hj : j = i <;> simp [puts,put,backCell,Part.blocks,Heap.set,update_apply,hj]
    · have hown := dephys_own hi hflags (fuel + 1) prev
      have hmerge := dephys_inserted (show (h.set ..).cell i = near from update_self ..)
        ((update_of_ne hin.symm ..).trans hn) hin rfl fuel
      subst hnear
      rw [restore_toBus,virtual_merge] at hmerge
      exact hown.trans hmerge

lemma dephysLoop_eq : ∀ (parts : List Part) (fuel : ℕ) (prev : Option ℕ) {p : Option KPtr} {h : Heap},
  OnBus e orig h parts → (blocks parts).Nodup → (∀ x ∈ parts, (orig x.1).link.flags.inserted = false) →
  Linked (follow orig) p ((parts.map Prod.fst).map .virt) → (blocks parts).length ≤ fuel →
  ∃ h', sahDePhysicaliseLinks fuel prev p h = some h' ∧ Returned e orig h h' parts
  | [], fuel, prev, p, h, _, _, _, hl, _ => by
    obtain rfl : p = none := hl
    exact ⟨h,by unfold sahDePhysicaliseLinks; rfl,rfl,rfl⟩
  | x :: rest, fuel, prev, p, h, hbus, hnodup, hins, ⟨hp, hl⟩, hfuel => by
    subst hp
    have hnodup : (x.blocks ++ blocks ..).Nodup := hnodup
    have hfuel : (x.blocks ++ blocks ..).length ≤ fuel := hfuel
    rw [length_append] at hfuel
    obtain ⟨h₁,hw1,hstep⟩ := dephys_part (hbus x mem_cons_self) (nodup_append.mp hnodup).1
      (hins x mem_cons_self)
    have hbus1 : OnBus .. := OnBus.rest (hbus) (by simpa [blocks] using hnodup) hw1
    obtain ⟨h',hrun,hw2⟩ := dephysLoop_eq rest (fuel - x.blocks.length) (some x.1) hbus1
      (nodup_append.mp hnodup).2.1 (fun y hy => hins y (mem_cons_of_mem x hy)) hl (by omega)
    refine ⟨h',?_,hw1.trans hw2⟩
    rw [← Nat.sub_add_cancel (show x.blocks.length ≤ fuel by omega),hstep]
    exact hrun

/-! ### All the chains -/

abbrev Plan (α : Type) : Type := DescCell × List α × List α

def linksOf {α : Type} (ds : List (Plan α)) : List α := ds.flatMap fun d => d.2.1 ++ d.2.2

def Plan.heads (d : Plan Part) : Plan ℕ := (d.1, d.2.1.map Prod.fst, d.2.2.map Prod.fst)

lemma linksOf_heads (ds : List (Plan Part)) : linksOf (ds.map Plan.heads) = (linksOf ds).map Prod.fst := by
  simp [linksOf,Plan.heads,flatMap_map,map_flatMap]

structure Ready (orig : ℕ → Cell) (d : Plan ℕ) : Prop where
  ptr1 : Linked (follow orig) d.1.ptr1 (d.2.1.map .virt)
  ptr2 : Linked (follow orig) d.1.ptr2 (d.2.2.map .virt)
  next : Mapper.busOf d.1.next = some (toBus d.1.next)

def onBus (c : DescCell) : DescCell := ⟨toBus c.ptr1, toBus c.ptr2, toBus c.next, c.ptr1, c.ptr2, c.next⟩

lemma physPtr_eq {fuel : ℕ} (hl : Linked (follow orig) p (l₁.map .virt)) (hr : Room e orig h (l₁ ++ l₂))
  (hfuel : l₁.length ≤ fuel) : ∃ h' parts, physPtr e fuel p h = some (toBus p, h') ∧ parts.map Prod.fst = l₁ ∧
    Walked e orig h h' parts ∧ Room e orig h' l₂ := by
  obtain ⟨h',parts,hrun,rfl,hw⟩ := physLoop_eq l₁ fuel hl hr hfuel
  refine ⟨h',parts,?_,rfl,hw,hr.rest hw⟩
  cases parts with
  | nil =>
    obtain rfl : p = none := hl
    unfold physLoop at hrun
    rw [physPtr,Option.some.inj hrun]
    rfl
  | cons x rest =>
    obtain rfl := hl.1
    rw [physPtr,sahPhysicaliseLinks,hrun]
    rfl

lemma physDescs_eq (fuel : ℕ) : ∀ (ds : List (Plan ℕ)) {h : Heap}, (∀ d ∈ ds, Ready orig d) → Room e orig h (linksOf ds) →
  (linksOf ds).length ≤ fuel → ∃ (h' : Heap) (ps : List (Plan Part)),
    physDescs e fuel (ds.map Prod.fst) h = some ((ds.map Prod.fst).map onBus, h') ∧ ps.map Plan.heads = ds ∧
    Walked e orig h h' (linksOf ps)
  | [], h, _, _, _ => ⟨h, [], rfl, rfl, rfl, rfl, fun _ hx => absurd hx not_mem_nil⟩
  | (c, l₁, l₂) :: ds, h, hready, hr, hfuel => by
    obtain ⟨hl1,hl2,hnext⟩ := hready _ mem_cons_self
    have hr : Room e orig h ((l₁ ++ l₂) ++ linksOf ds) := hr
    have hfuel : ((l₁ ++ l₂) ++ linksOf ds).length ≤ fuel := hfuel
    rw [length_append,length_append] at hfuel
    rw [List.append_assoc] at hr
    obtain ⟨h₁,q1,hrun1,rfl,hw1,hr1⟩ := physPtr_eq hl1 hr (show l₁.length ≤ fuel by omega)
    obtain ⟨h₂,q2,hrun2,rfl,hw2,hr2⟩ := physPtr_eq hl2 hr1 (show l₂.length ≤ fuel by omega)
    obtain ⟨h',ps,hrun,rfl,hw⟩ := physDescs_eq fuel ds (fun d hd => hready d (mem_cons_of_mem _ hd)) hr2 (by omega)
    refine ⟨h',(c,q1,q2) :: ps,?_,rfl,(hw1.trans hw2).trans hw⟩
    simp only [map_cons,physDescs,hrun1,hrun2,hnext,hrun,Option.bind_some,Option.map_some,onBus]

lemma dephysDescs_eq (fuel : ℕ) : ∀ (ps : List (Plan Part)) {h : Heap}, (∀ d ∈ ps, Ready orig d.heads) →
  OnBus e orig h (linksOf ps) → (blocks (linksOf ps)).Nodup →
  (∀ x ∈ linksOf ps, (orig x.1).link.flags.inserted = false) → (blocks (linksOf ps)).length ≤ fuel → ∃ h' : Heap,
    dephysDescs fuel ((ps.map Prod.fst).map onBus) h =
      some ((ps.map Prod.fst).map fun c => ⟨c.ptr1, c.ptr2, c.next, c.ptr1, c.ptr2, c.next⟩, h') ∧
    Returned e orig h h' (linksOf ps)
  | [], h, _, _, _, _, _ => ⟨h, rfl, rfl, rfl⟩
  | (c, q1, q2) :: ps, h, hready, hbus, hnodup, hins, hfuel => by
    obtain ⟨hl1,hl2,-⟩ := hready _ mem_cons_self
    have happ : linksOf ((c, q1, q2) :: ps) = q1 ++ (q2 ++ linksOf ps) := List.append_assoc ..
    have hblocks : blocks (linksOf ((c, q1, q2) :: ps)) = blocks q1 ++ (blocks q2 ++ blocks (linksOf ps)) := by
      simp [happ,blocks]
    rw [hblocks] at hnodup hfuel
    rw [length_append,length_append] at hfuel
    rw [happ] at hbus hins ⊢
    have hnodup2 := (nodup_append.mp hnodup).2.1
    obtain ⟨h₁,hrun1,hw1⟩ := dephysLoop_eq q1 fuel none (fun x hx => hbus x (mem_append_left _ hx))
      (nodup_append.mp hnodup).1 (fun x hx => hins x (mem_append_left _ hx)) hl1 (by omega)
    have hbus1 := hbus.rest (by simpa [blocks] using hnodup) hw1
    obtain ⟨h₂,hrun2,hw2⟩ := dephysLoop_eq q2 fuel none (fun x hx => hbus1 x (mem_append_left _ hx))
      (nodup_append.mp hnodup2).1 (fun x hx => hins x (mem_append_right _ (mem_append_left _ hx))) hl2 (by omega)
    obtain ⟨h',hrun,hw⟩ := dephysDescs_eq fuel ps (fun d hd => hready d (mem_cons_of_mem _ hd)) (hbus1.rest hnodup2 hw2)
      (nodup_append.mp hnodup2).2.1 (fun x hx => hins x (mem_append_right _ (mem_append_right _ hx))) (by omega)
    refine ⟨h',?_,hw1.trans (hw2.trans hw)⟩
    have hrun1 : sahDePhysicaliseLinks fuel none c.ptr1 h = some .. := hrun1
    have hrun2 : sahDePhysicaliseLinks fuel none c.ptr2 h₁ = some .. := hrun2
    simp only [map_cons,dephysDescs,onBus,restore_toBus,hrun1,hrun2,hrun,Option.bind_some,Option.map_some]

end

def Ordinary (link : Link) : Prop :=
  link.flags.storedKey = false ∧ link.flags.prephys = false ∧ link.flags.inserted = false

lemma used_ordinary {e : Exec} {link : Link} (h : Ordinary link) :
  (e.used link).len = link.len ∧ (e.used link).data = link.data ∧ (e.used link).flags = link.flags := by
  simp [Exec.used,Exec.physical,Link.virtual,h.1,h.2.1]

/-- **Physicalising a chain and back** restores what the caller has, and each inserted link is free again. -/
theorem descriptors_restored (e : Exec) {h : Heap} {ds : List (Plan ℕ)} (hready : ∀ d ∈ ds, Ready h.cell d)
  (hlinks : (linksOf ds ++ h.free).Nodup) (hord : ∀ i ∈ linksOf ds, Ordinary (h.cell i).link)
  (hfree : need e h.cell (linksOf ds) ≤ h.free.length) {fuel : ℕ} (hfuel : 2 * (linksOf ds).length ≤ fuel) :
  ∃ cs h₁ cs' h₂, sahPhysicaliseDescriptors e fuel (ds.map Prod.fst) h = some (cs, h₁) ∧
    sahDePhysicaliseDescriptors e fuel cs h₁ = some (cs', h₂) ∧ h₂.free.Perm h.free ∧
    (cs'.map fun c => (c.ptr1, c.ptr2, c.next)) = (ds.map Prod.fst).map (fun c => (c.ptr1, c.ptr2, c.next)) ∧
    ∀ i ∈ linksOf ds, (h₂.cell i).link.data = (h.cell i).link.data ∧ (h₂.cell i).link.len = (h.cell i).link.len ∧
      (h₂.cell i).link.flags = (h.cell i).link.flags ∧ (h₂.cell i).next = (h.cell i).next := by
  unfold sahPhysicaliseDescriptors sahDePhysicaliseDescriptors
  cases e.prephysicalized with
  | true => exact ⟨_,h,_,h,rfl,rfl,.rfl,rfl,fun _ _ => ⟨rfl,rfl,rfl,rfl⟩⟩
  | false =>
    obtain ⟨h₁,ps,hrun1,rfl,hw⟩ := physDescs_eq fuel ds hready ⟨fun _ _ => rfl,hlinks,hfree⟩ (by omega)
    have hcells : (ps.map Plan.heads).map Prod.fst = ps.map Prod.fst := by rw [List.map_map]; rfl
    rw [linksOf_heads] at hlinks hord hfuel ⊢
    rw [hcells] at hrun1 ⊢
    have hperm := blocks_perm (linksOf ps)
    have htaken : (taken (linksOf ps)).length ≤ ((linksOf ps).map Prod.fst).length :=
      (length_taken hw.splits).trans_le countP_le_length
    have hlen := hperm.length_eq
    rw [length_append] at hlen
    rw [hw.free,← List.append_assoc] at hlinks
    have hnodup := hperm.nodup_iff.mpr (nodup_append.mp hlinks).1
    have hbus : OnBus e h.cell h₁ (linksOf ps) := fun x hx j hj => by rw [hw.cells,puts_of_mem hnodup hx hj]
    obtain ⟨h₂,hrun2,hret⟩ := dephysDescs_eq fuel ps (fun d hd => hready _ (List.mem_map_of_mem hd)) hbus hnodup
      (fun x hx => (hord x.1 (List.mem_map_of_mem hx)).2.2) (by omega)
    refine ⟨_,h₁,_,h₂,hrun1,hrun2,?_,by rw [List.map_map]; rfl,fun i hi => ?_⟩
    · rw [hret.free,hw.free]
      exact (reverse_perm _).append_right _
    · obtain ⟨x,hx,rfl⟩ := List.mem_map.mp hi
      obtain ⟨hl,hdata,hflags⟩ := used_ordinary (e := e) (hord x.1 hi)
      rw [hret.cells,puts_of_mem hnodup hx mem_cons_self,backCell,if_pos rfl]
      exact ⟨hdata,hl,hflags,rfl⟩

def identityExec : Exec := ⟨true, false, false, id, fun _ _ => none, id, .ok⟩

def outputHeap (address len : BitVec 32) : Heap :=
  ⟨fun _ => ⟨newLink ⟨1, 0, address, false⟩ len ⟨false, true, false, false, false⟩, none, none⟩, [1]⟩

theorem descriptors_restored_one : ∃ cs h₁ cs' h₂,
  sahPhysicaliseDescriptors identityExec 2 [⟨some (.virt 0), none, none, none, none, none⟩] (outputHeap 1000 100) =
    some (cs, h₁) ∧
  sahDePhysicaliseDescriptors identityExec 2 cs h₁ = some (cs', h₂) ∧ h₂.free.Perm [1] ∧ (h₂.cell 0).link.len = 100 := by
  obtain ⟨cs,h₁,cs',h₂,hrun1,hrun2,hfree,-,hlinks⟩ := descriptors_restored identityExec
    (show ∀ d ∈ [(⟨some (.virt 0),none,none,none,none,none⟩, [0], [])], Ready (outputHeap 1000 100).cell d from
      fun d hd => mem_singleton.mp hd ▸ ⟨⟨rfl,rfl⟩,rfl,rfl⟩)
    (by decide) (fun _ _ => ⟨rfl,rfl,rfl⟩) (by decide) (le_refl 2)
  exact ⟨cs,h₁,cs',h₂,hrun1,hrun2,hfree,(hlinks 0 (by decide)).2.1⟩

/-! ### What the accelerator sees -/

def bytesFrom (p : Ptr) (n : ℕ) : List Ptr := (List.range n).map fun i => p.add (BitVec.ofNat 32 i)

def bytes (link : Link) : List Ptr := bytesFrom link.data link.len.toNat

lemma bytesFrom_add (p : Ptr) {a n : ℕ} (h : a + n < 2 ^ 32) :
  bytesFrom p (a + n) = bytesFrom p a ++ bytesFrom (p.add (BitVec.ofNat 32 a)) n := by
  simp only [bytesFrom,range_add,map_append,List.map_map]
  congr 1
  apply map_congr_left
  intro i hi
  have hi := mem_range.mp hi
  simp only [Function.comp,Ptr.add,BitVec.ofNat_add,BitVec.toNat_add,BitVec.toNat_ofNat]
  rw [Nat.mod_eq_of_lt (by omega),Nat.mod_eq_of_lt (by omega),
    Nat.mod_eq_of_lt (by omega),Nat.add_assoc,BitVec.add_assoc]

def Illegal (link : Link) : Prop :=
  link.flags.output = true ∧ link.data.address.toNat % 32 ≠ 0 ∧
    ∃ k, link.data.address.toNat < 1024 * k ∧ 1024 * k < link.data.address.toNat + link.len.toNat

section
variable {link : Link}

lemma toBorder_toNat (link : Link) : link.toBorder.toNat = 1024 - link.data.address.toNat % 1024 := by
  have hmod : (link.data.address % 1024#32).toNat = link.data.address.toNat % 1024 := BitVec.toNat_umod
  rw [Link.toBorder,BitVec.toNat_sub_of_le (BitVec.le_def.mpr (by exact (Nat.mod_lt _ (by decide)).le)),hmod]
  rfl

section
variable (hwrap : link.data.address.toNat + link.len.toNat < 2 ^ 32)
include hwrap

lemma crosses_iff :
  link.Crosses ↔ link.flags.output = true ∧ link.data.address.toNat % 32 ≠ 0 ∧ link.toBorder.toNat < link.len.toNat := by
  have hand : (link.data.address &&& 1023#32).toNat = link.data.address.toNat % 1024 := by
    exact Nat.and_two_pow_sub_one_eq_mod _ 10
  rw [Link.Crosses,toBorder_toNat]
  have hmod : link.data.address % 32#32 ≠ 0#32 ↔ link.data.address.toNat % 32 ≠ 0 := by bv_omega
  rw [hmod]
  refine and_congr_right fun _ => and_congr_right fun _ => ?_
  rw [BitVec.lt_def,BitVec.toNat_add,hand,show (1024#32).toNat = 1024 from rfl]
  omega

lemma bytes_split (hc : link.Crosses) :
  bytes (link.withLen link.toBorder) ++ bytes link.beyondBorder = bytes link := by
  have hlt := ((crosses_iff hwrap).mp hc).2.2
  have hlen : link.beyondBorder.len.toNat = link.len.toNat - link.toBorder.toNat :=
    BitVec.toNat_sub_of_le (BitVec.le_def.mpr hlt.le)
  have hadd := bytesFrom_add link.data (show link.toBorder.toNat + (link.len.toNat - link.toBorder.toNat) < 2 ^ 32 by omega)
  rw [Nat.add_sub_cancel' hlt.le,BitVec.ofNat_toNat,BitVec.setWidth_eq] at hadd
  rw [bytes,bytes,bytes,hadd,hlen]
  dsimp only [Link.withLen,Link.beyondBorder]

lemma legal_split (hc : link.Crosses) :
  ¬ Illegal (link.withLen link.toBorder) ∧ ¬ Illegal link.beyondBorder := by
  have hlt := ((crosses_iff hwrap).mp hc).2.2
  have hb := toBorder_toNat link
  constructor
  · rintro ⟨-,-,k,hk,hk'⟩
    have hk : link.data.address.toNat < 1024 * k := hk
    have hk' : 1024 * k < link.data.address.toNat + link.toBorder.toNat := hk'
    omega
  · rintro ⟨-,hmod,-⟩
    have haddr : (link.data.address + link.toBorder).toNat = link.data.address.toNat + link.toBorder.toNat :=
      (BitVec.toNat_add ..).trans (Nat.mod_eq_of_lt (by omega))
    have hmod : (link.data.address + link.toBorder).toNat % 32 ≠ 0 := hmod
    omega

lemma legal_whole (hc : ¬ link.Crosses) : ¬ Illegal link := by
  rintro ⟨hout,hmod,k,hk,hk'⟩
  refine hc ((crosses_iff hwrap).mpr ⟨hout,hmod,?_⟩)
  rw [toBorder_toNat]
  omega

def cut (link : Link) : List Link := if link.Crosses then [link.withLen link.toBorder, link.beyondBorder] else [link]

lemma cut_bytes : (cut link).flatMap bytes = bytes link := by
  by_cases hc : link.Crosses
  · simpa [cut,hc] using bytes_split hwrap hc
  · simp [cut,hc]

lemma cut_legal : ∀ a ∈ cut link, ¬ Illegal a := by
  by_cases hc : link.Crosses
  · simpa [cut,hc] using legal_split hwrap hc
  · simpa [cut,hc] using legal_whole hwrap hc

end

variable {e : Exec} {orig : ℕ → Cell} {h : Heap}

lemma OnBus.part {x : Part} (hbus : ∀ j ∈ x.blocks, h.cell j = busCell e orig x j) (hx : x.blocks.Nodup)
  (hs : x.2.isSome ↔ (e.physical (orig x.1).link).Crosses) :
  (x.blocks.map fun j => (h.cell j).link) = cut (e.physical (orig x.1).link) ∧ ∀ {bs : List KPtr},
    Linked (follow h.cell) (toBus (orig x.1).next) bs → Linked (follow h.cell) (some (.bus x.1)) (x.blocks.map .bus ++ bs) := by
  obtain ⟨i,x⟩ := x
  cases x with
  | none =>
    have hi : h.cell i = ⟨e.physical ..,toBus ..,(orig i).next⟩ := hbus i mem_cons_self
    have hc : ¬ (e.physical (orig i).link).Crosses := by simpa using hs
    exact ⟨by simp [cut,hc,Part.blocks,hi],fun hl => ⟨rfl,by rw [follow,KPtr.block,hi]; exact hl⟩⟩
  | some n =>
    have hin : i ≠ n := by simpa [Part.blocks] using hx
    have hi := (hbus i mem_cons_self).trans (if_pos rfl)
    have hn := (hbus n (by simp [Part.blocks])).trans (if_neg hin.symm)
    have hc : (e.physical (orig i).link).Crosses := by simpa using hs
    refine ⟨by simp [cut,hc,Part.blocks,hi,hn],fun hl => ⟨rfl,?_⟩⟩
    rw [follow,KPtr.block,hi]
    exact ⟨rfl,by rw [follow,KPtr.block,hn]; exact hl⟩

lemma OnBus.chain : ∀ {parts : List Part} {p : Option KPtr}, OnBus e orig h parts → (blocks parts).Nodup →
  (∀ x ∈ parts, x.2.isSome ↔ (e.physical (orig x.1).link).Crosses) →
  Linked (follow orig) p ((parts.map Prod.fst).map .virt) →
  ((blocks parts).map fun j => (h.cell j).link) = (parts.map Prod.fst).flatMap (fun i => cut (e.physical (orig i).link)) ∧
    Linked (follow h.cell) (toBus p) ((blocks parts).map .bus)
  | [], p, _, _, _, hl => by
    obtain rfl : p = none := hl
    exact ⟨rfl,rfl⟩
  | x :: rest, p, hbus, hnodup, hs, ⟨hp, hl⟩ => by
    subst hp
    have hnodup : (x.blocks ++ blocks ..).Nodup := hnodup
    obtain ⟨hlinks,hlinked⟩ := OnBus.chain (fun y hy => hbus y (mem_cons_of_mem x hy)) (nodup_append.mp hnodup).2.1
      (fun y hy => hs y (mem_cons_of_mem x hy)) hl
    obtain ⟨hpart,hstep⟩ := OnBus.part (hbus x mem_cons_self) (nodup_append.mp hnodup).1 (hs x mem_cons_self)
    refine ⟨?_,?_⟩
    · rw [map_cons,flatMap_cons,← hlinks,← hpart,← map_append]
      rfl
    · rw [show blocks .. = x.blocks ++ blocks .. from rfl,map_append]
      exact hstep hlinked

end

end Mapper
end Mx27.Shw
