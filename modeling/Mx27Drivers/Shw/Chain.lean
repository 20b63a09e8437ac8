/-
# Chains of descriptors in the API layer

The functions of `sf_util.c` that make, rework, execute and destroy chains of descriptors and
links.
-/
import Mx27Drivers.Lib.Wipe
import Mx27Drivers.Sahara.ErrorStatus

namespace Mx27.Shw

open List

open Sahara (Return)

structure Ptr where
  buffer : ℕ
  offset : ℕ
  address : BitVec 32
  physical : Bool
  deriving DecidableEq

def Ptr.null : Ptr := ⟨0, 0, 0, false⟩

def Ptr.add (p : Ptr) (k : BitVec 32) : Ptr := { p with offset := p.offset + k.toNat, address := p.address + k }

def Ptr.block (p : Ptr) : ℕ × Bool := (p.buffer, p.physical)

abbrev Mem : Type := Wipe.Mem (ℕ × Bool) (BitVec 8)

abbrev MemCall : Type := Wipe.Call (ℕ × Bool) (BitVec 8)

structure World where
  supply : List Bool
  log : List MemCall
  buffers : ℕ
  address : ℕ → BitVec 32

namespace World

def alloc (w : World) : Bool × World := (w.supply.headD true, { w with supply := w.supply.tail })

def emit (calls : List MemCall) (w : World) : World := { w with log := w.log ++ calls }

end World

def Build (α : Type) : Type := World → Except Return α × World

namespace Build

variable {α β : Type}

def bind (x : Build α) (f : α → Build β) : Build β := fun w =>
  match x w with
  | (.ok a, w') => f a w'
  | (.error e, w') => (.error e, w')

instance : Monad Build where
  pure a := fun w => (.ok a, w)
  bind := bind

def fail (e : Return) : Build α := fun w => (.error e, w)

def act (f : World → World) : Build Unit := fun w => (.ok (), f w)

def onFailure (x : Build α) (f : World → World) : Build α := fun w =>
  match x w with
  | (.ok a, w') => (.ok a, w')
  | (.error e, w') => (.error e, f w')

variable {x : Build α} {f : α → Build β} {w w' : World}

lemma bind_eq_ok {b : β} {w'' : World} (h : (x >>= f) w = (.ok b, w'')) :
  ∃ a w', x w = (.ok a, w') ∧ f a w' = (.ok b, w'') := by
  change bind x f w = _ at h
  unfold bind at h
  split at h
  · next a w' hx => exact ⟨a,w',hx,h⟩
  · cases h

lemma bind_ok {a : α} (h : x w = (.ok a, w')) :
  (x >>= f) w = f a w' := by
  change bind x f w = _
  rw [bind,h]

lemma bind_error {r : Return} (h : x w = (.error r, w')) :
  (x >>= f) w = (.error r, w') := by
  change bind x f w = _
  rw [bind,h]

lemma onFailure_eq_ok {f : World → World} {a : α} :
  x.onFailure f w = (.ok a, w') ↔ x w = (.ok a, w') := by
  unfold onFailure
  split
  · next b w1 hx => rw [hx]
  · next e w1 hx =>
    rw [hx]
    exact iff_of_false (by simp) (by simp)

lemma exists_ok (h : (x w).1.toOption.isSome = true) : ∃ a w', x w = (.ok a, w') := by
  rcases hx : x w with ⟨_ | a,w'⟩
  · rw [hx] at h
    cases h
  · exact ⟨a,w',rfl⟩

def malloc : Build Ptr := fun w =>
  match w.alloc with
  | (true, w') => (.ok ⟨w'.buffers, 0, w'.address w'.buffers, false⟩, { w' with buffers := w'.buffers + 1 })
  | (false, w') => (.error .noResource, w')

end Build

structure LinkFlags where
  owns : Bool
  output : Bool
  storedKey : Bool
  prephys : Bool
  inserted : Bool
  deriving DecidableEq

/-- `sah_Link`; `next` is the place in the list. -/
structure Link where
  len : BitVec 32
  data : Ptr
  flags : LinkFlags
  ownerid : BitVec 64
  slot : BitVec 32
  originalData : Ptr
  deriving DecidableEq

def wipeData (p : Ptr) (n : BitVec 32) : List MemCall := Wipe.wipe ⟨p.block, p.offset, n.toNat⟩

def newLink (p : Ptr) (length : BitVec 32) (flags : LinkFlags) : Link := ⟨length, p, flags, 0, 0, .null⟩

def sahCreateLink (p : Ptr) (length : BitVec 32) (flags : LinkFlags) : Build Link := fun w =>
  match w.alloc with
  | (true, w') => (.ok (newLink p length flags), w')
  | (false, w') => (.error .noResource, w'.emit (if flags.owns then wipeData p length else []))

structure KeyInfo where
  keyLength : BitVec 16
  present : Bool
  established : Bool
  key : Ptr
  handle : BitVec 32
  userid : BitVec 64

def sahCreateKeyLink (k : KeyInfo) : Build Link := fun w =>
  match w.alloc with
  | (true, w') =>
    if k.present then (.ok ⟨k.keyLength.setWidth 32, k.key, ⟨false, false, false, false, false⟩, 0, 0, .null⟩, w')
    else if k.established then
      (.ok ⟨k.keyLength.setWidth 32, .null, ⟨false, false, true, false, false⟩, k.userid, k.handle, .null⟩, w')
    else (.error .badFlag, w')
  | (false, w') => (.error .noResource, w')

/-- `sah_Append_Link`; if it fails the chain `linkHead` is as before. -/
def sahAppendLink (linkHead : List Link) (p : Ptr) (length : BitVec 32) (flags : LinkFlags) : Build (List Link) := do
  let link ← sahCreateLink p length flags
  return linkHead ++ [link]

def Link.destroyCalls (link : Link) : List MemCall := if link.flags.owns then wipeData link.data link.len else []

def sahDestroyLink (links : List Link) (w : World) : World := w.emit (links.flatMap Link.destroyCalls)

def SAH_HDR_LLO : BitVec 32 := 0x01000000#32

/-- `sah_Desc`, the head or a later one. -/
structure Desc where
  header : BitVec 32
  len1 : BitVec 32
  ptr1 : List Link
  len2 : BitVec 32
  ptr2 : List Link
  deriving DecidableEq

def linksLen (links : List Link) : BitVec 32 := links.foldl (fun n link => n + link.len) 0#32

def sahCreateDesc (header : BitVec 32) (link1 link2 : List Link) : Build Desc := fun w =>
  match w.alloc with
  | (true, w') => (.ok ⟨header, linksLen link1, link1, linksLen link2, link2⟩, w')
  | (false, w') => (.error .noResource, sahDestroyLink link2 (sahDestroyLink link1 w'))

def sahAppendDesc (chain : List Desc) (header : BitVec 32) (link1 link2 : List Link) : Build (List Desc) := do
  let desc ← sahCreateDesc header link1 link2
  return chain ++ [desc]

def Desc.links (d : Desc) : List Link := d.ptr1 ++ d.ptr2

def sahDescriptorChainDestroy (chain : List Desc) (w : World) : World :=
  chain.foldl (fun w d => sahDestroyLink d.ptr2 (sahDestroyLink d.ptr1 w)) w

def Link.shorten (link : Link) : Link := { link with len := link.len - 1#32 }

def Link.lastByte (link : Link) : Link :=
  ⟨1#32, link.data.add (link.len - 1#32), { link.flags with owns := false }, 0, 0, .null⟩

def Link.Odd (link : Link) : Prop := link.len % 4#32 ≠ 0#32 ∨ link.data.address % 4#32 ≠ 0#32

instance (link : Link) : Decidable link.Odd := inferInstanceAs (Decidable (_ ∨ _))

def reworkLoop : Bool → BitVec 32 → List Link → World → Return × List Link × World
  | _, _, [], w => (.ok, [], w)
  | found, total, link :: rest, w =>
    if found = true ∧ rest = [] ∧ 16#32 < total + link.len then
      match w.alloc with
      | (true, w') => (.ok, [link.shorten, link.lastByte], w')
      | (false, w') => (.noResource, [link], w')
    else
      let r := reworkLoop (found || decide link.Odd) (total + link.len) rest w
      (r.1, link :: r.2.1, r.2.2)

def sahReworkLinkChain (links : List Link) (w : World) : Return × List Link × World :=
  match links with
  | [] => (.ok, [], w)
  | link :: _ => if link.flags.output then (.ok, links, w) else reworkLoop false 0#32 links w

def sahReworkLinks : List Desc → World → Return × List Desc × World
  | [], w => (.ok, [], w)
  | d :: chain, w =>
    if d.header &&& SAH_HDR_LLO ≠ 0#32 then (.error, d :: chain, w)
    else
      let r1 := sahReworkLinkChain d.ptr1 w
      if r1.1 ≠ .ok then (r1.1, { d with ptr1 := r1.2.1 } :: chain, r1.2.2)
      else
        let r2 := sahReworkLinkChain d.ptr2 r1.2.2
        if r2.1 ≠ .ok then (r2.1, { d with ptr1 := r1.2.1, ptr2 := r2.2.1 } :: chain, r2.2.2)
        else
          let r := sahReworkLinks chain r2.2.2
          (r.1, { d with ptr1 := r1.2.1, ptr2 := r2.2.1 } :: r.2.1, r.2.2)

/-! ### Execution -/

/-- What an execution meets: the flags `FSL_UCO_CHAIN_PREPHYSICALIZED` and
`FSL_UCO_SAVE_DESC_CHAIN` of the user, the address translation, the key slots, what
the accelerator does to memory, and the code that comes back. -/
structure Exec where
  aligned : Bool
  prephysicalized : Bool
  saveDescChain : Bool
  osPa : BitVec 32 → BitVec 32
  slotInfo : BitVec 64 → BitVec 32 → Option (Ptr × BitVec 32)
  hardware : Mem → Mem
  result : Return

variable (e : Exec)

def Exec.physical (link : Link) : Link :=
  if link.flags.storedKey then
    match e.slotInfo link.ownerid link.slot with
    | some (address, maxLen) => { link with data := address, len := if maxLen < link.len then 0#32 else link.len }
    | none => { link with len := 0#32 }
  else if link.flags.prephys then link
  else
    { link with
      originalData := link.data
      data := { link.data with address := e.osPa link.data.address, physical := true } }

def Link.Crosses (link : Link) : Prop :=
  link.flags.output = true ∧ link.data.address % 32#32 ≠ 0#32 ∧
    1024#32 < (link.data.address &&& 1023#32) + link.len

instance (link : Link) : Decidable link.Crosses := inferInstanceAs (Decidable (_ ∧ _ ∧ _))

def Link.withLen (link : Link) (n : BitVec 32) : Link := { link with len := n }

def Link.toBorder (link : Link) : BitVec 32 := 1024#32 - link.data.address % 1024#32

def Link.beyondBorder (link : Link) : Link :=
  ⟨link.len - link.toBorder, link.data.add link.toBorder, { link.flags with owns := false, inserted := true }, 0, 0,
    link.originalData.add link.toBorder⟩

/-- `sah_Physicalise_Links`; `none` if a link is missing for an output that is split. -/
def sahPhysicaliseLinks : List Link → World → Option (List Link × World)
  | [], w => some ([], w)
  | link :: rest, w =>
    if (e.physical link).Crosses then
      match w.alloc with
      | (true, w') =>
        (sahPhysicaliseLinks rest w').map fun r =>
          ((e.physical link).withLen (e.physical link).toBorder :: (e.physical link).beyondBorder :: r.1, r.2)
      | (false, _) => none
    else (sahPhysicaliseLinks rest w).map fun r => (e.physical link :: r.1, r.2)

def Link.virtual (link : Link) : Link :=
  if link.flags.storedKey = true ∨ link.flags.prephys = true then link else { link with data := link.originalData }

def dephysicaliseLoop : Link → List Link → List Link
  | prev, [] => [prev]
  | prev, link :: rest =>
    if link.virtual.flags.inserted then dephysicaliseLoop (prev.withLen (prev.len + link.virtual.len)) rest
    else prev :: dephysicaliseLoop link.virtual rest

/-- `sah_DePhysicalise_Links`; `none` if the first link is one that was inserted. -/
def sahDePhysicaliseLinks : List Link → Option (List Link)
  | [] => some []
  | link :: rest => if link.virtual.flags.inserted then none else some (dephysicaliseLoop link.virtual rest)

def sahPhysicaliseDescriptors : List Desc → World → Option (List Desc × World)
  | [], w => some ([], w)
  | d :: chain, w =>
    (sahPhysicaliseLinks e d.ptr1 w).bind fun r1 =>
      (sahPhysicaliseLinks e d.ptr2 r1.2).bind fun r2 =>
        (sahPhysicaliseDescriptors chain r2.2).map fun r => ({ d with ptr1 := r1.1, ptr2 := r2.1 } :: r.1, r.2)

def sahDePhysicaliseDescriptors : List Desc → Option (List Desc)
  | [] => some []
  | d :: chain =>
    (sahDePhysicaliseLinks d.ptr1).bind fun ptr1 =>
      (sahDePhysicaliseLinks d.ptr2).bind fun ptr2 =>
        (sahDePhysicaliseDescriptors chain).map fun r => { d with ptr1 := ptr1, ptr2 := ptr2 } :: r

def adaptorRun (chain : List Desc) (w : World) : Option (List Desc × World) :=
  (if e.prephysicalized then some (chain, w) else sahPhysicaliseDescriptors e chain w).bind fun r =>
    (if e.prephysicalized then some r.1 else sahDePhysicaliseDescriptors r.1).map fun chain' =>
      (chain', r.2.emit [.change e.hardware])

/-- `adaptor_Exec_Descriptor_Chain`, to the end of the request. -/
def adaptorExecDescriptorChain (chain : List Desc) (w : World) : Option (Return × List Desc × World) :=
  (adaptorRun e chain w).map fun r =>
    if e.saveDescChain then (e.result, r.1, r.2) else (e.result, [], sahDescriptorChainDestroy r.1 r.2)

def sahDescriptorChainExecute (chain : List Desc) (w : World) : Option (Return × List Desc × World) :=
  if chain = [] ∨ e.aligned = false then some (.error, chain, w)
  else
    let r := sahReworkLinks chain w
    if r.1 = .ok then adaptorExecDescriptorChain e r.2.1 r.2.2 else some r

structure World.Same (w w' : World) : Prop where
  log : w'.log = w.log
  buffers : w'.buffers = w.buffers

namespace World.Same

variable {w w' w'' : World}

lemma rfl : w.Same w := ⟨Eq.refl _, Eq.refl _⟩

lemma trans (h : w.Same w') (h' : w'.Same w'') : w.Same w'' := ⟨h'.log.trans h.log, h'.buffers.trans h.buffers⟩

lemma alloc (w : World) : w.Same w.alloc.2 := ⟨Eq.refl _, Eq.refl _⟩

end World.Same

/-! ### What the rework does -/

def Splits (links : List Link) : Prop :=
  (∀ link ∈ links.head?, link.flags.output = false) ∧ (∃ link ∈ links.dropLast, link.Odd) ∧ 16#32 < linksLen links

instance (links : List Link) : Decidable (Splits links) := inferInstanceAs (Decidable (_ ∧ _ ∧ _))

def splitLast : List Link → List Link
  | [] => []
  | [link] => [link.shorten, link.lastByte]
  | link :: next :: rest => link :: splitLast (next :: rest)

lemma reworkLoop_eq : ∀ (found : Bool) (total : BitVec 32) (links : List Link) (w : World),
  reworkLoop found total links w =
    if (found = true ∨ ∃ link ∈ links.dropLast, link.Odd) ∧ links ≠ [] ∧
        16#32 < links.foldl (fun n link => n + link.len) total then
      match w.alloc with
      | (true, w') => (.ok, splitLast links, w')
      | (false, w') => (.noResource, links, w')
    else (.ok, links, w)
  | found, total, [], w => by simp [reworkLoop]
  | found, total, [link], w => by
    rw [reworkLoop]
    simp only [dropLast_singleton,not_mem_nil,false_and,exists_false,or_false,ne_eq,cons_ne_nil,
      not_false_eq_true,true_and,foldl_cons,foldl_nil,reworkLoop,splitLast]
  | found, total, link :: next :: rest, w => by
    have ih := reworkLoop_eq (found || decide link.Odd) (total + link.len) (next :: rest) w
    have hodd : ((found || decide link.Odd) = true ∨ ∃ l ∈ (next :: rest).dropLast, l.Odd) ↔
        (found = true ∨ ∃ l ∈ (link :: next :: rest).dropLast, l.Odd) := by
      simp only [Bool.or_eq_true,decide_eq_true_iff,dropLast_cons_cons,mem_cons,exists_eq_or_imp,or_assoc]
    rw [reworkLoop,if_neg fun h => cons_ne_nil _ _ h.2.1]
    simp only [ih,hodd,foldl_cons,ne_eq,cons_ne_nil,not_false_eq_true,true_and]
    split
    · cases h : w.alloc with
      | mk b w' => cases b <;> simp [splitLast]
    · rfl

lemma sahReworkLinkChain_cases (links : List Link) (w : World) :
  w.Same (sahReworkLinkChain links w).2.2 ∧
    ((sahReworkLinkChain links w).2.1 = links ∨ Splits links ∧ (sahReworkLinkChain links w).2.1 = splitLast links) := by
  cases links with
  | nil => exact ⟨.rfl,.inl rfl⟩
  | cons link rest =>
    rw [sahReworkLinkChain]
    split
    · exact ⟨.rfl,.inl rfl⟩
    · next hout =>
      rw [reworkLoop_eq]
      split
      · next h =>
        have hsplit : Splits (link :: rest) := by
          refine ⟨?_,h.1.resolve_left (by simp),h.2.2⟩
          intro l hl
          rw [← Option.some.inj hl]
          exact Bool.not_eq_true _ ▸ hout
        have hsame := World.Same.alloc w
        cases halloc : w.alloc with
        | mk b w' =>
          rw [halloc] at hsame
          cases b with
          | true => exact ⟨hsame,.inr ⟨hsplit,rfl⟩⟩
          | false => exact ⟨hsame,.inl rfl⟩
      · exact ⟨.rfl,.inl rfl⟩

def chainLinks (chain : List Desc) : List Link := chain.flatMap Desc.links

lemma reworkLinks_rel {R : List Link → List Link → Prop} (hrefl : ∀ links, R links links)
  (happ : ∀ {a a' b b'}, R a a' → R b b' → R (a ++ b) (a' ++ b')) : ∀ (chain : List Desc) (w : World),
  (∀ d ∈ chain, ∀ links ∈ [d.ptr1, d.ptr2], ∀ w, R links (sahReworkLinkChain links w).2.1) →
    w.Same (sahReworkLinks chain w).2.2 ∧ R (chainLinks chain) (chainLinks (sahReworkLinks chain w).2.1)
  | [], _, _ => ⟨.rfl, hrefl _⟩
  | d :: chain, w, h => by
    have hd := h d mem_cons_self
    have hw1 := (sahReworkLinkChain_cases d.ptr1 w).1
    have h1 := hd d.ptr1 (by simp) w
    rw [sahReworkLinks]
    split
    · exact ⟨.rfl,hrefl _⟩
    · simp only
      split
      · exact ⟨hw1,happ (happ h1 (hrefl _)) (hrefl _)⟩
      · have hw2 := (sahReworkLinkChain_cases d.ptr2 (sahReworkLinkChain d.ptr1 w).2.2).1
        have h2 := hd d.ptr2 (by simp) (sahReworkLinkChain d.ptr1 w).2.2
        split
        · exact ⟨hw1.trans hw2,happ (happ h1 h2) (hrefl _)⟩
        · obtain ⟨hw,ih⟩ := reworkLinks_rel hrefl happ chain (sahReworkLinkChain d.ptr2 (sahReworkLinkChain d.ptr1 w).2.2).2.2
            fun d' hd' => h d' (mem_cons_of_mem d hd')
          exact ⟨(hw1.trans hw2).trans hw,happ (happ h1 h2) ih⟩

section
variable (link : Link)

lemma physical_flags : (e.physical link).flags = link.flags := by
  unfold Exec.physical
  split
  · split <;> rfl
  · split <;> rfl

lemma virtual_flags : link.virtual.flags = link.flags := by
  unfold Link.virtual
  split <;> rfl

lemma withLen_withLen (n : BitVec 32) : (link.withLen n).withLen link.len = link := rfl

lemma virtual_withLen (n : BitVec 32) : (link.withLen n).virtual = link.virtual.withLen n := by
  unfold Link.virtual
  split <;> split <;> first | rfl | contradiction

lemma virtual_len : link.virtual.len = link.len := by
  unfold Link.virtual
  split <;> rfl

end

def Exec.used (link : Link) : Link := (e.physical link).virtual

lemma dephysicaliseLoop_of_links {links links' : List Link} (h : sahDePhysicaliseLinks links = some links') (prev : Link) :
  dephysicaliseLoop prev links = prev :: links' := by
  cases links with
  | nil =>
    cases h
    rfl
  | cons link rest =>
    rw [sahDePhysicaliseLinks] at h
    split at h
    · cases h
    · next hins => rw [dephysicaliseLoop,if_neg hins,Option.some.inj h]

lemma dephysicaliseLoop_pair (link : Link) (rest : List Link) :
  dephysicaliseLoop (link.withLen link.toBorder).virtual (link.beyondBorder :: rest) =
    dephysicaliseLoop link.virtual rest := by
  have hlen : (link.virtual.withLen link.toBorder).len + link.beyondBorder.virtual.len = link.virtual.len := by
    rw [virtual_len,virtual_len]
    exact add_sub_cancel link.toBorder link.len
  rw [dephysicaliseLoop,if_pos (by rw [virtual_flags]; rfl),virtual_withLen,hlen,withLen_withLen]

lemma dephysicalise_physicalise : ∀ (links : List Link) (w : World) {r : List Link × World},
  sahPhysicaliseLinks e links w = some r → (∀ link ∈ links, link.flags.inserted = false) →
    w.Same r.2 ∧ sahDePhysicaliseLinks r.1 = some (links.map e.used)
  | [], w, r, h, _ => by
    cases h
    exact ⟨.rfl,rfl⟩
  | link :: rest, w, r, h, hno => by
    have hlink := hno link mem_cons_self
    have hrest : ∀ l ∈ rest, l.flags.inserted = false := fun l hl => hno l (mem_cons_of_mem link hl)
    rw [sahPhysicaliseLinks] at h
    split at h
    · have hsame := World.Same.alloc w
      split at h
      · next w' halloc =>
        rw [halloc] at hsame
        obtain ⟨r',hr',rfl⟩ := Option.map_eq_some_iff.mp h
        obtain ⟨hw,hlinks⟩ := dephysicalise_physicalise rest w' hr' hrest
        refine ⟨hsame.trans hw,?_⟩
        have hins : ((e.physical link).withLen (e.physical link).toBorder).virtual.flags.inserted = false := by
          rw [virtual_flags]
          exact (congrArg LinkFlags.inserted (physical_flags e link)).trans hlink
        rw [sahDePhysicaliseLinks,hins,if_neg (by decide),dephysicaliseLoop_pair,dephysicaliseLoop_of_links hlinks]
        rfl
      · cases h
    · obtain ⟨r',hr',rfl⟩ := Option.map_eq_some_iff.mp h
      obtain ⟨hw,hlinks⟩ := dephysicalise_physicalise rest w hr' hrest
      refine ⟨hw,?_⟩
      rw [sahDePhysicaliseLinks,virtual_flags,physical_flags,hlink,if_neg (by decide),dephysicaliseLoop_of_links hlinks]
      rfl

end Mx27.Shw
