/-
# Copying a chain of descriptors from user space
-/
import Mx27Drivers.Sahara.Links

namespace Mx27.Sahara

open List

def SAH_LLO_BIT : BitVec 32 := 0x01000000

structure LinkAttempt where
  copied : Bool
  input : LinkInput

structure DescInput where
  alloc : Bool
  copied : Bool
  header : BitVec 32
  ptr1 : List LinkAttempt
  ptr2 : List LinkAttempt

structure HeadInput extends DescInput where
  userInfo : BitVec 32
  ucoFlags : BitVec 32
  status : BitVec 32
  errorStatus : BitVec 32

inductive Ptr
  | null
  | user
  | bus
  | links (chain : List Link)
  | desc
  deriving DecidableEq

def Ptr.ofUser (w : BitVec 32) : Ptr := if w = 0 then .null else .user

def Ptr.ofLinks (xs : List LinkAttempt) : Ptr := if xs.isEmpty then .null else .user

structure Desc where
  id : ℕ
  header : BitVec 32
  ptr1 : Ptr
  ptr2 : Ptr
  next : Ptr
  virtAddr : Ptr
  originalPtr1 : Ptr
  originalPtr2 : Ptr
  originalNext : Ptr
  deriving DecidableEq

/-! ### The code -/

/-- `sah_Copy_Links`, from where `chain` has been made. -/
def sahCopyLinks : List LinkAttempt → List Link → Ledger → Except Fault (Option (List Link) × Ledger)
  | [], chain, l => .ok (some chain, l)
  | a :: rest, chain, l =>
    if a.copied then
      match sahMakeLinks a.input l with
      | .ok (some links, l') => sahCopyLinks rest (chain ++ links) l'
      | .ok (none, l') => .ok (none, sahDestroyLinks chain l')
      | .error e => .error e
    else .ok (none, sahDestroyLinks chain l)

def copyPtr (xs : List LinkAttempt) (ptr original : Ptr) (l : Ledger) : Except Fault (Bool × (Ptr × Ptr) × Ledger) :=
  if ptr = .null then .ok (true, (ptr, original), l)
  else match sahCopyLinks xs [] l with
    | .ok (some chain, l') => .ok (true, (.bus, .links chain), l')
    | .ok (none, l') => .ok (false, (ptr, .null), l')
    | .error e => .error e

def copyPointers (x : DescInput) (d : Desc) (l : Ledger) : Except Fault (Bool × Desc × Ledger) :=
  if d.header &&& SAH_LLO_BIT = 0 then
    match copyPtr x.ptr1 d.ptr1 d.originalPtr1 l with
    | .ok (true, p, l') =>
      match copyPtr x.ptr2 d.ptr2 d.originalPtr2 l' with
      | .ok (b, q, l'') =>
        .ok (b, { d with ptr1 := p.1, originalPtr1 := p.2, ptr2 := q.1, originalPtr2 := q.2 }, l'')
      | .error e => .error e
    | .ok (false, p, l') => .ok (false, { d with ptr1 := p.1, originalPtr1 := p.2, ptr2 := .null }, l')
    | .error e => .error e
  else .ok (false, d, l)

/-- `sah_Alloc_Descriptor` and the copy of a user's descriptor over it. -/
def laterDesc (x : DescInput) (id : ℕ) : Desc :=
  ⟨id, x.header, .ofLinks x.ptr1, .ofLinks x.ptr2, .null, .desc, .null, .null, .null⟩

def copyLater : Desc → List DescInput → Ledger → Except Fault (Bool × List Desc × Ledger)
  | prev, [], l => .ok (true, [prev], l)
  | prev, x :: rest, l =>
    if x.alloc then
      let prev' := { prev with originalNext := .desc, next := .bus }
      if x.copied then
        match copyPointers x (laterDesc x l.count) l.acquire with
        | .ok (true, d, l') =>
          match copyLater d rest l' with
          | .ok (b, ds, l'') => .ok (b, prev' :: ds, l'')
          | .error e => .error e
        | .ok (false, d, l') => .ok (false, [prev', d], l')
        | .error e => .error e
      else .ok (false, [prev', { laterDesc x l.count with ptr1 := .null, ptr2 := .null }], l.acquire)
    else .ok (false, [prev], l)

/-- `sah_Alloc_Head_Descriptor` and the copy of the user's head over it. -/
def headDesc (x : HeadInput) (id : ℕ) : Desc :=
  ⟨id, x.header, .ofLinks x.ptr1, .ofLinks x.ptr2, .null, .ofUser x.userInfo, .ofUser x.ucoFlags, .ofUser x.status,
    .ofUser x.errorStatus⟩

def copyChain (x : HeadInput) (later : List DescInput) (l : Ledger) : Except Fault (Bool × List Desc × Ledger) :=
  if x.alloc then
    if x.copied then
      match copyPointers x.toDescInput { headDesc x l.count with virtAddr := .desc } l.acquire with
      | .ok (true, d, l') => copyLater d later l'
      | .ok (false, d, l') => .ok (false, [d], l')
      | .error e => .error e
    else .ok (false, [{ headDesc x l.count with ptr1 := .null, ptr2 := .null }], l.acquire)
  else .ok (false, [], l)

def destroyPtr (ptr original : Ptr) (l : Ledger) : Except Fault Ledger :=
  if ptr = .null then .ok l
  else match if original = .null then ptr else original with
    | .links chain => .ok (sahDestroyLinks chain l)
    | _ => .error .wild

def freeDesc (isHead : Bool) (d : Desc) (l : Ledger) : Except Fault Ledger :=
  if isHead then
    match d.virtAddr with
    | .desc => .ok (l.release [d.id])
    | .null => .error .null
    | _ => .error .wild
  else .ok (l.release [d.id])

def destroyDesc (isHead : Bool) (d : Desc) (l : Ledger) : Except Fault Ledger :=
  (destroyPtr d.ptr1 d.originalPtr1 l).bind fun l₁ =>
    (destroyPtr d.ptr2 d.originalPtr2 l₁).bind fun l₂ => freeDesc isHead d l₂

def Desc.nextDesc (d : Desc) : Ptr := if d.originalNext = .null then d.next else d.originalNext

def sahDestroyDescriptors : Bool → List Desc → Ledger → Except Fault Ledger
  | _, [], l => .ok l
  | isHead, d :: rest, l =>
    (destroyDesc isHead d l).bind fun l' =>
      match d.nextDesc with
      | .null => .ok l'
      | .desc => sahDestroyDescriptors false rest l'
      | _ => .error .wild

def sahCopyDescriptors (x : HeadInput) (later : List DescInput) (l : Ledger) :
  Except Fault (Option (List Desc) × Ledger) :=
  match copyChain x later l with
  | .ok (true, chain, l') => .ok (some chain, l')
  | .ok (false, chain, l') => (sahDestroyDescriptors true chain l').map fun l'' => (none, l'')
  | .error e => .error e

lemma sahCopyLinks_owes {l₀ : Ledger} : ∀ {xs : List LinkAttempt} {chain : List Link} {l l' : Ledger}
  {r : Option (List Link)}, l₀.Owes l (chainRes chain) → sahCopyLinks xs chain l = .ok (r, l') →
  l₀.Owes l' (chainRes (r.getD []))
  | [], chain, l, l', r, e, h => by
    cases h
    exact e
  | a :: rest, chain, l, l', r, e, h => by
    rw [sahCopyLinks] at h
    split at h
    · split at h
      · next links l1 hm =>
        apply sahCopyLinks_owes _ h
        rw [chainRes_append]
        exact e.trans (sahMakeLinks_owes hm)
      · next l1 hm =>
        cases h
        exact sahDestroyLinks_owes chain (e.trans (sahMakeLinks_owes hm))
      · cases h
    · cases h
      exact sahDestroyLinks_owes chain (by simpa using e)

def LinkAttempt.Works (a : LinkAttempt) : Prop := a.copied = true ∧ a.input.Works

lemma sahCopyLinks_works_iff : ∀ (xs : List LinkAttempt) (chain : List Link) (l : Ledger),
  (∃ chain' l', sahCopyLinks xs chain l = .ok (some chain', l')) ↔ ∀ a ∈ xs, a.Works
  | [], chain, l => iff_of_true ⟨chain, l, rfl⟩ (by simp)
  | a :: rest, chain, l => by
    rw [forall_mem_cons,sahCopyLinks]
    by_cases hc : a.copied = true
    · rw [if_pos hc]
      by_cases hw : a.input.Works
      · obtain ⟨links,l1,hm⟩ := (sahMakeLinks_works_iff a.input l).mpr hw
        rw [hm]
        exact (sahCopyLinks_works_iff rest (chain ++ links) l1).trans (and_iff_right ⟨hc,hw⟩).symm
      · refine iff_of_false ?_ fun h => hw h.1.2
        rintro ⟨chain',l',h⟩
        split at h
        · next links l1 hm => exact hw ((sahMakeLinks_works_iff a.input l).mp ⟨links, l1, hm⟩)
        · cases h
        · cases h
    · rw [if_neg hc]
      refine iff_of_false ?_ fun h => hc h.1.1
      rintro ⟨chain',l',h⟩
      cases h

def PtrHolds (ptr original : Ptr) (held : List ℕ) : Prop :=
  (ptr = .null ∧ held = []) ∨ (ptr ≠ .null ∧ ∃ chain, original = .links chain ∧ held = chainRes chain)

def Loose (ptr original : Ptr) : Prop := ptr = .user ∧ (original = .null ∨ original = .user)

lemma destroyPtr_owes {l₀ l : Ledger} {ptr original : Ptr} {held k : List ℕ} (hp : PtrHolds ptr original held)
  (e : l₀.Owes l (held ++ k)) : ∃ l', destroyPtr ptr original l = .ok l' ∧ l₀.Owes l' k := by
  rcases hp with ⟨rfl,rfl⟩ | ⟨hne,chain,rfl,rfl⟩
  · exact ⟨l,rfl,e⟩
  · refine ⟨sahDestroyLinks chain l,?_,sahDestroyLinks_owes chain e⟩
    rw [destroyPtr,if_neg hne]
    rfl

lemma destroyPtr_loose {ptr original : Ptr} (h : Loose ptr original) (l : Ledger) :
  destroyPtr ptr original l = .error .wild := by
  obtain ⟨rfl,rfl | rfl⟩ := h
  · rfl
  · rfl

lemma copyPtr_works {xs : List LinkAttempt} (hw : ∀ a ∈ xs, a.Works) (original : Ptr) (l : Ledger) :
  ∃ p l' held, copyPtr xs (.ofLinks xs) original l = .ok (true, p, l') ∧ PtrHolds p.1 p.2 held ∧ l.Owes l' held := by
  cases xs with
  | nil => exact ⟨_,l,[],rfl,.inl ⟨rfl,rfl⟩,Ledger.Owes.refl l⟩
  | cons a rest =>
    obtain ⟨chain,l',hc⟩ := (sahCopyLinks_works_iff (a :: rest) [] l).mpr hw
    refine ⟨(.bus,.links chain),l',chainRes chain,?_,.inr ⟨nofun,chain,rfl,rfl⟩,?_⟩
    · rw [copyPtr,if_neg (by simp [Ptr.ofLinks]),hc]
    · exact sahCopyLinks_owes (Ledger.Owes.refl l) hc

lemma copyPtr_fails {xs : List LinkAttempt} (hw : ¬ ∀ a ∈ xs, a.Works) (original : Ptr) (l : Ledger) :
  (∃ e, copyPtr xs (.ofLinks xs) original l = .error e) ∨
    ∃ l', copyPtr xs (.ofLinks xs) original l = .ok (false, (.user, .null), l') := by
  cases xs with
  | nil => exact absurd (by simp) hw
  | cons a rest =>
    have hptr : Ptr.ofLinks (a :: rest) = .user := rfl
    rw [hptr,copyPtr,if_neg nofun]
    rcases hc : sahCopyLinks (a :: rest) [] l with e | ⟨- | chain,l'⟩
    · exact .inl ⟨e,rfl⟩
    · exact .inr ⟨l',rfl⟩
    · exact absurd ((sahCopyLinks_works_iff _ _ _).mp ⟨chain,l',hc⟩) hw

/-! ### What a descriptor holds -/

def Desc.Holds (d : Desc) (held : List ℕ) : Prop :=
  ∃ held₁ held₂, PtrHolds d.ptr1 d.originalPtr1 held₁ ∧ PtrHolds d.ptr2 d.originalPtr2 held₂ ∧ held = held₁ ++ held₂

def Desc.Loose (d : Desc) : Prop := Sahara.Loose d.ptr1 d.originalPtr1 ∨ Sahara.Loose d.ptr2 d.originalPtr2

lemma Desc.holds_nil {d : Desc} (h₁ : d.ptr1 = .null) (h₂ : d.ptr2 = .null) : d.Holds [] :=
  ⟨[], [], .inl ⟨h₁, rfl⟩, .inl ⟨h₂, rfl⟩, rfl⟩

lemma destroyDesc_owes {l₀ l : Ledger} {d : Desc} {isHead : Bool} {held k : List ℕ} (hd : d.Holds held)
  (hv : isHead = true → d.virtAddr = .desc) (e : l₀.Owes l (held ++ d.id :: k)) :
  ∃ l', destroyDesc isHead d l = .ok l' ∧ l₀.Owes l' k := by
  obtain ⟨held1,held2,h1,h2,rfl⟩ := hd
  rw [List.append_assoc] at e
  obtain ⟨l1,hl1,e1⟩ := destroyPtr_owes h1 e
  obtain ⟨l2,hl2,e2⟩ := destroyPtr_owes h2 e1
  refine ⟨l2.release [d.id],?_,e2.release⟩
  rw [destroyDesc,hl1,Except.bind,hl2,Except.bind,freeDesc]
  split
  · next hh => rw [hv hh]
  · rfl

lemma destroyDesc_loose {d : Desc} (hd : d.Loose) (isHead : Bool) (l : Ledger) :
  ∃ e, destroyDesc isHead d l = .error e := by
  rw [destroyDesc]
  rcases hd with h | h
  · exact ⟨.wild,by rw [destroyPtr_loose h,Except.bind]⟩
  · rcases destroyPtr d.ptr1 d.originalPtr1 l with e | l1
    · exact ⟨e,rfl⟩
    · exact ⟨.wild,by rw [Except.bind,destroyPtr_loose h,Except.bind]⟩

structure Desc.SameFrame (d d' : Desc) : Prop where
  id : d'.id = d.id
  next : d'.next = d.next
  virtAddr : d'.virtAddr = d.virtAddr
  originalNext : d'.originalNext = d.originalNext

def DescInput.Copies (x : DescInput) : Prop := x.header &&& SAH_LLO_BIT = 0 ∧ (∀ a ∈ x.ptr1, a.Works) ∧ ∀ a ∈ x.ptr2, a.Works

def DescInput.Bare (x : DescInput) : Prop := x.header &&& SAH_LLO_BIT ≠ 0 ∧ x.ptr1 = [] ∧ x.ptr2 = []

structure DescInput.Read (x : DescInput) (d : Desc) : Prop where
  header : d.header = x.header
  ptr1 : d.ptr1 = .ofLinks x.ptr1
  ptr2 : d.ptr2 = .ofLinks x.ptr2
  original1 : d.originalPtr1 = .null ∨ d.originalPtr1 = .user
  original2 : d.originalPtr2 = .null ∨ d.originalPtr2 = .user

section
variable {x : DescInput} {d : Desc}

lemma copyPointers_copies (hr : x.Read d) (hc : x.Copies) (l : Ledger) :
  ∃ d' l' held, copyPointers x d l = .ok (true, d', l') ∧ d.SameFrame d' ∧ d'.Holds held ∧ l.Owes l' held := by
  obtain ⟨hllo,h1,h2⟩ := hc
  obtain ⟨p,l1,held1,hp,hh1,e1⟩ := copyPtr_works h1 d.originalPtr1 l
  obtain ⟨q,l2,held2,hq,hh2,e2⟩ := copyPtr_works h2 d.originalPtr2 l1
  refine ⟨{ d with ptr1 := p.1,originalPtr1 := p.2,ptr2 := q.1,originalPtr2 := q.2 },l2,held1 ++ held2,?_,
    ⟨rfl,rfl,rfl,rfl⟩,⟨held1,held2,hh1,hh2,rfl⟩,e1.trans e2⟩
  simp only [copyPointers,hr.header,if_pos hllo,hr.ptr1,hp,hr.ptr2,hq]

lemma copyPointers_bare (hr : x.Read d) (hb : x.Bare) (l : Ledger) :
  copyPointers x d l = .ok (false, d, l) ∧ d.Holds [] := by
  obtain ⟨hllo,h1,h2⟩ := hb
  refine ⟨?_,Desc.holds_nil ?_ ?_⟩
  · rw [copyPointers,hr.header,if_neg hllo]
  · rw [hr.ptr1,h1]
    rfl
  · rw [hr.ptr2,h2]
    rfl

lemma copyPointers_loose (hr : x.Read d) (hc : ¬ x.Copies) (hb : ¬ x.Bare) (l : Ledger) :
  (∃ e, copyPointers x d l = .error e) ∨ ∃ d' l', copyPointers x d l = .ok (false, d', l') ∧ d'.Loose := by
  by_cases hllo : x.header &&& SAH_LLO_BIT = 0
  · simp only [copyPointers,hr.header,if_pos hllo,hr.ptr1]
    by_cases h1 : ∀ a ∈ x.ptr1, a.Works
    · obtain ⟨p,l1,held1,hp,-,-⟩ := copyPtr_works h1 d.originalPtr1 l
      have h2 : ¬ ∀ a ∈ x.ptr2, a.Works := fun h2 => hc ⟨hllo,h1,h2⟩
      simp only [hp,hr.ptr2]
      rcases copyPtr_fails h2 d.originalPtr2 l1 with ⟨e,he⟩ | ⟨l',hq⟩
      · exact .inl ⟨e,by rw [he]⟩
      · exact .inr ⟨_,l',by rw [hq],.inr ⟨rfl,.inl rfl⟩⟩
    · rcases copyPtr_fails h1 d.originalPtr1 l with ⟨e,he⟩ | ⟨l',hp⟩
      · exact .inl ⟨e,by rw [he]⟩
      · exact .inr ⟨_,l',by rw [hp],.inl ⟨rfl,.inl rfl⟩⟩
  · refine .inr ⟨d,l,by rw [copyPointers,hr.header,if_neg hllo],?_⟩
    have hne : ∀ xs : List LinkAttempt, xs ≠ [] → Ptr.ofLinks xs = .user := by
      intro xs hx
      simp [Ptr.ofLinks,hx]
    by_cases h1 : x.ptr1 = []
    · have h2 : x.ptr2 ≠ [] := fun h2 => hb ⟨hllo,h1,h2⟩
      exact .inr ⟨by rw [hr.ptr2,hne _ h2],hr.original2⟩
    · exact .inl ⟨by rw [hr.ptr1,hne _ h1],hr.original1⟩

end

inductive ChainHolds : List Desc → List ℕ → Prop
  | last {d : Desc} {held : List ℕ} : d.Holds held → d.nextDesc = .null → ChainHolds [d] (held ++ [d.id])
  | cons {d : Desc} {rest : List Desc} {held held' : List ℕ} :
      d.Holds held → d.nextDesc = .desc → ChainHolds rest held' → ChainHolds (d :: rest) (held ++ d.id :: held')

inductive Broken : List Desc → Prop
  | loose {d : Desc} {rest : List Desc} : d.Loose → Broken (d :: rest)
  | stray {d : Desc} {rest : List Desc} : d.nextDesc = .user → Broken (d :: rest)
  | later {d : Desc} {rest : List Desc} : d.nextDesc = .desc → Broken rest → Broken (d :: rest)

lemma destroy_owes {l₀ : Ledger} {ds : List Desc} {held : List ℕ} (h : ChainHolds ds held) :
  ∀ (isHead : Bool) {l : Ledger}, (isHead = true → ∀ d ∈ ds.head?, d.virtAddr = .desc) → l₀.Owes l held →
    ∃ l', sahDestroyDescriptors isHead ds l = .ok l' ∧ l₀.Owes l' [] := by
  induction h with
  | last hd hnext =>
    intro isHead l hv e
    obtain ⟨l',hl',e'⟩ := destroyDesc_owes hd (fun hh => hv hh _ rfl) e
    refine ⟨l',?_,e'⟩
    rw [sahDestroyDescriptors,hl',Except.bind,hnext]
  | cons hd hnext hrest ih =>
    intro isHead l hv e
    obtain ⟨l1,hl1,e1⟩ := destroyDesc_owes hd (fun hh => hv hh _ rfl) e
    obtain ⟨l',hl',e'⟩ := ih false nofun e1
    refine ⟨l',?_,e'⟩
    rw [sahDestroyDescriptors,hl1,Except.bind,hnext]
    exact hl'

lemma destroy_broken {ds : List Desc} (h : Broken ds) :
  ∀ (isHead : Bool) (l : Ledger), ∃ e, sahDestroyDescriptors isHead ds l = .error e := by
  induction h with
  | loose hd =>
    intro isHead l
    obtain ⟨e,he⟩ := destroyDesc_loose hd isHead l
    exact ⟨e,by rw [sahDestroyDescriptors,he,Except.bind]⟩
  | @stray d rest hnext =>
    intro isHead l
    rw [sahDestroyDescriptors]
    rcases destroyDesc isHead d l with e | l'
    · exact ⟨e,rfl⟩
    · exact ⟨.wild,by rw [Except.bind,hnext]⟩
  | @later d rest hnext hrest ih =>
    intro isHead l
    rw [sahDestroyDescriptors]
    rcases destroyDesc isHead d l with e | l'
    · exact ⟨e,rfl⟩
    · obtain ⟨e,he⟩ := ih false l'
      exact ⟨e,by rw [Except.bind,hnext]; exact he⟩

/-! ### When the clean-up is safe -/

def LaterClean : Prop → List DescInput → Prop
  | _, [] => True
  | ends, x :: rest =>
    if x.alloc then x.copied = false ∨ x.Bare ∨ (x.Copies ∧ LaterClean True rest) else ends

def Clean (x : HeadInput) (later : List DescInput) : Prop :=
  x.alloc = true → x.copied = true ∧
    ((x.Bare ∧ x.errorStatus = 0) ∨ (x.Copies ∧ LaterClean (x.errorStatus = 0) later))

lemma laterDesc_read (x : DescInput) (id : ℕ) : x.Read (laterDesc x id) := ⟨rfl, rfl, rfl, .inl rfl, .inl rfl⟩

lemma Desc.nextDesc_linked (d : Desc) : Desc.nextDesc { d with originalNext := .desc, next := .bus } = .desc := rfl

lemma copyLater_clean : ∀ {prev : Desc} {xs : List DescInput} {l : Ledger} {heldp : List ℕ},
  prev.Holds heldp → prev.next = .null → LaterClean (prev.originalNext = .null) xs →
  ∃ b ds l', copyLater prev xs l = .ok (b, ds, l') ∧ (∀ d ∈ ds.head?, d.virtAddr = prev.virtAddr) ∧
    (b = false → ∃ held, ChainHolds ds (heldp ++ prev.id :: held) ∧ l.Owes l' held)
  | prev, [], l, heldp, hp, hn, hc => by
    refine ⟨true,[prev],l,rfl,?_,nofun⟩
    intro d hd
    rw [← Option.some.inj hd]
  | prev, x :: rest, l, heldp, hp, hn, hc => by
    obtain ⟨prev',hprev'⟩ : ∃ prev', prev' = { prev with originalNext := .desc, next := .bus } := ⟨_, rfl⟩
    have hnext : prev'.nextDesc = .desc := by rw [hprev',Desc.nextDesc_linked]
    have hp' : prev'.Holds heldp := by rw [hprev']; exact hp
    have hid : prev'.id = prev.id := by rw [hprev']
    have hvirt : ∀ ds : List Desc, ∀ d ∈ (prev' :: ds).head?, d.virtAddr = prev.virtAddr := by
      intro ds d hd
      rw [← Option.some.inj hd,hprev']
    have hacq := Ledger.Owes.acquire l
    rw [LaterClean] at hc
    rw [copyLater]
    by_cases ha : x.alloc = true
    · rw [if_pos ha] at hc ⊢
      simp only [← hprev']
      by_cases hcop : x.copied = true
      · rw [if_pos hcop]
        rcases hc with hcop' | hb | ⟨hcopies,hlater⟩
        · rw [hcop] at hcop'
          cases hcop'
        · obtain ⟨hcp,hholds⟩ := copyPointers_bare (laterDesc_read x l.count) hb l.acquire
          rw [hcp]
          refine ⟨false,_,_,rfl,hvirt _,fun _ => ⟨[l.count],?_,hacq⟩⟩
          rw [← hid]
          exact .cons hp' hnext (.last hholds rfl)
        · obtain ⟨d,l1,held,hcp,hframe,hholds,e⟩ :=
            copyPointers_copies (laterDesc_read x l.count) hcopies l.acquire
          have hend : d.originalNext = .null := hframe.originalNext
          rw [← eq_true hend] at hlater
          obtain ⟨b,ds,l',hrun,-,hheld⟩ := copyLater_clean (l := l1) hholds hframe.next hlater
          rw [hcp]
          simp only [hrun]
          refine ⟨b,_,l',rfl,hvirt _,fun hb => ?_⟩
          obtain ⟨held',hchain,e'⟩ := hheld hb
          refine ⟨held ++ d.id :: held',?_,?_⟩
          · rw [← hid]
            exact .cons hp' hnext hchain
          · have hdid : d.id = l.count := hframe.id
            rw [hdid]
            refine ((hacq.trans e).trans e').perm ?_
            rw [List.append_assoc,singleton_append]
            exact perm_middle.symm
      · rw [if_neg hcop]
        refine ⟨false,_,_,rfl,hvirt _,fun _ => ⟨[l.count],?_,hacq⟩⟩
        rw [← hid]
        exact .cons hp' hnext (.last (Desc.holds_nil rfl rfl) rfl)
    · rw [if_neg ha] at hc ⊢
      refine ⟨false,[prev],l,rfl,?_,fun _ => ⟨[],.last hp ?_,Ledger.Owes.refl l⟩⟩
      · intro d hd
        rw [← Option.some.inj hd]
      · rw [Desc.nextDesc,if_pos hc,hn]

lemma copyLater_broken : ∀ {prev : Desc} {xs : List DescInput} {l : Ledger},
  prev.originalNext = .null ∨ prev.originalNext = .user → ¬ LaterClean (prev.originalNext = .null) xs →
  (∃ e, copyLater prev xs l = .error e) ∨ ∃ ds l', copyLater prev xs l = .ok (false, ds, l') ∧ Broken ds
  | prev, [], l, ho, hc => absurd trivial hc
  | prev, x :: rest, l, ho, hc => by
    rw [LaterClean] at hc
    rw [copyLater]
    by_cases ha : x.alloc = true
    · rw [if_pos ha] at hc ⊢
      rw [not_or,not_or] at hc
      obtain ⟨hcop,hb,hrest⟩ := hc
      rw [Bool.not_eq_false] at hcop
      rw [if_pos hcop]
      by_cases hcopies : x.Copies
      · obtain ⟨d,l1,held,hcp,hframe,-,-⟩ :=
          copyPointers_copies (laterDesc_read x l.count) hcopies l.acquire
        have hend : d.originalNext = .null := hframe.originalNext
        have hlater : ¬ LaterClean (d.originalNext = .null) rest := by
          rw [eq_true hend]
          exact fun h => hrest ⟨hcopies,h⟩
        rw [hcp]
        rcases copyLater_broken (l := l1) (.inl hend) hlater with ⟨e,he⟩ | ⟨ds,l',hrun,hbr⟩
        · exact .inl ⟨e,by simp only [he]⟩
        · exact .inr ⟨_,l',by simp only [hrun],.later (Desc.nextDesc_linked prev) hbr⟩
      · rcases copyPointers_loose (laterDesc_read x l.count) hcopies hb l.acquire with ⟨e,he⟩ | ⟨d,l',hcp,hl⟩
        · exact .inl ⟨e,by simp only [he]⟩
        · exact .inr ⟨[_,d],l',by simp only [hcp],.later (Desc.nextDesc_linked prev) (.loose hl)⟩
    · rw [if_neg ha] at hc ⊢
      refine .inr ⟨[prev],l,rfl,.stray ?_⟩
      rw [Desc.nextDesc,if_neg hc]
      exact ho.resolve_left hc

def ReleasesAll (l : Ledger) : Except Fault (Option (List Desc) × Ledger) → Prop
  | .ok (none, l') => l.Owes l' []
  | .ok (some _, _) => True
  | .error _ => False

section
variable (x : HeadInput) (l : Ledger)

lemma Ptr.ofUser_cases (w : BitVec 32) : (Ptr.ofUser w = .null ↔ w = 0) ∧ (Ptr.ofUser w = .null ∨ Ptr.ofUser w = .user) := by
  unfold Ptr.ofUser
  split
  · next h => exact ⟨iff_of_true rfl h,.inl rfl⟩
  · next h => exact ⟨iff_of_false nofun h,.inr rfl⟩

lemma headDesc_read : x.Read { headDesc x l.count with virtAddr := .desc } :=
  ⟨rfl, rfl, rfl, (Ptr.ofUser_cases _).2, (Ptr.ofUser_cases _).2⟩

variable {x l} {later : List DescInput}

lemma releasesAll_of_holds {ds : List Desc} {l' : Ledger} {held : List ℕ}
  (h : copyChain x later l = .ok (false, ds, l')) (hds : ChainHolds ds held) (hv : ∀ d ∈ ds.head?, d.virtAddr = .desc)
  (e : l.Owes l' held) : ReleasesAll l (sahCopyDescriptors x later l) := by
  obtain ⟨l'',hl'',e'⟩ := destroy_owes hds true (fun _ => hv) e
  simp only [sahCopyDescriptors,h,hl'',Except.map]
  exact e'

lemma not_releasesAll_of_error {ds : List Desc} {l' : Ledger} {f : Fault}
  (h : copyChain x later l = .ok (false, ds, l')) (he : sahDestroyDescriptors true ds l' = .error f) :
  ¬ ReleasesAll l (sahCopyDescriptors x later l) := by
  simp only [sahCopyDescriptors,h,he,Except.map]
  exact id

lemma not_releasesAll_of_fault {f : Fault} (h : copyChain x later l = .error f) :
  ¬ ReleasesAll l (sahCopyDescriptors x later l) := by
  simp only [sahCopyDescriptors,h]
  exact id

lemma unread_head_fails (ha : x.alloc = true) (hc : ¬ x.copied = true) :
  ¬ ReleasesAll l (sahCopyDescriptors x later l) := by
  have hrun : copyChain x later l =
      .ok (false, [{ headDesc x l.count with ptr1 := .null, ptr2 := .null }], l.acquire) := by
    rw [copyChain,if_pos ha,if_neg hc]
  obtain ⟨f,hf⟩ : ∃ f, freeDesc true { headDesc x l.count with ptr1 := .null, ptr2 := .null } l.acquire = .error f := by
    rcases (Ptr.ofUser_cases x.userInfo).2 with h | h
    · exact ⟨.null,by simp only [freeDesc,if_true,headDesc,h]⟩
    · exact ⟨.wild,by simp only [freeDesc,if_true,headDesc,h]⟩
  refine not_releasesAll_of_error hrun (f := f) ?_
  rw [sahDestroyDescriptors,destroyDesc,destroyPtr,if_pos rfl,Except.bind,destroyPtr,if_pos rfl,Except.bind,hf,
    Except.bind]

lemma releases_of_clean (hc : Clean x later) : ReleasesAll l (sahCopyDescriptors x later l) := by
  by_cases ha : x.alloc = true
  · obtain ⟨hcop,⟨hb,he⟩ | ⟨hcopies,hlater⟩⟩ := hc ha
    · obtain ⟨hcp,hholds⟩ := copyPointers_bare (headDesc_read x l) hb l.acquire
      have hrun : copyChain x later l = .ok (false, [{ headDesc x l.count with virtAddr := .desc }], l.acquire) := by
        rw [copyChain,if_pos ha,if_pos hcop,hcp]
      refine releasesAll_of_holds hrun (.last hholds ?_) (fun d hd => ?_) (Ledger.Owes.acquire l)
      · simp only [Desc.nextDesc,headDesc,(Ptr.ofUser_cases _).1.mpr he,if_true]
      · rw [← Option.some.inj hd]
    · obtain ⟨d,l1,held,hcp,hframe,hholds,e⟩ := copyPointers_copies (headDesc_read x l) hcopies l.acquire
      have hend : (d.originalNext = .null) = (x.errorStatus = 0) := by
        rw [hframe.originalNext]
        exact propext (Ptr.ofUser_cases _).1
      rw [← hend] at hlater
      obtain ⟨b,ds,l',hrun,hv,hheld⟩ := copyLater_clean (l := l1) hholds hframe.next hlater
      have hchain : copyChain x later l = .ok (b, ds, l') := by
        rw [copyChain,if_pos ha,if_pos hcop,hcp]
        exact hrun
      cases b with
      | true =>
        simp only [sahCopyDescriptors,hchain]
        trivial
      | false =>
        obtain ⟨held',hds,e'⟩ := hheld rfl
        refine releasesAll_of_holds hchain hds (fun d' hd' => ?_) ?_
        · rw [hv d' hd',hframe.virtAddr]
        · rw [hframe.id]
          refine (((Ledger.Owes.acquire l).trans e).trans e').perm ?_
          rw [List.append_assoc,singleton_append]
          exact perm_middle.symm
  · have hrun : copyChain x later l = .ok (false, [], l) := by rw [copyChain,if_neg ha]
    simp only [sahCopyDescriptors,hrun,sahDestroyDescriptors,Except.map]
    exact Ledger.Owes.refl l

end

/-- **When a failed copy is undone.** -/
theorem copyDescriptors_releases_iff (x : HeadInput) (later : List DescInput) (l : Ledger) :
  ReleasesAll l (sahCopyDescriptors x later l) ↔ Clean x later := by
  refine ⟨fun h ha => ?_,releases_of_clean⟩
  by_cases hcop : x.copied = true
  · refine ⟨hcop,?_⟩
    by_cases hcopies : x.Copies
    · right
      refine ⟨hcopies,?_⟩
      by_contra hlater
      obtain ⟨d,l1,held,hcp,hframe,-,-⟩ := copyPointers_copies (headDesc_read x l) hcopies l.acquire
      have hend : (d.originalNext = .null) = (x.errorStatus = 0) := by
        rw [hframe.originalNext]
        exact propext (Ptr.ofUser_cases _).1
      have ho : d.originalNext = .null ∨ d.originalNext = .user := by
        rw [hframe.originalNext]
        exact (Ptr.ofUser_cases _).2
      rw [← hend] at hlater
      have hchain : copyChain x later l = copyLater d later l1 := by
        rw [copyChain,if_pos ha,if_pos hcop,hcp]
      rcases copyLater_broken (l := l1) ho hlater with ⟨e,he⟩ | ⟨ds,l',hrun,hbr⟩
      · exact not_releasesAll_of_fault (hchain.trans he) h
      · obtain ⟨f,hf⟩ := destroy_broken hbr true l'
        exact not_releasesAll_of_error (hchain.trans hrun) hf h
    · left
      by_cases hb : x.Bare
      · refine ⟨hb,?_⟩
        by_contra he
        obtain ⟨hcp,-⟩ := copyPointers_bare (headDesc_read x l) hb l.acquire
        have hrun : copyChain x later l = .ok (false, [{ headDesc x l.count with virtAddr := .desc }], l.acquire) := by
          rw [copyChain,if_pos ha,if_pos hcop,hcp]
        have hnext : Desc.nextDesc { headDesc x l.count with virtAddr := .desc } = .user := by
          have hne := mt (Ptr.ofUser_cases x.errorStatus).1.mp he
          exact (if_neg hne).trans ((Ptr.ofUser_cases _).2.resolve_left hne)
        obtain ⟨f,hf⟩ := destroy_broken (.stray hnext) true l.acquire
        exact not_releasesAll_of_error hrun hf h
      · exfalso
        rcases copyPointers_loose (headDesc_read x l) hcopies hb l.acquire with ⟨e,he⟩ | ⟨d,l',hcp,hl⟩
        · refine not_releasesAll_of_fault (f := e) ?_ h
          rw [copyChain,if_pos ha,if_pos hcop,he]
        · obtain ⟨f,hf⟩ := destroy_broken (.loose hl) true l'
          have hrun : copyChain x later l = .ok (false, [d], l') := by rw [copyChain,if_pos ha,if_pos hcop,hcp]
          exact not_releasesAll_of_error hrun hf h
  · exact absurd h (unread_head_fails ha hcop)

def unreadableLink : HeadInput where
  alloc := true
  copied := true
  header := 0
  ptr1 := [⟨false, borderBuffer⟩]
  ptr2 := []
  userInfo := 0
  ucoFlags := 0
  status := 0
  errorStatus := 0

/-- The user's pointer to the link is walked as a chain of kernel links. -/
theorem copyDescriptors_walks_user :
  sahCopyDescriptors unreadableLink [] ⟨0, []⟩ = .error .wild ∧
    ¬ ReleasesAll ⟨0, []⟩ (sahCopyDescriptors unreadableLink [] ⟨0, []⟩) :=
  ⟨rfl, id⟩

end Mx27.Sahara
