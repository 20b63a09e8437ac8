/-
# Links over the pages of a user buffer
-/
import Mx27Drivers.Lib.Ledger

namespace Mx27.Sahara

open List Option Function BitVec

def PAGE_MASK : BitVec 32 := ~~~0xFFF#32

def SAH_OUTPUT_LINK : BitVec 32 := 0x04
def SAH_STORED_KEY_INFO : BitVec 32 := 0x20
def SAH_PREPHYS_DATA : BitVec 32 := 0x40

structure Page where
  base : BitVec 32
  aligned : base.toNat % 4096 = 0

structure UserLink where
  len : BitVec 32
  data : BitVec 32
  flags : BitVec 32
  deriving DecidableEq

structure Link where
  id : ℕ
  len : BitVec 32
  data : BitVec 32
  flags : BitVec 32
  vmInfo : Option ℕ
  deriving DecidableEq

structure LinkInput where
  link : UserLink
  slotInfo : Option (BitVec 32 × BitVec 32)
  pagesAlloc : Bool
  pinned : Option (List Page)
  alloc : ℕ → Bool

inductive Fault
  | null
  | wild
  deriving DecidableEq

def pageOffset (u : UserLink) : BitVec 32 := u.data &&& ~~~PAGE_MASK

def nrPages (u : UserLink) : ℕ := ((pageOffset u + u.len + ~~~PAGE_MASK) >>> 12).toNat

def bufferStart (u : UserLink) (index : ℕ) : BitVec 32 := if index = 0 then pageOffset u else 0

/-- `buffer_length` for the page of the given index. -/
def bufferLength (u : UserLink) (index : ℕ) : BitVec 32 :=
  let length := if index = 0 then 4096#32 - pageOffset u else 4096#32
  if index = nrPages u - 1 then length - (BitVec.ofNat 32 (nrPages u) * 4096#32 - u.len - pageOffset u) else length

def pageLinks (x : LinkInput) (index k id ref : ℕ) (pg : Page) : Except Fault (List Link) :=
  let start := bufferStart x.link index
  let length := bufferLength x.link index
  let link : Link := ⟨id, length, pg.base + start, x.link.flags &&& ~~~SAH_PREPHYS_DATA, some ref⟩
  if link.flags &&& SAH_OUTPUT_LINK ≠ 0 ∧ start.toNat % 32 ≠ 0 ∧ 1024 < ((start &&& 1023#32) + length).toNat then
    if x.alloc (k + 1) then
      let first := BitVec.ofNat 32 (1024 - start.toNat % 1024)
      .ok [{ link with len := first, vmInfo := none },
        ⟨id + 1, length - first, pg.base + (start + first), x.link.flags, some ref⟩]
    else .error .null
  else .ok [link]

def pageLoop (x : LinkInput) : ℕ → ℕ → List (Page × ℕ) → List Link → Ledger → Except Fault (Bool × List Link × Ledger)
  | _, _, [], chain, l => .ok (true, chain, l)
  | k, index, p :: rest, chain, l =>
    if x.alloc k then
      match pageLinks x index k l.count p.2 p.1 with
      | .ok links => pageLoop x (k + links.length) (index + 1) rest (chain ++ links) (l.acquires links.length)
      | .error e => .error e
    else .ok (false, chain, l.release ((p :: rest).map Prod.snd))

def Link.res (link : Link) : List ℕ := link.vmInfo.toList ++ [link.id]

def sahDestroyLinks : List Link → Ledger → Ledger
  | [], l => l
  | link :: rest, l => sahDestroyLinks rest (l.release link.res)

def keyLink (x : LinkInput) (l : Ledger) : Option (List Link) × Ledger :=
  if x.alloc 0 then
    match x.slotInfo with
    | some (addr, maxLen) =>
      if x.link.len ≤ maxLen then
        (some [⟨l.count, x.link.len, addr, x.link.flags &&& ~~~SAH_PREPHYS_DATA, none⟩], l.acquire)
      else (none, l.acquire.release [l.count])
    | none => (none, l.acquire.release [l.count])
  else (none, l)

def LinkInput.pages (x : LinkInput) : List Page := (x.pinned.getD []).take (nrPages x.link)

def overPages (x : LinkInput) (l : Ledger) : Except Fault (Option (List Link) × Ledger) :=
  let refs := range' l.count x.pages.length
  match pageLoop x 0 0 (x.pages.zip refs) [] (l.acquires x.pages.length) with
  | .ok (true, chain, l') => .ok (if chain = [] then none else some chain, l')
  | .ok (false, chain, l') => .ok (none, sahDestroyLinks chain l')
  | .error e => .error e

def sahMakeLinks (x : LinkInput) (l : Ledger) : Except Fault (Option (List Link) × Ledger) :=
  if x.link.flags &&& SAH_STORED_KEY_INFO ≠ 0 then .ok (keyLink x l)
  else if x.link.data = 0 then .ok (none, l)
  else if !x.pagesAlloc then .ok (none, l)
  else if x.pinned = none then .ok (none, l)
  else if x.pages.length < nrPages x.link then
    .ok (none, (l.acquires x.pages.length).release (range' l.count x.pages.length))
  else overPages x l

/-! ### The account -/

def chainRes (chain : List Link) : List ℕ := chain.flatMap Link.res

@[simp] lemma chainRes_nil : chainRes [] = [] := rfl

@[simp] lemma chainRes_cons (link : Link) (chain : List Link) :
  chainRes (link :: chain) = link.res ++ chainRes chain := flatMap_cons

@[simp] lemma chainRes_append (c₁ c₂ : List Link) : chainRes (c₁ ++ c₂) = chainRes c₁ ++ chainRes c₂ :=
  flatMap_append

variable {l₀ l l' : Ledger} {x : LinkInput}

lemma sahDestroyLinks_owes {h : List ℕ} : ∀ (chain : List Link) {l : Ledger},
  l₀.Owes l (chainRes chain ++ h) → l₀.Owes (sahDestroyLinks chain l) h
  | [], _, e => e
  | link :: rest, l, e => by
    rw [chainRes_cons,List.append_assoc] at e
    exact sahDestroyLinks_owes rest e.release

lemma pageLinks_res {index k id ref : ℕ} {pg : Page} {links : List Link}
  (h : pageLinks x index k id ref pg = .ok links) :
  (chainRes links).Perm (range' id links.length ++ [ref]) := by
  simp only [pageLinks] at h
  split at h
  · split at h
    · cases h
      simp only [chainRes,Link.res,flatMap_cons,flatMap_nil,toList,nil_append,append_nil,
        length_cons,length_nil,range'_succ,range'_zero,List.cons_append]
      exact (List.Perm.swap ..).cons id
    · cases h
  · cases h
    simp only [chainRes,Link.res,flatMap_cons,flatMap_nil,toList,append_nil,
      length_cons,length_nil,range'_succ,range'_zero,List.cons_append,nil_append]
    exact List.Perm.swap ..

lemma pageLoop_owes : ∀ {pages : List (Page × ℕ)} {k index : ℕ} {chain : List Link}
  {l : Ledger} {r : Bool × List Link × Ledger},
  l₀.Owes l (pages.map Prod.snd ++ chainRes chain) → pageLoop x k index pages chain l = .ok r →
  l₀.Owes r.2.2 (chainRes r.2.1)
  | [], k, index, chain, l, r, e, h => by
    cases h
    exact e
  | p :: rest, k, index, chain, l, r, e, h => by
    rw [pageLoop] at h
    split at h
    · split at h
      · next links hl =>
        apply pageLoop_owes _ h
        have hr := pageLinks_res hl
        have hp : ((p :: rest).map Prod.snd ++ chainRes chain ++ range' l.count links.length).Perm
            (rest.map Prod.snd ++ chainRes (chain ++ links)) := by
          rw [perm_iff_count]
          intro n
          have hn := hr.count_eq n
          simp only [count_append,count_cons,count_nil,map_cons,chainRes_append] at hn ⊢
          omega
        exact (e.trans (Ledger.Owes.acquires l links.length)).perm hp
      · cases h
    · cases h
      exact e.release

lemma overPages_owes {r : Option (List Link)} (h : overPages x l = .ok (r, l')) :
  l.Owes l' (chainRes (r.getD [])) := by
  have hstart : l.Owes (l.acquires x.pages.length)
      ((x.pages.zip (range' l.count x.pages.length)).map Prod.snd ++ chainRes []) := by
    rw [map_snd_zip (by simp),chainRes_nil,append_nil]
    exact Ledger.Owes.acquires ..
  simp only [overPages] at h
  split at h
  · next chain l1 hloop =>
    have e := pageLoop_owes hstart hloop
    cases h
    by_cases hc : chain = []
    · simpa [hc] using e
    · simpa [hc] using e
  · next chain l1 hloop =>
    have e := pageLoop_owes hstart hloop
    cases h
    exact sahDestroyLinks_owes chain (by simpa using e)
  · cases h

lemma keyLink_owes (x : LinkInput) (l : Ledger) : l.Owes (keyLink x l).2 (chainRes ((keyLink x l).1.getD [])) := by
  have hfree : l.Owes (l.acquire.release [l.count]) [] := Ledger.Owes.release (by simpa using Ledger.Owes.acquire l)
  unfold keyLink
  split
  · split
    · split
      · exact Ledger.Owes.acquire l
      · exact hfree
    · exact hfree
  · exact Ledger.Owes.refl l

lemma sahMakeLinks_owes {r : Option (List Link)}
  (h : sahMakeLinks x l = .ok (r, l')) : l.Owes l' (chainRes (r.getD [])) := by
  unfold sahMakeLinks at h
  split at h
  · have hk := keyLink_owes x l
    rw [Except.ok.inj h] at hk
    exact hk
  split at h
  · cases h
    exact Ledger.Owes.refl l
  split at h
  · cases h
    exact Ledger.Owes.refl l
  split at h
  · cases h
    exact Ledger.Owes.refl l
  split at h
  · cases h
    exact Ledger.Owes.release (by simpa using Ledger.Owes.acquires l x.pages.length)
  · exact overPages_owes h

/-! ### What the links cover -/

def Link.places (link : Link) : List ℕ := (List.range link.len.toNat).map fun j => link.data.toNat + j

def userByte (pages : List Page) (off j : ℕ) : Option ℕ :=
  pages[(off + j) / 4096]?.map fun pg => pg.base.toNat + (off + j) % 4096

def Link.InPage (link : Link) (pg : Page) : Prop :=
  pg.base.toNat ≤ link.data.toNat ∧ link.data.toNat + link.len.toNat ≤ pg.base.toNat + 4096

structure Inside (u : UserLink) (pages : List Page) (chain : List Link) : Prop where
  inPage : ∀ link ∈ chain, ∃ pg ∈ pages, link.InPage pg
  bytes : (chain.flatMap Link.places).map some =
    (List.range u.len.toNat).map (userByte pages (pageOffset u).toNat)
  lengths : (chain.map fun link => link.len.toNat).sum = u.len.toNat

section
variable {u : UserLink}

lemma pageOffset_lt (u : UserLink) : (pageOffset u).toNat < 4096 := by
  have h : ~~~PAGE_MASK = 0xFFF#32 := by decide
  rw [pageOffset,h,toNat_and]
  exact lt_of_le_of_lt Nat.and_le_right (by decide)

lemma bufferStart_lt (u : UserLink) (i : ℕ) : (bufferStart u i).toNat < 4096 := by
  unfold bufferStart
  split
  · exact pageOffset_lt u
  · decide

lemma nrPages_eq (u : UserLink) : nrPages u = ((pageOffset u).toNat + u.len.toNat + 4095) % 2 ^ 32 / 4096 := by
  have h : ~~~PAGE_MASK = 0xFFF#32 := by decide
  simp only [nrPages,h,toNat_ushiftRight,toNat_add,toNat_ofNat,Nat.shiftRight_eq_div_pow]
  omega

def covered (u : UserLink) (i : ℕ) : ℕ := min u.len.toNat (4096 * i - (pageOffset u).toNat)

variable {i index k id ref : ℕ} {x : LinkInput} {links chain : List Link} {l l' : Ledger}

lemma pageLength_toNat (h : (pageOffset u).toNat + u.len.toNat ≤ 2 ^ 32) (hi : i < nrPages u) :
  (bufferLength u i).toNat = covered u (i + 1) - covered u i ∧
    (bufferStart u i).toNat + (bufferLength u i).toNat ≤ 4096 ∧
    (bufferLength u i ≠ 0 → (pageOffset u).toNat + covered u i = 4096 * i + (bufferStart u i).toNat) := by
  have ho := pageOffset_lt u
  have hl := u.len.isLt
  have hn := nrPages_eq u
  have hn' : nrPages u = ((pageOffset u).toNat + u.len.toNat + 4095) / 4096 := by omega
  have hmul : (BitVec.ofNat 32 (nrPages u) * 4096#32).toNat = nrPages u * 4096 % 2 ^ 32 := by
    rw [toNat_mul,toNat_ofNat,toNat_ofNat]
    omega
  have htrim : (BitVec.ofNat 32 (nrPages u) * 4096#32 - u.len - pageOffset u).toNat =
      nrPages u * 4096 - u.len.toNat - (pageOffset u).toNat := by
    rw [toNat_sub,toNat_sub,hmul]
    omega
  have hfirst : (4096#32 - pageOffset u).toNat = 4096 - (pageOffset u).toNat := by
    rw [toNat_sub,toNat_ofNat]
    omega
  have hlength : (bufferLength u i).toNat =
      (if i = 0 then 4096 - (pageOffset u).toNat else 4096) -
        (if i = nrPages u - 1 then nrPages u * 4096 - u.len.toNat - (pageOffset u).toNat else 0) := by
    simp only [bufferLength]
    by_cases h0 : i = 0
    · by_cases h1 : i = nrPages u - 1
      · simp only [if_pos h0,if_pos h1]
        rw [toNat_sub,hfirst,htrim]
        omega
      · simp only [if_pos h0,if_neg h1]
        exact hfirst
    · by_cases h1 : i = nrPages u - 1
      · simp only [if_neg h0,if_pos h1]
        rw [toNat_sub,htrim,toNat_ofNat]
        omega
      · simp only [if_neg h0,if_neg h1]
        rfl
  have hstart : (bufferStart u i).toNat = if i = 0 then (pageOffset u).toNat else 0 := by
    unfold bufferStart
    split <;> rfl
  rw [hlength,hstart]
  refine ⟨?_,?_,fun hne => ?_⟩
  · unfold covered
    split <;> split <;> omega
  · split <;> split <;> omega
  · unfold covered
    split <;> omega

lemma places_append (a m n : ℕ) :
  ((List.range m).map fun j => a + j) ++ ((List.range n).map fun j => a + m + j) =
    (List.range (m + n)).map fun j => a + j := by
  rw [range_add,map_append,List.map_map]
  congr 1
  apply map_congr_left
  intro j _
  simp only [comp_apply,Nat.add_assoc]

lemma pageLinks_covers {pg : Page}
  (hfit : (bufferStart x.link index).toNat + (bufferLength x.link index).toNat ≤ 4096)
  (h : pageLinks x index k id ref pg = .ok links) :
  (∀ link ∈ links, link.InPage pg) ∧
    links.flatMap Link.places = (List.range (bufferLength x.link index).toNat).map
      (fun j => pg.base.toNat + (bufferStart x.link index).toNat + j) ∧
    (links.map fun link => link.len.toNat).sum = (bufferLength x.link index).toNat := by
  have hbase := pg.base.isLt
  have halign := pg.aligned
  have hlt := bufferStart_lt x.link index
  simp only [pageLinks] at h
  generalize bufferStart x.link index = start at h hfit hlt ⊢
  generalize bufferLength x.link index = length at h hfit ⊢
  have hdata : (pg.base + start).toNat = pg.base.toNat + start.toNat := by
    rw [toNat_add]
    omega
  split at h
  · next hsplit =>
    split at h
    · cases h
      have hand : (start &&& 1023#32).toNat = start.toNat % 1024 := by
        rw [toNat_and]
        exact Nat.and_two_pow_sub_one_eq_mod start.toNat 10
      obtain ⟨-,-,hcross⟩ := hsplit
      rw [toNat_add,hand] at hcross
      obtain ⟨first,hf⟩ : ∃ first, first = BitVec.ofNat 32 (1024 - start.toNat % 1024) := ⟨_,rfl⟩
      have hfirst : first.toNat = 1024 - start.toNat % 1024 := by
        rw [hf,toNat_ofNat]
        omega
      have hrest : (length - first).toNat = length.toNat - first.toNat := by
        rw [toNat_sub]
        omega
      have hdata' : (pg.base + (start + first)).toNat = pg.base.toNat + start.toNat + first.toNat := by
        rw [toNat_add,toNat_add]
        omega
      rw [← hf]
      refine ⟨?_,?_,?_⟩
      · intro link hl
        simp only [mem_cons,not_mem_nil,or_false] at hl
        rcases hl with rfl | rfl
        · simp only [Link.InPage,hdata]
          omega
        · simp only [Link.InPage,hdata',hrest]
          omega
      · simp only [flatMap_cons,flatMap_nil,append_nil,Link.places,hdata,hdata',hrest]
        rw [places_append,Nat.add_sub_of_le (by omega)]
      · simp only [map_cons,map_nil,sum_cons,sum_nil,hrest]
        omega
    · cases h
  · cases h
    refine ⟨?_,?_,?_⟩
    · intro link hl
      rw [mem_singleton.mp hl]
      simp only [Link.InPage,hdata]
      omega
    · simp only [flatMap_cons,flatMap_nil,append_nil,Link.places,hdata]
    · simp only [map_cons,map_nil,sum_cons,sum_nil,Nat.add_zero]

lemma pageLinks_length {pg : Page}
  (h : pageLinks x index k id ref pg = .ok links) : links.length ≤ 2 := by
  simp only [pageLinks] at h
  split at h
  · split at h
    · cases h
      exact le_refl 2
    · cases h
  · cases h
    exact one_le_two

structure CoversTo (u : UserLink) (pages : List Page) (i : ℕ) (chain : List Link) : Prop where
  inPage : ∀ link ∈ chain, ∃ pg ∈ pages, link.InPage pg
  bytes : (chain.flatMap Link.places).map some =
    (List.range (covered u i)).map (userByte pages (pageOffset u).toNat)
  lengths : (chain.map fun link => link.len.toNat).sum = covered u i

lemma CoversTo.next {pages : List Page} {pg : Page}
  (hw : (pageOffset x.link).toNat + x.link.len.toNat ≤ 2 ^ 32) (hi : i < nrPages x.link) (hpg : pages[i]? = some pg)
  (h : CoversTo x.link pages i chain) (hl : pageLinks x i k id ref pg = .ok links) :
  CoversTo x.link pages (i + 1) (chain ++ links) := by
  obtain ⟨hlen,hfit,hplace⟩ := pageLength_toNat hw hi
  obtain ⟨hin,hbytes,hsum⟩ := pageLinks_covers hfit hl
  have hmono : covered x.link i ≤ covered x.link (i + 1) := by
    unfold covered
    omega
  refine ⟨?_,?_,?_⟩
  · intro link hm
    rcases mem_append.mp hm with hm | hm
    · exact h.inPage link hm
    · exact ⟨pg,mem_of_getElem? hpg,hin link hm⟩
  · rw [flatMap_append,map_append,h.bytes,hbytes,hlen,
      show covered x.link (i + 1) = covered x.link i + (covered x.link (i + 1) - covered x.link i) by omega,
      range_add,map_append,List.map_map,List.map_map]
    congr 1
    rw [Nat.add_sub_cancel_left]
    apply map_congr_left
    intro j hj
    rw [mem_range] at hj
    have hne : bufferLength x.link i ≠ 0 := by
      intro h0
      rw [h0] at hlen
      have : (0 : BitVec 32).toNat = 0 := rfl
      omega
    have hp := hplace hne
    have hq : ((pageOffset x.link).toNat + (covered x.link i + j)) / 4096 = i := by omega
    have hr : ((pageOffset x.link).toNat + (covered x.link i + j)) % 4096 = (bufferStart x.link i).toNat + j := by omega
    simp only [comp_apply,userByte,hq,hr,hpg,map_some,Nat.add_assoc]
  · rw [map_append,sum_append,h.lengths,hsum,hlen]
    omega

lemma pageLoop_covers {pages : List Page}
  (hw : (pageOffset x.link).toNat + x.link.len.toNat ≤ 2 ^ 32) (hlen : pages.length = nrPages x.link) :
  ∀ {rest : List (Page × ℕ)} {k i : ℕ} {chain chain' : List Link} {l l' : Ledger},
    rest.map Prod.fst = pages.drop i → i ≤ pages.length → CoversTo x.link pages i chain →
    pageLoop x k i rest chain l = .ok (true, chain', l') → CoversTo x.link pages (nrPages x.link) chain'
  | [], k, i, chain, chain', l, l', hd, hi, hc, h => by
    obtain ⟨rfl,-⟩ : chain = chain' ∧ l = l' := by simpa [pageLoop] using h
    have : i = nrPages x.link := by
      have := congrArg List.length hd
      simp only [map_nil,length_nil,length_drop] at this
      omega
    exact this ▸ hc
  | p :: rest, k, i, chain, chain', l, l', hd, hi, hc, h => by
    have hlt : i < pages.length := by
      have := congrArg List.length hd
      simp only [map_cons,length_cons,length_drop] at this
      omega
    have hcons := hd
    rw [map_cons,drop_eq_getElem_cons hlt,List.cons.injEq] at hcons
    have hpg : pages[i]? = some p.1 := by rw [List.getElem?_eq_getElem hlt,hcons.1]
    rw [pageLoop] at h
    split at h
    · split at h
      · next links hl =>
        exact pageLoop_covers hw hlen hcons.2 (by omega) (hc.next hw (by omega) hpg hl) h
      · cases h
    · cases h

lemma overPages_some_iff :
  overPages x l = .ok (some chain, l') ↔ chain ≠ [] ∧
    pageLoop x 0 0 (x.pages.zip (range' l.count x.pages.length)) [] (l.acquires x.pages.length) =
      .ok (true, chain, l') := by
  simp only [overPages]
  constructor
  · intro h
    split at h
    · next chain' l1 hloop =>
      obtain ⟨hc,rfl⟩ := Prod.mk.inj (Except.ok.inj h)
      by_cases hn : chain' = []
      · rw [if_pos hn] at hc
        cases hc
      · rw [if_neg hn] at hc
        cases hc
        exact ⟨hn,hloop⟩
    · cases h
    · cases h
  · rintro ⟨hn,hloop⟩
    rw [hloop]
    simp only [if_neg hn]

lemma LinkInput.pages_length (x : LinkInput) (h : nrPages x.link ≤ x.pages.length) : x.pages.length = nrPages x.link := by
  refine le_antisymm ?_ h
  rw [LinkInput.pages,length_take]
  exact min_le_left ..

lemma sahMakeLinks_some_iff
  (hkey : x.link.flags &&& SAH_STORED_KEY_INFO = 0) :
  sahMakeLinks x l = .ok (some chain, l') ↔ x.link.data ≠ 0 ∧ x.pagesAlloc = true ∧ x.pinned ≠ none ∧
    nrPages x.link ≤ x.pages.length ∧ overPages x l = .ok (some chain, l') := by
  rw [sahMakeLinks,if_neg (not_not.mpr hkey)]
  by_cases hdata : x.link.data = 0
  · simp [hdata]
  by_cases hmem : x.pagesAlloc = true
  · by_cases hpin : x.pinned = none
    · simp [hpin]
    rw [if_neg hdata,if_neg (by simp [hmem]),if_neg hpin]
    by_cases hlen : nrPages x.link ≤ x.pages.length
    · rw [if_neg (not_lt.mpr hlen)]
      exact ⟨fun h => ⟨hdata,hmem,hpin,hlen,h⟩,fun h => h.2.2.2.2⟩
    · rw [if_pos (not_le.mp hlen)]
      exact ⟨fun h => by simp at h,fun h => absurd h.2.2.2.1 hlen⟩
  · simp [hmem]

lemma sahMakeLinks_some
  (hkey : x.link.flags &&& SAH_STORED_KEY_INFO = 0) (h : sahMakeLinks x l = .ok (some chain, l')) :
  x.pages.length = nrPages x.link ∧ chain ≠ [] ∧
    pageLoop x 0 0 (x.pages.zip (range' l.count x.pages.length)) [] (l.acquires x.pages.length) =
      .ok (true, chain, l') := by
  obtain ⟨-,-,-,hge,hover⟩ := (sahMakeLinks_some_iff hkey).mp h
  exact ⟨x.pages_length hge,overPages_some_iff.mp hover⟩

lemma makeLinks_covers
  (hkey : x.link.flags &&& SAH_STORED_KEY_INFO = 0) (h : sahMakeLinks x l = .ok (some chain, l'))
  (hw : (pageOffset x.link).toNat + x.link.len.toNat ≤ 2 ^ 32) : Inside x.link x.pages chain := by
  obtain ⟨hlen,hne,hloop⟩ := sahMakeLinks_some hkey h
  have hstart : CoversTo x.link x.pages 0 [] := ⟨by simp,by simp [covered],by simp [covered]⟩
  have hc := pageLoop_covers hw hlen (by rw [map_fst_zip (by simp),drop_zero]) (Nat.zero_le _) hstart hloop
  have hpos : 0 < nrPages x.link := by
    rw [← hlen]
    refine length_pos_iff.mpr fun hnil => hne ?_
    rw [hnil] at hloop
    exact (by simpa [pageLoop] using hloop : [] = chain ∧ _).1.symm
  have hall : covered x.link (nrPages x.link) = x.link.len.toNat := by
    have hn := nrPages_eq x.link
    have hl := x.link.len.isLt
    unfold covered
    omega
  obtain ⟨h1,h2,h3⟩ := hc
  rw [hall] at h2 h3
  exact ⟨h1,h2,h3⟩

lemma makeLinks_wraps
  (hkey : x.link.flags &&& SAH_STORED_KEY_INFO = 0) (h : sahMakeLinks x l = .ok (some chain, l'))
  (hw : 2 ^ 32 < (pageOffset x.link).toNat + x.link.len.toNat) : chain.length ≤ 2 := by
  obtain ⟨hlen,hne,hloop⟩ := sahMakeLinks_some hkey h
  have ho := pageOffset_lt x.link
  have hl := x.link.len.isLt
  have hn : nrPages x.link ≤ 1 := by
    have := nrPages_eq x.link
    omega
  obtain ⟨pages,hp⟩ : ∃ pages, pages = x.pages.zip (range' l.count x.pages.length) := ⟨_,rfl⟩
  have hp1 : pages.length ≤ 1 := by
    rw [hp,length_zip,length_range',hlen]
    omega
  rw [← hp] at hloop
  match pages, hp1 with
  | [], _ =>
    obtain ⟨rfl,-⟩ : [] = chain ∧ _ := by simpa [pageLoop] using hloop
    exact Nat.zero_le 2
  | [p], _ =>
    rw [pageLoop] at hloop
    split at hloop
    · split at hloop
      · next links hlinks =>
        obtain ⟨rfl,-⟩ : links = chain ∧ _ := by simpa [pageLoop] using hloop
        exact pageLinks_length hlinks
      · cases hloop
    · cases hloop

end

variable {x : LinkInput}

/-- **When the links stay inside the user's pages.** -/
theorem makeLinks_inside_iff {x : LinkInput} {l l' : Ledger} {chain : List Link}
  (hkey : x.link.flags &&& SAH_STORED_KEY_INFO = 0) (h : sahMakeLinks x l = .ok (some chain, l')) :
  Inside x.link x.pages chain ↔ (pageOffset x.link).toNat + x.link.len.toNat ≤ 2 ^ 32 := by
  constructor
  · intro hin
    by_contra hw
    have ho := pageOffset_lt x.link
    have h2 := makeLinks_wraps hkey h (by omega)
    -- two links inside pages are at most two pages long
    have hsum : (chain.map fun link => link.len.toNat).sum ≤ chain.length * 4096 := by
      have hle : ∀ n ∈ chain.map fun link => link.len.toNat, n ≤ 4096 := by
        intro n hn
        obtain ⟨link,hm,rfl⟩ := List.mem_map.mp hn
        obtain ⟨pg,-,h1,h3⟩ := hin.inPage link hm
        omega
      have := sum_le_card_nsmul _ 4096 hle
      simpa using this
    rw [hin.lengths] at hsum
    omega
  · exact makeLinks_covers hkey h

def borderBuffer : LinkInput where
  link := ⟨32, 0x8FF0, 0⟩
  slotInfo := none
  pagesAlloc := true
  pinned := some [⟨0x30000, by decide⟩, ⟨0x10000, by decide⟩]
  alloc _ := true

theorem makeLinks_inside_border :
  ∃ chain l', sahMakeLinks borderBuffer ⟨0, []⟩ = .ok (some chain, l') ∧ chain.map Link.data = [0x30FF0, 0x10000] ∧
    Inside borderBuffer.link borderBuffer.pages chain :=
  ⟨_, _, rfl, rfl, (makeLinks_inside_iff (x := borderBuffer) (l := ⟨0, []⟩) (by decide) rfl).2 (by decide)⟩

def wrappingBuffer : LinkInput where
  link := ⟨0xFFFFFFFF, 0x8002, 0⟩
  slotInfo := none
  pagesAlloc := true
  pinned := some [⟨0x30000, by decide⟩]
  alloc _ := true

/-- One page is pinned for the buffer. -/
theorem makeLinks_reaches_out :
  ∃ chain l', sahMakeLinks wrappingBuffer ⟨0, []⟩ = .ok (some chain, l') ∧
    wrappingBuffer.pages.length = 1 ∧ chain.map Link.len = [0xFFFFFFFF] ∧
    ¬ Inside wrappingBuffer.link wrappingBuffer.pages chain := by
  refine ⟨[⟨1,0xFFFFFFFF,0x30002,0,some 0⟩],_,rfl,rfl,rfl,?_⟩
  intro hin
  obtain ⟨pg,-,hbase,hend⟩ := hin.inPage _ (mem_singleton.mpr rfl)
  have hdata : (0x30002 : BitVec 32).toNat = 0x30002 := rfl
  have hlen : (0xFFFFFFFF : BitVec 32).toNat = 0xFFFFFFFF := rfl
  simp only [hdata,hlen] at hbase hend
  omega

/-! ### When a chain is made -/

def LinkInput.Splits (x : LinkInput) : Prop :=
  x.link.flags &&& ~~~SAH_PREPHYS_DATA &&& SAH_OUTPUT_LINK ≠ 0 ∧ (pageOffset x.link).toNat % 32 ≠ 0 ∧
    1024 < ((pageOffset x.link &&& 1023#32) + bufferLength x.link 0).toNat

instance (x : LinkInput) : Decidable x.Splits := inferInstanceAs (Decidable (_ ∧ _ ∧ _))

def LinkInput.linksNeeded (x : LinkInput) : ℕ := nrPages x.link + if x.Splits then 1 else 0

def LinkInput.Works (x : LinkInput) : Prop :=
  if x.link.flags &&& SAH_STORED_KEY_INFO ≠ 0 then x.alloc 0 = true ∧ ∃ i ∈ x.slotInfo, x.link.len ≤ i.2
  else x.link.data ≠ 0 ∧ x.pagesAlloc = true ∧ x.pinned ≠ none ∧ 0 < nrPages x.link ∧
    nrPages x.link ≤ x.pages.length ∧ ∀ k < x.linksNeeded, x.alloc k = true

lemma pageLinks_later (x : LinkInput) {index : ℕ} (hi : index ≠ 0) (k id ref : ℕ) (pg : Page) :
  ∃ link, pageLinks x index k id ref pg = .ok [link] := by
  have hstart : (bufferStart x.link index).toNat % 32 = 0 := by
    rw [bufferStart,if_neg hi]
    rfl
  simp only [pageLinks,hstart,ne_eq,not_true_eq_false,false_and,and_false,if_false]
  exact ⟨_,rfl⟩

lemma pageLoop_later_iff (x : LinkInput) : ∀ (pages : List (Page × ℕ)) {k index : ℕ} (chain : List Link) (l : Ledger),
  index ≠ 0 → ((∃ chain' l', pageLoop x k index pages chain l = .ok (true, chain', l')) ↔
    ∀ j < pages.length, x.alloc (k + j) = true)
  | [], k, index, chain, l, hi => by
    refine iff_of_true ⟨chain,l,rfl⟩ ?_
    intro j hj
    exact absurd hj (Nat.not_lt_zero j)
  | p :: rest, k, index, chain, l, hi => by
    obtain ⟨link,hlink⟩ := pageLinks_later x hi k l.count p.2 p.1
    by_cases ha : x.alloc k = true
    · rw [pageLoop,if_pos ha,hlink]
      apply (pageLoop_later_iff x rest _ _ (Nat.succ_ne_zero index)).trans
      constructor
      · rintro h (- | j) hj
        · exact ha
        · rw [Nat.add_comm j 1,← Nat.add_assoc]
          exact h j (Nat.lt_of_succ_lt_succ hj)
      · intro h j hj
        rw [length_singleton,Nat.add_assoc,Nat.add_comm 1 j]
        exact h (j + 1) (Nat.succ_lt_succ hj)
    · rw [pageLoop,if_neg ha]
      constructor
      · rintro ⟨chain',l',h⟩
        cases h
      · intro h
        exact absurd (h 0 (Nat.succ_pos _)) ha

lemma pageLoop_ends_iff (x : LinkInput) (p : Page × ℕ) (rest : List (Page × ℕ)) (l : Ledger) :
  (∃ chain l', pageLoop x 0 0 (p :: rest) [] l = .ok (true, chain, l')) ↔
    ∀ k < (p :: rest).length + (if x.Splits then 1 else 0), x.alloc k = true := by
  have hsplit : x.Splits ↔ (x.link.flags &&& ~~~SAH_PREPHYS_DATA &&& SAH_OUTPUT_LINK ≠ 0 ∧
      (bufferStart x.link 0).toNat % 32 ≠ 0 ∧
      1024 < ((bufferStart x.link 0 &&& 1023#32) + bufferLength x.link 0).toNat) := Iff.rfl
  by_cases ha : x.alloc 0 = true
  · by_cases hs : x.Splits
    · by_cases ha' : x.alloc 1 = true
      · rw [pageLoop,if_pos ha]
        simp only [pageLinks,if_pos (hsplit.mp hs),Nat.zero_add,if_pos ha',if_pos hs]
        apply (pageLoop_later_iff x rest _ _ one_ne_zero).trans
        constructor
        · rintro h (- | - | j) hj
          · exact ha
          · exact ha'
          · rw [Nat.add_assoc,Nat.add_comm j]
            apply h j
            rw [length_cons] at hj
            omega
        · intro h j hj
          apply h
          simp only [length_cons,length_nil]
          omega
      · refine iff_of_false ?_ fun h => ha' (h 1 ?_)
        · rintro ⟨chain,l',h⟩
          rw [pageLoop,if_pos ha] at h
          simp only [pageLinks,if_pos (hsplit.mp hs),Nat.zero_add,if_neg ha'] at h
          cases h
        · rw [if_pos hs,length_cons]
          omega
    · rw [pageLoop,if_pos ha]
      simp only [pageLinks,if_neg (fun h => hs (hsplit.mpr h)),if_neg hs,Nat.add_zero]
      apply (pageLoop_later_iff x rest _ _ one_ne_zero).trans
      constructor
      · rintro h (- | j) hj
        · exact ha
        · rw [Nat.add_comm]
          exact h j (Nat.lt_of_succ_lt_succ hj)
      · intro h j hj
        apply h
        simp only [length_cons,length_nil]
        omega
  · refine iff_of_false ?_ fun h => ha (h 0 ?_)
    · rintro ⟨chain,l',h⟩
      rw [pageLoop,if_neg ha] at h
      cases h
    · rw [length_cons]
      omega

lemma pageLinks_ne_nil {index k id ref : ℕ} {pg : Page} {links : List Link}
  (h : pageLinks x index k id ref pg = .ok links) : links ≠ [] := by
  rintro rfl
  have := (pageLinks_res h).length_eq
  simp at this

lemma pageLoop_ne_nil : ∀ {pages : List (Page × ℕ)} {k index : ℕ} {chain chain' : List Link}
  {l l' : Ledger}, pages ≠ [] ∨ chain ≠ [] → pageLoop x k index pages chain l = .ok (true, chain', l') → chain' ≠ []
  | [], k, index, chain, chain', l, l', hne, h => by
    cases h
    exact hne.resolve_left (fun h => h rfl)
  | p :: rest, k, index, chain, chain', l, l', hne, h => by
    rw [pageLoop] at h
    split at h
    · split at h
      · next hl => exact pageLoop_ne_nil (.inr (append_ne_nil_of_right_ne_nil _ (pageLinks_ne_nil hl))) h
      · cases h
    · cases h

lemma sahMakeLinks_works_iff (x : LinkInput) (l : Ledger) :
  (∃ chain l', sahMakeLinks x l = .ok (some chain, l')) ↔ x.Works := by
  unfold LinkInput.Works
  by_cases hkey : x.link.flags &&& SAH_STORED_KEY_INFO = 0
  · rw [if_neg (not_not.mpr hkey)]
    simp only [sahMakeLinks_some_iff hkey,overPages_some_iff]
    constructor
    · rintro ⟨chain,l',hdata,hmem,hpin,hle,hne,hloop⟩
      have hlen := x.pages_length hle
      obtain ⟨p,rest,hp⟩ : ∃ p rest, x.pages.zip (range' l.count x.pages.length) = p :: rest := by
        apply exists_cons_of_ne_nil
        intro hnil
        rw [hnil] at hloop
        exact hne (by simpa [pageLoop] using hloop : [] = chain ∧ _).1.symm
      have hzip := congrArg List.length hp
      rw [length_zip,length_range',min_self,hlen] at hzip
      rw [hp] at hloop
      refine ⟨hdata,hmem,hpin,?_,hle,?_⟩
      · rw [hzip]
        exact Nat.succ_pos _
      · rw [LinkInput.linksNeeded,hzip]
        exact (pageLoop_ends_iff x p rest _).mp ⟨chain,l',hloop⟩
    · rintro ⟨hdata,hmem,hpin,hpos,hle,halloc⟩
      have hlen := x.pages_length hle
      obtain ⟨p,rest,hp⟩ : ∃ p rest, x.pages.zip (range' l.count x.pages.length) = p :: rest := by
        apply exists_cons_of_ne_nil
        rw [← length_pos_iff,length_zip,length_range',min_self,hlen]
        exact hpos
      have hzip := congrArg List.length hp
      rw [length_zip,length_range',min_self,hlen] at hzip
      rw [LinkInput.linksNeeded,hzip] at halloc
      obtain ⟨chain,l',hloop⟩ := (pageLoop_ends_iff x p rest (l.acquires x.pages.length)).mpr halloc
      refine ⟨chain,l',hdata,hmem,hpin,hle,pageLoop_ne_nil (.inl (cons_ne_nil _ _)) hloop,?_⟩
      rw [hp]
      exact hloop
  · rw [if_pos hkey]
    simp only [sahMakeLinks,if_pos hkey,keyLink]
    by_cases ha : x.alloc 0 = true
    · rcases hs : x.slotInfo with - | ⟨addr,maxLen⟩
      · simp [ha]
      · by_cases hlen : x.link.len ≤ maxLen
        · simp [ha,hlen]
        · simp [ha,hlen]
    · simp [ha]

end Mx27.Sahara
