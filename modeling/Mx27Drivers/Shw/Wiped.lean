/-
# Owned data is wiped before it is freed
-/
import Mx27Drivers.Lib.Run
import Mx27Drivers.Shw.Chain

namespace Mx27.Shw

open List Option

open Sahara (Return)
open scoped List

abbrev Buffer : Type := Wipe.Buffer (ℕ × Bool)

def Link.owned (link : Link) : List Buffer :=
  if link.flags.owns then [⟨link.data.block, link.data.offset, link.len.toNat⟩] else []

def owned (links : List Link) : List Buffer := links.flatMap Link.owned

structure Client where
  world : World
  held : List (List Link)
  chain : List Desc
  given : List Buffer

inductive Op
  | create (n : BitVec 32) (owns output prephys : Bool)
  | createKey (k : KeyInfo)
  | append (i : ℕ) (n : BitVec 32) (owns output prephys : Bool)
  | appendDesc (header : BitVec 32) (i j : ℕ)
  | execute (e : Exec)
  | destroyLink (i : ℕ)
  | destroyChain
  | write (f : Mem → Mem)

namespace Client

def init (supply : List Bool) (address : ℕ → BitVec 32) : Client := ⟨⟨supply, [], 0, address⟩, [], [], []⟩

def links (s : Client) : List Link := s.held.flatten ++ chainLinks s.chain

def nextPtr (s : Client) : Ptr := ⟨s.world.buffers, 0, s.world.address s.world.buffers, false⟩

def pass (s : Client) (n : BitVec 32) (owns : Bool) : Client :=
  { s with
    world := { s.world with buffers := s.world.buffers + 1 }
    given := s.given ++ if owns then [⟨s.nextPtr.block, s.nextPtr.offset, n.toNat⟩] else [] }

def step (s : Client) : Op → Option Client
  | .create n owns output prephys =>
    match sahCreateLink s.nextPtr n ⟨owns, output, false, prephys, false⟩ (s.pass n owns).world with
    | (.ok link, w) => some { s.pass n owns with world := w, held := s.held ++ [[link]] }
    | (.error _, w) => some { s.pass n owns with world := w }
  | .createKey k =>
    match sahCreateKeyLink k s.world with
    | (.ok link, w) => some { s with world := w, held := s.held ++ [[link]] }
    | (.error _, w) => some { s with world := w }
  | .append i n owns output prephys =>
    if s.held.getD i [] = [] then none
    else
      match sahAppendLink (s.held.getD i []) s.nextPtr n ⟨owns, output, false, prephys, false⟩ (s.pass n owns).world with
      | (.ok links, w) => some { s.pass n owns with world := w, held := s.held.set i links }
      | (.error _, w) => some { s.pass n owns with world := w }
  | .appendDesc header i j =>
    match sahAppendDesc s.chain header (s.held.getD i []) ((s.held.set i []).getD j []) s.world with
    | (.ok chain, w) => some { s with world := w, held := (s.held.set i []).set j [], chain := chain }
    | (.error _, w) => some { s with world := w, held := (s.held.set i []).set j [] }
  | .execute e =>
    (sahDescriptorChainExecute e s.chain s.world).map fun r => { s with world := r.2.2, chain := r.2.1 }
  | .destroyLink i => some { s with world := sahDestroyLink (s.held.getD i []) s.world, held := s.held.set i [] }
  | .destroyChain => some { s with world := sahDescriptorChainDestroy s.chain s.world, chain := [] }
  | .write f => some { s with world := s.world.emit [.change f] }

end Client

structure Wiped (s : Client) : Prop where
  kept : ∀ x ∈ s.given, x ∈ owned s.links → ∀ c ∈ s.world.log, ¬ c.Frees x.block
  gone : ∀ x ∈ s.given, (∀ y ∈ owned s.links, y.block ≠ x.block) → Wipe.WipedOnce s.world.log x

def Op.Ok (s : Client) : Op → Prop
  | .execute _ => ∀ d ∈ s.chain, ∀ links ∈ [d.ptr1, d.ptr2], Splits links → ∀ link ∈ links.getLast?, link.flags.owns = false
  | _ => True

instance (s : Client) : (op : Op) → Decidable (op.Ok s)
  | .execute _ => inferInstanceAs (Decidable (∀ d ∈ s.chain, ∀ links ∈ [d.ptr1, d.ptr2], Splits links →
      ∀ link ∈ links.getLast?, link.flags.owns = false))
  | .create .. | .createKey _ | .append .. | .appendDesc .. | .destroyLink _ | .destroyChain | .write _ => isTrue trivial

structure World.Frees (w w' : World) (xs : List Buffer) : Prop where
  wipes : ∀ gone, Wipe.Wipes w.log gone → Wipe.Wipes w'.log (gone ++ xs)
  buffers : w.buffers ≤ w'.buffers

namespace World

variable {w w' w'' : World} {xs ys : List Buffer}

lemma Same.frees (h : w.Same w') : w.Frees w' [] :=
  ⟨fun gone hw => by rw [h.log,append_nil]; exact hw, h.buffers.ge⟩

lemma Frees.trans (h : w.Frees w' xs) (h' : w'.Frees w'' ys) : w.Frees w'' (xs ++ ys) :=
  ⟨fun gone hw => by rw [← List.append_assoc]; exact h'.wipes _ (h.wipes _ hw), h.buffers.trans h'.buffers⟩

lemma frees_change (w : World) (f : Mem → Mem) : w.Frees (w.emit [.change f]) [] :=
  ⟨fun gone hw => by rw [append_nil]; exact hw.change f, le_rfl⟩

lemma frees_wipe (w : World) (xs : List Buffer) : w.Frees (w.emit (xs.flatMap Wipe.wipe)) xs :=
  ⟨fun _ hw => hw.wipeAll xs, le_rfl⟩

end World

lemma destroyCalls_eq (links : List Link) : links.flatMap Link.destroyCalls = (owned links).flatMap Wipe.wipe := by
  rw [owned,flatMap_assoc]
  congr 1
  funext link
  rw [Link.destroyCalls,Link.owned]
  split
  · rw [flatMap_singleton]
    rfl
  · rfl

lemma destroyLink_frees (links : List Link) (w : World) : w.Frees (sahDestroyLink links w) (owned links) := by
  rw [sahDestroyLink,destroyCalls_eq]
  exact w.frees_wipe _

lemma owned_append (links links' : List Link) : owned (links ++ links') = owned links ++ owned links' :=
  flatMap_append

lemma owned_cons (link : Link) (links : List Link) : owned (link :: links) = link.owned ++ owned links :=
  flatMap_cons

lemma destroyChain_frees : ∀ (chain : List Desc) (w : World),
  w.Frees (sahDescriptorChainDestroy chain w) (owned (chainLinks chain))
  | [], w => World.Same.rfl.frees
  | d :: chain, w => by
    have h := ((destroyLink_frees d.ptr1 w).trans (destroyLink_frees d.ptr2 _)).trans
      (destroyChain_frees chain (sahDestroyLink d.ptr2 (sahDestroyLink d.ptr1 w)))
    rw [chainLinks,flatMap_cons,owned_append,Desc.links,owned_append]
    exact h

lemma createLink_cases (p : Ptr) (n : BitVec 32) (flags : LinkFlags) (w : World) :
  (∃ w', sahCreateLink p n flags w = (.ok (newLink p n flags), w') ∧ w.Same w') ∨
    ∃ w', sahCreateLink p n flags w = (.error .noResource, w') ∧ w.Frees w' (newLink p n flags).owned := by
  have hsame := World.Same.alloc w
  rw [sahCreateLink]
  cases halloc : w.alloc with
  | mk b w' =>
    rw [halloc] at hsame
    cases b with
    | true => exact .inl ⟨w',rfl,hsame⟩
    | false =>
      refine .inr ⟨_,rfl,?_⟩
      have h := hsame.frees.trans (w'.frees_wipe (newLink p n flags).owned)
      rw [Link.owned] at h ⊢
      cases hown : flags.owns with
      | true => simpa [newLink,hown,wipeData] using h
      | false => simpa [newLink,hown] using h

/-! ### Execution -/

variable (e : Exec)

structure Link.Sound (link : Link) : Prop where
  inserted : link.flags.inserted = false
  storedKey : link.flags.owns = true → link.flags.storedKey = false

def Sound (links : List Link) : Prop := ∀ link ∈ links, link.Sound

lemma Sound.append {links links' : List Link} : Sound (links ++ links') ↔ Sound links ∧ Sound links' := by
  simp only [Sound,mem_append,or_imp,forall_and]

lemma splitLast_sound : ∀ {links : List Link}, Sound links → Sound (splitLast links)
  | [], h => h
  | [link], h => by
    have hl := h link mem_cons_self
    intro l hm
    rcases mem_cons.mp hm with rfl | hm
    · exact ⟨hl.inserted,hl.storedKey⟩
    · rw [mem_singleton.mp hm]
      exact ⟨hl.inserted,fun hf => by cases hf⟩
  | link :: next :: rest, h => by
    intro l hm
    rcases mem_cons.mp hm with rfl | hm
    · exact h l mem_cons_self
    · exact splitLast_sound (fun a ha => h a (mem_cons_of_mem link ha)) l hm

lemma splitLast_owned : ∀ {links : List Link}, (∀ link ∈ links.getLast?, link.flags.owns = false) →
  owned (splitLast links) = owned links
  | [], _ => rfl
  | [link], h => by
    have hl : link.flags.owns = false := h link rfl
    simp [owned,splitLast,Link.owned,Link.shorten,Link.lastByte,hl]
  | link :: next :: rest, h => by
    have ih : owned (splitLast (next :: rest)) = owned (next :: rest) :=
      splitLast_owned (by rwa [getLast?_cons_cons] at h)
    rw [splitLast,owned_cons,owned_cons,ih]

lemma reworkLinkChain_sound (links : List Link) (w : World) (hs : Sound links) :
  Sound (sahReworkLinkChain links w).2.1 := by
  obtain ⟨-,h | ⟨-,h⟩⟩ := sahReworkLinkChain_cases links w
  · rw [h]
    exact hs
  · rw [h]
    exact splitLast_sound hs

lemma reworkLinks_keeps (chain : List Desc) (w : World)
  (hok : ∀ d ∈ chain, ∀ links ∈ [d.ptr1, d.ptr2], Splits links → ∀ link ∈ links.getLast?, link.flags.owns = false)
  (hs : Sound (chainLinks chain)) :
  w.Same (sahReworkLinks chain w).2.2 ∧
    owned (chainLinks (sahReworkLinks chain w).2.1) = owned (chainLinks chain) ∧
    Sound (chainLinks (sahReworkLinks chain w).2.1) := by
  have h := reworkLinks_rel (R := fun links links' => owned links' = owned links ∧ (Sound links → Sound links'))
    (fun _ => ⟨rfl,fun h => h⟩)
    (fun ha hb => ⟨by rw [owned_append,owned_append,ha.1,hb.1],fun h => by
      rw [Sound.append] at h ⊢
      exact ⟨ha.2 h.1,hb.2 h.2⟩⟩) chain w fun d hd links hl w => ⟨?_,reworkLinkChain_sound links w⟩
  · exact ⟨h.1,h.2.1,h.2.2 hs⟩
  · obtain ⟨-,h | ⟨hsplit,h⟩⟩ := sahReworkLinkChain_cases links w
    · rw [h]
    · rw [h,splitLast_owned (hok d hd links hl hsplit)]

lemma used_owned {link : Link} (h : link.Sound) : (e.used link).owned = link.owned := by
  have hflags : (e.used link).flags = link.flags := (virtual_flags _).trans (physical_flags e link)
  rw [Link.owned,Link.owned,hflags]
  split
  · next hown =>
    have hkey := h.storedKey hown
    cases hpre : link.flags.prephys with
    | true | false => simp [Exec.used,Exec.physical,Link.virtual,hkey,hpre]
  · rfl

lemma used_sound {link : Link} (h : link.Sound) : (e.used link).Sound := by
  have hflags : (e.used link).flags = link.flags := (virtual_flags _).trans (physical_flags e link)
  exact ⟨by rw [hflags]; exact h.inserted,by rw [hflags]; exact h.storedKey⟩

lemma map_used_owned : ∀ {links : List Link}, Sound links → owned (links.map e.used) = owned links
  | [], _ => rfl
  | link :: rest, h => by
    have ih := map_used_owned fun l hl => h l (mem_cons_of_mem link hl)
    rw [map_cons,owned_cons,owned_cons,used_owned e (h link mem_cons_self),ih]

lemma dephysicaliseDescriptors_physicalise : ∀ (chain : List Desc) (w : World) {r : List Desc × World},
  sahPhysicaliseDescriptors e chain w = some r → Sound (chainLinks chain) →
    w.Same r.2 ∧ ∃ chain', sahDePhysicaliseDescriptors r.1 = some chain' ∧
      chainLinks chain' = (chainLinks chain).map e.used
  | [], w, r, h, _ => by
    cases h
    exact ⟨.rfl,[],rfl,rfl⟩
  | d :: chain, w, r, h, hs => by
    rw [chainLinks,flatMap_cons,Sound.append,Desc.links,Sound.append] at hs
    obtain ⟨⟨hs1,hs2⟩,hsc⟩ := hs
    rw [sahPhysicaliseDescriptors] at h
    obtain ⟨r1,hr1,h⟩ := bind_eq_some_iff.mp h
    obtain ⟨r2,hr2,h⟩ := bind_eq_some_iff.mp h
    obtain ⟨r',hr',rfl⟩ := map_eq_some_iff.mp h
    obtain ⟨hw1,h1⟩ := dephysicalise_physicalise e d.ptr1 w hr1 fun l hl => (hs1 l hl).inserted
    obtain ⟨hw2,h2⟩ := dephysicalise_physicalise e d.ptr2 r1.2 hr2 fun l hl => (hs2 l hl).inserted
    obtain ⟨hw,chain',hc,hlinks⟩ := dephysicaliseDescriptors_physicalise chain r2.2 hr' hsc
    refine ⟨(hw1.trans hw2).trans hw,{ d with ptr1 := d.ptr1.map e.used,ptr2 := d.ptr2.map e.used } :: chain',?_,?_⟩
    · rw [sahDePhysicaliseDescriptors,h1,h2,hc]
      rfl
    · rw [chainLinks,flatMap_cons,chainLinks,flatMap_cons,map_append]
      exact congrArg₂ _ (map_append).symm hlinks

structure Executes (chain chain' : List Desc) (w w' : World) : Prop where
  frees : ∃ xs, w.Frees w' xs ∧ owned (chainLinks chain') ++ xs = owned (chainLinks chain)
  sound : Sound (chainLinks chain')

variable {chain : List Desc}

lemma adaptorRun_keeps {w : World} {r : List Desc × World} (h : adaptorRun e chain w = some r)
  (hs : Sound (chainLinks chain)) :
  (∃ w₁, w.Same w₁ ∧ r.2 = w₁.emit [.change e.hardware]) ∧ owned (chainLinks r.1) = owned (chainLinks chain) ∧
    Sound (chainLinks r.1) := by
  rw [adaptorRun] at h
  obtain ⟨r1,hr1,h⟩ := bind_eq_some_iff.mp h
  obtain ⟨chain',hc,rfl⟩ := map_eq_some_iff.mp h
  split at hr1
  · next hpre =>
    cases hr1
    rw [if_pos hpre] at hc
    cases hc
    exact ⟨⟨w,.rfl,rfl⟩,rfl,hs⟩
  · next hpre =>
    rw [if_neg hpre] at hc
    obtain ⟨hw,chain'',hc',hlinks⟩ := dephysicaliseDescriptors_physicalise e chain w hr1 hs
    obtain rfl := Option.some.inj (hc'.symm.trans hc)
    refine ⟨⟨r1.2,hw,rfl⟩,by rw [hlinks,map_used_owned e hs],?_⟩
    rw [hlinks]
    intro l hl
    obtain ⟨a,ha,rfl⟩ := List.mem_map.mp hl
    exact used_sound e (hs a ha)

lemma adaptor_executes {w : World} {r : Return × List Desc × World}
  (h : adaptorExecDescriptorChain e chain w = some r) (hs : Sound (chainLinks chain)) :
  Executes chain r.2.1 w r.2.2 := by
  rw [adaptorExecDescriptorChain] at h
  obtain ⟨r1,hr1,rfl⟩ := map_eq_some_iff.mp h
  obtain ⟨⟨w1,hw,hr⟩,howned,hsound⟩ := adaptorRun_keeps e hr1 hs
  have hrun := hw.frees.trans (w1.frees_change e.hardware)
  rw [← hr] at hrun
  split
  · exact ⟨⟨[],hrun,by rw [append_nil,howned]⟩,hsound⟩
  · refine ⟨⟨_,hrun.trans (destroyChain_frees r1.1 _),?_⟩,fun _ hl => absurd hl not_mem_nil⟩
    rw [← howned]
    rfl

lemma execute_frees {w : World} {r : Return × List Desc × World}
  (h : sahDescriptorChainExecute e chain w = some r) (hs : Sound (chainLinks chain))
  (hok : ∀ d ∈ chain, ∀ links ∈ [d.ptr1, d.ptr2], Splits links → ∀ link ∈ links.getLast?, link.flags.owns = false) :
  Executes chain r.2.1 w r.2.2 := by
  rw [sahDescriptorChainExecute] at h
  split at h
  · cases h
    exact ⟨⟨[],World.Same.rfl.frees,append_nil _⟩,hs⟩
  · obtain ⟨hw,howned,hsound⟩ := reworkLinks_keeps chain w hok hs
    simp only at h
    split at h
    · obtain ⟨⟨xs,hfrees,hxs⟩,hs'⟩ := adaptor_executes e h hsound
      exact ⟨⟨xs,hw.frees.trans hfrees,hxs.trans howned⟩,hs'⟩
    · cases h
      exact ⟨⟨[],hw.frees,by rw [append_nil,howned]⟩,hsound⟩

structure Kept (s : Client) : Prop where
  sound : Sound s.links
  account : ∃ gone, Wipe.Wipes s.world.log gone ∧ (owned s.links ++ gone).Perm s.given
  nodup : (s.given.map Wipe.Buffer.block).Nodup
  fresh : ∀ x ∈ s.given, x.block.1 < s.world.buffers

section
variable {s s' : Client}

lemma Kept.wiped (h : Kept s) : Wiped s := by
  obtain ⟨gone,hlog,hperm⟩ := h.account
  have hnodup : ((owned s.links ++ gone).map Wipe.Buffer.block).Nodup := (hperm.map _).nodup_iff.mpr h.nodup
  rw [map_append,nodup_append] at hnodup
  obtain ⟨-,hgone,hne⟩ := hnodup
  refine ⟨fun x _ hx c hc hf => ?_,fun x hx hno => hlog.wipedOnce hgone ?_⟩
  · obtain ⟨z,hz,hb⟩ := hlog.frees c hc hf
    exact hne x.block (List.mem_map_of_mem hx) z.block (List.mem_map_of_mem hz) hb.symm
  · exact (mem_append.mp (hperm.mem_iff.mpr hx)).resolve_left fun hx' => hno x hx' rfl

lemma Kept.next (h : Kept s) (new : List Buffer) {xs : List Buffer} (hsound : Sound s'.links) (hw : s.world.Frees s'.world xs)
  (hlinks : (owned s'.links ++ xs).Perm (owned s.links ++ new)) (hgiven : s'.given = s.given ++ new)
  (hnew : new = [] ∨ ∃ x, new = [x] ∧ x.block.1 = s.world.buffers ∧ s.world.buffers < s'.world.buffers) : Kept s' := by
  obtain ⟨gone,hlog,hperm⟩ := h.account
  refine ⟨hsound,⟨gone ++ xs,hw.wipes gone hlog,?_⟩,?_,?_⟩
  · rw [hgiven]
    calc owned s'.links ++ (gone ++ xs) ~ owned s'.links ++ xs ++ gone := by
          rw [List.append_assoc]
          exact perm_append_comm.append_left _
      _ ~ owned s.links ++ new ++ gone := hlinks.append_right gone
      _ ~ owned s.links ++ gone ++ new := by
          rw [List.append_assoc,List.append_assoc]
          exact perm_append_comm.append_left _
      _ ~ s.given ++ new := hperm.append_right new
  · rcases hnew with rfl | ⟨x,rfl,hx,-⟩
    · rw [hgiven,append_nil]
      exact h.nodup
    · rw [hgiven,map_append,nodup_append]
      refine ⟨h.nodup,nodup_singleton _,fun b hb c hc hbc => ?_⟩
      obtain ⟨y,hy,rfl⟩ := List.mem_map.mp hb
      have hlt := h.fresh y hy
      rw [hbc,mem_singleton.mp hc,hx] at hlt
      exact lt_irrefl _ hlt
  · intro y hy
    rw [hgiven] at hy
    rcases mem_append.mp hy with hy | hy
    · exact (h.fresh y hy).trans_le hw.buffers
    · rcases hnew with rfl | ⟨x,rfl,hx,hlt⟩
      · cases hy
      · rw [mem_singleton.mp hy,hx]
        exact hlt

/-! ### One call -/

lemma flatten_put : ∀ {held : List (List Link)} {i : ℕ} (links : List Link), i < held.length →
  (held.set i links).flatten ~ links ++ (held.set i []).flatten
  | _ :: _, 0, links, _ => by simp
  | first :: held, i + 1, links, hi => by
    have ih := flatten_put links (Nat.lt_of_succ_lt_succ hi)
    rw [set_cons_succ,flatten_cons,set_cons_succ,flatten_cons]
    calc first ++ (held.set i links).flatten ~ first ++ (links ++ (held.set i []).flatten) := ih.append_left first
      _ ~ links ++ (first ++ (held.set i []).flatten) := by
          rw [← List.append_assoc,← List.append_assoc]
          exact perm_append_comm.append_right _

lemma flatten_take (held : List (List Link)) (i : ℕ) : held.flatten ~ held.getD i [] ++ (held.set i []).flatten := by
  by_cases hi : i < held.length
  · have h := flatten_put (held.getD i []) hi
    rw [getD_eq_getElem _ _ hi,set_getElem_self] at h
    rwa [getD_eq_getElem _ _ hi]
  · rw [getD_eq_default _ _ (not_lt.mp hi),set_eq_of_length_le (not_lt.mp hi)]
    rfl

lemma owned_perm {links links' : List Link} (h : links ~ links') : owned links ~ owned links' := h.flatMap_right _

lemma Sound.perm {links links' : List Link} (h : Sound links) (hp : links ~ links') : Sound links' :=
  fun l hl => h l (hp.mem_iff.mpr hl)

lemma Kept.passed (h : Kept s) (n : BitVec 32) (owns output prephys : Bool) {w : World} {held : List (List Link)}
  (hcase : (s.pass n owns).world.Same w ∧
      held.flatten ~ newLink s.nextPtr n ⟨owns, output, false, prephys, false⟩ :: s.held.flatten ∨
    (s.pass n owns).world.Frees w (newLink s.nextPtr n ⟨owns, output, false, prephys, false⟩).owned ∧ held = s.held) :
  Kept { s.pass n owns with world := w, held := held } := by
  have hpass : s.world.Frees (s.pass n owns).world [] :=
    ⟨fun gone hw => by rw [append_nil]; exact hw,Nat.le_succ _⟩
  have hnew : ∀ {xs}, (s.pass n owns).world.Frees w xs →
      (newLink s.nextPtr n ⟨owns,output,false,prephys,false⟩).owned = [] ∨
        ∃ x, (newLink s.nextPtr n ⟨owns,output,false,prephys,false⟩).owned = [x] ∧ x.block.1 = s.world.buffers ∧
          s.world.buffers < w.buffers := by
    intro xs hw
    cases owns with
    | true => exact .inr ⟨_,rfl,rfl,(Nat.lt_succ_self _).trans_le hw.buffers⟩
    | false => exact .inl rfl
  rcases hcase with ⟨hw,hheld⟩ | ⟨hw,rfl⟩
  · have hlinks : held.flatten ++ chainLinks s.chain ~
        newLink s.nextPtr n ⟨owns,output,false,prephys,false⟩ :: s.links := hheld.append_right _
    refine h.next (newLink s.nextPtr n ⟨owns,output,false,prephys,false⟩).owned ?_ (hpass.trans hw.frees) ?_ rfl
      (hnew hw.frees)
    · refine Sound.perm (fun l hl => ?_) hlinks.symm
      rcases mem_cons.mp hl with rfl | hl
      · exact ⟨rfl,fun _ => rfl⟩
      · exact h.sound l hl
    · have hperm := owned_perm hlinks
      rw [owned_cons] at hperm
      rw [append_nil,append_nil]
      exact hperm.trans perm_append_comm
  · exact h.next _ h.sound (hpass.trans hw) (List.Perm.refl _) rfl (hnew hw)

lemma appendLink_cases (links : List Link) (p : Ptr) (n : BitVec 32) (flags : LinkFlags) (w : World) :
  (∃ w', sahAppendLink links p n flags w = (.ok (links ++ [newLink p n flags]), w') ∧ w.Same w') ∨
    ∃ w', sahAppendLink links p n flags w = (.error .noResource, w') ∧ w.Frees w' (newLink p n flags).owned := by
  rcases createLink_cases p n flags w with ⟨w',h,hw⟩ | ⟨w',h,hw⟩
  · exact .inl ⟨w',Build.bind_ok h,hw⟩
  · exact .inr ⟨w',Build.bind_error h,hw⟩

lemma createDesc_cases (header : BitVec 32) (link1 link2 : List Link) (w : World) :
  (∃ d w', sahCreateDesc header link1 link2 w = (.ok d, w') ∧ d.links = link1 ++ link2 ∧ w.Same w') ∨
    ∃ w', sahCreateDesc header link1 link2 w = (.error .noResource, w') ∧ w.Frees w' (owned link1 ++ owned link2) := by
  have hsame := World.Same.alloc w
  rw [sahCreateDesc]
  cases halloc : w.alloc with
  | mk b w' =>
    rw [halloc] at hsame
    cases b with
    | true => exact .inl ⟨_,w',rfl,rfl,hsame⟩
    | false => exact .inr ⟨_,rfl,hsame.frees.trans ((destroyLink_frees link1 w').trans (destroyLink_frees link2 _))⟩

lemma appendDesc_cases (chain : List Desc) (header : BitVec 32) (link1 link2 : List Link) (w : World) :
  (∃ d w', sahAppendDesc chain header link1 link2 w = (.ok (chain ++ [d]), w') ∧ d.links = link1 ++ link2 ∧ w.Same w') ∨
    ∃ w', sahAppendDesc chain header link1 link2 w = (.error .noResource, w') ∧
      w.Frees w' (owned link1 ++ owned link2) := by
  rcases createDesc_cases header link1 link2 w with ⟨d,w',h,hd,hw⟩ | ⟨w',h,hw⟩
  · exact .inl ⟨d,w',Build.bind_ok h,hd,hw⟩
  · exact .inr ⟨w',Build.bind_error h,hw⟩

lemma createKeyLink_cases (k : KeyInfo) (w : World) :
  ∃ w', w.Same w' ∧ ((∃ link, sahCreateKeyLink k w = (.ok link, w') ∧ link.Sound ∧ link.owned = []) ∨
    ∃ err, sahCreateKeyLink k w = (.error err, w')) := by
  have hsame := World.Same.alloc w
  rw [sahCreateKeyLink]
  cases halloc : w.alloc with
  | mk b w' =>
    rw [halloc] at hsame
    refine ⟨w',hsame,?_⟩
    cases b with
    | true =>
      simp only
      split
      · exact .inl ⟨_,rfl,⟨rfl,fun h => by cases h⟩,rfl⟩
      · split
        · exact .inl ⟨_,rfl,⟨rfl,fun h => by cases h⟩,rfl⟩
        · exact .inr ⟨_,rfl⟩
    | false => exact .inr ⟨_,rfl⟩

lemma links_take_two (s : Client) (i j : ℕ) :
  s.links ~ s.held.getD i [] ++ (s.held.set i []).getD j [] ++
    (((s.held.set i []).set j []).flatten ++ chainLinks s.chain) := by
  calc s.links ~ (s.held.getD i [] ++ (s.held.set i []).flatten) ++ chainLinks s.chain :=
        (flatten_take s.held i).append_right _
    _ ~ (s.held.getD i [] ++ ((s.held.set i []).getD j [] ++ ((s.held.set i []).set j []).flatten)) ++
        chainLinks s.chain := ((flatten_take (s.held.set i []) j).append_left _).append_right _
    _ ~ _ := by simp only [List.append_assoc]; exact List.Perm.refl _

lemma step_kept {op : Op} (h : Kept s) (hok : op.Ok s) (hstep : s.step op = some s') : Kept s' := by
  cases op with
  | create n owns output prephys =>
    rw [Client.step] at hstep
    rcases createLink_cases s.nextPtr n ⟨owns,output,false,prephys,false⟩ (s.pass n owns).world with
      ⟨w,hc,hw⟩ | ⟨w,hc,hw⟩
    · rw [hc] at hstep
      cases hstep
      refine h.passed n owns output prephys (.inl ⟨hw,?_⟩)
      rw [flatten_append]
      exact perm_append_comm
    · rw [hc] at hstep
      cases hstep
      exact h.passed n owns output prephys (.inr ⟨hw,rfl⟩)
  | createKey k =>
    rw [Client.step] at hstep
    obtain ⟨w,hw,⟨link,hc,hsound,howned⟩ | ⟨err,hc⟩⟩ := createKeyLink_cases k s.world
    · rw [hc] at hstep
      cases hstep
      have hlinks : (s.held ++ [[link]]).flatten ++ chainLinks s.chain ~ link :: s.links := by
        rw [flatten_append]
        exact perm_append_comm.append_right _
      refine h.next [] ?_ hw.frees ?_ (append_nil _).symm (.inl rfl)
      · refine Sound.perm (fun l hl => ?_) hlinks.symm
        rcases mem_cons.mp hl with rfl | hl
        · exact hsound
        · exact h.sound l hl
      · have hperm := owned_perm hlinks
        rw [owned_cons,howned] at hperm
        rw [append_nil,append_nil]
        exact hperm
    · rw [hc] at hstep
      cases hstep
      exact h.next [] h.sound hw.frees (List.Perm.refl _) (append_nil _).symm (.inl rfl)
  | append i n owns output prephys =>
    rw [Client.step] at hstep
    split at hstep
    · cases hstep
    · next hne =>
      rcases appendLink_cases (s.held.getD i []) s.nextPtr n ⟨owns,output,false,prephys,false⟩
        (s.pass n owns).world with ⟨w,hc,hw⟩ | ⟨w,hc,hw⟩
      · rw [hc] at hstep
        cases hstep
        refine h.passed n owns output prephys (.inl ⟨hw,?_⟩)
        have hi : i < s.held.length := by
          by_contra hi
          exact hne (getD_eq_default _ _ (not_lt.mp hi))
        calc (s.held.set i (s.held.getD i [] ++ [newLink s.nextPtr n ⟨owns,output,false,prephys,false⟩])).flatten
            ~ (s.held.getD i [] ++ [newLink s.nextPtr n ⟨owns,output,false,prephys,false⟩]) ++
              (s.held.set i []).flatten := flatten_put _ hi
          _ ~ newLink s.nextPtr n ⟨owns,output,false,prephys,false⟩ ::
              (s.held.getD i [] ++ (s.held.set i []).flatten) := by
            rw [List.append_assoc]
            exact perm_middle
          _ ~ newLink s.nextPtr n ⟨owns,output,false,prephys,false⟩ :: s.held.flatten :=
            (flatten_take s.held i).symm.cons _
      · rw [hc] at hstep
        cases hstep
        exact h.passed n owns output prephys (.inr ⟨hw,rfl⟩)
  | appendDesc header i j =>
    rw [Client.step] at hstep
    have htake := links_take_two s i j
    have hsound := h.sound.perm htake
    rw [Sound.append] at hsound
    rcases appendDesc_cases s.chain header (s.held.getD i []) ((s.held.set i []).getD j []) s.world with
      ⟨d,w,hc,hd,hw⟩ | ⟨w,hc,hw⟩
    · rw [hc] at hstep
      cases hstep
      have hlinks : ((s.held.set i []).set j []).flatten ++ chainLinks (s.chain ++ [d]) ~ s.links := by
        refine List.Perm.trans ?_ htake.symm
        rw [chainLinks,flatMap_append,flatMap_singleton,hd,← List.append_assoc]
        exact perm_append_comm
      refine h.next [] (h.sound.perm hlinks.symm) hw.frees ?_ (append_nil _).symm (.inl rfl)
      rw [append_nil,append_nil]
      exact owned_perm hlinks
    · rw [hc] at hstep
      cases hstep
      refine h.next [] hsound.2 hw ?_ (append_nil _).symm (.inl rfl)
      rw [append_nil,← owned_append,← owned_append]
      exact owned_perm (perm_append_comm.trans htake.symm)
  | execute e =>
    rw [Client.step] at hstep
    obtain ⟨r,hr,rfl⟩ := map_eq_some_iff.mp hstep
    obtain ⟨hheld,hchain⟩ := Sound.append.mp h.sound
    obtain ⟨⟨xs,hw,hxs⟩,hsound⟩ := execute_frees e hr hchain hok
    refine h.next [] (Sound.append.mpr ⟨hheld,hsound⟩) hw ?_ (append_nil _).symm (.inl rfl)
    rw [Client.links,Client.links,owned_append,owned_append,List.append_assoc,hxs,append_nil]
  | destroyLink i =>
    rw [Client.step] at hstep
    cases hstep
    have htake : s.links ~ s.held.getD i [] ++ ((s.held.set i []).flatten ++ chainLinks s.chain) := by
      rw [← List.append_assoc]
      exact (flatten_take s.held i).append_right _
    have hsound := h.sound.perm htake
    rw [Sound.append] at hsound
    refine h.next [] hsound.2 (destroyLink_frees _ _) ?_ (append_nil _).symm (.inl rfl)
    rw [append_nil,← owned_append]
    exact owned_perm (perm_append_comm.trans htake.symm)
  | destroyChain =>
    rw [Client.step] at hstep
    cases hstep
    obtain ⟨hheld,-⟩ := Sound.append.mp h.sound
    refine h.next [] ?_ (destroyChain_frees _ _) ?_ (append_nil _).symm (.inl rfl)
    · exact Sound.append.mpr ⟨hheld,fun _ hl => absurd hl not_mem_nil⟩
    · rw [append_nil,← owned_append,Client.links,Client.links,chainLinks,flatMap_nil,append_nil]
  | write f =>
    rw [Client.step] at hstep
    cases hstep
    exact h.next [] h.sound (World.frees_change _ f) (List.Perm.refl _) (append_nil _).symm (.inl rfl)

end

/-- **Every owned buffer is wiped once**. -/
theorem wiped_run (supply : List Bool) (address : ℕ → BitVec 32) (ops : List Op)
  (h : Run.AllSteps Client.step (fun s op => op.Ok s) (Client.init supply address) ops) :
  Run.AllStates Client.step Wiped (Client.init supply address) ops := by
  refine h.keeps (J := Kept) (fun op s s' hs hok hstep => step_kept hs hok hstep) (fun s hs => hs.wiped) ?_
  exact ⟨fun _ hl => absurd hl not_mem_nil,⟨[],.nil,List.Perm.refl _⟩,nodup_nil,
    fun _ hx => absurd hx not_mem_nil⟩

def Exec.plain : Exec := ⟨true, false, false, fun a => a, fun _ _ => none, fun m => m, .ok⟩

/-- The input chain is split, and the owned buffer is in the other chain. -/
theorem wiped_run_split : Run.AllStates Client.step Wiped (Client.init [] fun _ => 0)
  [.create 18#32 false false false, .append 0 4#32 false false false, .create 4#32 true false false,
    .appendDesc 0 0 1, .execute .plain] :=
  wiped_run _ _ _ (by decide +kernel)

lemma splitLast_blocks : ∀ links : List Link,
  (owned (splitLast links)).map Wipe.Buffer.block = (owned links).map Wipe.Buffer.block
  | [] => rfl
  | [link] => by cases hown : link.flags.owns <;> simp [owned,splitLast,Link.owned,Link.shorten,Link.lastByte,hown]
  | link :: next :: rest => by
    rw [splitLast,owned_cons,owned_cons,map_append,map_append,splitLast_blocks (next :: rest)]

theorem byte_left_behind : ∃ s,
  [.create 18#32 false false false, .append 0 4#32 true false false, .appendDesc 0 0 1, .execute .plain].foldlM
    Client.step (Client.init [] fun _ => 0) = some s ∧
  s.given = [⟨(1, false), 0, 4⟩] ∧
  s.world.log = [.change fun m => m, .memset (1, false) 0 3, .free (1, false) 0] ∧ ¬ Wiped s := by
  refine ⟨_,rfl,rfl,rfl,fun h => ?_⟩
  obtain ⟨before,after,hlog,-,hzero⟩ := h.gone ⟨(1, false),0,4⟩ mem_cons_self fun y hy =>
    absurd hy not_mem_nil
  change ([.change fun m => m,.memset (1, false) 0 3,.free (1, false) 0] : List MemCall) = _ at hlog
  have hbefore : before = [.change fun m => m,.memset (1, false) 0 3] := by
    rcases before with _ | ⟨a,_ | ⟨b,_ | ⟨c,before⟩⟩⟩
    · cases hlog
    · cases hlog
    · cases hlog
      rfl
    · simp at hlog
  have hbyte := hzero (fun _ _ => 1) 3 (by decide)
  rw [hbefore] at hbyte
  exact absurd hbyte (by decide)

end Mx27.Shw
