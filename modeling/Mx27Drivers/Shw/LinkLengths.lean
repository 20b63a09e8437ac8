/-
# The lengths of links

The rework of `sf_util.c` takes the last byte of an input chain into a link of its own.
-/
import Mx27Drivers.Shw.Ccm

namespace Mx27.Shw

open List BitVec

/-! ### The rework -/

inductive Place
  | mem (block : ℕ × Bool) (offset : ℕ)
  | key (ownerid : BitVec 64) (slot : BitVec 32) (i : ℕ)
  deriving DecidableEq

def Link.place (link : Link) (i : ℕ) : Place :=
  if link.flags.storedKey then .key link.ownerid link.slot i else .mem link.data.block (link.data.offset + i)

def Link.places (link : Link) : List Place := (List.range link.len.toNat).map link.place

def ForOutput (links : List Link) : Prop := ∃ link ∈ links.head?, link.flags.output = true

instance (links : List Link) : Decidable (ForOutput links) :=
  inferInstanceAs (Decidable (∃ link ∈ links.head?, link.flags.output = true))

def Keeps (links links' : List Link) : Prop :=
  if ForOutput links then links' = links
  else links'.flatMap Link.places = links.flatMap Link.places ∧ ∀ link ∈ links', link.len ≠ 0#32

def Desc.Summed (d : Desc) : Prop := d.len1 = linksLen d.ptr1 ∧ d.len2 = linksLen d.ptr2

def Desc.Keeps (d d' : Desc) : Prop := d'.Summed ∧ Shw.Keeps d.ptr1 d'.ptr1 ∧ Shw.Keeps d.ptr2 d'.ptr2

def reworked (links : List Link) : List Link := if Splits links then splitLast links else links

def Desc.reworked (d : Desc) : Desc := { d with ptr1 := Shw.reworked d.ptr1, ptr2 := Shw.reworked d.ptr2 }

lemma reworkLinkChain_ok {links : List Link} {w : World} (h : (sahReworkLinkChain links w).1 = .ok) :
  (sahReworkLinkChain links w).2.1 = reworked links := by
  unfold reworked
  cases links with
  | nil => rfl
  | cons link rest =>
    rw [sahReworkLinkChain] at h ⊢
    by_cases hout : link.flags.output = true
    · rw [if_pos hout,if_neg]
      rintro ⟨hno,-⟩
      rw [hno link rfl] at hout
      cases hout
    · rw [if_neg hout,reworkLoop_eq] at h ⊢
      have hsplit : ((false = true ∨ ∃ l ∈ (link :: rest).dropLast, l.Odd) ∧ link :: rest ≠ [] ∧
          16#32 < (link :: rest).foldl (fun n l => n + l.len) 0#32) ↔ Splits (link :: rest) := by
        simp [Splits,linksLen,Bool.eq_false_of_not_eq_true hout]
      simp only [hsplit] at h ⊢
      split at h
      · next hs =>
        rw [if_pos hs,if_pos hs]
        split at h
        · rfl
        · cases h
      · next hs => rw [if_neg hs,if_neg hs]

lemma reworkLinks_ok : ∀ {chain chain' : List Desc} {w w' : World}, sahReworkLinks chain w = (.ok, chain', w') →
  chain' = chain.map Desc.reworked
  | [], _, _, _, h => (Prod.mk.inj (Prod.mk.inj h).2).1.symm
  | d :: chain, chain', w, w', h => by
    rw [sahReworkLinks] at h
    split at h
    · cases h
    · dsimp only at h
      split at h
      · next hne => exact absurd (Prod.mk.inj h).1 hne
      · next h1 =>
        split at h
        · next hne => exact absurd (Prod.mk.inj h).1 hne
        · next h2 =>
          obtain ⟨hr,h⟩ := Prod.mk.inj h
          rw [← (Prod.mk.inj h).1,map_cons,← reworkLinks_ok (Prod.ext hr rfl),Desc.reworked,
            ← reworkLinkChain_ok (not_not.mp h1),← reworkLinkChain_ok (not_not.mp h2)]

lemma splitLast_concat (link : Link) : ∀ init : List Link,
  splitLast (init ++ [link]) = init ++ [link.shorten, link.lastByte]
  | [] => rfl
  | [_] => rfl
  | _ :: next :: init => congrArg (_ :: ·) (splitLast_concat link (next :: init))

lemma linksLen_reworked (links : List Link) : linksLen (reworked links) = linksLen links := by
  unfold reworked
  split
  · rcases eq_nil_or_concat links with rfl | ⟨init,link,rfl⟩
    · rfl
    · rw [concat_eq_append,splitLast_concat]
      simp only [linksLen,foldl_append,foldl_cons,foldl_nil,Link.shorten,Link.lastByte]
      rw [BitVec.add_assoc,BitVec.sub_add_cancel]
  · rfl

lemma places_split {link : Link} (h1 : link.len ≠ 1#32) (h0 : link.len ≠ 0#32) :
  link.shorten.places ++ link.lastByte.places = link.places ↔ link.flags.storedKey = false := by
  obtain ⟨m,hm⟩ : ∃ m, link.len.toNat = m + 1 := Nat.exists_eq_succ_of_ne_zero fun h => h0 (eq_of_toNat_eq h)
  have hm0 : m ≠ 0 := by
    rintro rfl
    exact h1 (eq_of_toNat_eq hm)
  have hlen : (link.len - 1#32).toNat = m := by bv_omega
  have hshort : link.shorten.places = (List.range m).map link.place := by
    rw [Link.places,show link.shorten.len.toNat = m from hlen]
    rfl
  have hlast : link.lastByte.places = [link.lastByte.place 0] := rfl
  rw [hshort,hlast,Link.places,hm,range_succ,map_append,append_cancel_left_eq,map_singleton,
    singleton_inj]
  unfold Link.place Link.lastByte
  cases hs : link.flags.storedKey
  · simp [Ptr.add,Ptr.block,hlen]
  · simp [Ne.symm hm0]

lemma reworked_keeps {links : List Link} (hpos : ¬ ForOutput links → ∀ link ∈ links, link.len ≠ 0#32) :
  Keeps links (reworked links) ↔
    (Splits links → ∀ link ∈ links.getLast?, link.len ≠ 1#32 ∧ link.flags.storedKey = false) := by
  unfold Keeps reworked
  by_cases hs : Splits links
  · have hin : ¬ ForOutput links := by
      rintro ⟨link,hl,hout⟩
      rw [hs.1 link hl] at hout
      cases hout
    rw [if_neg hin,if_pos hs]
    obtain ⟨init,link,rfl⟩ : ∃ init link, links = init ++ [link] := by
      rcases eq_nil_or_concat links with rfl | ⟨init,link,rfl⟩
      · exact absurd hs (by decide)
      · exact ⟨init,link,concat_eq_append⟩
    have hpos := hpos hin
    have h0 := hpos link (by simp)
    rw [splitLast_concat,flatMap_append,flatMap_append,append_cancel_left_eq,flatMap_singleton]
    simp only [flatMap_cons,flatMap_nil,append_nil,getLast?_append_cons,getLast?_singleton,
      Option.mem_some_iff,forall_eq',hs,forall_const]
    constructor
    · rintro ⟨hbytes,hlens⟩
      have h1 : link.len ≠ 1#32 := fun h => hlens link.shorten (by simp) (by rw [Link.shorten,h]; rfl)
      exact ⟨h1,(places_split h1 h0).mp hbytes⟩
    · rintro ⟨h1,hkey⟩
      refine ⟨(places_split h1 h0).mpr hkey,fun l hl => ?_⟩
      rcases mem_append.mp hl with hl | hl
      · exact hpos l (mem_append_left _ hl)
      · rcases mem_pair.mp hl with rfl | rfl
        · intro h
          have hzero : link.len - 1#32 = 0#32 := h
          exact h1 (by bv_omega)
        · exact (by decide : (1#32) ≠ 0#32)
  · rw [if_neg hs]
    refine iff_of_true ?_ fun h => absurd h hs
    split
    · rfl
    · next hin => exact ⟨rfl,hpos hin⟩

/-- **The rework keeps the message** unless it splits a link of one byte or a stored key. -/
theorem rework_keeps_iff {chain chain' : List Desc} {w w' : World} (hsum : ∀ d ∈ chain, d.Summed)
  (hpos : ∀ d ∈ chain, ∀ links ∈ [d.ptr1, d.ptr2], ¬ ForOutput links → ∀ link ∈ links, link.len ≠ 0#32)
  (h : sahReworkLinks chain w = (.ok, chain', w')) :
  List.Forall₂ Desc.Keeps chain chain' ↔ ∀ d ∈ chain, ∀ links ∈ [d.ptr1, d.ptr2], Splits links →
    ∀ link ∈ links.getLast?, link.len ≠ 1#32 ∧ link.flags.storedKey = false := by
  rw [reworkLinks_ok h,forall₂_map_right_iff,forall₂_same]
  refine forall₂_congr fun d hd => ?_
  have hd' : d.reworked.Summed := by
    obtain ⟨h1,h2⟩ := hsum d hd
    exact ⟨h1.trans (linksLen_reworked _).symm,h2.trans (linksLen_reworked _).symm⟩
  have hpos := hpos d hd
  simp only [mem_cons,not_mem_nil,or_false,forall_eq_or_imp,forall_eq] at hpos ⊢
  rw [← reworked_keeps hpos.1,← reworked_keeps hpos.2]
  exact and_iff_right hd'

def assocDesc (n : BitVec 32) : Desc :=
  ⟨SAH_HDR_SKHA_ENC_DEC, linksLen (assocLinks sampleStatics (sampleRequest n) (userBuffer 11)),
    assocLinks sampleStatics (sampleRequest n) (userBuffer 11), 0, []⟩

theorem rework_keeps_three : ∃ chain' w', sahReworkLinks [assocDesc 3] sampleWorld = (.ok, chain', w') ∧
  List.Forall₂ Desc.Keeps [assocDesc 3] chain' := by
  refine ⟨_,_,rfl,(rework_keeps_iff (w := sampleWorld) ?_ ?_ rfl).mpr ?_⟩
  · rintro d hd
    rw [mem_singleton.mp hd]
    exact ⟨rfl,rfl⟩
  · decide
  · decide

/-- With thirteen bytes of associated data one byte completes the block. -/
theorem rework_empties_link : ∃ chain w₁ chain' w₂,
  addAssocPreamble sampleStatics (sampleRequest 13) [] sampleWorld = (.ok chain, w₁) ∧
  sahReworkLinks chain w₁ = (.ok, chain', w₂) ∧
  (∀ d ∈ chain, ∀ link ∈ d.links, link.len ≠ 0) ∧ ∃ d ∈ chain', ∃ link ∈ d.ptr1, link.len = 0 := by
  refine ⟨_,_,_,_,rfl,rfl,?_,?_⟩
  · decide
  · decide

/-! ### The preamble -/

def sumLen (links : List Link) : ℕ := (links.map (·.len.toNat)).sum

def assocLength (req : CcmRequest) : ℕ :=
  if req.authCtx.nistCcm then
    16 + req.authDataLength.toNat + (nistLength req.authDataLength.toNat).length + (authPadLength req).toNat
  else req.authDataLength.toNat

section
variable {st : Statics} {req : CcmRequest} {w w' : World}

lemma sinkLoop_lengths (link1 : List Link) : ∀ (fuel : ℕ) (n : BitVec 32) {link2 links : List Link} {w w' : World},
  n.toNat ≤ fuel → sinkLoop st link1 fuel n link2 w = (.ok links, w') →
    sumLen links = sumLen link2 + n.toNat ∧ links.length = link2.length + (n.toNat + 4095) / 4096
  | 0, n, link2, links, w, w', hn, h => by
    cases h
    omega
  | fuel + 1, n, link2, links, w, w', hn, h => by
    unfold sinkLoop at h
    split at h
    · next hzero =>
      cases h
      simp [hzero]
    · next hzero =>
      have hpos : n.toNat ≠ 0 := fun h => hzero (eq_of_toNat_eq h)
      obtain ⟨link2',w1,h1,h⟩ := Build.bind_eq_ok h
      obtain ⟨-,rfl⟩ := (appendLink_yields _ _ _ _).onFailure _ _ _ _ h1
      generalize hl : (if CBC_BUF_LEN < n then CBC_BUF_LEN else n) = linklen at h
      have hmin : linklen.toNat = min 4096 n.toNat := by
        rw [← hl]
        split
        · next hlt =>
          have : 4096 < n.toNat := hlt
          exact (min_eq_left this.le).symm
        · next hge =>
          have : ¬ 4096 < n.toNat := hge
          omega
      have hsub : (n - linklen).toNat = n.toNat - linklen.toNat := toNat_sub_of_le (by bv_omega)
      obtain ⟨hsum,hlen⟩ := sinkLoop_lengths link1 fuel (n - linklen) (by omega) h
      rw [hsum,hlen,hsub]
      simp only [sumLen,map_append,sum_append,map_singleton,sum_singleton,newLink,
        length_append,length_singleton]
      omega

lemma processAssoc_length {p : Ptr} {r : List Link × BitVec 32} (h : processAssocFromNistParams st req p w = (.ok r, w')) :
  r.2 = BLOCK_SIZE_BYTES + req.authDataLength + computeNistAuthLenSize req.authDataLength + authPadLength req := by
  unfold processAssocFromNistParams at h
  obtain ⟨_,_,-,h⟩ := Build.bind_eq_ok h
  obtain ⟨_,_,-,h⟩ := Build.bind_eq_ok h
  obtain ⟨_,_,-,h⟩ := Build.bind_eq_ok h
  obtain ⟨_,_,-,h⟩ := Build.bind_eq_ok h
  obtain ⟨_,_,-,h⟩ := Build.bind_eq_ok h
  rw [← Except.ok.inj (Prod.mk.inj h).1]

lemma assocPart_lengths {p : Ptr} {part : AssocPart} (h : assocPart st req p w = (.ok part, w')) :
  sumLen part.link1 = assocLength req ∧ part.link1.length ≤ 4 ∧ part.cbcDataLength = BitVec.ofNat 32 (assocLength req) := by
  unfold assocPart at h
  unfold assocLength
  split at h
  · next hnist =>
    obtain ⟨r,w1,h1,h⟩ := Build.bind_eq_ok h
    obtain ⟨hlinks,-,-⟩ := processAssoc_ok h1
    cases h
    rw [if_pos hnist]
    refine ⟨?_,?_,?_⟩
    · have hsize := computeNistAuthLenSize_eq req.authDataLength
      dsimp only
      rw [hlinks,assocLinks,sumLen,show BLOCK_SIZE_BYTES = 16#32 from rfl]
      split <;> simp [newLink,hsize] <;> bv_omega
    · dsimp only
      rw [hlinks,assocLinks]
      split <;> simp
    · dsimp only
      rw [processAssoc_length h1]
      apply eq_of_toNat_eq
      simp only [toNat_add,computeNistAuthLenSize_eq,toNat_ofNat]
      rw [show BLOCK_SIZE_BYTES.toNat = 16 from rfl]
      omega
  · next hnist =>
    obtain ⟨link,w1,h1,h⟩ := Build.bind_eq_ok h
    obtain ⟨-,rfl⟩ := createLink_yields _ _ _ _ _ _ h1
    cases h
    rw [if_neg hnist]
    exact ⟨rfl,by simp,by simp⟩

lemma preamble_lengths {chain chain' : List Desc} (h : addAssocPreamble st req chain w = (.ok chain', w')) :
  ∃ d, chain' = chain ++ [d] ∧ sumLen d.ptr1 = assocLength req ∧ d.ptr1.length ≤ 4 ∧
    sumLen d.ptr2 = 16 + (BitVec.ofNat 32 (assocLength req) - 16#32).toNat ∧
    d.ptr2.length = 1 + ((BitVec.ofNat 32 (assocLength req) - 16#32).toNat + 4095) / 4096 := by
  unfold addAssocPreamble at h
  obtain ⟨p,w1,-,h⟩ := Build.bind_eq_ok h
  obtain ⟨part,w2,h2,h⟩ := Build.bind_eq_ok h
  obtain ⟨hsum,hlen,hcbc⟩ := assocPart_lengths h2
  obtain ⟨link,w3,h3,h⟩ := Build.bind_eq_ok h
  obtain ⟨-,rfl⟩ := (createLink_yields _ _ _).onFailure _ _ _ _ h3
  obtain ⟨link2,w4,h4,h⟩ := Build.bind_eq_ok h
  obtain ⟨-,rfl⟩ := appendDesc_yields _ _ _ _ _ _ _ h
  obtain ⟨hsum2,hlen2⟩ := sinkLoop_lengths _ _ _ le_rfl h4
  rw [hcbc] at hsum2 hlen2
  exact ⟨_,rfl,hsum,hlen,hsum2,hlen2⟩

/-- **The preamble is balanced** if the length of its output does not wrap. -/
theorem preamble_balanced_iff {chain chain' : List Desc} (hn : req.authDataLength ≠ 0#32)
  (h : addAssocPreamble st req chain w = (.ok chain', w')) :
  ∃ d, chain' = chain ++ [d] ∧
    (sumLen d.ptr2 = sumLen d.ptr1 ∧ d.links.length ≤ 2 + sumLen d.ptr1 / 4096 + 4 ↔
      if req.authCtx.nistCcm then req.authDataLength.toNat + 22 ≤ 2 ^ 32 else 16 ≤ req.authDataLength.toNat) := by
  obtain ⟨d,hd,h1,hlen1,h2,hlen2⟩ := preamble_lengths h
  refine ⟨d,hd,?_⟩
  have hpos : req.authDataLength.toNat ≠ 0 := fun h => hn (eq_of_toNat_eq h)
  rw [Desc.links,length_append,hlen2,h1,h2,toNat_sub,toNat_ofNat,toNat_ofNat,assocLength]
  split
  · have hpad := authPadLength_eq req
    rw [nistLength_length] at hpad ⊢
    generalize hs : (if req.authDataLength.toNat < 65280 then 2 else 6) = size at hpad ⊢
    split at hs <;> omega
  · omega

theorem preamble_balanced_three : ∃ chain' w' d,
  addAssocPreamble sampleStatics (sampleRequest 3#32) [] sampleWorld = (.ok chain', w') ∧ chain' = [] ++ [d] ∧
    sumLen d.ptr2 = sumLen d.ptr1 ∧ d.links.length ≤ 2 + sumLen d.ptr1 / 4096 + 4 := by
  obtain ⟨d,hd,hiff⟩ := preamble_balanced_iff (show (sampleRequest 3#32).authDataLength ≠ 0#32 by decide)
    (show addAssocPreamble sampleStatics (sampleRequest 3#32) [] sampleWorld = (.ok _, _) from rfl)
  exact ⟨_,_,d,rfl,hd,hiff.mpr (by decide)⟩

lemma sinkLoop_supplied (st : Statics) (link1 : List Link) : ∀ (fuel : ℕ) (n : BitVec 32) (link2 : List Link) {w : World},
  w.supply = [] → ∃ links, sinkLoop st link1 fuel n link2 w = (.ok links, w)
  | 0, _, link2, _, _ => ⟨link2, rfl⟩
  | fuel + 1, n, link2, w, hw => by
    unfold sinkLoop
    split
    · exact ⟨link2,rfl⟩
    · obtain ⟨supply,log,buffers,address⟩ := w
      obtain rfl : supply = [] := hw
      obtain ⟨links,h⟩ := sinkLoop_supplied st link1 fuel (n - if CBC_BUF_LEN < n then CBC_BUF_LEN else n)
        (link2 ++ [newLink st.cbcBuffer (if CBC_BUF_LEN < n then CBC_BUF_LEN else n) ⟨false, true, false, false, false⟩])
        (w := ⟨[], log, buffers, address⟩) rfl
      exact ⟨links,Eq.trans (Build.bind_ok rfl) h⟩

def plainRequest : CcmRequest := { sampleRequest 1#32 with authCtx := { (sampleRequest 1#32).authCtx with nistCcm := false } }

theorem preamble_unbalanced : ∃ d w', addAssocPreamble sampleStatics plainRequest [] sampleWorld = (.ok [d], w') ∧
  sumLen d.ptr1 = 1 ∧ sumLen d.ptr2 = 2 ^ 32 + 1 := by
  have hok : ∃ chain' w', addAssocPreamble sampleStatics plainRequest [] sampleWorld = (.ok chain', w') := by
    obtain ⟨links,h⟩ := sinkLoop_supplied sampleStatics [newLink (userBuffer 4) 1#32 usesFlags] (1#32 - 16#32).toNat
      (1#32 - 16#32) [newLink ⟨11,0,0x2000#32,false⟩ 16#32 ⟨true,true,false,false,false⟩]
      (w := ⟨[],[],12,fun _ => 0x2000#32⟩) rfl
    exact ⟨_,_,Eq.trans (Build.bind_ok rfl) (Eq.trans (Build.bind_ok rfl) (Eq.trans (Build.bind_ok rfl)
      (Eq.trans (Build.bind_ok h) rfl)))⟩
  obtain ⟨chain',w',h⟩ := hok
  obtain ⟨d,rfl,h1,-,h2,-⟩ := preamble_lengths h
  exact ⟨d,w',h,h1,h2⟩

end

end Mx27.Shw
