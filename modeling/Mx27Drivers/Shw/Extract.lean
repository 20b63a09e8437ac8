/-
# What `fsl_shw_extract_key` leaves

The whole of `fsl_shw_extract_key`: the fields it stores, the two slots it takes for `T` and
`KEK`.
-/
import Mx27Drivers.Shw.BlackKey

namespace Mx27.Shw

open List

open Sahara (Return)

structure Frame.Apart (f : Frame) (black : Ptr) (n : ℕ) (w : World) : Prop where
  black_keyUserid : Clear black (34 + n) f.keyUserid 8
  black_tUserid : Clear black (34 + n) f.tUserid 8
  black_tKey : Clear black (34 + n) f.tKey 64
  black_kekKey : Clear black (34 + n) f.kekKey 64
  keyUserid_tUserid : Clear f.keyUserid 8 f.tUserid 8
  keyUserid_tKey : Clear f.keyUserid 8 f.tKey 64
  keyUserid_kekKey : Clear f.keyUserid 8 f.kekKey 64
  tUserid_tKey : Clear f.tUserid 8 f.tKey 64
  tUserid_kekKey : Clear f.tUserid 8 f.kekKey 64
  tKey_kekKey : Clear f.tKey 64 f.kekKey 64
  aligned : f.tUserid.address % 4#32 = 0#32
  black_old : black.buffer < w.buffers
  keyUserid_old : f.keyUserid.buffer < w.buffers

section
variable {p q : Ptr} {bytes : List Byte} {n m l : ℕ}

lemma Clear.take (h : Clear p n q m) (hl : l ≤ m) : Clear p n q l := by
  rcases h with h | h | h
  · exact .inl h
  · exact .inr (.inl h)
  · exact .inr (.inr (by omega))

lemma bytesAt_poke (s : Sys) (h : Clear q n p m) (hlen : bytes.length ≤ m) :
  bytesAt (s.poke p bytes).store.mem q n = bytesAt s.store.mem q n := bytesAt_storeBytes_other (h.take hlen)

lemma bytesAt_poke_self (s : Sys) : bytesAt (s.poke p bytes).store.mem p bytes.length = bytes := bytesAt_storeBytes rfl

end

/-! ### The fields -/

section
variable {f : Frame} {k : Sko} {black : Ptr} {s : Sys}

def prepared (f : Frame) (k : Sko) (black : Ptr) (s : Sys) : Sys :=
  wrapFields f k black (s.poke f.keyUserid (ownerBytes k.userid))

lemma bytesAt_wrapObjects (s : Sys) {p : Ptr} {n : ℕ} (ht : Clear p n f.tUserid 8) (htKey : Clear p n f.tKey 64)
  (hkek : Clear p n f.kekKey 64) (hlength : Clear p n (black.add LENGTH_OFFSET) 1)
  (halgorithm : Clear p n (black.add ALGORITHM_OFFSET) 1) :
  bytesAt (wrapFields f k black s).store.mem p n = bytesAt s.store.mem p n := by
  rw [wrapFields,bytesAt_poke _ hkek (by rw [bytesAt_length]),bytesAt_poke _ htKey (by rw [bytesAt_length]),
    bytesAt_poke _ ht (length_ownerBytes _).le,bytesAt_poke _ halgorithm length_singleton.le,bytesAt_poke _ hlength length_singleton.le]

lemma prepared_keyUserid (h : f.Apart black k.keyLength.toNat s.world) :
  bytesAt (prepared f k black s).store.mem f.keyUserid 8 = ownerBytes k.userid := by
  have hblack := h.black_keyUserid.symm
  rw [prepared,bytesAt_wrapObjects _ h.keyUserid_tUserid h.keyUserid_tKey h.keyUserid_kekKey
    (hblack.part (show 33 ≤ _ by omega)) (hblack.part (show 34 ≤ _ by omega))]
  exact bytesAt_poke_self s

lemma prepared_tUserid (h : f.Apart black k.keyLength.toNat s.world) :
  bytesAt (prepared f k black s).store.mem f.tUserid 8 = ownerBytes k.userid := by
  rw [prepared,wrapFields,bytesAt_poke _ h.tUserid_kekKey (by rw [bytesAt_length]),
    bytesAt_poke _ h.tUserid_tKey (by rw [bytesAt_length])]
  exact bytesAt_poke_self _

lemma prepared_fields (h : f.Apart black k.keyLength.toNat s.world) :
  bytesAt (prepared f k black s).store.mem (black.add LENGTH_OFFSET) 2 = [k.keyLength.setWidth 8, k.algorithm.byte] := by
  have hpart : ∀ {q : Ptr} {m : ℕ}, Clear black (34 + k.keyLength.toNat) q m → Clear (black.add LENGTH_OFFSET) 2 q m :=
    fun hq => (hq.symm.part (show 32 + 2 ≤ 34 + k.keyLength.toNat by omega)).symm
  rw [prepared,wrapFields,bytesAt_poke _ (hpart h.black_kekKey) (by rw [bytesAt_length]),
    bytesAt_poke _ (hpart h.black_tKey) (by rw [bytesAt_length]),bytesAt_poke _ (hpart h.black_tUserid) (length_ownerBytes _).le]
  set s1 := (s.poke f.keyUserid (ownerBytes k.userid)).poke (black.add LENGTH_OFFSET) [k.keyLength.setWidth 8]
  have halgorithm : (black.add LENGTH_OFFSET).add 1#32 = black.add ALGORITHM_OFFSET := by
    rw [Ptr.add,Ptr.add,Ptr.add,Ptr.mk.injEq]
    refine ⟨rfl,rfl,?_,rfl⟩
    show black.address + 32#32 + 1#32 = black.address + 33#32
    rw [BitVec.add_assoc]
    rfl
  have hsplit := bytesAt_append (s1.poke (black.add ALGORITHM_OFFSET) [k.algorithm.byte]).store.mem (black.add LENGTH_OFFSET) 1#32 1
  have hclear : Clear (black.add LENGTH_OFFSET) 1 (black.add ALGORITHM_OFFSET) 1 := .inr (.inl (Nat.le_refl _))
  have hfirst : bytesAt s1.store.mem (black.add LENGTH_OFFSET) 1 = [k.keyLength.setWidth 8] := bytesAt_poke_self _
  have hsecond : bytesAt (s1.poke (black.add ALGORITHM_OFFSET) [k.algorithm.byte]).store.mem (black.add ALGORITHM_OFFSET) 1 =
      [k.algorithm.byte] := bytesAt_poke_self _
  rw [halgorithm,hsecond,show (1#32).toNat = 1 from rfl,bytesAt_poke _ hclear length_singleton.le,hfirst] at hsplit
  exact hsplit

lemma prepared_icv (h : f.Apart black k.keyLength.toNat s.world) :
  bytesAt (prepared f k black s).store.mem (black.add ICV_OFFSET) 16 = bytesAt s.store.mem (black.add ICV_OFFSET) 16 := by
  have hpart : ∀ {q : Ptr} {m : ℕ}, Clear black (34 + k.keyLength.toNat) q m → Clear (black.add ICV_OFFSET) 16 q m :=
    fun hq => (hq.symm.part (show 0 + 16 ≤ 34 + k.keyLength.toNat by omega)).symm
  rw [prepared,bytesAt_wrapObjects _ (hpart h.black_tUserid) (hpart h.black_tKey) (hpart h.black_kekKey)
    (.inr (.inl (by rw [icv_offset,length_offset]; omega)))
    (.inr (.inl (show black.offset + 16 ≤ black.offset + 33 by omega))),bytesAt_poke _ (hpart h.black_keyUserid) (length_ownerBytes _).le]

end

/-! ### The slots of `wrap` -/

def tInfo (f : Frame) (k : Sko) (handle : BitVec 32) : KeyInfo :=
  { k.toKeyInfo with keyLength := T_LENGTH, handle := handle, key := f.tKey }

def kekInfo (f : Frame) (k : Sko) (handle : BitVec 32) : KeyInfo :=
  { k.toKeyInfo with keyLength := T_LENGTH, handle := handle, key := f.kekKey }

def freshSlot (owner : BitVec 64) (scc : Scc.State) : ℕ := (BitVec.ofNat 32 ((Scc.sccAllocSlot 16 owner scc).1.slot.getD 0)).toNat

section
variable {c : Crypto} {f : Frame} {k : Sko} {black : Ptr} {s : Sys}

lemma wrap_slots (howns : s.store.scc.Owns k.userid k.handle.toNat) (hok : (wrap c f k black s).1 = .ok) :
  ∃ T KEK s₁, wrap c f k black s = wrapWith c f k.toKeyInfo (tInfo f k T) (kekInfo f k KEK) black s₁ ∧
    s₁.store.mem = (wrapFields f k black s).store.mem ∧ s₁.world = s.world ∧ s₁.store.scc.scm = s.store.scc.scm ∧
    (s₁.store.scc.Owns k.userid k.handle.toNat ∧ s₁.store.scc.Owns k.userid T.toNat ∧ s₁.store.scc.Owns k.userid KEK.toNat) ∧
    (T.toNat ≠ KEK.toNat ∧ T.toNat ≠ k.handle.toNat ∧ KEK.toNat ≠ k.handle.toNat) ∧
    T.toNat = freshSlot k.userid s.store.scc := by
  have hT : ∃ T s₁, doSccSlotAlloc T_LENGTH.toNat k.userid (wrapFields f k black s) = (.ok, T, s₁) := by
    refine ⟨_,_,Prod.ext ?_ rfl⟩
    by_contra hne
    rw [wrap] at hok
    simp only [if_neg hne] at hok
    exact hne hok
  obtain ⟨T,s₁,hT⟩ := hT
  have hKEK : ∃ KEK s2, doSccSlotAlloc KEK_LENGTH.toNat k.userid s₁ = (.ok, KEK, s2) := by
    refine ⟨_,_,Prod.ext ?_ rfl⟩
    by_contra hne
    rw [wrap] at hok
    simp only [hT,if_true,if_neg hne] at hok
    exact hne hok
  obtain ⟨KEK,s2,hKEK⟩ := hKEK
  obtain ⟨hTfree,hTowns,hTother,hTscm,hTmem,hTworld⟩ := slotAlloc_ok hT
  obtain ⟨hKfree,hKowns,hKother,hKscm,hKmem,hKworld⟩ := slotAlloc_ok hKEK
  -- a slot that was free is not one that has an owner
  have hTk : T.toNat ≠ k.handle.toNat := by
    intro heq
    rw [heq] at hTfree
    exact Bool.false_ne_true (hTfree.symm.trans howns.2.1)
  have hkowns1 : s₁.store.scc.Owns k.userid k.handle.toNat := by
    rw [Scc.State.Owns,hTother _ hTk.symm]
    exact howns
  have hKk : KEK.toNat ≠ k.handle.toNat := by
    intro heq
    rw [heq] at hKfree
    exact Bool.false_ne_true (hKfree.symm.trans hkowns1.2.1)
  have hTK : T.toNat ≠ KEK.toNat := by
    intro heq
    rw [← heq] at hKfree
    exact Bool.false_ne_true (hKfree.symm.trans hTowns.2.1)
  refine ⟨T,KEK,s2,?_,hKmem.trans hTmem,hKworld.trans hTworld,hKscm.trans hTscm,⟨?_,?_,hKowns⟩,⟨hTK,hTk,hKk⟩,?_⟩
  · rw [wrap]
    simp only [hT,hKEK,if_true]
    rfl
  · rw [Scc.State.Owns,hKother _ hKk.symm]
    exact hkowns1
  · rw [Scc.State.Owns,hKother _ hTK]
    exact hTowns
  · exact congrArg (fun r => r.2.1.toNat) hT.symm

variable {uco : Uco}

lemma extract_wrap (hblocking : uco.blockingMode = true) (hestablished : k.established = true)
  (hok : (fslShwExtractKey c uco f k black s).1 = .ok) :
  (wrap c f k black (s.poke f.keyUserid (ownerBytes k.userid))).1 = .ok ∧
    (fslShwExtractKey c uco f k black s).2.2.store.mem =
      (wrap c f k black (s.poke f.keyUserid (ownerBytes k.userid))).2.store.mem := by
  have hboth : uco.blockingMode = true ∧ k.established = true := ⟨hblocking,hestablished⟩
  unfold fslShwExtractKey at hok ⊢
  split at hok
  · next hvalid =>
    simp only [if_pos hvalid,if_pos hboth] at hok ⊢
    split at hok
    · next hwrap => exact ⟨hwrap,by rw [if_pos hwrap,slotDealloc_mem]⟩
    · next hwrap => exact absurd hok hwrap
  · next hvalid => exact absurd hok hvalid

/-! ### A key that is in its slot -/

lemma extract_parts (hblocking : uco.blockingMode = true) (hk : k.InSlot)
  (howns : s.store.scc.Owns k.userid k.handle.toNat) (hlen : k.keyLength.toNat ≤ 32)
  (hapart : f.Apart black k.keyLength.toNat s.world) (hok : (fslShwExtractKey c uco f k black s).1 = .ok) :
  (fslShwExtractKey c uco f k black s).2.2.store.mem = wrapMem black s.world.icvMade
    (icvOf c (firstBytes c.rng 16) k.userid
      (coveredPart c (firstBytes c.rng 16) k.userid k.algorithm (redBytes s.store.scc k.handle.toNat k.keyLength.toNat)))
    (c.slotEncrypt k.userid (firstBytes c.rng 16)) (keyPrime c k.toKeyInfo s.store) (prepared f k black s).store.mem := by
  obtain ⟨hwrap,hmem⟩ := extract_wrap hblocking hk.2 hok
  obtain ⟨T,KEK,s1,heq,hmem1,hworld,hscm,⟨hkowns,hTowns,hKowns⟩,⟨hTK,hTk,hKk⟩,-⟩ :=
    wrap_slots (s := s.poke f.keyUserid (ownerBytes k.userid)) howns hwrap
  have hmem1 : s1.store.mem = (prepared f k black s).store.mem := hmem1
  have hloaded : Loaded f k.toKeyInfo (tInfo f k T) (kekInfo f k KEK) black s1.store :=
    { key := ⟨hkowns,hlen⟩
      T := ⟨hTowns,show T_LENGTH.toNat ≤ 32 by decide⟩
      KEK := ⟨hKowns,show T_LENGTH.toNat ≤ 32 by decide⟩
      T_length := rfl
      KEK_length := rfl
      T_KEK := hTK
      T_key := hTk
      KEK_key := hKk
      keyUserid := by rw [hmem1]; exact prepared_keyUserid hapart
      tUserid := by rw [hmem1]; exact prepared_tUserid hapart
      tUserid_clear := hapart.black_tUserid.symm }
  rw [heq] at hwrap hmem
  have hfields : bytesAt s1.store.mem (black.add LENGTH_OFFSET) 2 = [k.keyLength.setWidth 8,k.algorithm.byte] := by
    rw [hmem1]
    exact prepared_fields hapart
  have hred : ∀ n, redBytes s1.store.scc k.handle.toNat n = redBytes s.store.scc k.handle.toNat n := by
    intro n
    rw [redBytes,hscm]
    rfl
  rw [hmem,wrapWith_ok hloaded hk hk hk rfl hapart.aligned hfields (Prod.ext hwrap rfl),hworld,hmem1,hred,keyPrime,hred]
  rfl

def Frame.Covers (f : Frame) (black : Ptr) (n : ℕ) (b : ℕ × Bool) (i : ℕ) : Prop :=
  ∃ a ∈ [(black, 34 + n), (f.keyUserid, 8), (f.tUserid, 8), (f.tKey, 64), (f.kekKey, 64)],
    b = Ptr.block a.1 ∧ a.1.offset ≤ i ∧ i < a.1.offset + a.2

lemma poke_outside (s : Sys) {p : Ptr} {bytes : List Byte} {n : ℕ} {b : ℕ × Bool} {i : ℕ}
  (h : ¬ (b = p.block ∧ p.offset ≤ i ∧ i < p.offset + n)) (hlen : bytes.length ≤ n) :
  (s.poke p bytes).store.mem b i = s.store.mem b i := storeBytes_outside fun hin => h ⟨hin.1, hin.2.1, by omega⟩

lemma prepared_outside {b : ℕ × Bool} {i : ℕ} (h : ¬ f.Covers black k.keyLength.toNat b i) :
  (prepared f k black s).store.mem b i = s.store.mem b i := by
  have harea : ∀ a ∈ [(black, 34 + k.keyLength.toNat),(f.keyUserid, 8),(f.tUserid, 8),(f.tKey, 64),(f.kekKey, 64)],
      ¬ (b = Ptr.block a.1 ∧ a.1.offset ≤ i ∧ i < a.1.offset + a.2) := fun a ha hin => h ⟨a,ha,hin⟩
  simp only [forall_mem_cons,not_mem_nil,false_imp_iff,implies_true,and_true] at harea
  obtain ⟨hblack,hkey,ht,htKey,hkek⟩ := harea
  have hpart : ∀ a : BitVec 32, a.toNat + 1 ≤ 34 →
      ¬ (b = (black.add a).block ∧ (black.add a).offset ≤ i ∧ i < (black.add a).offset + 1) := by
    rintro a ha ⟨hb,hlow,hhigh⟩
    have hoffset : (black.add a).offset = black.offset + a.toNat := rfl
    rw [hoffset] at hlow hhigh
    exact hblack ⟨hb,by omega,by omega⟩
  rw [prepared,wrapFields,poke_outside _ hkek (by rw [bytesAt_length]),poke_outside _ htKey (by rw [bytesAt_length]),
    poke_outside _ ht (length_ownerBytes _).le,poke_outside _ (hpart _ (by decide)) length_singleton.le,
    poke_outside _ (hpart _ (by decide)) length_singleton.le,poke_outside _ hkey (length_ownerBytes _).le]

lemma extract_outside (hblocking : uco.blockingMode = true) (hk : k.InSlot)
  (howns : s.store.scc.Owns k.userid k.handle.toNat) (hlen : k.keyLength.toNat ≤ 32)
  (hapart : f.Apart black k.keyLength.toNat s.world) (hok : (fslShwExtractKey c uco f k black s).1 = .ok)
  {b : ℕ × Bool} {i : ℕ} (h : ¬ f.Covers black k.keyLength.toNat b i) :
  (fslShwExtractKey c uco f k black s).2.2.store.mem b i = s.store.mem b i := by
  rw [extract_parts hblocking hk howns hlen hapart hok,wrapMem_outside _ (length_icvOf _ _ _ _)
    (by rw [c.slotEncrypt_length,length_firstBytes]),prepared_outside h]
  rw [length_keyPrime]
  exact fun hin => h ⟨(black,_),mem_cons_self,hin⟩

/-! ### A key object with the plain key -/

section
variable {t kek : KeyInfo}

lemma KeyInfo.link_present {k : KeyInfo} (h : k.present = true) : k.link = newLink k.key (k.keyLength.setWidth 32) usesFlags := by
  rw [KeyInfo.link,if_pos h]

lemma rework_wrapDescs {k : KeyInfo} {chain : List Desc} {made1 made2 : Bool} {w w' : World}
  (haligned : f.tUserid.address % 4#32 = 0#32)
  (h : sahReworkLinks (wrapDescs f k t kek black made1 made2) w = (.ok, chain, w')) :
  ∃ ptr1, chain = [descOf SAH_HDR_RNG_GENERATE [t.link] [], { kekDesc f t kek with ptr1 := ptr1 }, descOf ctrHeader [] [kek.link],
    descOf SAH_HDR_SKHA_ENC_DEC [k.link] [newLink (black.add KEY_PRIME_OFFSET) (k.keyLength.setWidth 32) outFlags]] ++
      icvDescs f t black k.keyLength (black.add ICV_OFFSET) made1 made2 := by
  have hfirst : (descOf SAH_HDR_RNG_GENERATE [t.link] []).Even := descOf_even rfl (Nat.le_refl 1) (Nat.zero_le 1)
  have hrest : ∀ d ∈ [descOf ctrHeader [] [kek.link],
      descOf SAH_HDR_SKHA_ENC_DEC [k.link] [newLink (black.add KEY_PRIME_OFFSET) (k.keyLength.setWidth 32) outFlags]] ++
        icvDescs f t black k.keyLength (black.add ICV_OFFSET) made1 made2, d.Even := by
    intro d hd
    rw [mem_append] at hd
    rcases hd with hd | hd
    · simp only [mem_cons,not_mem_nil,or_false] at hd
      rcases hd with rfl | rfl
      · exact descOf_even rfl (Nat.zero_le 1) (Nat.le_refl 1)
      · exact descOf_even rfl (Nat.le_refl 1) (Nat.le_refl 1)
    · exact icvDescs_even haligned made1 made2 d hd
  rw [wrapDescs,List.cons_append,reworkLinks_cons_even hfirst,List.cons_append] at h
  obtain ⟨hok,htail⟩ := Prod.mk.inj h
  cases htail
  obtain ⟨ptr1,rest,w1,heq,hsame⟩ := reworkLinks_cons_ok (d := kekDesc f t kek) (fun link hl => by cases hl) (Prod.ext hok rfl)
  rw [reworkLinks_same hrest] at hsame
  cases hsame
  exact ⟨ptr1,congrArg _ heq⟩

lemma run_wrapDescs_present (c : Crypto) (f : Frame) (m : Mem) (scc : Scc.State) {k : KeyInfo} (hk : k.present = true) (ht : t.present = true)
  (hkek : kek.present = true) (htlen : t.keyLength = 16#16) (hkeklen : kek.keyLength = 16#16)
  (hapart : Clear t.key 16 kek.key 16 ∧ Clear t.key 16 black (34 + k.keyLength.toNat)) (ptr1 : List Link) (made1 made2 : Bool) :
  ∃ KEK key message, KEK.length = 16 ∧ key.length = k.keyLength.toNat ∧
    runChain c ([descOf SAH_HDR_RNG_GENERATE [t.link] [], { kekDesc f t kek with ptr1 := ptr1 }, descOf ctrHeader [] [kek.link],
      descOf SAH_HDR_SKHA_ENC_DEC [k.link] [newLink (black.add KEY_PRIME_OFFSET) (k.keyLength.setWidth 32) outFlags]] ++
        icvDescs f t black k.keyLength (black.add ICV_OFFSET) made1 made2) ⟨m, scc⟩ =
      ⟨if made1 ∧ made2 then
          storeBytes (black.add ICV_OFFSET) (firstBytes (c.hmac (firstBytes c.rng 16) message) 16)
            (storeBytes (black.add KEY_PRIME_OFFSET) key (storeBytes kek.key KEK (storeBytes t.key (firstBytes c.rng 16) m)))
        else storeBytes (black.add KEY_PRIME_OFFSET) key (storeBytes kek.key KEK (storeBytes t.key (firstBytes c.rng 16) m)),
        scc⟩ := by
  have hwrite : ∀ {k : KeyInfo} (s : Store) (bytes : List Byte), k.present = true →
      s.write [k.link] bytes = { s with mem := storeBytes k.key (bytes.take k.keyLength.toNat) s.mem } := by
    intro k s bytes hpresent
    rw [KeyInfo.link_present hpresent,write_newLink usesFlags_memory,toNat_keyLength]
  have hread : ∀ {k : KeyInfo} (s : Store), k.present = true → s.read [k.link] = bytesAt s.mem k.key k.keyLength.toNat := by
    intro k s hpresent
    rw [KeyInfo.link_present hpresent,Store.read,flatMap_singleton,read_newLink,toNat_keyLength]
  have h16 : (16#16 : BitVec 16).toNat = 16 := rfl
  set T := firstBytes c.rng 16 with hT
  have hTlen : T.length = 16 := length_firstBytes _ _
  set m1 := storeBytes t.key T m with hm1
  have h1 : (descOf SAH_HDR_RNG_GENERATE [t.link] []).run c ⟨⟨m,scc⟩,[],0#32,[]⟩ = ⟨⟨m1,scc⟩,[],0#32,[]⟩ := by
    have hlen : (linksLen [t.link]).toNat = 16 := by
      rw [linksLen,foldl_cons,foldl_nil,BitVec.zero_add,KeyInfo.link_present ht,htlen]
      rfl
    rw [run_generate,hwrite _ _ ht,hlen,htlen,h16,take_of_length_le (by rw [length_firstBytes])]
  obtain ⟨KEK,hKEK,h2⟩ : ∃ KEK : List Byte, KEK.length = 16 ∧
      ({ kekDesc f t kek with ptr1 := ptr1 } : Desc).run c ⟨⟨m1,scc⟩,[],0#32,[]⟩ =
        ⟨⟨storeBytes kek.key KEK m1,scc⟩,[],0#32,[]⟩ := by
    refine ⟨firstBytes (c.sha1 ((⟨m1,scc⟩ : Store).read ptr1)) 16,length_firstBytes _ _,?_⟩
    have hop : operationOf kekHeader = some .hash := by decide
    simp only [Desc.run,kekDesc,descOf,hop,hwrite _ _ hkek,hkeklen,h16]
    rw [firstBytes_take _ (by decide)]
  set m2 := storeBytes kek.key KEK m1 with hm2
  set stream := c.ctr ((⟨m2,scc⟩ : Store).read [kek.link]) with hstream
  have h3 : (descOf ctrHeader [] [kek.link]).run c ⟨⟨m2,scc⟩,[],0#32,[]⟩ =
      ⟨⟨m2,scc⟩,(⟨m2,scc⟩ : Store).read [kek.link],skhaMode insertSkhaModeCtr,[]⟩ := run_ctr _ _ _
  set key := xorStream stream (bytesAt m2 k.key k.keyLength.toNat) with hkey
  have hkeyLen : key.length = k.keyLength.toNat := by rw [hkey,length_xorStream,bytesAt_length]
  set m3 := storeBytes (black.add KEY_PRIME_OFFSET) key m2 with hm3
  have h4 : (descOf SAH_HDR_SKHA_ENC_DEC [k.link] [newLink (black.add KEY_PRIME_OFFSET) (k.keyLength.setWidth 32) outFlags]).run c
      ⟨⟨m2,scc⟩,(⟨m2,scc⟩ : Store).read [kek.link],skhaMode insertSkhaModeCtr,[]⟩ =
        ⟨⟨m3,scc⟩,(⟨m2,scc⟩ : Store).read [kek.link],skhaMode insertSkhaModeCtr,[]⟩ := by
    rw [run_encDec _ _ _ rfl,hread _ hk,write_newLink outFlags_memory,toNat_keyLength,take_of_length_le]
    rw [length_xorStream,bytesAt_length]
  -- the copy of the key object still has the random bytes
  have hreadT : (⟨m3,scc⟩ : Store).read [t.link] = T := by
    rw [hread _ ht,htlen,h16]
    show bytesAt m3 t.key 16 = T
    rw [hm3,bytesAt_storeBytes_other (hapart.2.part (by rw [hkeyLen]; exact Nat.le_refl _)),hm2,
      bytesAt_storeBytes_other (by rw [hKEK]; exact hapart.1),hm1,bytesAt_storeBytes hTlen.symm]
  refine ⟨KEK,key,bytesAt m3 f.tUserid 8 ++ bytesAt m3 (black.add LENGTH_OFFSET) (2 + k.keyLength.toNat),hKEK,hkeyLen,?_⟩
  rw [runChain,foldl_append]
  simp only [foldl_cons,foldl_nil,h1,h2,h3,h4]
  rw [run_icvDescs,hreadT,icvIn]
  split <;> rfl

lemma extract_present (hblocking : uco.blockingMode = true) (hpresent : k.present = true) (hestablished : k.established = true)
  (howns : s.store.scc.Owns k.userid k.handle.toNat) (hapart : f.Apart black k.keyLength.toNat s.world)
  (hok : (fslShwExtractKey c uco f k black s).1 = .ok) :
  ∃ KEK key message, KEK.length = 16 ∧ key.length = k.keyLength.toNat ∧
    (fslShwExtractKey c uco f k black s).2.2.store.mem =
      wrapMem black s.world.icvMade (firstBytes (c.hmac (firstBytes c.rng 16) message) 16)
        (c.slotEncrypt k.userid (redBytes s.store.scc (freshSlot k.userid s.store.scc) 16)) key
        (storeBytes f.kekKey KEK (storeBytes f.tKey (firstBytes c.rng 16) (prepared f k black s).store.mem)) := by
  obtain ⟨hwrap,hmem⟩ := extract_wrap hblocking hestablished hok
  obtain ⟨T,KEK,s1,heq,hmem1,hworld,hscm,-,-,hfresh⟩ :=
    wrap_slots (s := s.poke f.keyUserid (ownerBytes k.userid)) howns hwrap
  rw [heq] at hwrap hmem
  obtain ⟨chain,w,w',hrework,hrun⟩ := wrapWith_run (Prod.ext hwrap rfl)
  obtain ⟨ptr1,rfl⟩ := rework_wrapDescs hapart.aligned hrework
  have hclear : Clear f.tKey 16 f.kekKey 16 ∧ Clear f.tKey 16 black (34 + k.keyLength.toNat) :=
    ⟨((hapart.tKey_kekKey.take (by decide)).symm.take (by decide)).symm,(hapart.black_tKey.take (by decide)).symm⟩
  obtain ⟨KEK',key,message,hKEK,hkey,hrun'⟩ := run_wrapDescs_present c f s1.store.mem s1.store.scc
    (show k.toKeyInfo.present = true from hpresent) (show (tInfo f k T).present = true from hpresent)
    (show (kekInfo f k KEK).present = true from hpresent) rfl rfl hclear ptr1 (s1.world.grants 14) (s1.world.grants 15)
  refine ⟨KEK',key,message,hKEK,hkey,?_⟩
  have hslot : redBytes s1.store.scc T.toNat 16 = redBytes s.store.scc (freshSlot k.userid s.store.scc) 16 := by
    rw [hfresh,redBytes,hscm]
    rfl
  have hslot' : redBytes s1.store.scc (tInfo f k T).handle.toNat 16 = _ := hslot
  have hworld : s1.world = s.world := hworld
  rw [hmem,hrun,hrun',hslot',hmem1,wrapMem,World.icvMade,hworld]
  cases s.world.grants 14 <;> cases s.world.grants 15 <;> rfl

end

lemma extract_written (hblocking : uco.blockingMode = true) (hestablished : k.established = true)
  (howns : s.store.scc.Owns k.userid k.handle.toNat) (hlen : k.keyLength.toNat ≤ 32)
  (hapart : f.Apart black k.keyLength.toNat s.world) (hok : (fslShwExtractKey c uco f k black s).1 = .ok) :
  ∃ T message,
    bytesAt (fslShwExtractKey c uco f k black s).2.2.store.mem (black.add ICV_OFFSET) 16 =
      storedIcv s.world.icvMade (firstBytes (c.hmac (firstBytes c.rng 16) message) 16) s.store.mem black ∧
    bytesAt (fslShwExtractKey c uco f k black s).2.2.store.mem (black.add T_PRIME_OFFSET) 16 = c.slotEncrypt k.userid T ∧
    T = if k.present then redBytes s.store.scc (freshSlot k.userid s.store.scc) 16 else firstBytes c.rng 16 := by
  have hstored : ∀ {made icv m}, bytesAt m (black.add ICV_OFFSET) 16 = bytesAt s.store.mem (black.add ICV_OFFSET) 16 →
      storedIcv made icv m black = storedIcv made icv s.store.mem black := by
    intro made icv m h
    rw [storedIcv,storedIcv,h]
  cases hpresent : k.present with
  | false =>
    have hmem := extract_parts hblocking ⟨hpresent,hestablished⟩ howns hlen hapart hok
    refine ⟨firstBytes c.rng 16,ownerBytes k.userid ++ coveredPart c (firstBytes c.rng 16) k.userid k.algorithm
      (redBytes s.store.scc k.handle.toNat k.keyLength.toNat),?_,?_,rfl⟩
    · rw [hmem,wrapMem_icv _ (length_icvOf _ _ _ _),hstored (prepared_icv hapart)]
      rfl
    · rw [hmem,wrapMem_tPrime _ (by rw [c.slotEncrypt_length,length_firstBytes])]
  | true =>
    obtain ⟨KEK,key,message,hKEK,hkey,hmem⟩ := extract_present hblocking hpresent hestablished howns hapart hok
    refine ⟨_,message,?_,?_,rfl⟩
    · rw [hmem,wrapMem_icv _ (length_firstBytes _ _)]
      refine hstored ?_
      have hpart : ∀ {q : Ptr} {m : ℕ}, Clear black (34 + k.keyLength.toNat) q m → Clear (black.add ICV_OFFSET) 16 q m :=
        fun hq => (hq.symm.part (show 0 + 16 ≤ 34 + k.keyLength.toNat by omega)).symm
      rw [bytesAt_storeBytes_other ((hpart hapart.black_kekKey).take (by rw [hKEK]; decide)),
        bytesAt_storeBytes_other ((hpart hapart.black_tKey).take (by rw [length_firstBytes]; decide)),prepared_icv hapart]
    · rw [hmem,wrapMem_tPrime _ (by rw [c.slotEncrypt_length,length_redBytes])]
      rfl

lemma write_keyInfo : ∀ (links : List Link) (bytes : List Byte) (s : Store), (s.write links bytes).scc.keyInfo = s.scc.keyInfo
  | [], _, _ => rfl
  | link :: rest, bytes, s => by
    rw [Store.write,write_keyInfo rest]
    unfold Store.writeLink
    split
    · split <;> rfl
    · rfl

lemma run_keyInfo (c : Crypto) (d : Desc) (e : Engine) : (d.run c e).store.scc.keyInfo = e.store.scc.keyInfo := by
  unfold Desc.run
  split
  · exact write_keyInfo _ _ _
  · exact write_keyInfo _ _ _
  · rfl
  · split
    · exact write_keyInfo _ _ _
    · rfl
  · rfl
  · exact write_keyInfo _ _ _
  · rfl

lemma runChain_keyInfo (c : Crypto) (chain : List Desc) (s : Store) : (runChain c chain s).scc.keyInfo = s.scc.keyInfo := by
  have h : ∀ (chain : List Desc) (e : Engine), (chain.foldl (fun e d => Desc.run c d e) e).store.scc.keyInfo = e.store.scc.keyInfo := by
    intro chain
    induction chain with
    | nil => intro e; rfl
    | cons d chain ih =>
      intro e
      rw [foldl_cons,ih,run_keyInfo]
  exact h chain _

lemma execute_status (c c' : Crypto) (chain : List Desc) (s : Sys) : (execute c chain s).1 = (execute c' chain s).1 := by
  unfold execute
  split
  · rfl
  · simp only
    split <;> rfl

lemma execute_keyInfo (c : Crypto) (chain : List Desc) (s : Sys) :
  (execute c chain s).2.store.scc.keyInfo = s.store.scc.keyInfo := by
  unfold execute
  split
  · rfl
  · simp only
    split
    · exact runChain_keyInfo _ _ _
    · rfl

lemma slotEncrypt_status {c c' : Crypto} {owner : BitVec 64} {slot : BitVec 32} {n : ℕ} {p : Ptr} {s s' : Sys}
  (h : s.store.scc.keyInfo = s'.store.scc.keyInfo) :
  (doSccSlotEncrypt c owner slot n p s).1 = (doSccSlotEncrypt c' owner slot n p s').1 := by
  have hverify : s.store.scc.Verify owner slot.toNat n ↔ s'.store.scc.Verify owner slot.toNat n := by
    rw [Scc.State.Verify,Scc.State.Verify,Scc.State.Owns,Scc.State.Owns,h]
  unfold doSccSlotEncrypt
  by_cases hv : s.store.scc.Verify owner slot.toNat n
  · rw [if_pos hv,if_pos (hverify.mp hv)]
  · rw [if_neg hv,if_neg (fun hv' => hv (hverify.mpr hv'))]

lemma wrapWith_status (c c' : Crypto) (f : Frame) (k t kek : KeyInfo) (black : Ptr) (s : Sys) :
  (wrapWith c f k t kek black s).1 = (wrapWith c' f k t kek black s).1 := by
  unfold wrapWith
  split
  · rfl
  · next chain w hchain =>
    simp only [execute_status c c' chain { s with world := w }]
    split
    · exact slotEncrypt_status (by rw [execute_keyInfo,execute_keyInfo])
    · rfl

lemma extract_status (c c' : Crypto) (uco : Uco) (f : Frame) (k : Sko) (black : Ptr) (s : Sys) :
  (fslShwExtractKey c uco f k black s).1 = (fslShwExtractKey c' uco f k black s).1 := by
  have hwrap : ∀ s, (wrap c f k black s).1 = (wrap c' f k black s).1 := by
    intro s
    unfold wrap
    simp only
    split
    · split
      · exact wrapWith_status _ _ _ _ _ _ _ _
      · rfl
    · rfl
  unfold fslShwExtractKey
  split
  · split
    · simp only [hwrap]
      split <;> rfl
    · rfl
  · rfl

end

end Mx27.Shw
