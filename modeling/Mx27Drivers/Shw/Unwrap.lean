/-
# What `fsl_shw_establish_key` accepts

`fsl_shw_establish_key` with `FSL_KEY_WRAP_UNWRAP` where there is a free slot and enough memory.
-/
import Mx27Drivers.Shw.Extract

namespace Mx27.Shw

open List BitVec

open Sahara (Return)

lemma reworkLinkChain_ample (links : List Link) {w : World} (hw : w.Ample) :
  (sahReworkLinkChain links w).1 = .ok ∧ (sahReworkLinkChain links w).2.2.Ample := by
  cases links with
  | nil => exact ⟨rfl,hw⟩
  | cons link rest =>
    rw [sahReworkLinkChain]
    split
    · exact ⟨rfl,hw⟩
    · obtain ⟨w',halloc,hw',-⟩ := hw.alloc
      rw [reworkLoop_eq,halloc]
      split
      · exact ⟨rfl,hw'⟩
      · exact ⟨rfl,hw⟩

lemma reworkLinks_ample : ∀ {chain : List Desc} {w : World}, (∀ d ∈ chain, d.header &&& SAH_HDR_LLO = 0#32) → w.Ample →
  (sahReworkLinks chain w).1 = .ok
  | [], _, _, _ => rfl
  | d :: chain, w, hllo, hw => by
    obtain ⟨h1,hw1⟩ := reworkLinkChain_ample d.ptr1 hw
    obtain ⟨h2,hw2⟩ := reworkLinkChain_ample d.ptr2 hw1
    rw [sahReworkLinks,if_neg (fun hne => hne (hllo d mem_cons_self))]
    simp only [h1,h2,ne_eq,not_true_eq_false,if_false]
    exact reworkLinks_ample (fun d' hd' => hllo d' (mem_cons_of_mem d hd')) hw2

lemma execute_ample (c : Crypto) {chain : List Desc} {s : Sys} (hne : chain ≠ [])
  (hllo : ∀ d ∈ chain, d.header &&& SAH_HDR_LLO = 0#32) (hw : s.world.Ample) : (execute c chain s).1 = .ok := by
  rw [execute,if_neg hne]
  simp only [reworkLinks_ample hllo hw,if_true]

section
variable {c : Crypto} {f : Frame} {k : Sko} {t : KeyInfo} {black hmac : Ptr} {s : Sys}

def icvStored (c : Crypto) (f : Frame) (t : KeyInfo) (black hmac : Ptr) (keyLength : BitVec 16) (s : Store) : Store :=
  { s with mem := storeBytes hmac (icvIn c f (s.read [t.link]) black keyLength s.mem) s.mem }

lemma unwrapWith_eq (hw : s.world.Ample) (ht : t.established = true) (haligned : f.tUserid.address % 4#32 = 0#32)
  (hfresh : hmac.block ≠ black.block) :
  ∃ w' : World, w'.Ample ∧ unwrapWith c f k t black hmac s =
    if bytesAt s.store.mem (black.add ICV_OFFSET) 16 = icvIn c f (s.store.read [t.link]) black k.keyLength s.store.mem then
      unwrapKey c f k t black ⟨w', icvStored c f t black hmac k.keyLength s.store⟩
    else (.authFailed, k, ⟨w', icvStored c f t black hmac k.keyLength s.store⟩) := by
  obtain ⟨chain,w1,hchain,hw1⟩ : ∃ chain w1, createIcvCalc f t black k.keyLength hmac [] s.world = (.ok chain, w1) ∧ w1.Ample :=
    createIcvCalc_succeeds ht [] s.world hw
  obtain ⟨hdescs,-⟩ := createIcvCalc_ok hchain
  rw [hw.grants,hw.grants,nil_append] at hdescs
  subst hdescs
  have hrun : runChain c (icvDescs f t black k.keyLength hmac true true) s.store = icvStored c f t black hmac k.keyLength s.store :=
    (run_icvDescs _ true true).trans (if_pos ⟨rfl,rfl⟩)
  have hexec : execute c (icvDescs f t black k.keyLength hmac true true) { s with world := w1 } = _ :=
    execute_ok c (by simp [icvDescs]) (icvDescs_even haligned true true) _
  rw [hrun] at hexec
  -- the ICV in the black key is not touched, and the other one is the one that was computed
  have hblack : bytesAt (icvStored c f t black hmac k.keyLength s.store).mem (black.add ICV_OFFSET) 16 =
      bytesAt s.store.mem (black.add ICV_OFFSET) 16 := bytesAt_storeBytes_other (.inl (Ne.symm hfresh))
  have hhmac : bytesAt (icvStored c f t black hmac k.keyLength s.store).mem hmac 16 =
      icvIn c f (s.store.read [t.link]) black k.keyLength s.store.mem := bytesAt_storeBytes (length_firstBytes _ _).symm
  refine ⟨w1.emit [.free hmac.block hmac.offset],fun granted hg => hw1 granted hg,?_⟩
  rw [unwrapWith,hchain]
  simp only [hexec,if_true,checkIcv]
  rw [show ICV_LENGTH.toNat = 16 from rfl,hblack,hhmac]
  by_cases hicv : bytesAt s.store.mem (black.add ICV_OFFSET) 16 = icvIn c f (s.store.read [t.link]) black k.keyLength s.store.mem
  · simp only [if_pos hicv,if_true]
  · simp only [if_neg hicv]
    rw [if_neg (by decide)]

/-! ### The key -/

def Sko.rounded (k : Sko) : KeyInfo := { k.toKeyInfo with keyLength := roundedKeyLength k.keyLength }

def unwrapDescs (f : Frame) (k : Sko) (t : KeyInfo) (black : Ptr) : List Desc :=
  [kekDesc f t t, descOf ctrHeader [] [t.link],
    descOf SAH_HDR_SKHA_ENC_DEC [newLink (black.add KEY_PRIME_OFFSET) ((roundedKeyLength k.keyLength).setWidth 32) usesFlags]
      [k.rounded.link]]

lemma unwrapKey_eq (hw : s.world.Ample) (ht : t.established = true) (hk : k.established = true) :
  ∃ w' : World, w'.Ample ∧ unwrapKey c f k t black s =
    ((execute c (unwrapDescs f k t black) { s with world := w' }).1, k, (execute c (unwrapDescs f k t black) { s with world := w' }).2) := by
  obtain ⟨w1,h1,hw1⟩ := (appendKek_makes (f := f) (fun _ => ht) (fun _ => ht) []).run trivial hw
  obtain ⟨w2,h2,hw2⟩ := (addInKeyDesc_makes ctrHeader (fun _ => ht) ([] ++ [kekDesc f t t])).run trivial hw1
  obtain ⟨w3,h3,hw3⟩ := (addInKeyDesc_some_makes SAH_HDR_SKHA_ENC_DEC (k := k.rounded) (fun _ => hk)
    (black.add KEY_PRIME_OFFSET) ((roundedKeyLength k.keyLength).setWidth 32)
    ([] ++ [kekDesc f t t] ++ [descOf ctrHeader [] [t.link]])).run trivial hw2
  refine ⟨w3,hw3,?_⟩
  rw [unwrapKey,h1]
  simp only [h2]
  rw [← Sko.rounded,h3]
  rfl

lemma unwrapKey_status (hw : s.world.Ample) (ht : t.established = true) (hk : k.established = true) :
  (unwrapKey c f k t black s).1 = .ok := by
  obtain ⟨w',hw',heq⟩ : ∃ w' : World, w'.Ample ∧ unwrapKey c f k t black s = _ := unwrapKey_eq hw ht hk
  rw [heq]
  refine execute_ample c (by simp [unwrapDescs]) (fun d hd => ?_) hw'
  simp only [unwrapDescs,mem_cons,not_mem_nil,or_false] at hd
  rcases hd with rfl | rfl | rfl
  · exact show kekHeader &&& SAH_HDR_LLO = 0#32 by decide
  · exact show ctrHeader &&& SAH_HDR_LLO = 0#32 by decide
  · exact show SAH_HDR_SKHA_ENC_DEC &&& SAH_HDR_LLO = 0#32 by decide

lemma roundedKeyLength_bounds {n : BitVec 16} (h : n.toNat ≤ 32) :
  n.toNat ≤ (roundedKeyLength n).toNat ∧ (roundedKeyLength n).toNat ≤ 32 ∧ 4 ∣ (roundedKeyLength n).toNat := by
  have hand : (n &&& 3#16).toNat = n.toNat % 4 := by
    rw [toNat_and]
    exact Nat.and_two_pow_sub_one_eq_mod n.toNat 2
  rw [roundedKeyLength]
  split
  · next hne =>
    have hmod : n.toNat % 4 ≠ 0 := fun h0 => hne (eq_of_toNat_eq (hand.trans h0))
    have hsum : (n + 4#16 - (n &&& 3#16)).toNat = n.toNat + 4 - n.toNat % 4 := by
      rw [toNat_sub,toNat_add,hand,show (4#16 : BitVec 16).toNat = 4 from rfl]
      omega
    rw [hsum]
    omega
  · next heq =>
    have hmod : n.toNat % 4 = 0 := by
      rw [← hand,not_not.mp heq]
      rfl
    omega

lemma unwrapDescs_even (ht : t.InSlot) (h : t.keyLength = 16#16) : ∀ d ∈ unwrapDescs f k t black, d.Even := by
  intro d hd
  simp only [unwrapDescs,mem_cons,not_mem_nil,or_false] at hd
  rcases hd with rfl | rfl | rfl
  · exact kekDesc_even ht h
  · exact descOf_even rfl (Nat.zero_le 1) (Nat.le_refl 1)
  · exact descOf_even rfl (Nat.le_refl 1) (Nat.le_refl 1)

lemma run_unwrapDescs {s : Store} {T : List Byte} (hk : k.InSlot) (ht : t.InSlot) (htlen : t.keyLength = 16#16)
  (hhandle : t.handle = k.handle) (howner : t.userid = k.userid) (howns : s.scc.Owns k.userid k.handle.toNat)
  (hlen : k.keyLength.toNat ≤ 32) (hT : redBytes s.scc k.handle.toNat 16 = T)
  (huser : bytesAt s.mem f.keyUserid 8 = ownerBytes k.userid) :
  runChain c (unwrapDescs f k t black) s = ⟨s.mem, putRed k.handle.toNat
    (xorStream (c.ctr (kekOf c T k.userid)) (bytesAt s.mem (black.add KEY_PRIME_OFFSET) (roundedKeyLength k.keyLength).toNat))
    (putRed k.handle.toNat (kekOf c T k.userid) s.scc)⟩ := by
  have h16 : t.keyLength.toNat = 16 := by rw [htlen]; rfl
  have hheldT : Held s.scc t := ⟨by rw [howner,hhandle]; exact howns,by rw [h16]; decide⟩
  have hheldK : Held s.scc k.rounded := ⟨howns,(roundedKeyLength_bounds hlen).2.1⟩
  set KEK := kekOf c T k.userid with hKEK
  have hKEKlen : KEK.length = 16 := length_firstBytes _ _
  set scc1 := putRed k.handle.toNat KEK s.scc with hscc1
  have h1 : (kekDesc f t t).run c ⟨s,[],0#32,[]⟩ = ⟨⟨s.mem,scc1⟩,[],0#32,[]⟩ := by
    rw [kekDesc,ht.link,run_kekLinks hheldT hheldT h16 h16 (by rw [hhandle,hT]) huser,hhandle]
  have h2 : (descOf ctrHeader [] [t.link]).run c ⟨⟨s.mem,scc1⟩,[],0#32,[]⟩ =
      ⟨⟨s.mem,scc1⟩,KEK,skhaMode insertSkhaModeCtr,[]⟩ := by
    have hheld : Held (⟨s.mem,scc1⟩ : Store).scc t := hheldT.putRed _ _
    have hreadKEK : redBytes scc1 k.handle.toNat 16 = KEK := redBytes_putRed_self hKEKlen
    rw [run_ctr,ht.link,read_slotLink hheld,h16,hhandle]
    simp only [hreadKEK]
  have h3 : (descOf SAH_HDR_SKHA_ENC_DEC
      [newLink (black.add KEY_PRIME_OFFSET) ((roundedKeyLength k.keyLength).setWidth 32) usesFlags] [k.rounded.link]).run c
        ⟨⟨s.mem,scc1⟩,KEK,skhaMode insertSkhaModeCtr,[]⟩ =
      ⟨⟨s.mem,putRed k.handle.toNat
        (xorStream (c.ctr KEK) (bytesAt s.mem (black.add KEY_PRIME_OFFSET) (roundedKeyLength k.keyLength).toNat)) scc1⟩,
        KEK,skhaMode insertSkhaModeCtr,[]⟩ := by
    have hheld : Held (⟨s.mem,scc1⟩ : Store).scc k.rounded := hheldK.putRed _ _
    have hslot : k.rounded.InSlot := hk
    rw [run_encDec _ _ _ rfl,hslot.link,write_slotLink hheld,Store.read,flatMap_singleton,read_newLink,toNat_keyLength,
      take_of_length_le]
    · rfl
    · rw [length_xorStream,bytesAt_length]
      exact Nat.le_refl _
  rw [runChain,unwrapDescs]
  simp only [foldl_cons,foldl_nil,h1,h2,h3]

end

/-! ### The whole call -/

structure Ready (uco : Uco) (f : Frame) (k : Sko) (black : Ptr) (s : Sys) : Prop where
  valid : sahValidateUco uco = .ok
  blocking : uco.blockingMode = true
  length_pos : 1 ≤ k.keyLength.toNat
  length_le : k.keyLength.toNat ≤ 32
  apart : f.Apart black k.keyLength.toNat s.world
  ample : s.world.Ample
  free : ∃ i < Scc.SCC_KEY_SLOTS, (s.store.scc.keyInfo i).status = false

def Sko.inSlot (k : Sko) (slot : BitVec 32) : Sko := { k with handle := slot, established := true }

def Sko.forT (k : Sko) (f : Frame) (slot : BitVec 32) : KeyInfo := { (k.inSlot slot).toKeyInfo with keyLength := T_LENGTH, key := f.tKey }

def settle (k : Sko) (r : Return × Sko × Sys) : Return × Sko × Sys :=
  if r.1 = .ok then r
  else (r.1, { r.2.1 with established := false }, (doSccSlotDealloc k.userid r.2.1.handle r.2.2).2)

def ownersMem (f : Frame) (k : Sko) (m : Mem) : Mem := storeBytes f.tUserid (ownerBytes k.userid) (storeBytes f.keyUserid (ownerBytes k.userid) m)

section
variable {c : Crypto} {uco : Uco} {f : Frame} {k : Sko} {black : Ptr} {s : Sys}

lemma establish_unwrap (h : Ready uco f k black s) :
  ∃ slot hmac s₁, fslShwEstablishKey c uco f k .unwrap (some black) s =
      settle k (unwrapWith c f (k.inSlot slot) (k.forT f slot) black hmac s₁) ∧
    hmac.block ≠ black.block ∧ hmac.block ≠ f.keyUserid.block ∧ s₁.world.Ample ∧ s₁.store.mem = ownersMem f k s.store.mem ∧
    s₁.store.scc.Owns k.userid slot.toNat ∧
    redBytes s₁.store.scc slot.toNat 16 = c.slotDecrypt k.userid (bytesAt s.store.mem (black.add T_PRIME_OFFSET) 16) := by
  obtain ⟨slot,s₁,halloc⟩ : ∃ slot s₁, doSccSlotAlloc k.keyLength.toNat k.userid (s.poke f.keyUserid (ownerBytes k.userid)) =
      (.ok, slot, s₁) := slotAlloc_free ⟨Nat.one_le_iff_ne_zero.mp h.length_pos,h.length_le⟩ h.free
  obtain ⟨-,howns,-,-,hmem,hworld⟩ := slotAlloc_ok halloc
  have hworld : s₁.world = s.world := hworld
  have hample : s₁.world.Ample := hworld ▸ h.ample
  obtain ⟨w,hw,hwAmple,hbuffers⟩ := hample.alloc
  set hmac : Ptr := ⟨w.buffers,0,w.address w.buffers,false⟩ with hhmac
  have hmalloc : Build.malloc s₁.world = (.ok hmac, { w with buffers := w.buffers + 1 }) := by rw [Build.malloc,hw]
  have hfresh : ∀ {p : Ptr}, p.buffer < s.world.buffers → hmac.block ≠ p.block := by
    intro p hp heq
    have hbuffer : w.buffers = p.buffer := congrArg Prod.fst heq
    rw [hworld] at hbuffers
    omega
  set s2 : Sys := (⟨{ w with buffers := w.buffers + 1 },s₁.store⟩ : Sys).poke f.tUserid (ownerBytes k.userid) with hs2
  have hmem2 : s2.store.mem = ownersMem f k s.store.mem := by
    show storeBytes _ _ s₁.store.mem = _
    rw [hmem]
    rfl
  set T := c.slotDecrypt k.userid (bytesAt s2.store.mem (black.add T_PRIME_OFFSET) 16) with hT
  have hTlen : T.length = 16 := by rw [hT,c.slotDecrypt_length,bytesAt_length]
  have hverify : s2.store.scc.Verify k.userid slot.toNat T_LENGTH.toNat := ⟨howns,by decide⟩
  have hdecrypt : doSccSlotDecrypt c k.userid slot T_LENGTH.toNat (black.add T_PRIME_OFFSET) s2 =
      (.ok, { s2 with store.scc := putRed slot.toNat T s2.store.scc }) := by
    rw [doSccSlotDecrypt,if_pos hverify]
    rfl
  have hpart : ∀ {q : Ptr} {m : ℕ}, Clear black (34 + k.keyLength.toNat) q m → Clear (black.add T_PRIME_OFFSET) 16 q m :=
    fun hq => (hq.symm.part (show 16 + 16 ≤ 34 + k.keyLength.toNat by omega)).symm
  refine ⟨slot,hmac,{ s2 with store.scc := putRed slot.toNat T s2.store.scc },?_,hfresh h.apart.black_old,
    hfresh h.apart.keyUserid_old,hwAmple,hmem2,howns,?_⟩
  · rw [fslShwEstablishKey,if_pos h.valid]
    simp only [halloc,if_true,establishAs,h.blocking,Bool.true_eq_false,if_false]
    rw [unwrap,hmalloc]
    simp only
    rw [← hs2,hdecrypt]
    rfl
  · have hTread : redBytes (putRed slot.toNat T s2.store.scc) slot.toNat 16 = T := by
      rw [redBytes_putRed_self hTlen]
    refine hTread.trans ?_
    rw [hT,hmem2,ownersMem,bytesAt_storeBytes_other (hpart h.apart.black_tUserid),
      bytesAt_storeBytes_other (hpart h.apart.black_keyUserid)]

def macKey (c : Crypto) (f : Frame) (k : Sko) (black : Ptr) (m : Mem) : List Byte :=
  if k.present then bytesAt m f.tKey 16 else c.slotDecrypt k.userid (bytesAt m (black.add T_PRIME_OFFSET) 16)

def Accepts (c : Crypto) (f : Frame) (k : Sko) (black : Ptr) (m : Mem) : Prop :=
  bytesAt m (black.add ICV_OFFSET) 16 =
    icvOf c (macKey c f k black m) k.userid (bytesAt m (black.add LENGTH_OFFSET) (2 + k.keyLength.toNat))

lemma bytesAt_ownersMem {p : Ptr} {n : ℕ} (hkey : Clear p n f.keyUserid 8) (ht : Clear p n f.tUserid 8) (m : Mem) :
  bytesAt (ownersMem f k m) p n = bytesAt m p n := by
  rw [ownersMem,bytesAt_storeBytes_other (ht.take (length_ownerBytes _).le),
    bytesAt_storeBytes_other (hkey.take (length_ownerBytes _).le)]

lemma ownersMem_tUserid (m : Mem) : bytesAt (ownersMem f k m) f.tUserid 8 = ownerBytes k.userid := bytesAt_storeBytes rfl

lemma ownersMem_keyUserid (hclear : Clear f.keyUserid 8 f.tUserid 8) (m : Mem) :
  bytesAt (ownersMem f k m) f.keyUserid 8 = ownerBytes k.userid := by
  rw [ownersMem,bytesAt_storeBytes_other (hclear.take (length_ownerBytes _).le)]
  exact bytesAt_storeBytes rfl

lemma forT_inSlot {slot : BitVec 32} (hpresent : k.present = false) : (k.forT f slot).InSlot := ⟨hpresent, rfl⟩

lemma icvIn_establish {slot : BitVec 32} {s₁ : Store} (h : f.Apart black k.keyLength.toNat s.world)
  (hmem : s₁.mem = ownersMem f k s.store.mem) (howns : s₁.scc.Owns k.userid slot.toNat)
  (hT : redBytes s₁.scc slot.toNat 16 = c.slotDecrypt k.userid (bytesAt s.store.mem (black.add T_PRIME_OFFSET) 16)) :
  bytesAt s₁.mem (black.add ICV_OFFSET) 16 = icvIn c f (s₁.read [(k.forT f slot).link]) black k.keyLength s₁.mem ↔
    Accepts c f k black s.store.mem := by
  have hpart : ∀ {a : BitVec 32} {l : ℕ}, a.toNat + l ≤ 34 + k.keyLength.toNat →
      bytesAt s₁.mem (black.add a) l = bytesAt s.store.mem (black.add a) l := by
    intro a l hal
    rw [hmem]
    exact bytesAt_ownersMem (h.black_keyUserid.symm.part hal).symm (h.black_tUserid.symm.part hal).symm _
  have hread : s₁.read [(k.forT f slot).link] = macKey c f k black s.store.mem := by
    cases hpresent : k.present with
    | false =>
      have hheld : Held s₁.scc (k.forT f slot) := ⟨howns,show T_LENGTH.toNat ≤ 32 by decide⟩
      rw [(forT_inSlot hpresent).link,read_slotLink hheld,macKey,hpresent]
      exact hT
    | true =>
      have hlink : (k.forT f slot).present = true := hpresent
      rw [KeyInfo.link_present hlink,Store.read,flatMap_singleton,read_newLink,macKey,hpresent,if_pos rfl,hmem]
      have h16 : 16 ≤ 64 := by decide
      exact bytesAt_ownersMem (h.keyUserid_tKey.take h16).symm (h.tUserid_tKey.take h16).symm _
  rw [hread,icvIn,hpart (show 0 + 16 ≤ _ by omega),hpart (show 32 + (2 + k.keyLength.toNat) ≤ _ by omega),hmem,
    ownersMem_tUserid]
  rfl

lemma unwrap_accepts (h : Ready uco f k black s) :
  (fslShwEstablishKey c uco f k .unwrap (some black) s).1 = .ok ↔ Accepts c f k black s.store.mem := by
  obtain ⟨slot,hmac,s1,heq,hblack,-,hample,hmem,howns,hT⟩ := establish_unwrap (c := c) h
  obtain ⟨w',hw',hunwrap⟩ : ∃ w' : World, w'.Ample ∧ unwrapWith c f (k.inSlot slot) (k.forT f slot) black hmac s1 = _ :=
    unwrapWith_eq hample (show (k.forT f slot).established = true from rfl) h.apart.aligned hblack
  have hicv := icvIn_establish h.apart hmem howns hT
  rw [heq,hunwrap,show (k.inSlot slot).keyLength = k.keyLength from rfl]
  by_cases haccepts : Accepts c f k black s.store.mem
  · rw [if_pos (hicv.mpr haccepts)]
    have hstatus : (unwrapKey c f (k.inSlot slot) (k.forT f slot) black
        ⟨w',icvStored c f (k.forT f slot) black hmac k.keyLength s1.store⟩).1 = .ok := unwrapKey_status hw' rfl rfl
    exact iff_of_true (by rw [settle,if_pos hstatus]; exact hstatus) haccepts
  · rw [if_neg (fun hne => haccepts (hicv.mp hne))]
    refine iff_of_false ?_ haccepts
    simp only [settle]
    rw [if_neg (by decide)]
    exact fun hne => by cases hne

lemma unwrap_key (h : Ready uco f k black s) (hpresent : k.present = false) (haccepts : Accepts c f k black s.store.mem) :
  redBytes (fslShwEstablishKey c uco f k .unwrap (some black) s).2.2.store.scc
      (fslShwEstablishKey c uco f k .unwrap (some black) s).2.1.handle.toNat k.keyLength.toNat =
    xorStream (c.ctr (kekOf c (c.slotDecrypt k.userid (bytesAt s.store.mem (black.add T_PRIME_OFFSET) 16)) k.userid))
      (bytesAt s.store.mem (black.add KEY_PRIME_OFFSET) k.keyLength.toNat) := by
  obtain ⟨slot,hmac,s1,heq,hblack,huserid,hample,hmem,howns,hT⟩ := establish_unwrap (c := c) h
  obtain ⟨w',hw',hunwrap⟩ : ∃ w' : World, w'.Ample ∧ unwrapWith c f (k.inSlot slot) (k.forT f slot) black hmac s1 = _ :=
    unwrapWith_eq hample (show (k.forT f slot).established = true from rfl) h.apart.aligned hblack
  set s2 := icvStored c f (k.forT f slot) black hmac k.keyLength s1.store with hs2
  obtain ⟨w'',hw'',hkey⟩ : ∃ w'' : World, w''.Ample ∧ unwrapKey c f (k.inSlot slot) (k.forT f slot) black ⟨w',s2⟩ = _ :=
    unwrapKey_eq hw' rfl rfl
  -- the ICV that was stored is in a buffer of its own
  have howner : bytesAt s2.mem f.keyUserid 8 = ownerBytes k.userid := by
    rw [hs2,icvStored,bytesAt_storeBytes_other (.inl (Ne.symm huserid)),hmem]
    exact ownersMem_keyUserid h.apart.keyUserid_tUserid _
  have hcipher : bytesAt s2.mem (black.add KEY_PRIME_OFFSET) k.keyLength.toNat =
      bytesAt s.store.mem (black.add KEY_PRIME_OFFSET) k.keyLength.toNat := by
    have hl : KEY_PRIME_OFFSET.toNat + k.keyLength.toNat ≤ 34 + k.keyLength.toNat := Nat.le_refl _
    have hblock : (black.add KEY_PRIME_OFFSET).block ≠ hmac.block := Ne.symm hblack
    rw [hs2,icvStored,bytesAt_storeBytes_other (.inl hblock),hmem]
    exact bytesAt_ownersMem (h.apart.black_keyUserid.symm.part hl).symm (h.apart.black_tUserid.symm.part hl).symm _
  have hexec : execute c (unwrapDescs f (k.inSlot slot) (k.forT f slot) black) ⟨w'',s2⟩ = _ :=
    execute_ok c (by simp [unwrapDescs]) (unwrapDescs_even (forT_inSlot hpresent) rfl) _
  have hinSlot : (k.inSlot slot).InSlot := ⟨hpresent,rfl⟩
  have howns2 : s2.scc.Owns k.userid slot.toNat := howns
  set T := c.slotDecrypt k.userid (bytesAt s.store.mem (black.add T_PRIME_OFFSET) 16)
  have hT2 : redBytes s2.scc (k.inSlot slot).handle.toNat 16 = T := hT
  rw [run_unwrapDescs hinSlot (forT_inSlot hpresent) rfl rfl rfl howns2 h.length_le hT2 howner] at hexec
  have hicv := (icvIn_establish h.apart hmem howns hT).mpr haccepts
  rw [heq,hunwrap,show (k.inSlot slot).keyLength = k.keyLength from rfl,if_pos hicv,← hs2,hkey]
  simp only [hexec,settle,if_true]
  -- whole words are in the slot
  obtain ⟨hle,-,hwords⟩ := roundedKeyLength_bounds h.length_le
  set data := xorStream (c.ctr (kekOf c T k.userid))
    (bytesAt s2.mem (black.add KEY_PRIME_OFFSET) (roundedKeyLength k.keyLength).toNat) with hdata
  have hlen : data.length = (roundedKeyLength k.keyLength).toNat := by rw [hdata,length_xorStream,bytesAt_length]
  have hread : redBytes (putRed slot.toNat data (putRed slot.toNat (kekOf c T k.userid) s2.scc)) slot.toNat k.keyLength.toNat =
      data.take k.keyLength.toNat := redBytes_putRed (hlen ▸ hwords) (hlen ▸ hle)
  refine hread.trans ?_
  rw [hdata,xorStream_take,bytesAt_take _ _ hle,hcipher]

end

end Mx27.Shw
