/-
# The format of wrapped keys

What the chains of `wrap` and `unwrap` leave in memory and in the slots.
-/
import Mx27Drivers.Shw.Wrap

namespace Mx27.Shw

open List Function

open Sahara (Return)

def Clear (p : Ptr) (n : ℕ) (q : Ptr) (m : ℕ) : Prop :=
  p.block ≠ q.block ∨ p.offset + n ≤ q.offset ∨ q.offset + m ≤ p.offset

instance (p : Ptr) (n : ℕ) (q : Ptr) (m : ℕ) : Decidable (Clear p n q m) := inferInstanceAs (Decidable (_ ∨ _))

section
variable {p q : Ptr} {n m : ℕ}

lemma Clear.symm (h : Clear p n q m) : Clear q m p n := by
  rcases h with h | h | h
  · exact .inl (Ne.symm h)
  · exact .inr (.inr h)
  · exact .inr (.inl h)

lemma Clear.part {a : BitVec 32} {l : ℕ} (h : Clear p n q m) (hl : a.toNat + l ≤ m) : Clear p n (q.add a) l := by
  rcases h with h | h | h
  · exact .inl h
  · refine .inr (.inl ?_)
    show _ ≤ q.offset + a.toNat
    omega
  · refine .inr (.inr ?_)
    show q.offset + a.toNat + l ≤ _
    omega

end

lemma length_firstBytes (f : ℕ → Byte) (n : ℕ) : (firstBytes f n).length = n := by
  rw [firstBytes,length_map,length_range]

lemma firstBytes_take (f : ℕ → Byte) {n k : ℕ} (h : k ≤ n) : (firstBytes f n).take k = firstBytes f k := by
  rw [firstBytes,firstBytes,← map_take,take_range,Nat.min_eq_left h]

lemma length_xorStream (stream : ℕ → Byte) (data : List Byte) : (xorStream stream data).length = data.length := by
  rw [xorStream,length_mapIdx]

lemma xorStream_xorStream (stream : ℕ → Byte) (data : List Byte) : xorStream stream (xorStream stream data) = data := by
  refine ext_getElem (by rw [length_xorStream,length_xorStream]) fun i hi hi' => ?_
  simp only [xorStream,getElem_mapIdx,BitVec.xor_assoc,BitVec.xor_self,BitVec.xor_zero]

lemma xorStream_take (stream : ℕ → Byte) (data : List Byte) (n : ℕ) :
  (xorStream stream data).take n = xorStream stream (data.take n) := by
  refine ext_getElem ?_ fun i hi hi' => ?_
  · simp only [length_take,length_xorStream]
  · simp only [xorStream,getElem_take,getElem_mapIdx]

lemma length_ownerBytes (userid : BitVec 64) : (ownerBytes userid).length = 8 := rfl

lemma length_icvOf (c : Crypto) (T : List Byte) (owner : BitVec 64) (covered : List Byte) : (icvOf c T owner covered).length = 16 :=
  length_firstBytes _ _

section
variable {s : Store} {k : KeyInfo}

lemma toNat_keyLength (n : BitVec 16) : (n.setWidth 32).toNat = n.toNat := by
  rw [BitVec.toNat_setWidth]
  omega

structure Held (s : Scc.State) (k : KeyInfo) : Prop where
  owns : s.Owns k.userid k.handle.toNat
  length : k.keyLength.toNat ≤ 32

lemma Held.verify {scc : Scc.State} (h : Held scc k) :
  scc.Verify (slotLink k).ownerid (slotLink k).slot.toNat (slotLink k).len.toNat := by
  refine ⟨h.owns,?_⟩
  show (k.keyLength.setWidth 32).toNat ≤ Scc.SCC_KEY_SLOT_SIZE
  rw [toNat_keyLength]
  exact h.length

lemma Held.putRed {scc : Scc.State} (h : Held scc k) (slot : ℕ) (bytes : List Byte) : Held (putRed slot bytes scc) k :=
  ⟨h.owns, h.length⟩

lemma read_slotLink (h : Held s.scc k) : s.read [slotLink k] = redBytes s.scc k.handle.toNat k.keyLength.toNat := by
  rw [Store.read,flatMap_singleton,Store.readLink,if_pos (show (slotLink k).flags.storedKey = true from rfl),
    if_pos h.verify]
  show redBytes s.scc k.handle.toNat (k.keyLength.setWidth 32).toNat = _
  rw [toNat_keyLength]

lemma write_slotLink (h : Held s.scc k) {bytes : List Byte} :
  s.write [slotLink k] bytes = { s with scc := putRed k.handle.toNat (bytes.take k.keyLength.toNat) s.scc } := by
  rw [Store.write,Store.write,Store.writeLink,if_pos (show (slotLink k).flags.storedKey = true from rfl),if_pos h.verify]
  show { s with scc := Shw.putRed k.handle.toNat (bytes.take (k.keyLength.setWidth 32).toNat) s.scc } = _
  rw [toNat_keyLength]

lemma read_newLink (p : Ptr) (n : BitVec 32) : s.readLink (newLink p n usesFlags) = bytesAt s.mem p n.toNat := rfl

lemma outFlags_memory : outFlags.storedKey = false := rfl

lemma usesFlags_memory : usesFlags.storedKey = false := rfl

lemma write_newLink {flags : LinkFlags} (h : flags.storedKey = false) (p : Ptr) (n : BitVec 32) (bytes : List Byte) :
  s.write [newLink p n flags] bytes = { s with mem := storeBytes p (bytes.take n.toNat) s.mem } := by
  rw [Store.write,Store.write,Store.writeLink]
  exact if_neg fun hkey => Bool.false_ne_true (h.symm.trans hkey)

end

section
variable {c : Crypto} (e : Engine) (link1 link2 : List Link)

lemma run_generate : (descOf SAH_HDR_RNG_GENERATE link1 link2).run c e =
  { e with store := e.store.write link1 (firstBytes c.rng (linksLen link1).toNat) } := by
  have hop : operationOf SAH_HDR_RNG_GENERATE = some .generate := by decide
  simp only [Desc.run,descOf,hop]

lemma run_kek : (descOf kekHeader link1 link2).run c e =
  { e with store := e.store.write link2 (firstBytes (c.sha1 (e.store.read link1)) SHA1_DIGEST_LENGTH) } := by
  have hop : operationOf kekHeader = some .hash := by decide
  simp only [Desc.run,descOf,hop]

lemma run_ctr : (descOf ctrHeader link1 link2).run c e =
  { e with key := e.store.read link2, mode := skhaMode insertSkhaModeCtr } := by
  have hop : operationOf ctrHeader = some .setKey := by decide
  have hmode : skhaMode ctrHeader = skhaMode insertSkhaModeCtr := by decide
  simp only [Desc.run,descOf,hop,hmode]

lemma run_encDec (hmode : e.mode = skhaMode insertSkhaModeCtr) : (descOf SAH_HDR_SKHA_ENC_DEC link1 link2).run c e =
  { e with store := e.store.write link2 (xorStream (c.ctr e.key) (e.store.read link1)) } := by
  have hop : operationOf SAH_HDR_SKHA_ENC_DEC = some .encDec := by decide
  simp only [Desc.run,descOf,hop,hmode,if_true]

lemma run_icv : (descOf icvHeader link1 link2).run c e = { e with macKey := e.store.read link2 } := by
  have hop : operationOf icvHeader = some .setMacKey := by decide
  simp only [Desc.run,descOf,hop]

lemma run_mac : (descOf SAH_HDR_MDHA_HASH link1 link2).run c e =
  { e with store := e.store.write link2 (firstBytes (c.hmac e.macKey (e.store.read link1)) SHA1_DIGEST_LENGTH) } := by
  have hop : operationOf SAH_HDR_MDHA_HASH = some .mac := by decide
  simp only [Desc.run,descOf,hop]

end

/-! ### The chains -/

section
variable {c : Crypto} {f : Frame} {k t kek : KeyInfo} {black hmac : Ptr} {keyLength : BitVec 16}

lemma toNat_coveredLength (n : BitVec 16) : (LENGTH_LENGTH + ALGORITHM_LENGTH + n.setWidth 32).toNat = 2 + n.toNat := by
  have hn := n.isLt
  simp only [LENGTH_LENGTH,ALGORITHM_LENGTH,BitVec.toNat_add,toNat_keyLength,BitVec.toNat_ofNat]
  omega

def icvIn (c : Crypto) (f : Frame) (T : List Byte) (black : Ptr) (keyLength : BitVec 16) (m : Mem) : List Byte :=
  firstBytes (c.hmac T (bytesAt m f.tUserid 8 ++ bytesAt m (black.add LENGTH_OFFSET) (2 + keyLength.toNat))) 16

lemma run_icvDescs (e : Engine) (made1 made2 : Bool) :
  ((icvDescs f t black keyLength hmac made1 made2).foldl (fun e d => Desc.run c d e) e).store =
    if made1 ∧ made2 then 
      { e.store with mem := storeBytes hmac (icvIn c f (e.store.read [t.link]) black keyLength e.store.mem) e.store.mem }
    else e.store := by
  simp only [icvDescs,foldl_cons,foldl_nil,run_icv,icvDesc,run_mac]
  by_cases hmade : made1 = true ∧ made2 = true
  · obtain ⟨rfl,rfl⟩ := hmade
    have hmessage : e.store.read [newLink f.tUserid USERID_LENGTH usesFlags,
        newLink (black.add LENGTH_OFFSET) (LENGTH_LENGTH + ALGORITHM_LENGTH + keyLength.setWidth 32) usesFlags] =
          bytesAt e.store.mem f.tUserid 8 ++ bytesAt e.store.mem (black.add LENGTH_OFFSET) (2 + keyLength.toNat) := by
      rw [Store.read,flatMap_cons,flatMap_singleton,read_newLink,read_newLink,toNat_coveredLength]
      rfl
    simp only [if_true,and_self,write_newLink outFlags_memory,hmessage]
    rw [firstBytes_take _ (by decide)]
    rfl
  · rw [if_neg hmade,if_neg hmade]
    rfl

structure Loaded (f : Frame) (k t kek : KeyInfo) (black : Ptr) (s : Store) : Prop where
  key : Held s.scc k
  T : Held s.scc t
  KEK : Held s.scc kek
  T_length : t.keyLength = 16#16
  KEK_length : kek.keyLength = 16#16
  T_KEK : t.handle.toNat ≠ kek.handle.toNat
  T_key : t.handle.toNat ≠ k.handle.toNat
  KEK_key : kek.handle.toNat ≠ k.handle.toNat
  keyUserid : bytesAt s.mem f.keyUserid 8 = ownerBytes k.userid
  tUserid : bytesAt s.mem f.tUserid 8 = ownerBytes k.userid
  tUserid_clear : Clear f.tUserid 8 black (34 + k.keyLength.toNat)

lemma linksLen_slotLink (k : KeyInfo) : (linksLen [slotLink k]).toNat = k.keyLength.toNat := by
  rw [linksLen,foldl_cons,foldl_nil,BitVec.zero_add]
  exact toNat_keyLength k.keyLength

def keyPrime (c : Crypto) (k : KeyInfo) (s : Store) : List Byte :=
  xorStream (c.ctr (kekOf c (firstBytes c.rng 16) k.userid)) (redBytes s.scc k.handle.toNat k.keyLength.toNat)

lemma length_keyPrime (c : Crypto) (k : KeyInfo) (s : Store) : (keyPrime c k s).length = k.keyLength.toNat := by
  rw [keyPrime,length_xorStream,length_redBytes]

lemma keyPrime_covered (c : Crypto) (k : KeyInfo) (algorithm : KeyAlg) (s : Store) :
  [k.keyLength.setWidth 8, algorithm.byte] ++ keyPrime c k s =
    coveredPart c (firstBytes c.rng 16) k.userid algorithm (redBytes s.scc k.handle.toNat k.keyLength.toNat) := by
  rw [coveredPart,length_redBytes,BitVec.ofNat_toNat]
  rfl

def keyPrimeMem (c : Crypto) (k : KeyInfo) (black : Ptr) (s : Store) : Mem :=
  storeBytes (black.add KEY_PRIME_OFFSET) (keyPrime c k s) s.mem

lemma run_kekLinks {s : Store} {T : List Byte} {owner : BitVec 64} (ht : Held s.scc t) (hkek : Held s.scc kek)
  (htlen : t.keyLength.toNat = 16) (hkeklen : kek.keyLength.toNat = 16) (hT : redBytes s.scc t.handle.toNat 16 = T)
  (howner : bytesAt s.mem f.keyUserid 8 = ownerBytes owner) :
  (descOf kekHeader [slotLink t, newLink f.keyUserid USERID_LENGTH usesFlags] [slotLink kek]).run c ⟨s, [], 0#32, []⟩ =
    ⟨⟨s.mem, putRed kek.handle.toNat (kekOf c T owner) s.scc⟩, [], 0#32, []⟩ := by
  have hread : s.read [slotLink t,newLink f.keyUserid USERID_LENGTH usesFlags] = T ++ ownerBytes owner := by
    have hfirst : s.read [slotLink t] = T := by rw [read_slotLink ht,htlen,hT]
    rw [Store.read,flatMap_singleton] at hfirst
    rw [Store.read,flatMap_cons,flatMap_singleton,hfirst,read_newLink]
    exact congrArg _ howner
  rw [run_kek,hread,write_slotLink hkek,hkeklen,firstBytes_take _ (by decide)]
  rfl

lemma redBytes_putRed_self {scc : Scc.State} {i : ℕ} {bytes : List Byte} (h : bytes.length = 16) :
  redBytes (putRed i bytes scc) i 16 = bytes := by
  rw [redBytes_putRed (by rw [h]; decide) (by rw [h]),take_of_length_le (by rw [h])]

lemma run_wrapDescs {s : Store} (h : Loaded f k t kek black s) (hk : k.InSlot) (ht : t.InSlot) (hkek : kek.InSlot)
  (made1 made2 : Bool) :
  runChain c (wrapDescs f k t kek black made1 made2) s =
    ⟨if made1 ∧ made2 then
        storeBytes (black.add ICV_OFFSET) (firstBytes (c.hmac (firstBytes c.rng 16) (ownerBytes k.userid ++
          bytesAt (keyPrimeMem c k black s) (black.add LENGTH_OFFSET) (2 + k.keyLength.toNat))) 16) (keyPrimeMem c k black s)
      else keyPrimeMem c k black s,
      putRed kek.handle.toNat (kekOf c (firstBytes c.rng 16) k.userid) (putRed t.handle.toNat (firstBytes c.rng 16) s.scc)⟩ := by
  have h16 : (16#16 : BitVec 16).toNat = 16 := rfl
  have hT : t.keyLength.toNat = 16 := by rw [h.T_length,h16]
  have hKEK : kek.keyLength.toNat = 16 := by rw [h.KEK_length,h16]
  set T := firstBytes c.rng 16 with hTdef
  have hTlen : T.length = 16 := length_firstBytes _ _
  set scc1 := putRed t.handle.toNat T s.scc with hscc1
  set KEK := kekOf c T k.userid with hKEKdef
  have hKEKlen : KEK.length = 16 := length_firstBytes _ _
  set scc2 := putRed kek.handle.toNat KEK scc1 with hscc2
  have hreadT : redBytes scc1 t.handle.toNat 16 = T := redBytes_putRed_self hTlen
  have hreadT' : redBytes scc2 t.handle.toNat 16 = T := by
    rw [hscc2,redBytes_putRed_other h.T_KEK.symm (by rw [hKEKlen]; decide) (by decide),hreadT]
  have hreadKEK : redBytes scc2 kek.handle.toNat 16 = KEK := redBytes_putRed_self hKEKlen
  have hreadKey : redBytes scc2 k.handle.toNat k.keyLength.toNat = redBytes s.scc k.handle.toNat k.keyLength.toNat := by
    rw [hscc2,redBytes_putRed_other h.KEK_key (by rw [hKEKlen]; decide) h.key.length,hscc1,
      redBytes_putRed_other h.T_key (by rw [hTlen]; decide) h.key.length]
  -- the four descriptors before the ICV, one after the other
  have h1 : (descOf SAH_HDR_RNG_GENERATE [slotLink t] []).run c ⟨s,[],0#32,[]⟩ = ⟨⟨s.mem,scc1⟩,[],0#32,[]⟩ := by
    rw [run_generate,write_slotLink h.T,linksLen_slotLink,hT,take_of_length_le (by rw [length_firstBytes])]
  have h2 : (descOf kekHeader [slotLink t,newLink f.keyUserid USERID_LENGTH usesFlags] [slotLink kek]).run c
      ⟨⟨s.mem,scc1⟩,[],0#32,[]⟩ = ⟨⟨s.mem,scc2⟩,[],0#32,[]⟩ :=
    run_kekLinks (h.T.putRed _ _) (h.KEK.putRed _ _) hT hKEK hreadT h.keyUserid
  have h3 : (descOf ctrHeader [] [slotLink kek]).run c ⟨⟨s.mem,scc2⟩,[],0#32,[]⟩ =
      ⟨⟨s.mem,scc2⟩,KEK,skhaMode insertSkhaModeCtr,[]⟩ := by
    have hheld : Held (⟨s.mem,scc2⟩ : Store).scc kek := (h.KEK.putRed _ _).putRed _ _
    rw [run_ctr,read_slotLink hheld,hKEK]
    simp only [hreadKEK]
  have h4 : (descOf SAH_HDR_SKHA_ENC_DEC [slotLink k] [newLink (black.add KEY_PRIME_OFFSET) (k.keyLength.setWidth 32) outFlags]).run c
      ⟨⟨s.mem,scc2⟩,KEK,skhaMode insertSkhaModeCtr,[]⟩ =
        ⟨⟨keyPrimeMem c k black s,scc2⟩,KEK,skhaMode insertSkhaModeCtr,[]⟩ := by
    have hheld : Held (⟨s.mem,scc2⟩ : Store).scc k := (h.key.putRed _ _).putRed _ _
    rw [run_encDec _ _ _ rfl,read_slotLink hheld,write_newLink outFlags_memory,toNat_keyLength]
    simp only [hreadKey,keyPrimeMem,keyPrime]
    rw [take_of_length_le (by rw [length_xorStream,length_redBytes])]
  have hheldT : Held (⟨keyPrimeMem c k black s,scc2⟩ : Store).scc t := (h.T.putRed _ _).putRed _ _
  have howner : bytesAt (keyPrimeMem c k black s) f.tUserid 8 = ownerBytes k.userid := by
    have hclear : Clear f.tUserid 8 (black.add KEY_PRIME_OFFSET) (keyPrime c k s).length := by
      refine h.tUserid_clear.part ?_
      rw [length_keyPrime]
      exact Nat.le_refl _
    rw [keyPrimeMem,bytesAt_storeBytes_other hclear,h.tUserid]
  rw [runChain,wrapDescs,foldl_append]
  simp only [foldl_cons,foldl_nil,kekDesc,hk.link,ht.link,hkek.link,h1,h2,h3,h4]
  rw [run_icvDescs,ht.link,read_slotLink hheldT]
  simp only [icvIn,hT,hreadT',howner]
  split <;> rfl

lemma slotLink_even (ht : t.InSlot) (h : t.keyLength = 16#16) : ¬ t.link.Odd := by
  rw [ht.link]
  rintro (hlen | haddress)
  · rw [slotLink,h] at hlen
    exact hlen (show BitVec.setWidth 32 16#16 % 4#32 = 0#32 by decide)
  · exact haddress rfl

lemma icvDescs_even (haligned : f.tUserid.address % 4#32 = 0#32) (made1 made2 : Bool) :
  ∀ d ∈ icvDescs f t black keyLength hmac made1 made2, d.Even := by
  intro d hd
  simp only [icvDescs,mem_cons,not_mem_nil,or_false] at hd
  rcases hd with rfl | rfl
  · refine ⟨show icvHeader &&& SAH_HDR_LLO = 0#32 by decide,fun l hl => ?_,fun l hl => ?_⟩
    · cases hl
    · cases hl
  · refine ⟨show SAH_HDR_MDHA_HASH &&& SAH_HDR_LLO = 0#32 by decide,fun l hl => ?_,fun l hl => ?_⟩
    · cases made1 with
      | false => cases hl
      | true =>
        obtain rfl := mem_singleton.mp hl
        rintro (hlen | haddress)
        · exact hlen (show USERID_LENGTH % 4#32 = 0#32 by decide)
        · exact haddress haligned
    · rw [icvDesc,descOf] at hl
      by_cases hmade : made1 = true ∧ made2 = true
      · rw [if_pos hmade] at hl
        cases hl
      · rw [if_neg hmade] at hl
        cases hl

lemma kekDesc_even (ht : t.InSlot) (h : t.keyLength = 16#16) : (kekDesc f t kek).Even := by
  refine ⟨show kekHeader &&& SAH_HDR_LLO = 0#32 by decide,fun l hl => ?_,fun l hl => ?_⟩
  · obtain rfl := mem_singleton.mp hl
    exact slotLink_even ht h
  · cases hl

lemma descOf_even {header : BitVec 32} {link1 link2 : List Link} (hllo : header &&& SAH_HDR_LLO = 0#32)
  (h1 : link1.length ≤ 1) (h2 : link2.length ≤ 1) : (descOf header link1 link2).Even := by
  have hdrop : ∀ {links : List Link}, links.length ≤ 1 → links.dropLast = [] := fun h =>
    eq_nil_of_length_eq_zero (by rw [length_dropLast]; omega)
  refine ⟨hllo,fun l hl => ?_,fun l hl => ?_⟩
  · rw [descOf,hdrop h1] at hl
    cases hl
  · rw [descOf,hdrop h2] at hl
    cases hl

lemma wrapDescs_even (ht : t.InSlot) (h : t.keyLength = 16#16) (haligned : f.tUserid.address % 4#32 = 0#32) (made1 made2 : Bool) :
  ∀ d ∈ wrapDescs f k t kek black made1 made2, d.Even := by
  intro d hd
  rw [wrapDescs,mem_append] at hd
  rcases hd with hd | hd
  · simp only [mem_cons,not_mem_nil,or_false] at hd
    rcases hd with rfl | rfl | rfl | rfl
    · exact descOf_even rfl (Nat.le_refl 1) (Nat.zero_le 1)
    · exact kekDesc_even ht h
    · exact descOf_even rfl (Nat.zero_le 1) (Nat.le_refl 1)
    · exact descOf_even rfl (Nat.le_refl 1) (Nat.le_refl 1)
  · exact icvDescs_even haligned made1 made2 d hd

section
variable {s s' : Sys} {owner : BitVec 64} {n : ℕ} {slot : BitVec 32}

lemma slotAlloc_ok (h : doSccSlotAlloc n owner s = (.ok, slot, s')) :
  (s.store.scc.keyInfo slot.toNat).status = false ∧ s'.store.scc.Owns owner slot.toNat ∧
    (∀ i, i ≠ slot.toNat → s'.store.scc.keyInfo i = s.store.scc.keyInfo i) ∧ s'.store.scc.scm = s.store.scc.scm ∧
    s'.store.mem = s.store.mem ∧ s'.world = s.world := by
  unfold doSccSlotAlloc at h
  obtain ⟨hstatus,hrest⟩ := Prod.mk.inj h
  obtain ⟨hslot,rfl⟩ := Prod.mk.inj hrest
  have hok : (Scc.sccAllocSlot n owner s.store.scc).1.status = .ok := by
    by_contra hne
    rw [if_neg hne] at hstatus
    cases hstatus
  unfold Scc.sccAllocSlot at hok hslot ⊢
  split at hok
  · next hn =>
    rw [if_pos hn] at hslot
    cases hfind : (List.range Scc.SCC_KEY_SLOTS).find? fun i => !(s.store.scc.keyInfo i).status with
    | none => simp [hfind,Scc.Output.of] at hok
    | some i =>
      have hlt : i < Scc.SCC_KEY_SLOTS := mem_range.mp (mem_of_find?_eq_some hfind)
      have hfree := find?_some hfind
      have hi : slot.toNat = i := by
        rw [← hslot,hfind]
        simp only [Option.getD_some,BitVec.toNat_ofNat]
        rw [Scc.SCC_KEY_SLOTS] at hlt
        omega
      rw [hi]
      simp only [if_pos hn]
      refine ⟨by simpa using hfree,⟨hlt,?_,?_⟩,fun j hj => update_of_ne hj _ _,trivial,trivial,trivial⟩
      · simp only [update_self]
      · simp only [update_self]
  · simp [Scc.Output.of] at hok

lemma slotAlloc_length (h : doSccSlotAlloc n owner s = (.ok, slot, s')) : n ≠ 0 ∧ n ≤ 32 := by
  by_contra hne
  have hne' : ¬ (n ≠ 0 ∧ n ≤ Scc.SCC_MAX_KEY_SIZE) := hne
  unfold doSccSlotAlloc Scc.sccAllocSlot at h
  rw [if_neg hne'] at h
  cases (Prod.mk.inj h).1

lemma slotAlloc_free (hn : n ≠ 0 ∧ n ≤ 32) (hfree : ∃ i < Scc.SCC_KEY_SLOTS, (s.store.scc.keyInfo i).status = false) :
  ∃ slot s', doSccSlotAlloc n owner s = (.ok, slot, s') := by
  have hn' : n ≠ 0 ∧ n ≤ Scc.SCC_MAX_KEY_SIZE := hn
  have hstatus : (Scc.sccAllocSlot n owner s.store.scc).1.status = .ok := by
    rw [Scc.sccAllocSlot,if_pos hn']
    cases hfind : (List.range Scc.SCC_KEY_SLOTS).find? fun i => !(s.store.scc.keyInfo i).status with
    | some i => rfl
    | none =>
      obtain ⟨i,hi,hstatus⟩ := hfree
      rw [find?_eq_none] at hfind
      exact absurd (by simp [hstatus]) (hfind i (mem_range.mpr hi))
  refine ⟨_,_,Prod.ext ?_ rfl⟩
  show (if (Scc.sccAllocSlot n owner s.store.scc).1.status = .ok then Return.ok else .noResource) = .ok
  rw [if_pos hstatus]

lemma slotDealloc_mem (owner : BitVec 64) (slot : BitVec 32) (s : Sys) :
  (doSccSlotDealloc owner slot s).2.store.mem = s.store.mem := rfl

lemma freeSlots_mem (k t kek : KeyInfo) (s : Sys) : (freeSlots k t kek s).store.mem = s.store.mem := rfl

end

/-! ### The black key in memory -/

def storedIcv (made : Bool) (icv : List Byte) (m : Mem) (black : Ptr) : List Byte :=
  if made then icv else bytesAt m (black.add ICV_OFFSET) 16

def World.icvMade (w : World) : Bool := w.grants 14 && w.grants 15

section
variable (m : Mem)

lemma bytesAt_parts (black : Ptr) (n : ℕ) :
  bytesAt m black (34 + n) = bytesAt m (black.add ICV_OFFSET) 16 ++ (bytesAt m (black.add T_PRIME_OFFSET) 16 ++
    bytesAt m (black.add LENGTH_OFFSET) (2 + n)) := by
  have h0 : bytesAt m black 16 = bytesAt m (black.add ICV_OFFSET) 16 := rfl
  have h1 : bytesAt m black (34 + n) = bytesAt m black 16 ++ bytesAt m (black.add T_PRIME_OFFSET) (18 + n) := by
    have h := bytesAt_append m black T_PRIME_OFFSET (18 + n)
    rw [show T_PRIME_OFFSET.toNat + (18 + n) = 34 + n by rw [show T_PRIME_OFFSET.toNat = 16 from rfl]; omega] at h
    exact h
  have h2 : bytesAt m (black.add T_PRIME_OFFSET) (18 + n) =
      bytesAt m (black.add T_PRIME_OFFSET) 16 ++ bytesAt m (black.add LENGTH_OFFSET) (2 + n) := by
    have h := bytesAt_append m (black.add T_PRIME_OFFSET) T_PRIME_OFFSET (2 + n)
    rw [show T_PRIME_OFFSET.toNat + (2 + n) = 18 + n by rw [show T_PRIME_OFFSET.toNat = 16 from rfl]; omega] at h
    exact h
  rw [h1,h2,h0]

lemma bytesAt_covered (black : Ptr) (n : ℕ) :
  bytesAt m (black.add LENGTH_OFFSET) (2 + n) =
    bytesAt m (black.add LENGTH_OFFSET) 2 ++ bytesAt m (black.add KEY_PRIME_OFFSET) n := by
  have h := bytesAt_append m (black.add LENGTH_OFFSET) 2#32 n
  rw [show (2#32 : BitVec 32).toNat = 2 from rfl] at h
  exact h

end

lemma storeBytes_outside {m : Mem} {p : Ptr} {bytes : List Byte} {b : ℕ × Bool} {i : ℕ}
  (h : ¬ (b = p.block ∧ p.offset ≤ i ∧ i < p.offset + bytes.length)) : storeBytes p bytes m b i = m b i := if_neg h

section
variable (black : Ptr)

lemma icv_offset : (black.add ICV_OFFSET).offset = black.offset := rfl
lemma tPrime_offset : (black.add T_PRIME_OFFSET).offset = black.offset + 16 := rfl
lemma length_offset : (black.add LENGTH_OFFSET).offset = black.offset + 32 := rfl
lemma keyPrime_offset : (black.add KEY_PRIME_OFFSET).offset = black.offset + 34 := rfl

end

section
variable {m : Mem} {icv tPrime key : List Byte} {fields : List Byte}

def wrapMem (black : Ptr) (made : Bool) (icv tPrime key : List Byte) (m : Mem) : Mem :=
  storeBytes (black.add T_PRIME_OFFSET) tPrime
    (if made then storeBytes (black.add ICV_OFFSET) icv (storeBytes (black.add KEY_PRIME_OFFSET) key m)
    else storeBytes (black.add KEY_PRIME_OFFSET) key m)

lemma storeKey_covered (hfields : bytesAt m (black.add LENGTH_OFFSET) 2 = fields) :
  bytesAt (storeBytes (black.add KEY_PRIME_OFFSET) key m) (black.add LENGTH_OFFSET) (2 + key.length) = fields ++ key := by
  rw [bytesAt_covered,bytesAt_storeBytes rfl,bytesAt_storeBytes_other,hfields]
  exact .inr (.inl (by rw [length_offset,keyPrime_offset]))

lemma wrapMem_covered (made : Bool) (hicv : icv.length = 16) (htPrime : tPrime.length = 16)
  (hfields : bytesAt m (black.add LENGTH_OFFSET) 2 = fields) :
  bytesAt (wrapMem black made icv tPrime key m) (black.add LENGTH_OFFSET) (2 + key.length) = fields ++ key := by
  rw [wrapMem,bytesAt_storeBytes_other (.inr (.inr (by rw [tPrime_offset,length_offset,htPrime])))]
  cases made with
  | false => exact storeKey_covered hfields
  | true =>
    rw [if_pos rfl,bytesAt_storeBytes_other (.inr (.inr (by rw [icv_offset,length_offset,hicv]; omega)))]
    exact storeKey_covered hfields

lemma wrapMem_tPrime (made : Bool) (htPrime : tPrime.length = 16) :
  bytesAt (wrapMem black made icv tPrime key m) (black.add T_PRIME_OFFSET) 16 = tPrime := bytesAt_storeBytes htPrime.symm

lemma wrapMem_icv (made : Bool) (hicv : icv.length = 16) :
  bytesAt (wrapMem black made icv tPrime key m) (black.add ICV_OFFSET) 16 = storedIcv made icv m black := by
  rw [wrapMem,bytesAt_storeBytes_other (.inr (.inl (by rw [tPrime_offset,icv_offset])))]
  cases made with
  | false =>
    rw [if_neg (by decide),bytesAt_storeBytes_other (.inr (.inl (by rw [keyPrime_offset,icv_offset]; omega)))]
    rfl
  | true =>
    rw [if_pos rfl,bytesAt_storeBytes hicv.symm]
    rfl

lemma bytesAt_wrapMem {n : ℕ} (made : Bool) (hicv : icv.length = 16) (htPrime : tPrime.length = 16) (hkey : key.length = n)
  (hfields : bytesAt m (black.add LENGTH_OFFSET) 2 = fields) :
  bytesAt (wrapMem black made icv tPrime key m) black (34 + n) =
    storedIcv made icv m black ++ (tPrime ++ (fields ++ key)) := by
  subst hkey
  rw [bytesAt_parts,wrapMem_icv made hicv,wrapMem_tPrime made htPrime,wrapMem_covered made hicv htPrime hfields]

lemma wrapMem_outside (made : Bool) (hicv : icv.length = 16) (htPrime : tPrime.length = 16) {b : ℕ × Bool} {i : ℕ}
  (h : ¬ (b = black.block ∧ black.offset ≤ i ∧ i < black.offset + (34 + key.length))) :
  wrapMem black made icv tPrime key m b i = m b i := by
  have hkey : storeBytes (black.add KEY_PRIME_OFFSET) key m b i = m b i := by
    refine storeBytes_outside fun hin => h ⟨hin.1,?_,?_⟩
    · have := hin.2.1
      rw [keyPrime_offset] at this
      omega
    · have := hin.2.2
      rw [keyPrime_offset] at this
      omega
  rw [wrapMem,storeBytes_outside]
  · cases made with
    | false => exact hkey
    | true =>
      rw [if_pos rfl,storeBytes_outside,hkey]
      rintro ⟨hb,hlow,hhigh⟩
      rw [icv_offset] at hlow hhigh
      exact h ⟨hb,hlow,by omega⟩
  · rintro ⟨hb,hlow,hhigh⟩
    rw [tPrime_offset] at hlow hhigh
    exact h ⟨hb,by omega,by omega⟩

end

lemma wrapWith_run {s s' : Sys} (hwrap : wrapWith c f k t kek black s = (.ok, s')) :
  ∃ chain w w', sahReworkLinks (wrapDescs f k t kek black (s.world.grants 14) (s.world.grants 15)) w = (.ok, chain, w') ∧
    s'.store.mem = storeBytes (black.add T_PRIME_OFFSET)
      (c.slotEncrypt t.userid (redBytes (runChain c chain s.store).scc t.handle.toNat 16)) (runChain c chain s.store).mem := by
  unfold wrapWith at hwrap
  split at hwrap
  · next r w hchain => exact absurd (Prod.mk.inj hwrap).1 (wrapChain_honest _ _ _ hchain)
  · next chain w hchain =>
    obtain rfl := wrapChain_ok hchain
    simp only at hwrap
    split at hwrap
    · next hexec =>
      obtain ⟨chain,w',hrework,heq⟩ := execute_run hexec
      refine ⟨chain,w,w',hrework,?_⟩
      rw [heq] at hwrap
      unfold doSccSlotEncrypt at hwrap
      split at hwrap
      · cases hwrap
        exact freeSlots_mem _ _ _ _
      · cases (Prod.mk.inj hwrap).1
    · next hexec => exact absurd (Prod.mk.inj hwrap).1 hexec

lemma wrapWith_ok {s s' : Sys} {algorithm : KeyAlg} (h : Loaded f k t kek black s.store) (hk : k.InSlot) (ht : t.InSlot)
  (hkek : kek.InSlot) (htUser : t.userid = k.userid) (haligned : f.tUserid.address % 4#32 = 0#32)
  (hfields : bytesAt s.store.mem (black.add LENGTH_OFFSET) 2 = [k.keyLength.setWidth 8, algorithm.byte])
  (hwrap : wrapWith c f k t kek black s = (.ok, s')) :
  s'.store.mem = wrapMem black s.world.icvMade
    (icvOf c (firstBytes c.rng 16) k.userid
      (coveredPart c (firstBytes c.rng 16) k.userid algorithm (redBytes s.store.scc k.handle.toNat k.keyLength.toNat)))
    (c.slotEncrypt k.userid (firstBytes c.rng 16)) (keyPrime c k s.store) s.store.mem := by
  have hcovered : bytesAt (storeBytes (black.add KEY_PRIME_OFFSET) (keyPrime c k s.store) s.store.mem) (black.add LENGTH_OFFSET)
      (2 + (keyPrime c k s.store).length) = _ := storeKey_covered hfields
  rw [length_keyPrime,keyPrime_covered] at hcovered
  obtain ⟨chain,w,w',hrework,hmem⟩ := wrapWith_run hwrap
  rw [reworkLinks_same (wrapDescs_even ht h.T_length haligned _ _)] at hrework
  cases hrework
  rw [run_wrapDescs h hk ht hkek] at hmem
  simp only [keyPrimeMem,hcovered] at hmem
  -- `T` is still in its slot
  have hreadT : redBytes (putRed kek.handle.toNat (kekOf c (firstBytes c.rng 16) k.userid)
      (putRed t.handle.toNat (firstBytes c.rng 16) s.store.scc)) t.handle.toNat 16 = firstBytes c.rng 16 := by
    have hlen := length_firstBytes c.rng 16
    rw [redBytes_putRed_other h.T_KEK.symm (by rw [kekOf,length_firstBytes]; decide) (by decide),
      redBytes_putRed_self hlen]
  rw [hmem,hreadT,htUser,wrapMem,World.icvMade]
  cases s.world.grants 14 <;> cases s.world.grants 15 <;> rfl

end

end Mx27.Shw
