/-
# Wrapping and unwrapping a key

The two laws of wrapped keys.
-/
import Mx27Drivers.Shw.Unwrap

namespace Mx27.Shw

open List BitVec

open Sahara (Return)

section
variable {c : Crypto} {m : Mem} {black : Ptr} {T key : List Byte} {owner : BitVec 64} {algorithm : KeyAlg} {n : ℕ}

lemma length_coveredPart : (coveredPart c T owner algorithm key).length = 2 + key.length := by
  rw [coveredPart,length_cons,length_cons,length_xorStream]
  omega

lemma blackKey_parts (hT : T.length = 16)
  (h : bytesAt m black (34 + n) = blackKey c T owner algorithm key) :
  bytesAt m (black.add ICV_OFFSET) 16 = icvOf c T owner (coveredPart c T owner algorithm key) ∧
    bytesAt m (black.add T_PRIME_OFFSET) 16 = c.slotEncrypt owner T ∧
    bytesAt m (black.add LENGTH_OFFSET) (2 + n) = coveredPart c T owner algorithm key ∧
    bytesAt m (black.add KEY_PRIME_OFFSET) n = xorStream (c.ctr (kekOf c T owner)) key := by
  rw [bytesAt_parts,blackKey] at h
  obtain ⟨hicv,hrest⟩ := append_inj h (by rw [bytesAt_length,length_icvOf])
  obtain ⟨htPrime,hcovered⟩ := append_inj hrest (by rw [bytesAt_length,c.slotEncrypt_length,hT])
  refine ⟨hicv,htPrime,hcovered,?_⟩
  rw [bytesAt_covered] at hcovered
  have hsplit : coveredPart c T owner algorithm key =
      [BitVec.ofNat 8 key.length,algorithm.byte] ++ xorStream (c.ctr (kekOf c T owner)) key := rfl
  rw [hsplit] at hcovered
  exact (append_inj hcovered (by rw [bytesAt_length]; rfl)).2

end

/-! ### The round trip -/

section
variable {c : Crypto} {uco : Uco} {f : Frame} {k k' : Sko} {black : Ptr} {s : Sys}

def HasFree (scc : Scc.State) : Prop := ∃ i < Scc.SCC_KEY_SLOTS, (scc.keyInfo i).status = false

def Restores (c : Crypto) (uco : Uco) (k' : Sko) (bytes key : List Byte) : Prop :=
  ∀ (f : Frame) (black : Ptr) (s : Sys), bytesAt s.store.mem black bytes.length = bytes →
    f.Apart black k'.keyLength.toNat s.world → s.world.Ample → HasFree s.store.scc →
      (fslShwEstablishKey c uco f k' .unwrap (some black) s).1 = .ok ∧
        redBytes (fslShwEstablishKey c uco f k' .unwrap (some black) s).2.2.store.scc
          (fslShwEstablishKey c uco f k' .unwrap (some black) s).2.1.handle.toNat k'.keyLength.toNat = key

def Sko.value (k : Sko) (s : Sys) : List Byte := redBytes s.store.scc k.handle.toNat k.keyLength.toNat

def extracted (c : Crypto) (uco : Uco) (f : Frame) (k : Sko) (black : Ptr) (s : Sys) : List Byte :=
  bytesAt (fslShwExtractKey c uco f k black s).2.2.store.mem black (34 + k.keyLength.toNat)

def RoundTrip (c : Crypto) (uco : Uco) (f : Frame) (k k' : Sko) (black : Ptr) (s : Sys) : Prop :=
  (fslShwExtractKey c uco f k black s).1 = .ok →
    Restores c uco k' (extracted c uco f k black s) (k.value s) ∧
      (∃ T, extracted c uco f k black s = blackKey c T k.userid k.algorithm (k.value s)) ∧
      ∀ b i, ¬ f.Covers black k.keyLength.toNat b i →
        (fslShwExtractKey c uco f k black s).2.2.store.mem b i = s.store.mem b i

lemma accepts_of_blackKey {m : Mem} {T key : List Byte} {algorithm : KeyAlg} (hT : T.length = 16)
  (hmac : macKey c f k' black m = T)
  (hbytes : bytesAt m black (34 + k'.keyLength.toNat) = blackKey c T k'.userid algorithm key) : Accepts c f k' black m := by
  obtain ⟨hicv,-,hcovered,-⟩ := blackKey_parts hT hbytes
  rw [Accepts,hmac,hicv,hcovered]

lemma restores_blackKey {T key : List Byte} {algorithm : KeyAlg} (hvalid : sahValidateUco uco = .ok)
  (hblocking : uco.blockingMode = true) (hpresent : k'.present = false) (hT : T.length = 16)
  (hkey : key.length = k'.keyLength.toNat) (hpos : 1 ≤ k'.keyLength.toNat) (hle : k'.keyLength.toNat ≤ 32) :
  Restores c uco k' (blackKey c T k'.userid algorithm key) key := by
  intro f black s hbytes hapart hample hfree
  have hlen : (blackKey c T k'.userid algorithm key).length = 34 + k'.keyLength.toNat := by
    rw [blackKey,length_append,length_append,length_icvOf,c.slotEncrypt_length,hT,length_coveredPart,hkey]
    omega
  rw [hlen] at hbytes
  obtain ⟨-,htPrime,-,hcipher⟩ := blackKey_parts hT hbytes
  have hready : Ready uco f k' black s := ⟨hvalid,hblocking,hpos,hle,hapart,hample,hfree⟩
  have hmac : macKey c f k' black s.store.mem = T := by
    rw [macKey,hpresent,if_neg (by decide),htPrime,c.slotDecrypt_slotEncrypt]
  have haccepts := accepts_of_blackKey hT hmac hbytes
  refine ⟨(unwrap_accepts hready).mpr haccepts,?_⟩
  rw [unwrap_key hready hpresent haccepts,htPrime,c.slotDecrypt_slotEncrypt,hcipher,xorStream_xorStream]

lemma extract_valid (hok : (fslShwExtractKey c uco f k black s).1 = .ok) : sahValidateUco uco = .ok := by
  by_contra hne
  rw [fslShwExtractKey,if_neg hne] at hok
  exact hne hok

lemma extract_blackKey (hblocking : uco.blockingMode = true) (hk : k.InSlot)
  (howns : s.store.scc.Owns k.userid k.handle.toNat) (hlen : k.keyLength.toNat ≤ 32)
  (hapart : f.Apart black k.keyLength.toNat s.world) (hmade : s.world.icvMade = true)
  (hok : (fslShwExtractKey c uco f k black s).1 = .ok) :
  extracted c uco f k black s = blackKey c (firstBytes c.rng 16) k.userid k.algorithm (k.value s) := by
  have htPrime : (c.slotEncrypt k.userid (firstBytes c.rng 16)).length = 16 := by rw [c.slotEncrypt_length,length_firstBytes]
  rw [extracted,extract_parts hblocking hk howns hlen hapart hok,
    bytesAt_wrapMem _ (length_icvOf _ _ _ _) htPrime (length_keyPrime _ _ _) (prepared_fields hapart),keyPrime_covered,hmade]
  rfl

/-! ### What breaks it -/

lemma establish_blocking {key : Option Ptr} (h : (fslShwEstablishKey c uco f k .unwrap key s).1 = .ok) :
  uco.blockingMode = true := by
  by_contra hne
  have hfalse : uco.blockingMode = false := Bool.not_eq_true _ ▸ hne
  unfold fslShwEstablishKey at h
  split at h
  · simp only [establishAs,hfalse,if_true] at h
    split at h
    · rw [if_neg (by decide)] at h
      cases h
    · next halloc => exact halloc h
  · next hvalid => exact hvalid h

def plainCrypto (b x y : Byte) : Crypto where
  rng _ := b
  sha1 _ _ := 0
  hmac key _ _ := if key = List.replicate 16 b then x else y
  ctr _ _ := 0
  slotEncrypt _ data := data
  slotDecrypt _ data := data
  slotEncrypt_length _ _ := rfl
  slotDecrypt_length _ _ := rfl
  slotDecrypt_slotEncrypt _ _ := rfl

lemma firstBytes_const (v : Byte) (n : ℕ) : firstBytes (fun _ => v) n = List.replicate n v := by
  rw [firstBytes,map_const',length_range]

lemma icvOf_plain (b x y : Byte) (T : List Byte) (owner : BitVec 64) (covered : List Byte) :
  icvOf (plainCrypto b x y) T owner covered = List.replicate 16 (if T = List.replicate 16 b then x else y) := firstBytes_const _ _

def later (f : Frame) (M : List Byte) (m : Mem) (s : Sys) : Sys :=
  ⟨{ s.world with supply := [] }, ⟨storeBytes f.tKey M m, ⟨fun _ => ⟨0, 0, false⟩, s.store.scc.scm⟩⟩⟩

section
variable {M : List Byte} {m : Mem} {n : ℕ}

lemma later_ample : (later f M m s).world.Ample := fun granted hg => by cases hg

lemma later_free : HasFree (later f M m s).store.scc := ⟨0, by decide, rfl⟩

lemma later_apart (h : f.Apart black n s.world) : f.Apart black n (later f M m s).world :=
  { h with black_old := h.black_old, keyUserid_old := h.keyUserid_old }

lemma bytesAt_later {a : BitVec 32} {l : ℕ} (h : f.Apart black n s.world) (hM : M.length = 16) (hl : a.toNat + l ≤ 34 + n) :
  bytesAt (later f M m s).store.mem (black.add a) l = bytesAt m (black.add a) l := by
  have hclear : Clear f.tKey M.length (black.add a) l := ((h.black_tKey.take (by rw [hM]; decide)).symm).part hl
  exact bytesAt_storeBytes_other hclear.symm

lemma later_tKey (hM : M.length = 16) : bytesAt (later f M m s).store.mem f.tKey 16 = M := bytesAt_storeBytes hM.symm

end

lemma roundTrip_tag {M : List Byte} (hM : M.length = 16) (hestablished : k.established = true)
  (howns : s.store.scc.Owns k.userid k.handle.toNat) (hpos : 1 ≤ k.keyLength.toNat) (hle : k.keyLength.toNat ≤ 32)
  (hapart : f.Apart black k.keyLength.toNat s.world) (hsame : k'.keyLength = k.keyLength)
  (hok : (fslShwExtractKey c uco f k black s).1 = .ok) (h : RoundTrip c uco f k k' black s) :
  uco.blockingMode = true ∧ ∃ message covered,
    storedIcv s.world.icvMade (firstBytes (c.hmac (firstBytes c.rng 16) message) 16) s.store.mem black =
      icvOf c (if k'.present then M else c.slotDecrypt k'.userid (c.slotEncrypt k.userid
        (if k.present then redBytes s.store.scc (freshSlot k.userid s.store.scc) 16 else firstBytes c.rng 16))) k'.userid covered := by
  have hlenEq : k'.keyLength.toNat = k.keyLength.toNat := by rw [hsame]
  set m := (fslShwExtractKey c uco f k black s).2.2.store.mem with hm
  obtain ⟨hrestores,-,-⟩ := h hok
  have hbytes : bytesAt (later f M m s).store.mem black (extracted c uco f k black s).length = extracted c uco f k black s := by
    rw [extracted,bytesAt_length]
    exact bytesAt_later (a := 0#32) hapart hM (by show 0 + _ ≤ _; omega)
  have hapart' : f.Apart black k'.keyLength.toNat (later f M m s).world := hlenEq ▸ later_apart hapart
  obtain ⟨hest,-⟩ := hrestores f black _ hbytes hapart' later_ample later_free
  have hblocking := establish_blocking hest
  have hready : Ready uco f k' black (later f M m s) :=
    ⟨extract_valid hok,hblocking,hlenEq ▸ hpos,hlenEq ▸ hle,hapart',later_ample,later_free⟩
  have haccepts := (unwrap_accepts hready).mp hest
  obtain ⟨T,message,hicv,htPrime,rfl⟩ := extract_written hblocking hestablished howns hle hapart hok
  rw [Accepts,bytesAt_later hapart hM (show 0 + 16 ≤ _ by omega),hicv,macKey,later_tKey hM,
    bytesAt_later hapart hM (show 16 + 16 ≤ _ by omega),htPrime] at haccepts
  exact ⟨hblocking,message,_,haccepts⟩

lemma roundTrip_needs (hestablished : k.established = true) (howns : s.store.scc.Owns k.userid k.handle.toNat)
  (hpos : 1 ≤ k.keyLength.toNat) (hle : k.keyLength.toNat ≤ 32) (hapart : f.Apart black k.keyLength.toNat s.world)
  (hsame : k'.keyLength = k.keyLength) (hok : (fslShwExtractKey c uco f k black s).1 = .ok)
  (h : ∀ c, RoundTrip c uco f k k' black s) :
  uco.blockingMode = true ∧ k.present = false ∧ k'.present = false ∧ s.world.icvMade = true := by
  have hne : ∀ v : Byte, v ≠ v + 1 ∧ v ≠ v + 2 ∧ v + 1 ≠ v + 2 := by decide
  -- bytes that are not in the slot, and not in place of the ICV
  set G := redBytes s.store.scc (freshSlot k.userid s.store.scc) 16
  set b : Byte := G.headD 0 + 1 with hb
  set o : Byte := s.store.mem black.block black.offset with ho
  set c1 := plainCrypto b (o + 1) (o + 2)
  have hrng : firstBytes c1.rng 16 = List.replicate 16 b := firstBytes_const b 16
  have hGb : G ≠ List.replicate 16 b := by
    intro heq
    have hhead : G.headD 0 = b := by
      rw [heq]
      rfl
    exact (hne (G.headD 0)).1 hhead
  have hMb : List.replicate 16 (b + 1) ≠ List.replicate 16 b := by
    intro heq
    have hhead : b + 1 = b := congrArg (fun l => l.headD 0) heq
    exact (hne b).1 hhead.symm
  obtain ⟨hblocking,message,covered,htag⟩ := roundTrip_tag (M := List.replicate 16 (b + 1)) length_replicate hestablished
    howns hpos hle hapart hsame ((extract_status c1 c uco f k black s).trans hok) (h c1)
  refine ⟨hblocking,?_⟩
  rw [icvOf_plain] at htag
  set K := if k'.present then List.replicate 16 (b + 1) else c1.slotDecrypt k'.userid (c1.slotEncrypt k.userid
    (if k.present then G else firstBytes c1.rng 16)) with hK
  have hhead := congrArg (fun l => l.headD 0) htag
  obtain ⟨ho1,ho2,ho12⟩ := hne o
  cases hmade : s.world.icvMade with
  | false =>
    -- the bytes that were there before are not an ICV
    rw [hmade] at hhead
    have hold : o = if K = List.replicate 16 b then o + 1 else o + 2 := hhead
    split at hold
    · exact absurd hold ho1
    · exact absurd hold ho2
  | true =>
    rw [hmade] at hhead
    have hfirst : c1.hmac (firstBytes c1.rng 16) message 0 = o + 1 := if_pos hrng
    have hnew : o + 1 = if K = List.replicate 16 b then o + 1 else o + 2 := hfirst.symm.trans hhead
    have hmac : K = List.replicate 16 b := by
      by_contra hmac
      rw [if_neg hmac] at hnew
      exact ho12 hnew
    cases hpresent' : k'.present with
    | true =>
      rw [hK,hpresent',if_pos rfl] at hmac
      exact absurd hmac hMb
    | false =>
      rw [hK,hpresent',if_neg (by decide)] at hmac
      have hT : (if k.present then G else firstBytes c1.rng 16) = List.replicate 16 b := hmac
      cases hpresent : k.present with
      | true =>
        rw [hpresent,if_pos rfl] at hT
        exact absurd hT hGb
      | false => exact ⟨rfl,rfl,rfl⟩

def boxUco : Uco := ⟨0, true, false, true, 1#32, false⟩

def boxFrame : Frame :=
  { keyUserid := ⟨1, 8, 0x1008#32, false⟩
    tUserid := ⟨2, 8, 0x2008#32, false⟩
    tKey := ⟨2, 22, 0x2016#32, false⟩
    kekKey := ⟨3, 22, 0x3016#32, false⟩ }

def boxKey : Sko :=
  { keyLength := 5#16, present := false, established := true, key := ⟨1, 22, 0x1016#32, false⟩, handle := 0#32, userid := 7#64,
    algorithm := .aes }

def boxPlace : Ptr := ⟨4, 0, 0x4000#32, false⟩

def boxSys (supply : List Bool) : Sys :=
  ⟨⟨supply, [], 5, fun _ => 0x5000#32⟩, ⟨fun _ _ => 0,
    ⟨fun i => if i = 0 then ⟨7#64, 5, true⟩ else ⟨0#64, 0, false⟩, ⟨fun _ => 0x04030201#32, fun _ => 0#32, (0, 0), 0, 0⟩⟩⟩⟩

lemma boxFrame_apart (supply : List Bool) : boxFrame.Apart boxPlace 5 (boxSys supply).world where
  black_keyUserid := by decide
  black_tUserid := by decide
  black_tKey := by decide
  black_kekKey := by decide
  keyUserid_tUserid := by decide
  keyUserid_tKey := by decide
  keyUserid_kekKey := by decide
  tUserid_tKey := by decide
  tUserid_kekKey := by decide
  tKey_kekKey := by decide
  aligned := by decide
  black_old := show 4 < 5 by decide
  keyUserid_old := show 1 < 5 by decide

lemma boxSys_owns (supply : List Bool) : (boxSys supply).store.scc.Owns boxKey.userid boxKey.handle.toNat :=
  ⟨show 0 < 20 by decide, rfl, rfl⟩

/-- **The round trip** of key wrapping, for all random bytes, hashes and ciphers. -/
theorem keyWrap_iff (hestablished : k.established = true) (howns : s.store.scc.Owns k.userid k.handle.toNat)
  (hpos : 1 ≤ k.keyLength.toNat) (hle : k.keyLength.toNat ≤ 32) (hapart : f.Apart black k.keyLength.toNat s.world)
  (hsame : k'.userid = k.userid ∧ k'.algorithm = k.algorithm ∧ k'.keyLength = k.keyLength)
  (hok : (fslShwExtractKey c uco f k black s).1 = .ok) :
  (∀ c, RoundTrip c uco f k k' black s) ↔
    uco.blockingMode = true ∧ k.present = false ∧ k'.present = false ∧
      s.world.grants 14 = true ∧ s.world.grants 15 = true := by
  have hmade : s.world.icvMade = true ↔ s.world.grants 14 = true ∧ s.world.grants 15 = true := Bool.and_eq_true_iff
  rw [← hmade]
  refine ⟨roundTrip_needs hestablished howns hpos hle hapart hsame.2.2 hok,?_⟩
  rintro ⟨hblocking,hpresent,hpresent',hicv⟩ c' hok'
  have hbytes := extract_blackKey hblocking ⟨hpresent,hestablished⟩ howns hle hapart hicv hok'
  have hlen : (k.value s).length = k'.keyLength.toNat := by rw [hsame.2.2,Sko.value,length_redBytes]
  refine ⟨?_,⟨_,hbytes⟩,fun b i hout => extract_outside hblocking ⟨hpresent,hestablished⟩ howns hle hapart hok' hout⟩
  rw [hbytes,← hsame.1]
  exact restores_blackKey (extract_valid hok') hblocking hpresent' (length_firstBytes _ _) hlen (hsame.2.2 ▸ hpos) (hsame.2.2 ▸ hle)

theorem keyWrap_sample : boxUco.blockingMode = true ∧
  ∀ c, RoundTrip c boxUco boxFrame boxKey boxKey boxPlace (boxSys []) := by
  have hok : (fslShwExtractKey (plainCrypto 0 0 0) boxUco boxFrame boxKey boxPlace (boxSys [])).1 = .ok := by decide +kernel
  refine ⟨rfl,(keyWrap_iff rfl (boxSys_owns []) (by decide) (by decide) (boxFrame_apart []) ⟨rfl,rfl,rfl⟩ hok).mpr ?_⟩
  exact ⟨rfl,rfl,rfl,rfl,rfl⟩

/-- **The fifteenth allocation fails**: the extraction succeeds. -/
theorem icvLink_missing :
  (∀ c, (fslShwExtractKey c boxUco boxFrame boxKey boxPlace
    (boxSys (List.replicate 14 true ++ [false]))).1 = .ok) ∧
    ¬ ∀ c, RoundTrip c boxUco boxFrame boxKey boxKey boxPlace (boxSys (List.replicate 14 true ++ [false])) := by
  have hok : (fslShwExtractKey (plainCrypto 0 0 0) boxUco boxFrame boxKey boxPlace
      (boxSys (List.replicate 14 true ++ [false]))).1 = .ok := by decide +kernel
  refine ⟨fun c => (extract_status c _ _ _ _ _ _).trans hok,fun h => ?_⟩
  have hmade := (roundTrip_needs rfl (boxSys_owns _) (by decide) (by decide) (boxFrame_apart _) rfl hok h).2.2.2
  exact absurd hmade (by decide)

end

/-! ### The binding -/

section
variable {c : Crypto} {uco : Uco} {f : Frame} {k k' : Sko} {black : Ptr} {s : Sys}

def Unforgeable (c : Crypto) (T : List Byte) (owner : BitVec 64) (covered : List Byte) : Prop :=
  ∀ T' message, firstBytes (c.hmac T' message) 16 = icvOf c T owner covered → T' = T ∧ message = ownerBytes owner ++ covered

def Binds (c : Crypto) (k' : Sko) (bytes : List Byte) (keyLength : BitVec 16) (algorithm : KeyAlg) : Prop :=
  ∀ (uco : Uco) (f : Frame) (black : Ptr) (s : Sys), bytesAt s.store.mem black bytes.length = bytes →
    f.Apart black k'.keyLength.toNat s.world → s.world.Ample →
      (fslShwEstablishKey c uco f k' .unwrap (some black) s).1 = .ok → k'.keyLength = keyLength ∧ k'.algorithm = algorithm

lemma ready_of_ok (hapart : f.Apart black k.keyLength.toNat s.world) (hample : s.world.Ample)
  (h : (fslShwEstablishKey c uco f k .unwrap (some black) s).1 = .ok) : Ready uco f k black s := by
  have hblocking := establish_blocking h
  have hvalid : sahValidateUco uco = .ok := by
    by_contra hne
    rw [fslShwEstablishKey,if_neg hne] at h
    exact hne h
  obtain ⟨slot,s1,halloc⟩ : ∃ slot s1, doSccSlotAlloc k.keyLength.toNat k.userid (s.poke f.keyUserid (ownerBytes k.userid)) =
      (.ok, slot, s1) := by
    refine ⟨_,_,Prod.ext ?_ rfl⟩
    by_contra hne
    rw [fslShwEstablishKey,if_pos hvalid] at h
    simp only [if_neg hne] at h
    exact hne h
  obtain ⟨hfree,howns,-⟩ := slotAlloc_ok halloc
  obtain ⟨hpos,hle⟩ := slotAlloc_length halloc
  exact ⟨hvalid,hblocking,Nat.one_le_iff_ne_zero.mpr hpos,hle,hapart,hample,⟨slot.toNat,howns.1,hfree⟩⟩

lemma ownerBytes_injective {a b : BitVec 64} (h : ownerBytes a = ownerBytes b) : a = b := by
  rw [ownerBytes,ownerBytes,map_eq_map_iff] at h
  refine eq_of_getLsbD_eq fun j hj => ?_
  have hbyte := congrArg (fun v : Byte => v.getLsbD (j % 8)) (h (j / 8) (mem_range.mpr (by omega)))
  simp only [getLsbD_setWidth,getLsbD_ushiftRight] at hbyte
  rw [show 8 * (j / 8) + j % 8 = j by omega] at hbyte
  simpa [show j % 8 < 8 by omega] using hbyte

lemma accepts_blackKey {T key : List Byte} {algorithm : KeyAlg} (hT : T.length = 16)
  (hbytes : bytesAt s.store.mem black (34 + key.length) = blackKey c T k.userid algorithm key)
  (hunique : Unforgeable c T k.userid (coveredPart c T k.userid algorithm key)) (haccepts : Accepts c f k' black s.store.mem) :
  k'.userid = k.userid ∧ k'.keyLength.toNat = key.length := by
  obtain ⟨hicv,-,-,-⟩ := blackKey_parts hT hbytes
  obtain ⟨-,hmessage⟩ := hunique _ _ (haccepts.symm.trans hicv)
  obtain ⟨howner,hcovered⟩ := append_inj hmessage rfl
  refine ⟨ownerBytes_injective howner,?_⟩
  have hlen := congrArg List.length hcovered
  rw [bytesAt_length,length_coveredPart] at hlen
  omega

lemma binds_algorithm (hblocking : uco.blockingMode = true) (hk : k.InSlot) (howns : s.store.scc.Owns k.userid k.handle.toNat)
  (hpos : 1 ≤ k.keyLength.toNat) (hle : k.keyLength.toNat ≤ 32) (hapart : f.Apart black k.keyLength.toNat s.world)
  (hmade : s.world.icvMade = true) (hok : (fslShwExtractKey c uco f k black s).1 = .ok)
  (hbinds : Binds c k' (extracted c uco f k black s) k.keyLength k.algorithm) (howner : k'.userid = k.userid)
  (hlength : k'.keyLength = k.keyLength) : k'.algorithm = k.algorithm := by
  have hbytes := extract_blackKey hblocking hk howns hle hapart hmade hok
  have hT : (firstBytes c.rng 16).length = 16 := length_firstBytes _ _
  have hkey : (k.value s).length = k'.keyLength.toNat := by rw [hlength,Sko.value,length_redBytes]
  -- a state in which it does not matter whether the key object has a plain key
  set s' := later f (firstBytes c.rng 16) (fslShwExtractKey c uco f k black s).2.2.store.mem s with hs'
  have hstill : bytesAt s'.store.mem black (34 + k'.keyLength.toNat) = extracted c uco f k black s := by
    rw [hlength]
    exact bytesAt_later (a := 0#32) hapart hT (by show 0 + _ ≤ _; omega)
  have hapart' : f.Apart black k'.keyLength.toNat s'.world := by
    rw [hlength]
    exact later_apart hapart
  have hready : Ready uco f k' black s' :=
    ⟨extract_valid hok,hblocking,hlength ▸ hpos,hlength ▸ hle,hapart',later_ample,later_free⟩
  have hparts : bytesAt s'.store.mem black (34 + k'.keyLength.toNat) =
      blackKey c (firstBytes c.rng 16) k'.userid k.algorithm (k.value s) := by rw [hstill,hbytes,howner]
  have hmac : macKey c f k' black s'.store.mem = firstBytes c.rng 16 := by
    rw [macKey,(blackKey_parts hT hparts).2.1,c.slotDecrypt_slotEncrypt,hs',later_tKey hT,ite_self]
  have hest := (unwrap_accepts hready).mpr (accepts_of_blackKey hT hmac hparts)
  have hlen : (extracted c uco f k black s).length = 34 + k'.keyLength.toNat := by rw [extracted,bytesAt_length,hlength]
  exact (hbinds uco f black s' (by rw [hlen,hstill]) hapart' later_ample hest).2

def taggedCrypto (b : Byte) (message : List Byte) : Crypto :=
  { plainCrypto b 0 0 with hmac := fun key m _ => if key = List.replicate 16 b ∧ m = message then 1 else 0 }

lemma taggedCrypto_unforgeable (b : Byte) (owner : BitVec 64) (covered : List Byte) :
  Unforgeable (taggedCrypto b (ownerBytes owner ++ covered)) (List.replicate 16 b) owner covered := by
  intro T' message h
  have hhead := congrArg (fun l => l.headD 0) h
  have htag : (if T' = List.replicate 16 b ∧ message = ownerBytes owner ++ covered then 1 else 0 : Byte) =
      if List.replicate 16 b = List.replicate 16 b ∧ ownerBytes owner ++ covered = ownerBytes owner ++ covered then 1 else 0 := hhead
  rw [if_pos (show List.replicate 16 b = List.replicate 16 b ∧ _ from ⟨rfl,rfl⟩)] at htag
  by_contra hne
  rw [if_neg hne] at htag
  cases htag

def boxCovered : List Byte := [5, 1, 1, 2, 3, 4, 1]

def boxCrypto : Crypto := taggedCrypto 9 (ownerBytes 7#64 ++ boxCovered)

lemma boxCrypto_ok : (fslShwExtractKey boxCrypto boxUco boxFrame boxKey boxPlace (boxSys [])).1 = .ok := by
  decide +kernel

lemma boxCovered_eq : coveredPart boxCrypto (firstBytes boxCrypto.rng 16) boxKey.userid boxKey.algorithm
  (boxKey.value (boxSys [])) = boxCovered := by decide +kernel

lemma boxCrypto_unforgeable : Unforgeable boxCrypto (firstBytes boxCrypto.rng 16) boxKey.userid
  (coveredPart boxCrypto (firstBytes boxCrypto.rng 16) boxKey.userid boxKey.algorithm (boxKey.value (boxSys []))) := by
  rw [boxCovered_eq]
  exact taggedCrypto_unforgeable 9 7#64 boxCovered

/-- **The binding** of a black key that was extracted, for a key object `k'`. -/
theorem binding_iff (hblocking : uco.blockingMode = true) (hk : k.InSlot) (howns : s.store.scc.Owns k.userid k.handle.toNat)
  (hpos : 1 ≤ k.keyLength.toNat) (hle : k.keyLength.toNat ≤ 32) (hapart : f.Apart black k.keyLength.toNat s.world)
  (hmade : s.world.grants 14 = true ∧ s.world.grants 15 = true) (hok : (fslShwExtractKey c uco f k black s).1 = .ok)
  (hunique : Unforgeable c (firstBytes c.rng 16) k.userid
    (coveredPart c (firstBytes c.rng 16) k.userid k.algorithm (k.value s))) :
  Binds c k' (extracted c uco f k black s) k.keyLength k.algorithm ↔
    k'.userid ≠ k.userid ∨ k'.keyLength ≠ k.keyLength ∨ k'.algorithm = k.algorithm := by
  have hicv : s.world.icvMade = true := Bool.and_eq_true_iff.mpr hmade
  constructor
  · intro hbinds
    by_cases howner : k'.userid = k.userid
    · by_cases hlength : k'.keyLength = k.keyLength
      · exact .inr (.inr (binds_algorithm hblocking hk howns hpos hle hapart hicv hok hbinds howner hlength))
      · exact .inr (.inl hlength)
    · exact .inl howner
  · intro hcond uco' f' black' s' hstill hapart' hample hest
    have hready := ready_of_ok hapart' hample hest
    have hbytes := extract_blackKey hblocking hk howns hle hapart hicv hok
    have hkey : (k.value s).length = k.keyLength.toNat := length_redBytes _ _ _
    rw [extracted,bytesAt_length,← hkey] at hstill
    obtain ⟨hsameOwner,hsameLength⟩ := accepts_blackKey (length_firstBytes _ _) (hstill.trans (hkey ▸ hbytes)) hunique ((unwrap_accepts hready).mp hest)
    have hsameLength : k'.keyLength = k.keyLength := eq_of_toNat_eq (hsameLength.trans hkey)
    rcases hcond with howner | hlength | halgorithm
    · exact absurd hsameOwner howner
    · exact absurd hsameLength hlength
    · exact ⟨hsameLength,halgorithm⟩

theorem binding_sample : Binds boxCrypto { boxKey with keyLength := 6#16, algorithm := .des }
  (extracted boxCrypto boxUco boxFrame boxKey boxPlace (boxSys [])) 5#16 .aes :=
  (binding_iff rfl ⟨rfl, rfl⟩ (boxSys_owns []) (by decide) (by decide) (boxFrame_apart []) ⟨rfl, rfl⟩ boxCrypto_ok
    boxCrypto_unforgeable).mpr (.inr (.inl (by decide)))

/-- **An AES key is accepted as a DES key.** -/
theorem other_algorithm_accepted : ¬ Binds boxCrypto { boxKey with algorithm := .des }
  (extracted boxCrypto boxUco boxFrame boxKey boxPlace (boxSys [])) 5#16 .aes := by
  intro hbinds
  have halgorithm := binds_algorithm rfl ⟨rfl,rfl⟩ (boxSys_owns []) (by decide) (by decide) (boxFrame_apart []) rfl
    boxCrypto_ok hbinds rfl rfl
  cases halgorithm

end

end Mx27.Shw
