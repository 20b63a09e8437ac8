/-
# The round trip of `scc_crypt`

Encryption with a CRC and decryption of what it made, by two calls of `scc_crypt`.
-/
import Mx27Drivers.Scc.Decrypt

namespace Mx27.Scc

open List BitVec

/-! ### The round trip -/

structure Exchange where
  n : ℕ
  plain : ℕ → Byte
  mode : Mode
  initVector : Option (ℕ → Byte)
  cipherRoom : ℕ
  plainRoom : ℕ

namespace Exchange

def encryptRequest (x : Exchange) : Request :=
  ⟨x.n, some x.plain, x.initVector, .encrypt, x.mode, .ccittCrc, true, x.cipherRoom⟩

def decryptRequest (x : Exchange) (cipher : List Byte) : Request :=
  ⟨cipher.length, some fun i => cipher.getD i 0, x.initVector, .decrypt, x.mode, .ccittCrc, true, x.plainRoom⟩

structure Valid (x : Exchange) : Prop where
  nonempty : 1 ≤ x.n
  vector : x.mode = .cbc → x.initVector.isSome
  counts : x.n + 10 < 2 ^ 32
  room : x.plainRoom < 2 ^ 32

end Exchange

def RoundTrip (hw : Hardware) (x : Exchange) (scm scm' : Scm) : Prop :=
  ∀ p, 1 ≤ p → p ≤ 8 → 8 ∣ x.n + 2 + p →
    let e := sccCrypt hw true x.encryptRequest scm
    (e.status = .ok ↔ x.n + 2 + p ≤ x.cipherRoom) ∧
      (x.n + 2 + p ≤ x.cipherRoom → e.out.length = x.n + 2 + p ∧ e.countOut = x.n + 2 + p ∧
        (x.n ≤ x.plainRoom →
          let d := sccCrypt hw true (x.decryptRequest e.out) scm'
          d.status = .ok ∧ d.out = takeBytes (some x.plain) x.n ∧ d.countOut = x.n))

lemma padding_unique {n p : ℕ} (h1 : 1 ≤ p) (h8 : p ≤ 8) (hdvd : 8 ∣ n + 2 + p) : n + 2 + p = sealedLength n := by
  simp only [sealedLength,paddingByteCount,SCC_BLOCK_SIZE_BYTES,CRC_SIZE_BYTES]
  omega

section
variable {hw : Hardware} {x : Exchange}

def Exchange.start (x : Exchange) (scm : Scm) : Block := if x.mode = .cbc then vectorOf x.initVector else scm.vector

def Exchange.cipher (hw : Hardware) (x : Exchange) (scm : Scm) : List Byte :=
  (codeBytes (hw.encBlock (x.mode == .cbc)) (x.start scm) (sealedBytes (takeBytes (some x.plain) x.n))).1

lemma length_takeBytes (p : Option (ℕ → Byte)) (n : ℕ) : (takeBytes p n).length = n := by
  rw [takeBytes,length_map,length_range]

lemma cipher_congr (scm scm' : Scm) : x.cipher hw scm = x.cipher hw scm' := by
  unfold Exchange.cipher Exchange.start
  by_cases hmode : x.mode = .cbc
  · rw [if_pos hmode,if_pos hmode]
  · have hecb : (x.mode == Mode.cbc) = false := by simpa using hmode
    rw [hecb,codeBytes,codeBytes]
    exact congrArg fromBlocks (Coder.code_fst_congr (fun _ _ _ => rfl) _ _ _)

lemma length_cipher (scm : Scm) : (x.cipher hw scm).length = sealedLength x.n := by
  have hlen := length_sealedBytes (takeBytes (some x.plain) x.n)
  rw [length_takeBytes] at hlen
  obtain ⟨k,hk⟩ := sealedLength_blocks x.n
  rw [Exchange.cipher,length_codeBytes _ (hlen.trans hk),hlen]

lemma encrypt_notBad (hx : x.Valid) : ¬ x.encryptRequest.Bad true := by
  have hn := hx.nonempty
  have hv := hx.vector
  simp only [Request.Bad,Exchange.encryptRequest]
  rintro (h | h | h | h | ⟨hm,h⟩ | ⟨h,-⟩ | ⟨h,-⟩)
  · cases h
  · omega
  · cases h
  · cases h
  · have hsome := hv hm
    cases hiv : x.initVector <;> simp [hiv] at h hsome
  · cases h
  · cases h

lemma decrypt_notBad (hx : x.Valid) (scm : Scm) : ¬ (x.decryptRequest (x.cipher hw scm)).Bad true := by
  have hv := hx.vector
  obtain ⟨k,hk⟩ := sealedLength_blocks x.n
  have hpos : 0 < sealedLength x.n := by
    simp only [sealedLength,CRC_SIZE_BYTES]
    omega
  simp only [Request.Bad,Exchange.decryptRequest,length_cipher,SCC_BLOCK_SIZE_BYTES]
  rintro (h | h | h | h | ⟨hm,h⟩ | ⟨h,-⟩ | ⟨-,h⟩)
  · cases h
  · omega
  · cases h
  · cases h
  · have hsome := hv hm
    cases hiv : x.initVector <;> simp [hiv] at h hsome
  · cases h
  · omega

lemma sccCrypt_encrypt (hx : x.Valid) (hroom : sealedLength x.n ≤ x.cipherRoom) (scm : Scm) :
  sccCrypt hw true x.encryptRequest scm =
    sccEncrypt hw (x.mode == .cbc) (takeBytes (some x.plain) x.n) true x.cipherRoom (x.encryptRequest.setUp scm) := by
  have hspace : x.encryptRequest.insufficientSpace = false := by
    show decide (x.cipherRoom < sealedLength x.n) = false
    rw [decide_eq_false_iff_not]
    omega
  rw [sccCrypt,if_neg (encrypt_notBad hx),hspace]
  rfl

lemma encrypt_spec (hhw : 80 < hw.blocks) (hx : x.Valid) (scm : Scm) :
  ((sccCrypt hw true x.encryptRequest scm).status = .ok ↔ sealedLength x.n ≤ x.cipherRoom) ∧
    (sealedLength x.n ≤ x.cipherRoom → (sccCrypt hw true x.encryptRequest scm).out = x.cipher hw scm ∧
      (sccCrypt hw true x.encryptRequest scm).countOut = sealedLength x.n) := by
  have hlen := length_takeBytes (some x.plain) x.n
  have hpad := paddingByteCount_bounds x.n
  have hcounts := hx.counts
  have hn := hx.nonempty
  by_cases hroom : sealedLength x.n ≤ x.cipherRoom
  · have hne : takeBytes (some x.plain) x.n ≠ [] := fun h => by
      rw [h,length_nil] at hlen
      omega
    obtain ⟨scm',henc⟩ : ∃ scm', sccEncrypt hw (x.mode == .cbc) (takeBytes (some x.plain) x.n) true x.cipherRoom
        (x.encryptRequest.setUp scm) = ⟨.ok,x.cipher hw scm,sealedLength (takeBytes (some x.plain) x.n).length,scm'⟩ :=
      sccEncrypt_sealed hhw hne (by rw [hlen]; exact hroom) (by rw [hlen,sealedLength,CRC_SIZE_BYTES]; omega) rfl rfl
    rw [sccCrypt_encrypt hx hroom,henc,hlen]
    exact ⟨⟨fun _ => hroom,fun _ => rfl⟩,fun _ => ⟨rfl,rfl⟩⟩
  · have hspace : x.encryptRequest.insufficientSpace = true := by
      show decide (x.cipherRoom < sealedLength x.n) = true
      rw [decide_eq_true_eq]
      omega
    have hstatus : (sccCrypt hw true x.encryptRequest scm).status = .insufficientSpace := by
      rw [sccCrypt,if_neg (encrypt_notBad hx),hspace]
      rfl
    rw [hstatus]
    exact ⟨⟨(fun h => by cases h),fun h => absurd h hroom⟩,fun h => absurd h hroom⟩

lemma decrypt_space (hx : x.Valid) (hroom : x.n ≤ x.plainRoom) (scm : Scm) :
  (x.decryptRequest (x.cipher hw scm)).insufficientSpace = false ↔
    x.plainRoom < 2 ^ 31 ∨ 2 ^ 31 + 10 ≤ sealedLength x.n ∨ (x.n ≤ 5 ∧ 2 ^ 32 - 2 ≤ x.plainRoom) := by
  have hcounts := hx.counts
  have hlt := hx.room
  have hn := hx.nonempty
  have hm : sealedLength x.n = x.n + (2 + (8 - (x.n + 2) % 8)) := rfl
  simp only [Request.insufficientSpace,Exchange.decryptRequest,length_cipher,decide_eq_false_iff_not,Int.not_lt]
  simp only [CRC_SIZE_BYTES,SCC_BLOCK_SIZE_BYTES,toInt_eq_toNat_cond,toNat_sub,toNat_ofNat]
  generalize sealedLength x.n = m at hm ⊢
  have hmlt : m < 2 ^ 32 := by omega
  rw [Nat.mod_eq_of_lt hmlt,Nat.mod_eq_of_lt hlt]
  split <;> split <;> omega

lemma decrypt_spec (hinv : ∀ b, hw.decrypt (hw.encrypt b) = b) (hhw : 80 < hw.blocks) (hx : x.Valid)
  (hroom : x.n ≤ x.plainRoom) (scm scm' : Scm) :
  let d := sccCrypt hw true (x.decryptRequest (x.cipher hw scm)) scm'
  (d.status = .ok ∧ d.out = takeBytes (some x.plain) x.n ∧ d.countOut = x.n) ↔
    (x.n ≤ 5 ∨ 16 ≤ sccMemorySizeBytes hw) ∧
      (x.plainRoom < 2 ^ 31 ∨ 2 ^ 31 + 10 ≤ sealedLength x.n ∨ (x.n ≤ 5 ∧ 2 ^ 32 - 2 ≤ x.plainRoom)) := by
  have hlen := length_takeBytes (some x.plain) x.n
  have hcounts := hx.counts
  have hpad := paddingByteCount_bounds x.n
  obtain ⟨m,hm⟩ := sealedLength_blocks x.n
  have hheld : 80 + held m ≤ hw.blocks ↔ x.n ≤ 5 ∨ 16 ≤ sccMemorySizeBytes hw := by
    have hmem := sccMemorySizeBytes_eq hw
    have hm' : x.n + (2 + (8 - (x.n + 2) % 8)) = 8 * m := hm
    rw [hmem]
    simp only [held]
    split <;> omega
  rw [cipher_congr scm scm',← decrypt_space hx hroom scm',← hheld]
  intro d
  cases hspace : (x.decryptRequest (x.cipher hw scm')).insufficientSpace with
  | true =>
    have hstatus : d.status = .insufficientSpace := by
      show (sccCrypt hw true (x.decryptRequest (x.cipher hw scm')) scm').status = _
      rw [sccCrypt,if_neg (decrypt_notBad hx scm'),hspace]
      rfl
    rw [hstatus]
    exact ⟨(fun h => by cases h.1),fun h => by cases h.2⟩
  | false =>
    set scm1 := (x.decryptRequest (x.cipher hw scm')).setUp scm' with hscm1
    have hsize : sealedLength (takeBytes (some x.plain) x.n).length = 8 * m := by rw [hlen]; exact hm
    have hT := (length_sealedBytes (takeBytes (some x.plain) x.n)).trans hsize
    have hC : (codeBytes (hw.encBlock (x.mode == .cbc)) scm1.vector (sealedBytes (takeBytes (some x.plain) x.n))).1.length = 8 * m := by
      rw [length_codeBytes _ hT,hT]
    have hm' : x.n + (2 + paddingByteCount x.n) = 8 * m := hm
    have hopen := sccDecrypt_opened hC (by omega) (by omega) (show scm1.redStart = 80 from rfl) rfl (x.mode == .cbc) hhw
      (congrArg Prod.fst (codeBytes_inverse (decBlock_inverts hw _ hinv) _ hT))
      (show (takeBytes (some x.plain) x.n).length ≤ x.plainRoom by rw [hlen]; exact hroom)
    have hcrypt : d = sccDecrypt hw (x.mode == .cbc)
        (codeBytes (hw.encBlock (x.mode == .cbc)) scm1.vector (sealedBytes (takeBytes (some x.plain) x.n))).1 true x.plainRoom
        scm1 := by
      -- the request hands the ciphertext over as it is
      have hinput : takeBytes (some fun i => (x.cipher hw scm').getD i 0) (x.cipher hw scm').length = x.cipher hw scm' := by
        show (List.range (x.cipher hw scm').length).map (fun i => (x.cipher hw scm').getD i 0) = _
        rw [map_getD_range _ (Nat.le_refl _),take_length]
      show sccCrypt hw true (x.decryptRequest (x.cipher hw scm')) scm' = _
      rw [sccCrypt,if_neg (decrypt_notBad hx scm'),hspace]
      show sccDecrypt hw _ (takeBytes (some fun i => (x.cipher hw scm').getD i 0) (x.cipher hw scm').length) true _ _ = _
      rw [hinput]
      rfl
    rw [hlen] at hopen
    rw [hcrypt]
    split at hopen
    · next hblocks =>
      obtain ⟨scm'',hrun⟩ := hopen
      rw [hrun]
      exact ⟨fun _ => ⟨hblocks,rfl⟩,fun _ => ⟨rfl,rfl,rfl⟩⟩
    · next hblocks =>
      refine ⟨fun h => ?_,fun h => absurd h.1 hblocks⟩
      have hstatus := hopen.symm.trans h.1
      cases hstatus

/-- **The round trip**. -/
theorem roundTrip_iff (hinv : ∀ b, hw.decrypt (hw.encrypt b) = b) (hhw : 80 < hw.blocks) (hx : x.Valid) (scm scm' : Scm) :
  RoundTrip hw x scm scm' ↔
    x.cipherRoom < sealedLength x.n ∨ x.plainRoom < x.n ∨
      ((x.n ≤ 5 ∨ 16 ≤ sccMemorySizeBytes hw) ∧
        (x.plainRoom < 2 ^ 31 ∨ 2 ^ 31 + 10 ≤ sealedLength x.n ∨ (x.n ≤ 5 ∧ 2 ^ 32 - 2 ≤ x.plainRoom))) := by
  obtain ⟨hstatus,hmade⟩ := encrypt_spec hhw hx scm
  have hpad := paddingByteCount_bounds x.n
  have hself : x.n + 2 + paddingByteCount x.n = sealedLength x.n := by
    rw [sealedLength,CRC_SIZE_BYTES,Nat.add_assoc]
  have hdvd : 8 ∣ x.n + 2 + paddingByteCount x.n := by
    obtain ⟨k,hk⟩ := sealedLength_blocks x.n
    exact ⟨k,hself.trans hk⟩
  constructor
  · intro h
    obtain ⟨-,h⟩ := h _ hpad.1 hpad.2 hdvd
    rw [hself] at h
    by_cases hcipher : x.cipherRoom < sealedLength x.n
    · exact .inl hcipher
    · by_cases hplain : x.plainRoom < x.n
      · exact .inr (.inl hplain)
      · obtain ⟨-,-,hdec⟩ := h (by omega)
        have hback := hdec (by omega)
        rw [(hmade (by omega)).1] at hback
        exact .inr (.inr ((decrypt_spec hinv hhw hx (by omega) scm scm').mp hback))
  · intro h p h1 h8 hp
    rw [padding_unique h1 h8 hp]
    refine ⟨hstatus,fun hroom => ?_⟩
    obtain ⟨hout,hcount⟩ := hmade hroom
    rw [hout]
    refine ⟨length_cipher scm,hcount,fun hplain => (decrypt_spec hinv hhw hx hplain scm scm').mpr ?_⟩
    exact (h.resolve_left (by omega)).resolve_left (by omega)

def sampleHardware : Hardware := ⟨82, fun b => (~~~b.1, ~~~b.2), fun b => (~~~b.1, ~~~b.2), fun _ _ s => s⟩

def sampleExchange (plainRoom : ℕ) : Exchange := ⟨8, fun i => BitVec.ofNat 8 i, .cbc, some fun _ => 1, 24, plainRoom⟩

lemma sampleExchange_valid {plainRoom : ℕ} (h : plainRoom < 2 ^ 32) : (sampleExchange plainRoom).Valid :=
  ⟨show 1 ≤ 8 by decide, fun _ => rfl, show 8 + 10 < 2 ^ 32 by decide, h⟩

lemma sampleHardware_inverts (b : Block) : sampleHardware.decrypt (sampleHardware.encrypt b) = b := by
  simp [sampleHardware]

theorem roundTrip_sample : RoundTrip sampleHardware (sampleExchange 8) zeroed.scm zeroed.scm :=
  (roundTrip_iff sampleHardware_inverts (by decide) (sampleExchange_valid (by decide)) _ _).mpr (by decide)

/-- With room for 2 GiB, or in a memory of one block, the plaintext does not come back. -/
theorem large_buffer_refused : ¬ RoundTrip sampleHardware (sampleExchange (2 ^ 31)) zeroed.scm zeroed.scm ∧
  ¬ RoundTrip { sampleHardware with blocks := 81 } (sampleExchange 8) zeroed.scm zeroed.scm := by
  constructor
  · intro h
    obtain ⟨-,h⟩ := h 6 (by decide) (by decide) (by decide)
    obtain ⟨-,-,h⟩ := h (by decide)
    exact absurd (h (by decide)).1 (by decide +kernel)
  · intro h
    obtain ⟨-,h⟩ := h 6 (by decide) (by decide) (by decide)
    obtain ⟨-,-,h⟩ := h (by decide)
    exact absurd (h (by decide)).1 (by decide +kernel)

end

end Mx27.Scc
