/-
# Decryption with a CRC

`scc_decrypt` of any ciphertext, and of what `scc_encrypt` made.
-/
import Mx27Drivers.Scc.Crypt

namespace Mx27.Scc

open List BitVec

section
variable {hw : Hardware} {cbc : Bool} {C : List Byte} {iv : Block} {k m : ℕ} {countOut : ℕ} {s : DecState}

/-- The plaintext before `scc_decrypt` looks at it. -/
def Hardware.opened (hw : Hardware) (cbc : Bool) (iv : Block) (C : List Byte) : List Byte := (codeBytes (hw.decBlock cbc) iv C).1

structure Opening (hw : Hardware) (cbc : Bool) (C : List Byte) (iv : Block) (k : ℕ) (s : DecState) : Prop where
  input : s.input = C.drop (8 * k)
  out : s.out = hw.opened cbc iv (C.take (8 * k))
  crc : s.crc = crcOf s.out
  vector : s.scm.vector = (codeBytes (hw.decBlock cbc) iv (C.take (8 * k))).2
  redStart : s.scm.redStart = 80
  blackStart : s.scm.blackStart = 80

lemma Opening.length_out (h : Opening hw cbc C iv k s) (hk : 8 * k ≤ C.length) : s.out.length = 8 * k := by
  have hlen : (C.take (8 * k)).length = 8 * k := by
    rw [length_take]
    omega
  rw [h.out,Hardware.opened,length_codeBytes iv hlen,hlen]

lemma Opening.decipher (h : Opening hw cbc C iv k s) {a : ℕ} (ha : 8 * (k + a) ≤ C.length) (hpos : 0 < a) (hlt : a < 2 ^ 32)
  (hblocks : 80 + a ≤ hw.blocks) :
  ∃ scm, Scc.decipher hw cbc (s.input.take (8 * a)) s.scm = (false, scm) ∧
    s.out ++ bytesAt scm.red SCM_NON_RESERVED_OFFSET (8 * a) = hw.opened cbc iv (C.take (8 * (k + a))) ∧
    scm.vector = (codeBytes (hw.decBlock cbc) iv (C.take (8 * (k + a)))).2 ∧ scm.redStart = 80 ∧ scm.blackStart = 80 := by
  set cipher := s.input.take (8 * a) with hcipher
  have hclen : cipher.length = 8 * a := by
    rw [hcipher,h.input,length_take,length_drop]
    omega
  set loaded : Scm := { s.scm with black := (copyToScc cipher SCM_NON_RESERVED_OFFSET s.scm.black none).1 } with hloaded
  have hheld : bytesAt loaded.black (8 * loaded.blackStart) (8 * a) = cipher := by
    show bytesAt (copyToScc cipher SCM_NON_RESERVED_OFFSET s.scm.black none).1 (8 * s.scm.blackStart) (8 * a) = cipher
    rw [h.blackStart,← hclen]
    exact copyToScc_bytes (by decide) (by omega)
  obtain ⟨hplain,hvector⟩ := decrypt_stream hw cbc hheld
  have hcrypto := sccDoCrypto_blocks hw (show 8 ≤ cipher.length by omega) (by omega) cbc true (s := loaded)
    (by simp only [hloaded,h.redStart]; omega) (by simp only [hloaded,h.blackStart]; omega)
  rw [show cipher.length / 8 = a by omega] at hcrypto
  rw [show loaded.redStart = 80 from h.redStart] at hplain
  rw [Hardware.opened,codeBytes_take _ iv C ha,← h.input,← h.vector,h.out]
  exact ⟨_,hcrypto,congrArg _ hplain,hvector,h.redStart,h.blackStart⟩

lemma decipher_fails (hred : s.scm.redStart = 80) {data : List Byte} {n : ℕ}
  (hn : (BitVec.ofNat 32 (data.length / 8) - 1#32).toNat + 1 = n) (h : hw.blocks < 80 + n) :
  (decipher hw cbc data s.scm).1 = true := by
  simp only [decipher,sccDoCrypto,SCC_BLOCK_SIZE_BYTES,hn,hred,h,true_or,if_true]

lemma decLoop_spec (hw : Hardware) (cbc : Bool) (countOut : ℕ) {e : ℕ} (he : 8 * e ≤ C.length) (hlt : C.length < 2 ^ 32) : ∀ (fuel k : ℕ) (s : DecState),
  s.out.length ≤ countOut → (s.error = false → Opening hw cbc C iv k s ∧ s.left = 8 * (e - k) ∧ k ≤ e ∧ s.left < fuel) →
  (80 < hw.blocks → 8 * e ≤ countOut → s.error = false) →
    (decLoop hw cbc countOut fuel s).out.length ≤ countOut ∧
      ((decLoop hw cbc countOut fuel s).error = false → Opening hw cbc C iv e (decLoop hw cbc countOut fuel s)) ∧
      (80 < hw.blocks → 8 * e ≤ countOut → (decLoop hw cbc countOut fuel s).error = false)
  | 0, _, _, hroom, hgo, hno =>
    ⟨hroom, (fun h => by cases h), fun h1 h2 => absurd (hgo (hno h1 h2)).2.2.2 (Nat.not_lt_zero _)⟩
  | fuel + 1, k, s, hroom, hgo, hno => by
    have hmem := sccMemorySizeBytes_eq hw
    rw [decLoop]
    by_cases herror : s.error = false
    swap
    · rw [if_neg (fun h => herror h.2)]
      exact ⟨hroom,fun h => absurd h herror,hno⟩
    obtain ⟨hs,hleft,hk,hfuel⟩ := hgo herror
    by_cases hend : s.left = 0
    · rw [if_neg (fun h => h.1 hend)]
      obtain rfl : k = e := by omega
      exact ⟨hroom,fun _ => hs,hno⟩
    rw [if_pos ⟨hend,herror⟩]
    -- so many blocks go through the memory
    obtain ⟨a,ha,hae,hblocks⟩ : ∃ a, (if sccMemorySizeBytes hw < s.left then sccMemorySizeBytes hw else s.left) = 8 * a ∧
        k + a ≤ e ∧ (0 < a ∧ 80 + a ≤ hw.blocks ∨ a = 0 ∧ hw.blocks ≤ 80) := by
      split
      · exact ⟨hw.blocks - 80,by omega⟩
      · exact ⟨e - k,by omega⟩
    have hout := hs.length_out (by omega)
    simp only [ha,copyFromScc_eq]
    split
    · exact ⟨hroom,(fun h => by cases h),by omega⟩
    have hroom' : (s.out ++ bytesAt (decipher hw cbc (s.input.take (8 * a)) s.scm).2.red SCM_NON_RESERVED_OFFSET (8 * a)).length ≤
        countOut := by
      rw [length_append,length_bytesAt]
      omega
    rcases hblocks with ⟨hpos,hblocks⟩ | ⟨rfl,hblocks⟩
    · obtain ⟨scm,hdecipher,hbytes,hvector,hred,hblack⟩ := hs.decipher (by omega) hpos (by omega) hblocks
      simp only [hdecipher] at hroom' ⊢
      refine decLoop_spec hw cbc countOut he hlt fuel (k + a) _ hroom' (fun _ => ⟨⟨?_,hbytes,?_,hvector,hred,hblack⟩,?_,hae,?_⟩)
        fun _ _ => rfl
      · show s.input.drop (8 * a) = _
        rw [hs.input,drop_drop,Nat.mul_add]
      · show (bytesAt _ _ _).foldl calcCrc s.crc = _
        rw [hs.crc,← crcOf_append]
      · show s.left - 8 * a = _
        omega
      · show s.left - 8 * a < fuel
        omega
    · -- there is no memory beside the key slots, and the cipher is told to do 2 ^ 32 blocks
      have hfails : (decipher hw cbc (s.input.take (8 * 0)) s.scm).1 = true :=
        decipher_fails (n := 2 ^ 32) hs.redStart (by simp) (by omega)
      simp only [hfails]
      exact decLoop_spec hw cbc countOut he hlt fuel k _ hroom' (fun h => by cases h) fun h => by omega

/-! ### The last blocks -/

lemma stripLoop_padding (rest : List Byte) : ∀ (q i : ℕ), q < i →
  stripLoop i (List.replicate q 0 ++ SCC_DRIVER_PAD_CHAR :: rest) = some (SCC_BLOCK_SIZE_BYTES - (i - 1 - q))
  | _, 0, h => absurd h (Nat.not_lt_zero _)
  | 0, i + 1, _ => by
    rw [List.replicate_zero,nil_append,stripLoop,if_pos rfl]
    congr 1
  | q + 1, i + 1, h => by
    rw [List.replicate_succ,List.cons_append,stripLoop,if_neg (by decide),if_neg (by simp),
      stripLoop_padding rest q i (by omega)]
    congr 2
    omega

lemma stripLoop_some : ∀ {i : ℕ} {l : List Byte} {n : ℕ}, stripLoop i l = some n →
  ∃ q rest, q < i ∧ l = List.replicate q 0 ++ SCC_DRIVER_PAD_CHAR :: rest ∧ n = SCC_BLOCK_SIZE_BYTES - (i - 1 - q)
  | i + 1, byte :: l, n, h => by
    rw [stripLoop] at h
    split at h
    · next hpad =>
      cases h
      exact ⟨0,l,i.succ_pos,by rw [hpad]; rfl,rfl⟩
    · split at h
      · cases h
      · next hzero =>
        obtain ⟨q,rest,hq,rfl,rfl⟩ := stripLoop_some h
        refine ⟨q + 1,rest,by omega,by rw [not_not.mp hzero]; rfl,?_⟩
        congr 1
        omega

lemma take_sccBlockPadding {q : ℕ} (h : q < 8) : sccBlockPadding.take (q + 1) = SCC_DRIVER_PAD_CHAR :: List.replicate q 0 := by
  interval_cases q <;> rfl

lemma sccStripPadding_eq (l : List Byte) {p : ℕ} (hp : 1 ≤ p ∧ p ≤ 8) :
  sccStripPadding (l ++ sccBlockPadding.take p) = some p := by
  obtain ⟨q,rfl⟩ : ∃ q, p = q + 1 := ⟨p - 1,by omega⟩
  rw [sccStripPadding,take_sccBlockPadding (by omega),List.reverse_append,reverse_cons,List.reverse_replicate,List.append_assoc,
    singleton_append,stripLoop_padding _ _ _ (by rw [SCC_BLOCK_SIZE_BYTES]; omega)]
  simp only [SCC_BLOCK_SIZE_BYTES]
  congr 1
  omega

lemma sccStripPadding_some {b : List Byte} {p : ℕ} (h : sccStripPadding b = some p) :
  (1 ≤ p ∧ p ≤ 8) ∧ ∃ l, b = l ++ sccBlockPadding.take p := by
  obtain ⟨q,rest,hq,hb,rfl⟩ := stripLoop_some h
  rw [SCC_BLOCK_SIZE_BYTES] at hq ⊢
  rw [show 8 - (8 - 1 - q) = q + 1 by omega,take_sccBlockPadding hq]
  refine ⟨by omega,rest.reverse,?_⟩
  rw [← reverse_reverse b,hb,List.reverse_append,reverse_cons,List.reverse_replicate,List.append_assoc,singleton_append]

lemma sccCrcLookupTable_zero : ∀ b : Byte, (sccCrcLookupTable b).setWidth 8 = 0#8 → b = 0 := by decide +kernel

lemma calcCrc_high (crc : Crc) : calcCrc crc ((crc >>> 8).setWidth 8) = crc <<< 8 := by
  rw [calcCrc,BitVec.xor_self]
  show sccCrcLookupTable 0 ^^^ crc <<< 8 = crc <<< 8
  rw [show sccCrcLookupTable 0 = 0#16 by decide,BitVec.zero_xor]

lemma high_shiftLeft (crc : Crc) : ((crc <<< 8) >>> 8).setWidth 8 = crc.setWidth 8 := by
  apply eq_of_getLsbD_eq
  intro i hi
  simp only [getLsbD_setWidth,getLsbD_ushiftRight,getLsbD_shiftLeft]
  grind

lemma eq_high_of_calcCrc (crc : Crc) (b : Byte) (h : (calcCrc crc b).setWidth 8 = 0#8) : b = (crc >>> 8).setWidth 8 := by
  have hlow : (crc <<< 8).setWidth 8 = 0#8 := by
    apply eq_of_getLsbD_eq
    intro i hi
    simp only [getLsbD_setWidth,getLsbD_shiftLeft]
    grind
  rw [calcCrc,setWidth_xor,hlow,BitVec.xor_zero] at h
  exact BitVec.xor_eq_zero_iff.mp (sccCrcLookupTable_zero _ h)

lemma calcCrc_self (crc : Crc) (a b : Byte) : calcCrc (calcCrc crc a) b = 0 ↔ [a, b] = crcBytes crc := by
  constructor
  · intro h
    have hb := eq_high_of_calcCrc (calcCrc crc a) b (by rw [h]; rfl)
    rw [hb,calcCrc_high] at h
    have ha := eq_high_of_calcCrc crc a (by rw [← high_shiftLeft,h]; rfl)
    rw [hb,ha,calcCrc_high,high_shiftLeft,crcBytes]
  · intro h
    cases h
    rw [calcCrc_high,← high_shiftLeft,calcCrc_high,← shiftLeft_add]
    exact shiftLeft_eq_zero (by omega)

lemma map_getD_range (l : List Byte) {n : ℕ} (h : n ≤ l.length) : (List.range n).map (fun i => l.getD i 0) = l.take n := by
  refine ext_getElem ?_ fun i hi hi' => ?_
  · rw [length_map,length_range,length_take]
    omega
  · rw [length_map,length_range] at hi
    rw [getElem_map,getElem_range,getElem_take,getD_eq_getElem]

def held (m : ℕ) : ℕ := if 2 ≤ m then 2 else 1

lemma bytesLeft_blocks (hm : 0 < m) : bytesLeft true (8 * m) = 8 * (m - held m) := by
  have h8 : SCC_BLOCK_SIZE_BYTES = 8 := rfl
  simp only [bytesLeft,held,if_true]
  by_cases h2 : 2 ≤ m
  · rw [if_pos h2,if_pos (by omega)]
    omega
  · rw [if_neg h2,if_neg (by omega)]
    omega

/-- How many bytes the last loop of `scc_decrypt` takes from `last_two_blocks`; it reads two more for the CRC. -/
def lastCount (hw : Hardware) (cbc : Bool) (data : List Byte) (countOut : ℕ) (scm : Scm) : Option ℕ :=
  let s := decLoop hw cbc countOut (data.length + 1) ⟨data, bytesLeft true data.length, [], CRC_CCITT_START, scm, false⟩
  let bytes_to_copy := data.length - s.out.length
  let r := decipher hw cbc (s.input.take bytes_to_copy) s.scm
  if s.error ∨ r.1 then none
  else
    ((sccStripPadding (copyFromScc SCM_NON_RESERVED_OFFSET bytes_to_copy r.2.red none).1).map fun padding_byte_count =>
      (bytes_to_copy + 2 ^ 32 - (padding_byte_count + CRC_SIZE_BYTES)) % 2 ^ 32).filter fun n =>
        (s.out.length + n) % 2 ^ 32 ≤ countOut

lemma held_cases (hm : 0 < m) : held m = 1 ∧ m = 1 ∨ held m = 2 ∧ 2 ≤ m := by
  simp only [held]
  split <;> omega

lemma Opening.last (hs : Opening hw cbc C iv (m - held m) s) (hC : C.length = 8 * m) (hm : 0 < m) (hlt : C.length < 2 ^ 32)
  (hblocks : 80 + held m ≤ hw.blocks) :
  ∃ L scm, L.length = 8 * held m ∧ s.out ++ L = hw.opened cbc iv C ∧ s.out.length = 8 * (m - held m) ∧
    Scc.decipher hw cbc (s.input.take (8 * m - s.out.length)) s.scm = (false, scm) ∧
    copyFromScc SCM_NON_RESERVED_OFFSET (8 * m - s.out.length) scm.red none = (L, none) := by
  have hheld := held_cases hm
  have hout := hs.length_out (by omega)
  obtain ⟨scm,hdecipher,hbytes,-⟩ := hs.decipher (a := held m) (by omega) (by omega) (by omega) hblocks
  rw [show 8 * (m - held m + held m) = C.length by omega,take_length] at hbytes
  rw [show 8 * m - s.out.length = 8 * held m by omega]
  exact ⟨_,scm,length_bytesAt ..,hbytes,hout,hdecipher,copyFromScc_eq ..⟩

lemma Opening.short (hs : Opening hw cbc C iv (m - held m) s) (hC : C.length = 8 * m) (hm : 0 < m)
  (h : hw.blocks < 80 + held m) :
  (Scc.decipher hw cbc (s.input.take (8 * m - s.out.length)) s.scm).1 = true := by
  have hheld := held_cases hm
  refine decipher_fails hs.redStart ?_ h
  rw [hs.length_out (by omega),hs.input,length_take,length_drop,hC,Nat.min_eq_left (by omega),
    show (8 * m - 8 * (m - held m)) / 8 = held m by omega]
  rcases hheld with ⟨h,-⟩ | ⟨h,-⟩ <;> rw [h] <;> rfl

/-- The verdict over plaintext that ends with two bytes and padding. -/
lemma finish_of (countOut : ℕ) {d : List Byte} {a b : Byte} {p : ℕ} {scm : Scm} (hlt : 8 * m < 2 ^ 32) (hp : 1 ≤ p ∧ p ≤ 8)
  (hcrc : s.crc = crcOf s.out) (hlen : s.out.length + (d.length + 2 + p) = 8 * m)
  (hdecipher : Scc.decipher hw cbc (s.input.take (8 * m - s.out.length)) s.scm = (false, scm))
  (hcopy : copyFromScc SCM_NON_RESERVED_OFFSET (8 * m - s.out.length) scm.red none =
    (d ++ (a :: b :: sccBlockPadding.take p), none)) :
  finish hw cbc (8 * m) countOut s =
    if s.out.length + d.length ≤ countOut then
      if [a, b] = crcBytes (crcOf (s.out ++ d)) then ⟨.ok, s.out ++ d, (s.out ++ d).length, scm⟩
      else ⟨.verificationFailed, s.out ++ d, countOut, scm⟩
    else ⟨.fail, s.out, countOut, scm⟩ := by
  have hstrip : sccStripPadding (d ++ (a :: b :: sccBlockPadding.take p)) = some p := by
    rw [show d ++ (a :: b :: sccBlockPadding.take p) = (d ++ [a,b]) ++ sccBlockPadding.take p by simp]
    exact sccStripPadding_eq _ hp
  have hcount : (8 * m - s.out.length + 2 ^ 32 - (p + CRC_SIZE_BYTES)) % 2 ^ 32 = d.length := by
    rw [CRC_SIZE_BYTES]
    omega
  have hroom : (s.out.length + d.length) % 2 ^ 32 = s.out.length + d.length := Nat.mod_eq_of_lt (by omega)
  have hplain : (List.range d.length).map (fun i => (d ++ (a :: b :: sccBlockPadding.take p)).getD i 0) = d := by
    rw [map_getD_range _ (by rw [length_append]; omega),take_left]
  have ha : (d ++ (a :: b :: sccBlockPadding.take p)).getD d.length 0 = a := by simp
  have hb : (d ++ (a :: b :: sccBlockPadding.take p)).getD (d.length + 1) 0 = b := by simp
  simp only [finish,hdecipher,hcopy,hstrip,hcount,hroom,hplain,ha,hb,hcrc,← crcOf_append,calcCrc_self,
    Bool.false_eq_true,if_false]

lemma exists_append_two {l : List Byte} (h : 2 ≤ l.length) : ∃ d a b, l = d ++ [a, b] := by
  obtain ⟨a,b,hab⟩ := length_eq_two.mp (show (l.drop (l.length - 2)).length = 2 by rw [length_drop]; omega)
  exact ⟨_,a,b,by rw [← hab,take_append_drop]⟩

/-- What `scc_decrypt` must do with `C`. -/
structure Checked (hw : Hardware) (cbc : Bool) (C : List Byte) (countOut : ℕ) (scm : Scm) : Prop where
  room : (sccDecrypt hw cbc C true countOut scm).out.length ≤ countOut
  index : ∀ n, lastCount hw cbc C countOut scm = some n → n + 1 < 16
  ok : (sccDecrypt hw cbc C true countOut scm).status = .ok → ∃ data, hw.opened cbc scm.vector C = sealedBytes data ∧
    (sccDecrypt hw cbc C true countOut scm).out = data ∧ (sccDecrypt hw cbc C true countOut scm).countOut = data.length

section
variable {scm : Scm} (hC : C.length = 8 * m) (hm : 0 < m) (hlt : C.length < 2 ^ 32) (hred : scm.redStart = 80)
  (hblack : scm.blackStart = 80)
include hC hm hlt hred hblack

lemma decLoop_start (hw : Hardware) (cbc : Bool) (countOut : ℕ) :
  ∃ s, decLoop hw cbc countOut (8 * m + 1) ⟨C, bytesLeft true (8 * m), [], CRC_CCITT_START, scm, false⟩ = s ∧
    s.out.length ≤ countOut ∧ (s.error = false → Opening hw cbc C scm.vector (m - held m) s ∧
      sccDecrypt hw cbc C true countOut scm = finish hw cbc (8 * m) countOut s) ∧
    (80 < hw.blocks → 8 * (m - held m) ≤ countOut → s.error = false) := by
  have hleft : bytesLeft true (8 * m) = 8 * (m - held m - 0) := by rw [bytesLeft_blocks hm,Nat.sub_zero]
  obtain ⟨hroom,hopening,hgo⟩ := decLoop_spec hw cbc countOut (e := m - held m) (by omega) hlt (8 * m + 1) 0
    ⟨C,bytesLeft true (8 * m),[],CRC_CCITT_START,scm,false⟩ (Nat.zero_le _)
    (fun _ => ⟨⟨rfl,rfl,rfl,rfl,hred,hblack⟩,hleft,Nat.zero_le _,by simp only [hleft]; omega⟩) fun _ _ => rfl
  refine ⟨_,rfl,hroom,fun herror => ⟨hopening herror,?_⟩,hgo⟩
  simp only [sccDecrypt,hC,herror,if_true,Bool.false_eq_true,if_false]

lemma sccDecrypt_opened (cbc : Bool) (hhw : 80 < hw.blocks) {data : List Byte} (hdata : hw.opened cbc scm.vector C = sealedBytes data)
  (hroom : data.length ≤ countOut) :
  if 80 + held m ≤ hw.blocks then ∃ scm', sccDecrypt hw cbc C true countOut scm = ⟨.ok, data, data.length, scm'⟩
  else (sccDecrypt hw cbc C true countOut scm).status = .fail := by
  have hsize : data.length + (2 + paddingByteCount data.length) = 8 * m := by
    have hlength := congrArg List.length hdata
    rwa [Hardware.opened,length_codeBytes _ hC,hC,length_sealedBytes,eq_comm] at hlength
  have hpad := paddingByteCount_bounds data.length
  have hheld := held_cases hm
  obtain ⟨s,-,-,hopening,hgo⟩ := decLoop_start hC hm hlt hred hblack hw cbc countOut
  obtain ⟨hopen,hdec⟩ := hopening (hgo hhw (by omega))
  rw [hdec]
  split
  · next hblocks =>
    obtain ⟨L,scm',-,hP,hout,hdecipher,hcopy⟩ := hopen.last hC hm hlt hblocks
    have hsplit : s.out ++ L = data.take (8 * (m - held m)) ++ (data.drop (8 * (m - held m)) ++
        (crcBytes (crcOf data) ++ sccBlockPadding.take (paddingByteCount data.length))) := by
      rw [hP,hdata,← List.append_assoc,take_append_drop]
      rfl
    obtain ⟨hfirst,rfl⟩ := append_inj hsplit (by rw [hout,length_take]; omega)
    have hwhole : s.out ++ data.drop (8 * (m - held m)) = data := by rw [hfirst,take_append_drop]
    have hlength := congrArg List.length hwhole
    rw [length_append] at hlength
    have hfinish := finish_of countOut (by omega) hpad hopen.crc (by omega) hdecipher hcopy
    rw [hwhole,if_pos (by omega)] at hfinish
    exact ⟨scm',hfinish.trans (if_pos rfl)⟩
  · have hshort := hopen.short hC hm (by omega)
    simp only [finish,hshort,if_true]

end

end

end Mx27.Scc
