/-
# The secure memory as a stream of bytes

What the copies and the cipher of `Scm` do to byte lists.
-/
import Mx27Drivers.Lib.Coder
import Mx27Drivers.Scc.Scm

namespace Mx27.Scc

open List Function BitVec

def byteOf (w : Word) (k : ℕ) : Byte := (w >>> (8 * k)).setWidth 8

def ofBytes (b0 b1 b2 b3 : Byte) : Word := b3 ++ b2 ++ b1 ++ b0

lemma byteOf_push (w : Word) (b : Byte) {k : ℕ} (hk : k < 4) :
  byteOf ((b.setWidth 32 <<< 24) ||| (w >>> 8)) k = if k = 3 then b else byteOf w (k + 1) := by
  by_cases hlast : k = 3
  · rw [if_pos hlast,hlast]
    apply eq_of_getLsbD_eq
    intro i hi
    simp only [byteOf,getLsbD_setWidth,getLsbD_ushiftRight,getLsbD_or,getLsbD_shiftLeft]
    grind
  · rw [if_neg hlast]
    apply eq_of_getLsbD_eq
    intro i hi
    simp only [byteOf,getLsbD_setWidth,getLsbD_ushiftRight,getLsbD_or,getLsbD_shiftLeft]
    grind

lemma ofBytes_byteOf (w : Word) : ofBytes (byteOf w 0) (byteOf w 1) (byteOf w 2) (byteOf w 3) = w := by
  apply eq_of_getLsbD_eq
  intro i hi
  simp only [ofBytes,byteOf,getLsbD_append,getLsbD_setWidth,getLsbD_ushiftRight]
  grind

lemma byteOf_ofBytes (b0 b1 b2 b3 : Byte) :
  byteOf (ofBytes b0 b1 b2 b3) 0 = b0 ∧ byteOf (ofBytes b0 b1 b2 b3) 1 = b1 ∧
    byteOf (ofBytes b0 b1 b2 b3) 2 = b2 ∧ byteOf (ofBytes b0 b1 b2 b3) 3 = b3 := by
  refine ⟨?_,?_,?_,?_⟩
  all_goals
    apply eq_of_getLsbD_eq
    intro i hi
    simp only [ofBytes,byteOf,getLsbD_append,getLsbD_setWidth,getLsbD_ushiftRight]
    grind

def byteAt (ram : Ram) (place : ℕ) : Byte := byteOf (ram (place / 4)) (place % 4)

def bytesAt (ram : Ram) : ℕ → ℕ → List Byte
  | _, 0 => []
  | place, n + 1 => byteAt ram place :: bytesAt ram (place + 1) n

lemma length_bytesAt (ram : Ram) : ∀ place n : ℕ, (bytesAt ram place n).length = n
  | _, 0 => rfl
  | place, n + 1 => by rw [bytesAt,length_cons,length_bytesAt ram (place + 1) n]

lemma getD_bytesAt (ram : Ram) : ∀ (place : ℕ) {n i : ℕ}, i < n → (bytesAt ram place n).getD i 0 = byteAt ram (place + i)
  | _, _ + 1, 0, _ => rfl
  | place, n + 1, i + 1, h => by
    rw [bytesAt,getD_cons_succ,getD_bytesAt ram (place + 1) (show i < n by omega)]
    congr 1
    omega

lemma copyFromLoop_eq (ram : Ram) : ∀ (count place : ℕ) (w : Word) (crc : Option Crc),
  (count ≠ 0 → w = ram (place / 4) >>> (8 * (place % 4))) →
    copyFromLoop ram count place w crc =
      (bytesAt ram place count, crc.map fun c => (bytesAt ram place count).foldl calcCrc c)
  | 0, _, _, crc, _ => by cases crc <;> rfl
  | count + 1, place, w, crc, h => by
    have hbyte : ((w &&& 0xff#32).setWidth 8 : Byte) = byteAt ram place := by
      have hmask : (0xff#32).setWidth 8 = allOnes 8 := by decide
      rw [h (Nat.succ_ne_zero count),byteAt,byteOf,setWidth_and,hmask,and_allOnes]
    have hnext : count ≠ 0 →
        (if count ≠ 0 ∧ (place + 1) % 4 = 0 then ram ((place + 1) / 4) else w >>> 8) =
          ram ((place + 1) / 4) >>> (8 * ((place + 1) % 4)) := by
      intro hc
      by_cases hfull : (place + 1) % 4 = 0
      · rw [if_pos ⟨hc,hfull⟩,hfull,Nat.mul_zero,ushiftRight_zero]
      · rw [if_neg (fun hand => hfull hand.2),h (Nat.succ_ne_zero count),← shiftRight_add]
        congr 2
        · omega
        · omega
    simp only [copyFromLoop]
    rw [hbyte,copyFromLoop_eq ram count (place + 1) _ _ hnext]
    cases crc <;> rfl

lemma copyFromScc_eq (place count : ℕ) (ram : Ram) (crc : Option Crc) :
  copyFromScc place count ram crc =
    (bytesAt ram place count, crc.map fun c => (bytesAt ram place count).foldl calcCrc c) :=
  copyFromLoop_eq ram count place _ crc fun _ => rfl

/-! ### Bytes put into a memory -/

structure Holds (ram : Ram) (base : ℕ) (bs : List Byte) : Prop where
  full : ∀ i < 4 * (bs.length / 4), byteAt ram (base + i) = bs.getD i 0
  part : ∀ i < bs.length, 4 * (bs.length / 4) ≤ i → byteOf (ram ((base + bs.length) / 4)) (i + 4 - bs.length) = bs.getD i 0

lemma Holds.nil (ram : Ram) (base : ℕ) : Holds ram base [] :=
  ⟨fun i h => absurd h (Nat.not_lt_zero i), fun i h => absurd h (Nat.not_lt_zero i)⟩

variable {base i n : ℕ} {bs a : List Byte}

lemma Holds.bytes {ram : Ram} (h : Holds ram base bs) (h4 : 4 ∣ bs.length) :
  bytesAt ram base bs.length = bs := by
  refine ext_getElem (length_bytesAt ram base bs.length) fun i hi hi' => ?_
  have hget := getD_bytesAt ram base hi'
  rw [h.full i (by omega),getD_eq_getElem _ _ hi,getD_eq_getElem _ _ hi'] at hget
  exact hget

structure Building (s : CopyState) (base : ℕ) (bs : List Byte) : Prop where
  place : s.place = base + bs.length
  full : ∀ i < 4 * (bs.length / 4), byteAt s.ram (base + i) = bs.getD i 0
  part : ∀ i < bs.length, 4 * (bs.length / 4) ≤ i → byteOf s.word (i + 4 - bs.length) = bs.getD i 0

lemma getD_concat_left (b : Byte) (h : i < bs.length) : (bs ++ [b]).getD i 0 = bs.getD i 0 :=
  getD_append bs [b] 0 i h

lemma getD_concat_last (bs : List Byte) (b : Byte) : (bs ++ [b]).getD bs.length 0 = b := by
  rw [getD_append_right bs [b] 0 bs.length (Nat.le_refl _),Nat.sub_self,getD_cons_zero]

lemma byteOf_copyByte {s : CopyState} (h : Building s base bs) (b : Byte)
  (hi : i < bs.length + 1) (hlow : 4 * (bs.length / 4) ≤ i) :
  byteOf (copyByte s b).word (i + 3 - bs.length) = (bs ++ [b]).getD i 0 := by
  simp only [copyByte]
  rw [byteOf_push s.word b (by omega)]
  by_cases hlast : i = bs.length
  · rw [if_pos (by omega),hlast,getD_concat_last]
  · rw [if_neg (by omega),getD_concat_left b (by omega),← h.part i (by omega) hlow]
    congr 1
    omega

lemma Building.copyByte {s : CopyState} (h4 : 4 ∣ base) (h : Building s base bs) (b : Byte) :
  Building (copyByte s b) base (bs ++ [b]) := by
  have hplace := h.place
  have hlen : (bs ++ [b]).length = bs.length + 1 := length_append
  refine ⟨?_,fun i hi => ?_,fun i hi hlow => ?_⟩
  · simp only [Scc.copyByte]
    omega
  · rw [hlen] at hi
    by_cases hold : i < 4 * (bs.length / 4)
    · -- a word that was full before
      rw [getD_concat_left b (by omega),← h.full i hold]
      simp only [Scc.copyByte,byteAt]
      split
      · rw [update_of_ne (by omega)]
      · rfl
    · -- the word that this byte fills
      have hbyte := byteOf_copyByte h b (i := i) (by omega) (by omega)
      rw [← hbyte]
      have hfull : (s.place + 1) % 4 = 0 := by omega
      simp only [Scc.copyByte,byteAt,if_pos hfull]
      rw [show (base + i) / 4 = (s.place + 1 - 4) / 4 by omega,update_self]
      congr 1
      omega
  · rw [hlen] at hi hlow ⊢
    have hbyte := byteOf_copyByte h b hi (by omega)
    rw [← hbyte]
    congr 1
    omega

lemma Building.copy (h4 : 4 ∣ base) : ∀ (data : List Byte) {s : CopyState} {bs : List Byte},
  Building s base bs → Building (data.foldl Scc.copyByte s) base (bs ++ data)
  | [], _, bs, h => by simpa using h
  | b :: data, s, bs, h => by
    have hrest := Building.copy h4 data (h.copyByte h4 b)
    rwa [List.append_assoc,singleton_append] at hrest

lemma copyByte_fold_crc : ∀ (data : List Byte) (s : CopyState),
  (data.foldl copyByte s).crc = s.crc.map fun c => data.foldl calcCrc c
  | [], s => by cases h : s.crc <;> simp [h]
  | b :: data, s => by
    rw [foldl_cons,copyByte_fold_crc data (copyByte s b)]
    simp only [copyByte]
    cases s.crc <;> rfl

lemma copyToScc_holds {ram : Ram} (h4 : 4 ∣ base) (h : Holds ram base bs) (data : List Byte)
  (crc : Option Crc) : Holds (copyToScc data (base + bs.length) ram crc).1 base (bs ++ data) := by
  have hstart : Building ⟨if (base + bs.length) % 4 = 0 then 0#32 else ram ((base + bs.length) / 4),base + bs.length,ram,crc⟩
      base bs := by
    refine ⟨rfl,h.full,fun i hi hlow => ?_⟩
    rw [if_neg (by omega)]
    exact h.part i hi hlow
  obtain ⟨hplace,hfull,hpart⟩ := Building.copy h4 data hstart
  simp only [copyToScc]
  rw [hplace]
  refine ⟨fun i hi => ?_,fun i hi hlow => ?_⟩
  · rw [← hfull i hi]
    simp only [byteAt]
    split
    · rw [update_of_ne (by omega)]
    · rfl
  · rw [if_pos (by omega),update_self,← hpart i hi hlow]

lemma copyToScc_crc (data : List Byte) (place : ℕ) (ram : Ram) (crc : Option Crc) :
  (copyToScc data place ram crc).2 = crc.map fun c => data.foldl calcCrc c :=
  copyByte_fold_crc data _

lemma copyToScc_bytes {ram : Ram} (h4 : 4 ∣ base) {data : List Byte} (hlen : 4 ∣ data.length) :
  bytesAt (copyToScc data base ram none).1 base data.length = data := by
  have h := copyToScc_holds h4 (Holds.nil ram base) data none
  exact Holds.bytes (by simpa using h) hlen

def toBlocks : List Byte → List Block
  | b0 :: b1 :: b2 :: b3 :: b4 :: b5 :: b6 :: b7 :: l => (ofBytes b0 b1 b2 b3, ofBytes b4 b5 b6 b7) :: toBlocks l
  | _ => []

def wordBytes (w : Word) : List Byte := [byteOf w 0, byteOf w 1, byteOf w 2, byteOf w 3]

def fromBlocks (l : List Block) : List Byte := l.flatMap fun b => wordBytes b.1 ++ wordBytes b.2

lemma fromBlocks_cons (b : Block) (l : List Block) :
  fromBlocks (b :: l) = byteOf b.1 0 :: byteOf b.1 1 :: byteOf b.1 2 :: byteOf b.1 3 ::
    byteOf b.2 0 :: byteOf b.2 1 :: byteOf b.2 2 :: byteOf b.2 3 :: fromBlocks l := rfl

def blocksAt (ram : Ram) : ℕ → ℕ → List Block
  | _, 0 => []
  | k, n + 1 => blockAt ram k :: blocksAt ram (k + 1) n

lemma blocks_induction {P : List Byte → Prop} (nil : P [])
  (block : ∀ b0 b1 b2 b3 b4 b5 b6 b7 l, P l → P (b0 :: b1 :: b2 :: b3 :: b4 :: b5 :: b6 :: b7 :: l)) :
  ∀ (n : ℕ) (l : List Byte), l.length = 8 * n → P l
  | 0, l, h => by
    rw [length_eq_zero_iff.mp h]
    exact nil
  | n + 1, l, h => by
    rcases l with _ | ⟨b0,_ | ⟨b1,_ | ⟨b2,_ | ⟨b3,_ | ⟨b4,_ | ⟨b5,_ | ⟨b6,_ | ⟨b7,l⟩⟩⟩⟩⟩⟩⟩⟩
    all_goals simp only [length_cons,length_nil] at h
    all_goals try omega
    exact block b0 b1 b2 b3 b4 b5 b6 b7 l (blocks_induction nil block n l (by omega))

lemma toBlocks_append (b : List Byte) (h : a.length = 8 * n) :
  toBlocks (a ++ b) = toBlocks a ++ toBlocks b := by
  refine blocks_induction (P := fun a => toBlocks (a ++ b) = toBlocks a ++ toBlocks b) ?_ ?_ n a h
  · simp [toBlocks]
  · intro b0 b1 b2 b3 b4 b5 b6 b7 l ih
    simp only [List.cons_append,toBlocks,ih]

lemma fromBlocks_toBlocks (h : a.length = 8 * n) : fromBlocks (toBlocks a) = a := by
  refine blocks_induction (P := fun a => fromBlocks (toBlocks a) = a) rfl ?_ n a h
  intro b0 b1 b2 b3 b4 b5 b6 b7 l ih
  obtain ⟨h0,h1,h2,h3⟩ := byteOf_ofBytes b0 b1 b2 b3
  obtain ⟨h4,h5,h6,h7⟩ := byteOf_ofBytes b4 b5 b6 b7
  simp only [toBlocks,fromBlocks_cons,h0,h1,h2,h3,h4,h5,h6,h7,ih]

lemma toBlocks_fromBlocks : ∀ l : List Block, toBlocks (fromBlocks l) = l
  | [] => rfl
  | b :: l => by
    simp only [fromBlocks_cons,toBlocks,ofBytes_byteOf,toBlocks_fromBlocks l]

lemma length_fromBlocks : ∀ l : List Block, (fromBlocks l).length = 8 * l.length
  | [] => rfl
  | b :: l => by
    simp only [fromBlocks_cons,length_cons,length_fromBlocks l]
    omega

lemma toBlocks_bytesAt (ram : Ram) : ∀ k n : ℕ, toBlocks (bytesAt ram (8 * k) (8 * n)) = blocksAt ram k n
  | _, 0 => rfl
  | k, n + 1 => by
    have ih := toBlocks_bytesAt ram (k + 1) n
    rw [show 8 * (n + 1) = 8 * n + 8 by omega]
    have hword : ∀ j < 2, ofBytes (byteAt ram (8 * k + 4 * j)) (byteAt ram (8 * k + 4 * j + 1)) (byteAt ram (8 * k + 4 * j + 2))
        (byteAt ram (8 * k + 4 * j + 3)) = ram (2 * k + j) := by
      intro j hj
      simp only [byteAt,show (8 * k + 4 * j) / 4 = 2 * k + j by omega,show (8 * k + 4 * j + 1) / 4 = 2 * k + j by omega,
        show (8 * k + 4 * j + 2) / 4 = 2 * k + j by omega,show (8 * k + 4 * j + 3) / 4 = 2 * k + j by omega,
        show (8 * k + 4 * j) % 4 = 0 by omega,show (8 * k + 4 * j + 1) % 4 = 1 by omega,
        show (8 * k + 4 * j + 2) % 4 = 2 by omega,show (8 * k + 4 * j + 3) % 4 = 3 by omega]
      exact ofBytes_byteOf _
    simp only [bytesAt,toBlocks,blocksAt,blockAt]
    rw [show 8 * k + 1 + 1 + 1 + 1 + 1 + 1 + 1 + 1 = 8 * (k + 1) by omega,ih]
    exact congrArg₂ _ (Prod.ext (hword 0 (by omega)) (hword 1 (by omega))) rfl

lemma fromBlocks_blocksAt (ram : Ram) (k n : ℕ) : fromBlocks (blocksAt ram k n) = bytesAt ram (8 * k) (8 * n) := by
  rw [← toBlocks_bytesAt,fromBlocks_toBlocks (length_bytesAt ram (8 * k) (8 * n))]

/-! ### The cipher -/

def codeBytes (f : Block → Block → Block × Block) (chain : Block) (bs : List Byte) : List Byte × Block :=
  (fromBlocks (Coder.code f chain (toBlocks bs)).1, (Coder.code f chain (toBlocks bs)).2)

section
variable {f g : Block → Block → Block × Block} {n : ℕ}

variable {a : List Byte}

lemma codeBytes_append (chain : Block) (b : List Byte) (h : a.length = 8 * n) :
  codeBytes f chain (a ++ b) =
    ((codeBytes f chain a).1 ++ (codeBytes f (codeBytes f chain a).2 b).1, (codeBytes f (codeBytes f chain a).2 b).2) := by
  simp only [codeBytes,toBlocks_append b h,Coder.code_append,fromBlocks,flatMap_append]

lemma length_codeBytes (chain : Block) (h : a.length = 8 * n) : (codeBytes f chain a).1.length = a.length := by
  calc (codeBytes f chain a).1.length = 8 * (toBlocks a).length := by
        rw [codeBytes,length_fromBlocks,Coder.length_code]
    _ = (fromBlocks (toBlocks a)).length := (length_fromBlocks _).symm
    _ = a.length := by rw [fromBlocks_toBlocks h]

lemma codeBytes_inverse (hinv : Coder.Inverts g f) (chain : Block) (h : a.length = 8 * n) :
  codeBytes g chain (codeBytes f chain a).1 = (a, (codeBytes f chain a).2) := by
  simp only [codeBytes,toBlocks_fromBlocks,hinv.code,fromBlocks_toBlocks h]

lemma cipherBlocks_code (f : Block → Block → Block × Block) (src : Ram) : ∀ (n i j : ℕ) (dst : Ram) (chain : Block),
  blocksAt (cipherBlocks f src n i j dst chain).1 j n = (Coder.code f chain (blocksAt src i n)).1 ∧
    (cipherBlocks f src n i j dst chain).2 = (Coder.code f chain (blocksAt src i n)).2
  | 0, _, _, _, _ => ⟨rfl, rfl⟩
  | n + 1, i, j, dst, chain => by
    obtain ⟨hout,hchain⟩ := cipherBlocks_code f src n (i + 1) (j + 1) (setBlock dst j (f chain (blockAt src i)).1)
      (f chain (blockAt src i)).2
    simp only [cipherBlocks,blocksAt,Coder.code,hout,hchain,List.cons.injEq,and_true]
    -- the first block is not touched again
    simp only [blockAt]
    rw [cipherBlocks_other _ _ _ _ _ _ _ (by omega),cipherBlocks_other _ _ _ _ _ _ _ (by omega)]
    simp [setBlock]

end

section
variable (hw : Hardware) (cbc : Bool) {s : Scm} {n : ℕ} {bs : List Byte}

lemma cipherBlocks_stream (f : Block → Block → Block × Block) {src : Ram} {i : ℕ} (h : bytesAt src (8 * i) (8 * n) = bs) (j : ℕ)
  (dst : Ram) (chain : Block) :
  bytesAt (cipherBlocks f src n i j dst chain).1 (8 * j) (8 * n) = (codeBytes f chain bs).1 ∧
    (cipherBlocks f src n i j dst chain).2 = (codeBytes f chain bs).2 := by
  obtain ⟨hout,hchain⟩ := cipherBlocks_code f src n i j dst chain
  simp only [← h,codeBytes,toBlocks_bytesAt]
  exact ⟨by rw [← hout,fromBlocks_blocksAt],hchain⟩

lemma encrypt_stream (h : bytesAt s.red (8 * s.redStart) (8 * n) = bs) :
  bytesAt (hw.cipher cbc false n s).black (8 * s.blackStart) (8 * n) = (codeBytes (hw.encBlock cbc) s.vector bs).1 ∧
    (hw.cipher cbc false n s).vector = (codeBytes (hw.encBlock cbc) s.vector bs).2 :=
  cipherBlocks_stream _ h ..

lemma decrypt_stream (h : bytesAt s.black (8 * s.blackStart) (8 * n) = bs) :
  bytesAt (hw.cipher cbc true n s).red (8 * s.redStart) (8 * n) = (codeBytes (hw.decBlock cbc) s.vector bs).1 ∧
    (hw.cipher cbc true n s).vector = (codeBytes (hw.decBlock cbc) s.vector bs).2 :=
  cipherBlocks_stream _ h ..

lemma decBlock_inverts (h : ∀ b, hw.decrypt (hw.encrypt b) = b) : Coder.Inverts (hw.decBlock cbc) (hw.encBlock cbc) := by
  intro chain b
  cases cbc with
  | true =>
    simp only [Hardware.encBlock,Hardware.decBlock,if_true,h,Block.xor,xor_assoc,BitVec.xor_self,xor_zero]
  | false => simp [Hardware.encBlock,Hardware.decBlock,h]

end

end Mx27.Scc
