/-
# The secure memory

The SCM of `mxc_scc.c`: its RED and its BLACK memory, which are read and written by words.
-/
import Mathlib

namespace Mx27.Scc

open List Function BitVec

abbrev Byte : Type := BitVec 8
abbrev Word : Type := BitVec 32
abbrev Crc : Type := BitVec 16

abbrev Ram : Type := ℕ → Word

abbrev Block : Type := Word × Word

def SCC_BLOCK_SIZE_BYTES : ℕ := 8

def CRC_POLYNOMIAL : Crc := 0x1021#16

def crcStep (remainder : Crc) : Crc :=
  if remainder &&& 0x8000#16 ≠ 0#16 then (remainder <<< 1) ^^^ CRC_POLYNOMIAL else remainder <<< 1

def sccCrcLookupTable (dividend : Byte) : Crc := crcStep^[8] (dividend.setWidth 16 <<< 8)

def calcCrc (crc : Crc) (byte : Byte) : Crc := sccCrcLookupTable (byte ^^^ (crc >>> 8).setWidth 8) ^^^ (crc <<< 8)

structure CopyState where
  word : Word
  place : ℕ
  ram : Ram
  crc : Option Crc

def copyByte (s : CopyState) (byte : Byte) : CopyState :=
  let scm_word := (byte.setWidth 32 <<< 24) ||| (s.word >>> 8)
  { word := scm_word
    place := s.place + 1
    ram := if (s.place + 1) % 4 = 0 then Function.update s.ram ((s.place + 1 - 4) / 4) scm_word else s.ram
    crc := s.crc.map fun crc => calcCrc crc byte }

/-- `copy_to_scc`, to a byte address in one of the memories. -/
def copyToScc (data : List Byte) (place : ℕ) (ram : Ram) (crc : Option Crc) : Ram × Option Crc :=
  let s := data.foldl copyByte ⟨if place % 4 = 0 then 0#32 else ram (place / 4), place, ram, crc⟩
  (if s.place % 4 ≠ 0 then Function.update s.ram (s.place / 4) s.word else s.ram, s.crc)

def copyFromLoop (ram : Ram) : ℕ → ℕ → Word → Option Crc → List Byte × Option Crc
  | 0, _, _, crc => ([], crc)
  | count + 1, place, scm_word, crc =>
    let byte : Byte := (scm_word &&& 0xff#32).setWidth 8
    let scm_word := if count ≠ 0 ∧ (place + 1) % 4 = 0 then ram ((place + 1) / 4) else scm_word >>> 8
    let r := copyFromLoop ram count (place + 1) scm_word (crc.map fun crc => calcCrc crc byte)
    (byte :: r.1, r.2)

/-- `copy_from_scc`, from a byte address in one of the memories. -/
def copyFromScc (place count : ℕ) (ram : Ram) (crc : Option Crc) : List Byte × Option Crc :=
  copyFromLoop ram count place (ram (place / 4) >>> (8 * (place % 4))) crc

structure Scm where
  red : Ram
  black : Ram
  vector : Block
  redStart : ℕ
  blackStart : ℕ

structure Hardware where
  blocks : ℕ
  encrypt : Block → Block
  decrypt : Block → Block
  overrun : Bool → Bool → Scm → Scm

def blockAt (ram : Ram) (k : ℕ) : Block := (ram (2 * k), ram (2 * k + 1))

def setBlock (ram : Ram) (k : ℕ) (b : Block) : Ram :=
  Function.update (Function.update ram (2 * k) b.1) (2 * k + 1) b.2

def Block.xor (a b : Block) : Block := (a.1 ^^^ b.1, a.2 ^^^ b.2)

section
variable (hw : Hardware)

def Hardware.encBlock (cbc : Bool) (chain plain : Block) : Block × Block :=
  if cbc then (hw.encrypt (plain.xor chain), hw.encrypt (plain.xor chain)) else (hw.encrypt plain, chain)

def Hardware.decBlock (cbc : Bool) (chain cipher : Block) : Block × Block :=
  if cbc then ((hw.decrypt cipher).xor chain, cipher) else (hw.decrypt cipher, chain)

end

def cipherBlocks (f : Block → Block → Block × Block) (src : Ram) : ℕ → ℕ → ℕ → Ram → Block → Ram × Block
  | 0, _, _, dst, chain => (dst, chain)
  | n + 1, i, j, dst, chain =>
    let r := f chain (blockAt src i)
    cipherBlocks f src n (i + 1) (j + 1) (setBlock dst j r.1) r.2

section
variable (hw : Hardware)

def Hardware.cipher (cbc dec : Bool) (n : ℕ) (s : Scm) : Scm :=
  if dec then
    let r := cipherBlocks (hw.decBlock cbc) s.black n s.blackStart s.redStart s.red s.vector
    { s with red := r.1, vector := r.2 }
  else
    let r := cipherBlocks (hw.encBlock cbc) s.red n s.redStart s.blackStart s.black s.vector
    { s with black := r.1, vector := r.2 }

/-- `scc_do_crypto`: whether it failed, and the SCM afterwards. -/
def sccDoCrypto (byteCount : ℕ) (cbc dec : Bool) (s : Scm) : Bool × Scm :=
  let block_count := byteCount / SCC_BLOCK_SIZE_BYTES
  let length : BitVec 32 := BitVec.ofNat 32 block_count - 1#32
  let n := length.toNat + 1
  if hw.blocks < s.redStart + n ∨ hw.blocks < s.blackStart + n then (true, hw.overrun cbc dec s)
  else (false, hw.cipher cbc dec n s)

end

lemma copyByte_fold_other (data : List Byte) : ∀ (s : CopyState) (i : ℕ),
  i < s.place / 4 ∨ (s.place + data.length) / 4 ≤ i → (data.foldl copyByte s).ram i = s.ram i := by
  induction data with
  | nil => exact fun _ _ _ => rfl
  | cons byte data ih =>
    intro s i hi
    rw [length_cons] at hi
    rw [foldl_cons]
    have hstep : (copyByte s byte).ram i = s.ram i := by
      simp only [copyByte]
      split
      · next hfull => exact update_of_ne (by omega) _ _
      · rfl
    rw [ih (copyByte s byte) i (by simp only [copyByte]; omega),hstep]

lemma copyByte_fold_place (data : List Byte) : ∀ s : CopyState,
  (data.foldl copyByte s).place = s.place + data.length := by
  induction data with
  | nil => exact fun _ => rfl
  | cons byte data ih =>
    intro s
    rw [foldl_cons,ih,length_cons]
    simp only [copyByte]
    omega

lemma copyToScc_other (data : List Byte) (place : ℕ) (ram : Ram) (crc : Option Crc) {i : ℕ}
  (hi : i < place / 4 ∨ (place + data.length + 3) / 4 ≤ i) : (copyToScc data place ram crc).1 i = ram i := by
  have hplace := copyByte_fold_place data ⟨if place % 4 = 0 then 0#32 else ram (place / 4),place,ram,crc⟩
  have hother := copyByte_fold_other data ⟨if place % 4 = 0 then 0#32 else ram (place / 4),place,ram,crc⟩ i
    (by simp only; omega)
  simp only at hplace
  simp only [copyToScc]
  rw [hplace]
  split
  · next hpartial => rw [update_of_ne (by omega),hother]
  · exact hother

lemma setBlock_other {ram : Ram} {k i : ℕ} (b : Block) (h : i ≠ 2 * k ∧ i ≠ 2 * k + 1) : setBlock ram k b i = ram i := by
  rw [setBlock,update_of_ne h.2,update_of_ne h.1]

lemma cipherBlocks_other (f : Block → Block → Block × Block) (src : Ram) {k : ℕ} : ∀ (n i j : ℕ) (dst : Ram) (chain : Block),
  (k < 2 * j ∨ 2 * (j + n) ≤ k) → (cipherBlocks f src n i j dst chain).1 k = dst k
  | 0, _, _, _, _, _ => rfl
  | n + 1, i, j, dst, chain, hk => by
    rw [cipherBlocks,cipherBlocks_other f src n _ _ _ _ (by omega),setBlock_other _ (by omega)]

lemma sccDoCrypto_blocks (hw : Hardware) {byteCount : ℕ} (h : 8 ≤ byteCount) (hlt : byteCount / 8 < 2 ^ 32) (cbc dec : Bool)
  {s : Scm} (hred : s.redStart + byteCount / 8 ≤ hw.blocks) (hblack : s.blackStart + byteCount / 8 ≤ hw.blocks) :
  sccDoCrypto hw byteCount cbc dec s = (false, hw.cipher cbc dec (byteCount / 8) s) := by
  have hn : (BitVec.ofNat 32 (byteCount / 8) - 1#32).toNat + 1 = byteCount / 8 := by
    have hpos : 1 ≤ byteCount / 8 := by omega
    rw [toNat_sub,toNat_ofNat,toNat_ofNat,Nat.mod_eq_of_lt hlt]
    omega
  simp only [sccDoCrypto,SCC_BLOCK_SIZE_BYTES,hn]
  rw [if_neg (by omega)]

end Mx27.Scc
