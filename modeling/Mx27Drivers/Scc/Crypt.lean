/-
# Encryption with a CRC

`scc_crypt` and the two loops under it.
-/
import Mx27Drivers.Scc.Slots
import Mx27Drivers.Scc.Stream

namespace Mx27.Scc

open List

def CRC_CCITT_START : Crc := 0xFFFF#16
def CRC_SIZE_BYTES : ℕ := 2
def SCC_DRIVER_PAD_CHAR : Byte := 0x80#8
def SCM_NON_RESERVED_OFFSET : ℕ := SCC_KEY_SLOTS * SCC_KEY_SLOT_SIZE

def sccBlockPadding : List Byte := [SCC_DRIVER_PAD_CHAR, 0, 0, 0, 0, 0, 0, 0]

/-- `scc_memory_size_bytes`: what is not kept for the key slots. -/
def sccMemorySizeBytes (hw : Hardware) : ℕ := SCC_BLOCK_SIZE_BYTES * hw.blocks - SCM_NON_RESERVED_OFFSET

lemma sccMemorySizeBytes_eq (hw : Hardware) : sccMemorySizeBytes hw = 8 * (hw.blocks - 80) := by
  simp only [sccMemorySizeBytes,SCC_BLOCK_SIZE_BYTES,SCM_NON_RESERVED_OFFSET,SCC_KEY_SLOTS,SCC_KEY_SLOT_SIZE]
  omega

structure Result where
  status : Ret
  out : List Byte
  countOut : ℕ
  scm : Scm

def crcBytes (crc : Crc) : List Byte := [(crc >>> 8).setWidth 8, crc.setWidth 8]

structure EncState where
  input : List Byte
  crc : Option Crc
  location : ℕ
  out : List Byte
  scm : Scm

def paddingByteCount (countInBytes : ℕ) : ℕ :=
  SCC_BLOCK_SIZE_BYTES - (countInBytes + CRC_SIZE_BYTES) % SCC_BLOCK_SIZE_BYTES

section
variable (hw : Hardware) (cbc : Bool)

def EncState.fill (s : EncState) : EncState :=
  let bytes_to_process := min s.input.length (sccMemorySizeBytes hw - s.location)
  let c := copyToScc (s.input.take bytes_to_process) (SCM_NON_RESERVED_OFFSET + s.location) s.scm.red s.crc
  { s with
    input := s.input.drop bytes_to_process
    crc := c.2
    location := s.location + bytes_to_process
    scm := { s.scm with red := c.1 } }

def EncState.drain (s : EncState) (scm : Scm) : EncState :=
  { s with
    location := 0
    out := s.out ++ (copyFromScc SCM_NON_RESERVED_OFFSET s.location scm.black none).1
    scm := scm }

def encLoop (padding : List Byte) (countOut : ℕ) : ℕ → EncState → Result
  | 0, s => ⟨.fail, s.out, countOut, s.scm⟩
  | fuel + 1, s =>
    if s.input = [] then ⟨.ok, s.out, s.out.length, s.scm⟩
    else
      let s := s.fill hw
      match s.input, s.crc with
      | [], some crc => encLoop padding countOut fuel { s with input := crcBytes crc ++ padding, crc := none }
      | _, _ =>
        if countOut < s.out.length + s.location then ⟨.insufficientSpace, s.out, countOut, s.scm⟩
        else
          let r := sccDoCrypto hw s.location cbc false s.scm
          if r.1 then ⟨.fail, s.out, countOut, r.2⟩
          else encLoop padding countOut fuel (s.drain r.2)

def sccEncrypt (data : List Byte) (addCrc : Bool) (countOut : ℕ) (scm : Scm) : Result :=
  let padding := sccBlockPadding.take (paddingByteCount data.length)
  encLoop hw cbc padding countOut (2 * (data.length + 10) + 2)
    ⟨data, if addCrc then some CRC_CCITT_START else none, 0, [], scm⟩

def stripLoop : ℕ → List Byte → Option ℕ
  | 0, _ => none
  | _ + 1, [] => none
  | i + 1, byte :: rest =>
    if byte = SCC_DRIVER_PAD_CHAR then some (SCC_BLOCK_SIZE_BYTES - i)
    else if byte ≠ 0 then none
    else stripLoop i rest

/-- `scc_strip_padding`: how many bytes are padding, if they are. -/
def sccStripPadding (bytes : List Byte) : Option ℕ := stripLoop SCC_BLOCK_SIZE_BYTES bytes.reverse

structure DecState where
  input : List Byte
  left : ℕ
  out : List Byte
  crc : Crc
  scm : Scm
  error : Bool

def decipher (data : List Byte) (scm : Scm) : Bool × Scm :=
  sccDoCrypto hw data.length cbc true { scm with black := (copyToScc data SCM_NON_RESERVED_OFFSET scm.black none).1 }

def decLoop (countOut : ℕ) : ℕ → DecState → DecState
  | 0, s => { s with error := true }
  | fuel + 1, s =>
    if s.left ≠ 0 ∧ s.error = false then
      let bytes_to_copy := if sccMemorySizeBytes hw < s.left then sccMemorySizeBytes hw else s.left
      if countOut < s.out.length + bytes_to_copy then { s with error := true }
      else
        let r := decipher hw cbc (s.input.take bytes_to_copy) s.scm
        let c := copyFromScc SCM_NON_RESERVED_OFFSET bytes_to_copy r.2.red (some s.crc)
        decLoop countOut fuel
          { input := s.input.drop bytes_to_copy
            left := s.left - bytes_to_copy
            out := s.out ++ c.1
            crc := c.2.getD s.crc
            scm := r.2
            error := r.1 }
    else s

def finish (countIn countOut : ℕ) (s : DecState) : Result :=
  let bytes_to_copy := countIn - s.out.length
  let r := decipher hw cbc (s.input.take bytes_to_copy) s.scm
  if r.1 then ⟨.fail, s.out, countOut, r.2⟩
  else
    let last_two_blocks := (copyFromScc SCM_NON_RESERVED_OFFSET bytes_to_copy r.2.red none).1
    match sccStripPadding last_two_blocks with
    | none => ⟨.verificationFailed, s.out, countOut, r.2⟩
    | some padding_byte_count =>
      -- an unsigned difference
      let bytes_to_copy := (bytes_to_copy + 2 ^ 32 - (padding_byte_count + CRC_SIZE_BYTES)) % 2 ^ 32
      if (s.out.length + bytes_to_copy) % 2 ^ 32 ≤ countOut then
        let plain := (List.range bytes_to_copy).map fun i => last_two_blocks.getD i 0
        let crc := plain.foldl calcCrc s.crc
        let crc := calcCrc crc (last_two_blocks.getD bytes_to_copy 0)
        let crc := calcCrc crc (last_two_blocks.getD (bytes_to_copy + 1) 0)
        if crc = 0 then ⟨.ok, s.out ++ plain, (s.out ++ plain).length, r.2⟩
        else ⟨.verificationFailed, s.out ++ plain, countOut, r.2⟩
      else ⟨.fail, s.out, countOut, r.2⟩

def bytesLeft (verifyCrc : Bool) (countIn : ℕ) : ℕ :=
  if verifyCrc then
    let bytes_left := countIn - SCC_BLOCK_SIZE_BYTES
    if SCC_BLOCK_SIZE_BYTES ≤ bytes_left then bytes_left - SCC_BLOCK_SIZE_BYTES else bytes_left
  else countIn

def sccDecrypt (data : List Byte) (verifyCrc : Bool) (countOut : ℕ) (scm : Scm) : Result :=
  let s := decLoop hw cbc countOut (data.length + 1)
    ⟨data, bytesLeft verifyCrc data.length, [], CRC_CCITT_START, scm, false⟩
  if s.error then ⟨.fail, s.out, countOut, s.scm⟩
  else if verifyCrc then finish hw cbc data.length countOut s
  else ⟨.ok, s.out, s.out.length, s.scm⟩

end

inductive Direction
  | encrypt
  | decrypt
  deriving DecidableEq

inductive Mode
  | ecb
  | cbc
  deriving DecidableEq

inductive Check
  | none
  | ccittCrc
  deriving DecidableEq

structure Request where
  countIn : ℕ
  dataIn : Option (ℕ → Byte)
  initVector : Option (ℕ → Byte)
  direction : Direction
  mode : Mode
  check : Check
  dataOut : Bool
  countOut : ℕ

def Request.Bad (available : Bool) (q : Request) : Prop :=
  available = false ∨ q.countIn = 0 ∨ q.dataIn.isNone ∨ q.dataOut = false ∨ (q.mode = .cbc ∧ q.initVector.isNone) ∨
    (q.check = .none ∧ q.countIn % SCC_BLOCK_SIZE_BYTES ≠ 0) ∨
    (q.direction = .decrypt ∧ q.countIn % SCC_BLOCK_SIZE_BYTES ≠ 0)

instance (available : Bool) (q : Request) : Decidable (q.Bad available) :=
  inferInstanceAs (Decidable (_ ∨ _ ∨ _ ∨ _ ∨ _ ∨ _ ∨ _))

def takeBytes (p : Option (ℕ → Byte)) (n : ℕ) : List Byte := (List.range n).map fun i => (p.getD fun _ => 0) i

def vectorOf (initVector : Option (ℕ → Byte)) : Block :=
  let ram := (copyToScc (takeBytes initVector SCC_BLOCK_SIZE_BYTES) 0 (fun _ => 0) none).1
  (ram 0, ram 1)

def Request.setUp (q : Request) (scm : Scm) : Scm :=
  { scm with
    vector := if q.mode = .cbc then vectorOf q.initVector else scm.vector
    redStart := SCM_NON_RESERVED_OFFSET / SCC_BLOCK_SIZE_BYTES
    blackStart := SCM_NON_RESERVED_OFFSET / SCC_BLOCK_SIZE_BYTES }

def Request.insufficientSpace (q : Request) : Bool :=
  match q.direction, q.check with
  | _, .none => decide (q.countOut < q.countIn)
  | .encrypt, .ccittCrc => decide (q.countOut < q.countIn + (CRC_SIZE_BYTES + paddingByteCount q.countIn))
  | .decrypt, .ccittCrc =>
    let possible_size := BitVec.ofNat 32 q.countIn - BitVec.ofNat 32 CRC_SIZE_BYTES - BitVec.ofNat 32 SCC_BLOCK_SIZE_BYTES
    decide ((BitVec.ofNat 32 q.countOut).toInt < possible_size.toInt)

def sccCrypt (hw : Hardware) (available : Bool) (q : Request) (scm : Scm) : Result :=
  if q.Bad available then ⟨.fail, [], q.countOut, scm⟩
  else if q.insufficientSpace then ⟨.insufficientSpace, [], q.countOut, q.setUp scm⟩
  else
    match q.direction with
    | .encrypt =>
      sccEncrypt hw (q.mode == .cbc) (takeBytes q.dataIn q.countIn) (q.check == .ccittCrc) q.countOut (q.setUp scm)
    | .decrypt =>
      sccDecrypt hw (q.mode == .cbc) (takeBytes q.dataIn q.countIn) (q.check == .ccittCrc) q.countOut (q.setUp scm)

def crcOf (bs : List Byte) : Crc := bs.foldl calcCrc CRC_CCITT_START

lemma crcOf_append (a b : List Byte) : crcOf (a ++ b) = b.foldl calcCrc (crcOf a) := foldl_append

def sealedBytes (data : List Byte) : List Byte :=
  data ++ (crcBytes (crcOf data) ++ sccBlockPadding.take (paddingByteCount data.length))

def sealedLength (n : ℕ) : ℕ := n + (CRC_SIZE_BYTES + paddingByteCount n)

lemma paddingByteCount_bounds (n : ℕ) : 1 ≤ paddingByteCount n ∧ paddingByteCount n ≤ 8 := by
  simp only [paddingByteCount,SCC_BLOCK_SIZE_BYTES]
  omega

lemma sealedLength_blocks (n : ℕ) : ∃ k, sealedLength n = 8 * k := by
  refine ⟨sealedLength n / 8,?_⟩
  simp only [sealedLength,paddingByteCount,SCC_BLOCK_SIZE_BYTES,CRC_SIZE_BYTES]
  omega

lemma length_sealedBytes (data : List Byte) : (sealedBytes data).length = sealedLength data.length := by
  have hpad := paddingByteCount_bounds data.length
  simp only [sealedBytes,sealedLength,length_append,crcBytes,length_cons,length_nil,length_take,
    sccBlockPadding,CRC_SIZE_BYTES]
  omega

/-! ### Encryption streams `sealedBytes` -/

section
variable {hw : Hardware} {cbc : Bool} {T : List Byte} {iv : Block} {s : EncState} {k : ℕ}

structure Streaming (hw : Hardware) (cbc : Bool) (T : List Byte) (iv : Block) (k : ℕ) (s : EncState) : Prop where
  out : s.out = (codeBytes (hw.encBlock cbc) iv (T.take (8 * k))).1
  vector : s.scm.vector = (codeBytes (hw.encBlock cbc) iv (T.take (8 * k))).2
  fits : 8 * k + s.location ≤ T.length
  room : s.location ≤ sccMemorySizeBytes hw
  held : Holds s.scm.red SCM_NON_RESERVED_OFFSET ((T.drop (8 * k)).take s.location)
  redStart : s.scm.redStart = 80
  blackStart : s.scm.blackStart = 80

lemma Streaming.length_out (h : Streaming hw cbc T iv k s) : s.out.length = 8 * k := by
  have hlen : (T.take (8 * k)).length = 8 * k := by
    rw [length_take]
    have := h.fits
    omega
  rw [h.out,length_codeBytes iv hlen,hlen]

lemma take_drop_append {a b : List Byte} {x n : ℕ} (hx : x ≤ a.length) (hn : n ≤ a.length - x) :
  ((a ++ b).drop x).take n = (a.drop x).take n := by
  rw [drop_append_of_le_length hx,take_append_of_le_length (by rw [length_drop]; exact hn)]

def EncState.amount (hw : Hardware) (s : EncState) : ℕ := min s.input.length (sccMemorySizeBytes hw - s.location)

lemma Streaming.fill (h : Streaming hw cbc T iv k s) {src rest : List Byte} (hT : T = src ++ rest)
  (hin : s.input = src.drop (8 * k + s.location)) (hsrc : 8 * k + s.location ≤ src.length) :
  Streaming hw cbc T iv k (s.fill hw) ∧ (s.fill hw).location = s.location + s.amount hw ∧
    (s.fill hw).input = src.drop (8 * k + (s.location + s.amount hw)) ∧
    8 * k + (s.location + s.amount hw) ≤ src.length := by
  have hlen : s.input.length = src.length - (8 * k + s.location) := by rw [hin,length_drop]
  have hTlen : T.length = src.length + rest.length := by rw [hT,length_append]
  have hamount : s.amount hw ≤ src.length - (8 * k + s.location) ∧ s.amount hw ≤ sccMemorySizeBytes hw - s.location := by
    rw [EncState.amount,hlen]
    omega
  have hroom := h.room
  -- what comes in is the next stretch of the stream
  have hnew : (T.drop (8 * k)).take (s.location + s.amount hw) =
      (T.drop (8 * k)).take s.location ++ s.input.take (s.amount hw) := by
    rw [take_add,drop_drop,hin,hT,take_drop_append hsrc hamount.1]
  have hheld := copyToScc_holds (by decide) h.held (s.input.take (s.amount hw)) s.crc
  rw [← hnew,length_take,length_drop,Nat.min_eq_left (by have := h.fits; omega)] at hheld
  refine ⟨⟨h.out,h.vector,?_,?_,hheld,h.redStart,h.blackStart⟩,rfl,?_,by omega⟩
  · show 8 * k + (s.location + s.amount hw) ≤ T.length
    omega
  · show s.location + s.amount hw ≤ sccMemorySizeBytes hw
    omega
  · show s.input.drop (s.amount hw) = _
    rw [hin,drop_drop]
    congr 1
    omega

lemma fill_crc (s : EncState) : (s.fill hw).crc = s.crc.map fun c => (s.input.take (s.amount hw)).foldl calcCrc c :=
  copyToScc_crc _ _ _ _

variable {a countOut : ℕ} {padding data : List Byte}

lemma codeBytes_take (f : Block → Block → Block × Block) (iv : Block) (T : List Byte) {k : ℕ} (h : 8 * (k + a) ≤ T.length) :
  codeBytes f iv (T.take (8 * (k + a))) =
    ((codeBytes f iv (T.take (8 * k))).1 ++
        (codeBytes f (codeBytes f iv (T.take (8 * k))).2 ((T.drop (8 * k)).take (8 * a))).1,
      (codeBytes f (codeBytes f iv (T.take (8 * k))).2 ((T.drop (8 * k)).take (8 * a))).2) := by
  rw [Nat.mul_add,take_add]
  refine codeBytes_append (n := k) iv _ ?_
  rw [length_take]
  omega

lemma Streaming.drain (h : Streaming hw cbc T iv k s) (ha : s.location = 8 * a) (hpos : 0 < a) (hlt : a < 2 ^ 32)
  (hblocks : 80 + a ≤ hw.blocks) :
  ∃ scm, sccDoCrypto hw s.location cbc false s.scm = (false, scm) ∧ Streaming hw cbc T iv (k + a) (s.drain scm) := by
  have hfits := h.fits
  have hheld : bytesAt s.scm.red (8 * s.scm.redStart) (8 * a) = (T.drop (8 * k)).take (8 * a) := by
    have hlen : ((T.drop (8 * k)).take s.location).length = 8 * a := by
      rw [length_take,length_drop]
      omega
    have hbytes := h.held.bytes (by rw [hlen]; omega)
    rw [hlen,ha] at hbytes
    rw [h.redStart]
    exact hbytes
  obtain ⟨hblack,hvector⟩ := encrypt_stream hw cbc hheld
  have hdiv : s.location / 8 = a := by omega
  have hcrypto := sccDoCrypto_blocks hw (show 8 ≤ s.location by omega) (by omega) cbc false (s := s.scm)
    (by rw [h.redStart]; omega) (by rw [h.blackStart]; omega)
  rw [hdiv] at hcrypto
  have hcode := codeBytes_take (hw.encBlock cbc) iv T (k := k) (a := a) (by omega)
  rw [h.vector] at hblack hvector
  refine ⟨_,hcrypto,?_,?_,?_,Nat.zero_le _,?_,h.redStart,h.blackStart⟩
  · rw [hcode]
    simp only [EncState.drain,copyFromScc_eq,h.out,ha]
    rw [← hblack,h.blackStart]
    rfl
  · rw [hcode]
    exact hvector
  · show 8 * (k + a) + 0 ≤ T.length
    omega
  · show Holds _ _ (List.take 0 _)
    rw [take_zero]
    exact Holds.nil _ _

def Feeding (data : List Byte) (k : ℕ) (s : EncState) : Prop :=
  (s.crc = some (crcOf (data.take (8 * k + s.location))) ∧ s.input = data.drop (8 * k + s.location) ∧
      8 * k + s.location < data.length) ∨
    (s.crc = none ∧ s.input = (sealedBytes data).drop (8 * k + s.location) ∧
      (s.location = 0 ∨ 8 * k + s.location < (sealedBytes data).length))

lemma encLoop_done (fuel : ℕ) (hin : s.input = []) :
  encLoop hw cbc padding countOut (fuel + 1) s = ⟨.ok, s.out, s.out.length, s.scm⟩ := by
  rw [encLoop,if_pos hin]

lemma encLoop_seal (fuel : ℕ) {crc : Crc} (hne : s.input ≠ [])
  (hin : (s.fill hw).input = []) (hcrc : (s.fill hw).crc = some crc) :
  encLoop hw cbc padding countOut (fuel + 1) s =
    encLoop hw cbc padding countOut fuel { s.fill hw with input := crcBytes crc ++ padding, crc := none } := by
  rw [encLoop,if_neg hne]
  simp only [hin,hcrc]

lemma encLoop_drain (fuel : ℕ) {scm : Scm} (hne : s.input ≠ [])
  (hgo : (s.fill hw).input ≠ [] ∨ (s.fill hw).crc = none)
  (hroom : (s.fill hw).out.length + (s.fill hw).location ≤ countOut)
  (hcrypto : sccDoCrypto hw (s.fill hw).location cbc false (s.fill hw).scm = (false, scm)) :
  encLoop hw cbc padding countOut (fuel + 1) s = encLoop hw cbc padding countOut fuel ((s.fill hw).drain scm) := by
  rw [encLoop,if_neg hne]
  simp only [hcrypto]
  split
  · next hin hcrc =>
    rcases hgo with hgo | hgo
    · exact absurd hin hgo
    · rw [hgo] at hcrc
      cases hcrc
  · rw [if_neg (by omega)]
    simp

def passes (hw : Hardware) (T : List Byte) (k : ℕ) (s : EncState) : ℕ :=
  2 * (T.length - (8 * k + s.location)) + if s.location = sccMemorySizeBytes hw then 1 else 0

lemma encLoop_sealed (hhw : 80 < hw.blocks) (hroom : sealedLength data.length ≤ countOut)
  (hlt : sealedLength data.length < 2 ^ 32) : ∀ (fuel k : ℕ) (s : EncState),
  Streaming hw cbc (sealedBytes data) iv k s → Feeding data k s → passes hw (sealedBytes data) k s < fuel →
    ∃ scm, encLoop hw cbc (sccBlockPadding.take (paddingByteCount data.length)) countOut fuel s =
      ⟨.ok, (codeBytes (hw.encBlock cbc) iv (sealedBytes data)).1, sealedLength data.length, scm⟩
  | 0, _, _, _, _, hfuel => absurd hfuel (Nat.not_lt_zero _)
  | fuel + 1, k, s, hs, hfeed, hfuel => by
    have hmem := sccMemorySizeBytes_eq hw
    have hT := length_sealedBytes data
    obtain ⟨m,hm⟩ := sealedLength_blocks data.length
    have hmn : data.length < sealedLength data.length := by
      rw [sealedLength,CRC_SIZE_BYTES]
      omega
    have hloc := hs.room
    have hfits := hs.fits
    have hout := hs.length_out
    simp only [passes] at hfuel
    -- a pass that ciphers, from either source
    have hcipher : ∀ a, Streaming hw cbc (sealedBytes data) iv k (s.fill hw) →
        (s.fill hw).location = s.location + s.amount hw → s.location + s.amount hw = 8 * a → 0 < a →
        s.input ≠ [] → ((s.fill hw).input ≠ [] ∨ (s.fill hw).crc = none) →
        (∀ scm, Feeding data (k + a) ((s.fill hw).drain scm)) →
        (s.amount hw = 0 → s.location = sccMemorySizeBytes hw) →
        ∃ scm, encLoop hw cbc (sccBlockPadding.take (paddingByteCount data.length)) countOut (fuel + 1) s =
          ⟨.ok,(codeBytes (hw.encBlock cbc) iv (sealedBytes data)).1,sealedLength data.length,scm⟩ := by
      intro a hfill hlocation ha hpos hne hgo hfeed' hzero
      have hfits' := hfill.fits
      have hroom' := hfill.room
      rw [hlocation] at hfits' hroom'
      obtain ⟨scm,hcrypto,hdrain⟩ := hfill.drain (hlocation.trans ha) hpos (by omega) (by omega)
      rw [encLoop_drain fuel hne hgo (by rw [hlocation,hfill.length_out]; omega) hcrypto]
      refine encLoop_sealed hhw hroom hlt fuel (k + a) _ hdrain (hfeed' scm) ?_
      show 2 * ((sealedBytes data).length - (8 * (k + a) + 0)) + (if 0 = sccMemorySizeBytes hw then 1 else 0) < fuel
      rw [if_neg (by omega)]
      by_cases h0 : s.amount hw = 0
      · rw [if_pos (hzero h0)] at hfuel
        omega
      · split at hfuel <;> omega
    rcases hfeed with ⟨hcrc,hin,hx⟩ | ⟨hcrc,hin,hx⟩
    · -- the plaintext
      obtain ⟨hfill,hlocation,hinput,hle⟩ := hs.fill (show sealedBytes data = data ++ _ from rfl) hin hx.le
      have hlen : s.input.length = data.length - (8 * k + s.location) := by rw [hin,length_drop]
      have hamount : s.amount hw = min (data.length - (8 * k + s.location)) (sccMemorySizeBytes hw - s.location) := by
        rw [EncState.amount,hlen]
      have hne : s.input ≠ [] := fun h => by rw [h,length_nil] at hlen; omega
      have hcrc' : (s.fill hw).crc = some (crcOf (data.take (8 * k + (s.location + s.amount hw)))) := by
        rw [fill_crc,hcrc,hin,Option.map_some,← crcOf_append,← take_add,Nat.add_assoc]
      by_cases hlast : 8 * k + (s.location + s.amount hw) = data.length
      · -- its last byte: the CRC and the padding come next
        rw [hlast,take_length] at hcrc'
        rw [hlast,drop_length] at hinput
        rw [encLoop_seal fuel hne hinput hcrc']
        refine encLoop_sealed hhw hroom hlt fuel k _ ⟨hfill.out,hfill.vector,hfill.fits,hfill.room,hfill.held,
          hfill.redStart,hfill.blackStart⟩ (.inr ⟨rfl,?_,.inr ?_⟩) ?_
        · show _ = (sealedBytes data).drop (8 * k + (s.fill hw).location)
          rw [hlocation,hlast,sealedBytes,drop_left]
        · show 8 * k + (s.fill hw).location < _
          rw [hlocation]
          omega
        · show 2 * ((sealedBytes data).length - (8 * k + (s.fill hw).location)) + _ < fuel
          rw [hlocation]
          split at hfuel <;> split <;> omega
      · -- the memory is full
        have hfull : s.location + s.amount hw = 8 * (hw.blocks - 80) := by omega
        refine hcipher (hw.blocks - 80) hfill hlocation hfull (by omega) hne (.inl ?_) (fun scm => .inl ⟨?_,?_,?_⟩)
          (by omega)
        · rw [hinput]
          intro h
          have := congrArg List.length h
          rw [length_drop,length_nil] at this
          omega
        · show (s.fill hw).crc = _
          rw [hcrc',hfull,← Nat.mul_add]
          rfl
        · show (s.fill hw).input = _
          rw [hinput,hfull,← Nat.mul_add]
          rfl
        · show 8 * (k + (hw.blocks - 80)) + 0 < data.length
          omega
    · -- the CRC and the padding
      have hlen : s.input.length = (sealedBytes data).length - (8 * k + s.location) := by rw [hin,length_drop]
      by_cases hend : 8 * k + s.location = (sealedBytes data).length
      · have hloc0 : s.location = 0 := hx.resolve_right (by omega)
        have hnil : s.input = [] := length_eq_zero_iff.mp (by omega)
        refine ⟨s.scm,?_⟩
        rw [encLoop_done fuel hnil,hout,hs.out]
        have hk : 8 * k = (sealedBytes data).length := by omega
        rw [hk,take_length,hT]
      · obtain ⟨hfill,hlocation,hinput,hle⟩ := hs.fill (show sealedBytes data = sealedBytes data ++ [] by simp) hin hfits
        have hamount : s.amount hw = min ((sealedBytes data).length - (8 * k + s.location)) (sccMemorySizeBytes hw - s.location) := by
          rw [EncState.amount,hlen]
        have hne : s.input ≠ [] := fun h => by rw [h,length_nil] at hlen; omega
        have hcrc' : (s.fill hw).crc = none := by rw [fill_crc,hcrc]; rfl
        obtain ⟨a,ha⟩ : ∃ a, s.location + s.amount hw = 8 * a := by
          by_cases hfull : sccMemorySizeBytes hw - s.location ≤ (sealedBytes data).length - (8 * k + s.location)
          · exact ⟨hw.blocks - 80,by omega⟩
          · exact ⟨m - k,by omega⟩
        refine hcipher a hfill hlocation ha (by omega) hne (.inr hcrc') (fun scm => .inr ⟨hcrc',?_,.inl rfl⟩) (by omega)
        show (s.fill hw).input = _
        rw [hinput,ha,← Nat.mul_add]
        rfl

lemma sccEncrypt_sealed (hhw : 80 < hw.blocks) (hdata : data ≠ []) {scm : Scm}
  (hroom : sealedLength data.length ≤ countOut) (hlt : sealedLength data.length < 2 ^ 32)
  (hred : scm.redStart = 80) (hblack : scm.blackStart = 80) :
  ∃ scm', sccEncrypt hw cbc data true countOut scm =
    ⟨.ok, (codeBytes (hw.encBlock cbc) scm.vector (sealedBytes data)).1, sealedLength data.length, scm'⟩ := by
  have hpos : 0 < data.length := length_pos_iff.mpr hdata
  refine encLoop_sealed hhw hroom hlt _ 0 _ ⟨rfl,rfl,?_,Nat.zero_le _,Holds.nil _ _,hred,hblack⟩ (.inl ⟨rfl,rfl,hpos⟩) ?_
  · exact Nat.zero_le _
  · have hpad := paddingByteCount_bounds data.length
    simp only [passes,length_sealedBytes,sealedLength,CRC_SIZE_BYTES]
    split <;> omega

end

end Mx27.Scc
