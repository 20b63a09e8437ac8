/-
# Associated data in CCM
-/
import Mx27Drivers.Shw.Request

namespace Mx27.Shw

open List BitVec

open Sahara (Return)

def SAH_HDR_SKHA_SET_MODE_IV_KEY : BitVec 32 := 0x10880000#32
def SAH_HDR_SKHA_SET_MODE_ENC_DEC : BitVec 32 := 0x108d0000#32
def SAH_HDR_SKHA_ENC_DEC : BitVec 32 := 0x90850000#32
def SAH_HDR_SKHA_READ_CONTEXT_IV : BitVec 32 := 0x10820000#32

def insertSkhaModulus128 : BitVec 32 := 0x00001e00#32
def insertSkhaModeCtr : BitVec 32 := 0x00000018#32
def insertSkhaModeCcm : BitVec 32 := 0x80000010#32
def insertSkhaModeCbc : BitVec 32 := 0x80000008#32
def insertSkhaEncrypt : BitVec 32 := 0x80000004#32

def opOf (header : BitVec 32) : BitVec 32 := header &&& 0x7fff0000#32

def skhaMode (header : BitVec 32) : BitVec 32 := header &&& 0x18#32

/-! ### The request -/

inductive AccMode
  | ccm
  | ssl
  deriving DecidableEq

/-- `fsl_shw_acco_t`; `block_size_bytes` is 16 in both contexts. -/
structure AuthCtx where
  mode : AccMode
  ctxInit : Bool
  ctxLoad : Bool
  ctxSave : Bool
  ctxFinalize : Bool
  nistCcm : Bool
  macLength : BitVec 8
  cipherContext : Ptr
  ccmContext : Ptr
  unencryptedMac : Ptr

structure Statics where
  cbcBuffer : Ptr
  garbageOutput : Ptr
  blockZeros : Ptr

structure CcmRequest where
  authCtx : AuthCtx
  key : KeyInfo
  authDataLength : BitVec 32
  authData : Ptr
  payloadLength : BitVec 32
  payload : Option Ptr
  ct : Option Ptr
  authValue : Option Ptr

def BLOCK_SIZE_BYTES : BitVec 32 := 16#32

def CBC_BUF_LEN : BitVec 32 := 4096#32

def computeNistAuthLenSize (l : BitVec 32) : BitVec 32 := if l < 65280#32 then 2#32 else 6#32

def storeNistAuthLen (l : BitVec 32) : List Byte :=
  if l < 65280#32 then [((l >>> 8) &&& 0xff#32).setWidth 8, (l &&& 0xff#32).setWidth 8]
  else
    [0xff#8, 0xfe#8, ((l >>> 24) &&& 0xff#32).setWidth 8, ((l >>> 16) &&& 0xff#32).setWidth 8,
      ((l >>> 8) &&& 0xff#32).setWidth 8, (l &&& 0xff#32).setWidth 8]

def storeBytes (p : Ptr) (bytes : List Byte) (m : Mem) : Mem := fun b i =>
  if b = p.block ∧ p.offset ≤ i ∧ i < p.offset + bytes.length then bytes.getD (i - p.offset) 0 else m b i

def usesFlags : LinkFlags := ⟨false, false, false, false, false⟩

def ownsFlags : LinkFlags := ⟨true, false, false, false, false⟩

section
variable (st : Statics) (req : CcmRequest)

def loadCtrKey : List Desc → Build (List Desc) :=
  addInKeyDesc (SAH_HDR_SKHA_SET_MODE_IV_KEY ^^^ insertSkhaEncrypt ^^^ insertSkhaModeCtr ^^^ insertSkhaModulus128)
    (some req.authCtx.cipherContext) BLOCK_SIZE_BYTES req.key

def loadDummyIv (encrypt : Bool) (size : BitVec 32) : List Desc → Build (List Desc) :=
  addTwoInDesc (SAH_HDR_SKHA_SET_MODE_IV_KEY ^^^ insertSkhaModeCbc ^^^ (if encrypt then insertSkhaEncrypt else 0#32))
    (some st.blockZeros) size none 0#32

def authPadLength : BitVec 32 :=
  let auth_pad_length :=
    BLOCK_SIZE_BYTES - (req.authDataLength + computeNistAuthLenSize req.authDataLength) % BLOCK_SIZE_BYTES
  if auth_pad_length = BLOCK_SIZE_BYTES then 0#32 else auth_pad_length

def appendPad (link1 : List Link) : Build (List Link) :=
  if 0#32 < authPadLength req then
    (sahAppendLink link1 st.blockZeros (authPadLength req) usesFlags).onFailure (sahDestroyLink link1)
  else pure link1

def processAssocFromNistParams (tempBuf : Ptr) : Build (List Link × BitVec 32) := do
  let auth_size_length := computeNistAuthLenSize req.authDataLength
  let block0 ← sahCreateLink req.authCtx.ccmContext BLOCK_SIZE_BYTES usesFlags
  Build.act fun w => w.emit [.change (storeBytes tempBuf (storeNistAuthLen req.authDataLength))]
  let link1 ← (sahAppendLink [block0] tempBuf auth_size_length ownsFlags).onFailure (sahDestroyLink [block0])
  let link1 ← (sahAppendLink link1 req.authData req.authDataLength usesFlags).onFailure (sahDestroyLink link1)
  let link1 ← appendPad st req link1
  return (link1, BLOCK_SIZE_BYTES + req.authDataLength + auth_size_length + authPadLength req)

def sinkLoop (link1 : List Link) : ℕ → BitVec 32 → List Link → Build (List Link)
  | 0, _, link2 => pure link2
  | fuel + 1, cbc_data_length, link2 =>
    if cbc_data_length = 0#32 then pure link2
    else do
      let linklen := if CBC_BUF_LEN < cbc_data_length then CBC_BUF_LEN else cbc_data_length
      let link2' ← (sahAppendLink link2 st.cbcBuffer linklen ⟨false, true, false, false, false⟩).onFailure
        fun w => sahDestroyLink link2 (sahDestroyLink link1 w)
      sinkLoop link1 fuel (cbc_data_length - linklen) link2'

structure AssocPart where
  link1 : List Link
  cbcDataLength : BitVec 32
  tempBuf : Ptr
  owns : Bool

def assocPart (tempBuf : Ptr) : Build AssocPart :=
  if req.authCtx.nistCcm then do
    let r ← processAssocFromNistParams st req tempBuf
    return ⟨r.1, r.2, tempBuf.add (computeNistAuthLenSize req.authDataLength), false⟩
  else do
    let link ← sahCreateLink req.authData req.authDataLength usesFlags
    return ⟨[link], req.authDataLength, tempBuf, true⟩

def addAssocPreamble (chain : List Desc) : Build (List Desc) := do
  let temp_buf ← Build.malloc
  let part ← assocPart st req temp_buf
  let link ← (sahCreateLink part.tempBuf BLOCK_SIZE_BYTES ⟨part.owns, true, false, false, false⟩).onFailure
    (sahDestroyLink part.link1)
  let cbc_data_length := part.cbcDataLength - BLOCK_SIZE_BYTES
  let link2 ← sinkLoop st part.link1 cbc_data_length.toNat cbc_data_length [link]
  sahAppendDesc chain SAH_HDR_SKHA_ENC_DEC part.link1 link2

def processPayload (encrypt : Bool) (input output : Option Ptr) : List Desc → Build (List Desc) :=
  addInOutDesc
    (SAH_HDR_SKHA_SET_MODE_ENC_DEC ^^^ insertSkhaModeCcm ^^^ insertSkhaModulus128 ^^^
      (if encrypt then insertSkhaEncrypt else 0#32))
    input req.payloadLength output req.payloadLength

def extractMac (mac : Ptr) : List Desc → Build (List Desc) :=
  addInOutDesc SAH_HDR_SKHA_READ_CONTEXT_IV none 0#32 (some mac) (req.authCtx.macLength.setWidth 32)

def orDestroy (f : List Desc → Build (List Desc)) (chain : List Desc) : Build (List Desc) :=
  (f chain).onFailure (sahDescriptorChainDestroy chain)

def encryptMac (input output : Option Ptr) (chain : List Desc) : Build (List Desc) := do
  let chain ← orDestroy (addTwoInDesc
    (SAH_HDR_SKHA_SET_MODE_IV_KEY ^^^ insertSkhaEncrypt ^^^ insertSkhaModeCtr ^^^ insertSkhaModulus128)
    (some req.authCtx.cipherContext) BLOCK_SIZE_BYTES none 0#32) chain
  orDestroy (addInOutDesc SAH_HDR_SKHA_ENC_DEC input (req.authCtx.macLength.setWidth 32) output
    (req.authCtx.macLength.setWidth 32)) chain

def AuthCtx.OneShot (ctx : AuthCtx) : Prop :=
  ctx.ctxInit = true ∧ ctx.ctxLoad = false ∧ ctx.ctxSave = false ∧ ctx.ctxFinalize = true

instance (ctx : AuthCtx) : Decidable ctx.OneShot := inferInstanceAs (Decidable (_ ∧ _ ∧ _ ∧ _))

def prologue (first : List Desc → Build (List Desc)) : Build (List Desc) := do
  if req.authCtx.mode ≠ .ccm then Build.fail .badMode
  else if ¬ req.authCtx.OneShot then Build.fail .badFlag
  else do
    let chain ← loadCtrKey req []
    let chain ← orDestroy first chain
    let chain ← orDestroy (loadDummyIv st true BLOCK_SIZE_BYTES) chain
    if 0#32 < req.authDataLength then orDestroy (addAssocPreamble st req) chain else pure chain

def genEncryptChain : Build (List Desc) := do
  let chain ← prologue st req
    (addInOutDesc SAH_HDR_SKHA_ENC_DEC (some st.garbageOutput) 1#32 (some st.garbageOutput) 1#32)
  let chain ← orDestroy (processPayload req true req.payload req.ct) chain
  let chain ← orDestroy (extractMac req req.authCtx.unencryptedMac) chain
  encryptMac req (some req.authCtx.unencryptedMac) req.authValue chain

def authDecryptChain : Build (List Desc × Ptr) := do
  let mac_length := req.authCtx.macLength.setWidth 32
  let chain ← prologue st req
    (addInOutDesc SAH_HDR_SKHA_ENC_DEC req.authValue mac_length (some req.authCtx.unencryptedMac) mac_length)
  let chain ← orDestroy (processPayload req false req.ct req.payload) chain
  let calced_auth ← Build.malloc.onFailure (sahDescriptorChainDestroy chain)
  let chain ← (orDestroy (extractMac req calced_auth) chain).onFailure
    (World.emit [.free calced_auth.block calced_auth.offset])
  return (chain, calced_auth)

end

def cbcInput (m : Mem) : BitVec 32 → List Byte → List Desc → List Byte
  | _, data, [] => data
  | mode, data, d :: chain =>
    if opOf d.header = opOf SAH_HDR_SKHA_SET_MODE_IV_KEY then cbcInput m (skhaMode d.header) [] chain
    else if opOf d.header = opOf SAH_HDR_SKHA_SET_MODE_ENC_DEC ∧ skhaMode d.header = skhaMode insertSkhaModeCcm then data
    else if opOf d.header = opOf SAH_HDR_SKHA_ENC_DEC ∧ mode = skhaMode insertSkhaModeCbc then
      cbcInput m mode (data ++ readLinks m d.ptr1) chain
    else cbcInput m mode data chain

lemma cbcInput_alike {m : Mem} {chain chain' : List Desc} (h : List.Forall₂ (Desc.Alike m) chain chain') :
  ∀ (mode : BitVec 32) (data : List Byte), cbcInput m mode data chain' = cbcInput m mode data chain := by
  induction h with
  | nil => exact fun _ _ => rfl
  | cons hd _ ih =>
    intro mode data
    rw [cbcInput,cbcInput,hd.header,hd.data1,ih,ih,ih]

def nistLength (n : ℕ) : List Byte :=
  if n < 65280 then [BitVec.ofNat 8 (n / 256), BitVec.ofNat 8 n]
  else
    [0xff#8, 0xfe#8, BitVec.ofNat 8 (n / 2 ^ 24), BitVec.ofNat 8 (n / 2 ^ 16), BitVec.ofNat 8 (n / 2 ^ 8),
      BitVec.ofNat 8 n]

structure Formatted (block0 assoc data : List Byte) : Prop where
  none : assoc = [] → data = block0
  some : assoc ≠ [] → ∃ p, data = block0 ++ nistLength assoc.length ++ assoc ++ List.replicate p 0#8 ∧
    IsLeast {q | 16 ∣ (block0 ++ nistLength assoc.length ++ assoc).length + q} p
  blocks : 16 ∣ data.length

lemma storeNistAuthLen_eq (l : BitVec 32) : storeNistAuthLen l = nistLength l.toNat := by
  have hbyte : ∀ k, ((l >>> k) &&& 0xff#32).setWidth 8 = BitVec.ofNat 8 (l.toNat / 2 ^ k) := by
    intro k
    apply eq_of_toNat_eq
    rw [toNat_setWidth,toNat_and,show (255#32).toNat = 2 ^ 8 - 1 from rfl,
      Nat.and_two_pow_sub_one_eq_mod,Nat.mod_mod,toNat_ushiftRight,Nat.shiftRight_eq_div_pow,
      toNat_ofNat]
  have h0 : (l &&& 0xff#32).setWidth 8 = BitVec.ofNat 8 l.toNat := by
    have h := hbyte 0
    rwa [ushiftRight_zero,pow_zero,Nat.div_one] at h
  rw [storeNistAuthLen,nistLength,hbyte,hbyte,hbyte,h0]
  rfl

lemma nistLength_length (n : ℕ) : (nistLength n).length = if n < 65280 then 2 else 6 := by
  rw [nistLength]
  split <;> rfl

lemma computeNistAuthLenSize_eq (l : BitVec 32) : (computeNistAuthLenSize l).toNat = (nistLength l.toNat).length := by
  rw [computeNistAuthLenSize,nistLength_length]
  have hlt : l < 65280#32 ↔ l.toNat < 65280 := Iff.rfl
  rw [if_congr hlt rfl rfl]
  split <;> rfl

lemma authPadLength_eq (req : CcmRequest) : (authPadLength req).toNat =
  (16 - (req.authDataLength.toNat + (nistLength req.authDataLength.toNat).length) % 16) % 16 := by
  have hmod : ((req.authDataLength + computeNistAuthLenSize req.authDataLength) % BLOCK_SIZE_BYTES).toNat =
      (req.authDataLength.toNat + (nistLength req.authDataLength.toNat).length) % 16 := by
    rw [toNat_umod,toNat_add,computeNistAuthLenSize_eq]
    exact Nat.mod_mod_of_dvd _ (by decide)
  rw [authPadLength,← hmod]
  generalize (req.authDataLength + computeNistAuthLenSize ..) % BLOCK_SIZE_BYTES = r at hmod
  have hblock : BLOCK_SIZE_BYTES = 16#32 := rfl
  by_cases hzero : BLOCK_SIZE_BYTES - r = BLOCK_SIZE_BYTES
  · rw [if_pos hzero]
    bv_omega
  · rw [if_neg hzero]
    bv_omega

lemma authPadLength_least (req : CcmRequest) :
  IsLeast {q | 16 ∣ 16 + (nistLength req.authDataLength.toNat).length + req.authDataLength.toNat + q}
    (authPadLength req).toNat := by
  rw [authPadLength_eq]
  refine ⟨?_,fun q hq => ?_⟩
  · show 16 ∣ _
    omega
  · have hq' : 16 ∣ 16 + (nistLength ..).length + req.authDataLength.toNat + q := hq
    omega

/-! ### The associated data -/

lemma malloc_ok {w w' : World} {p : Ptr} (h : Build.malloc w = (.ok p, w')) :
  p.block = (w.buffers, false) ∧ p.offset = 0 ∧ w'.log = w.log ∧ w'.buffers = w.buffers + 1 := by
  have hsame := World.Same.alloc w
  rw [Build.malloc] at h
  split at h
  · next w1 halloc =>
    rw [halloc] at hsame
    obtain ⟨hp,rfl⟩ := Prod.mk.inj h
    cases hp
    exact ⟨by rw [Ptr.block,hsame.buffers],rfl,hsame.log,by rw [hsame.buffers]⟩
  · cases h

section
variable {st : Statics} {req : CcmRequest} {w w' : World}

def assocLinks (st : Statics) (req : CcmRequest) (tempBuf : Ptr) : List Link :=
  [newLink req.authCtx.ccmContext BLOCK_SIZE_BYTES usesFlags,
      newLink tempBuf (computeNistAuthLenSize req.authDataLength) ownsFlags,
      newLink req.authData req.authDataLength usesFlags] ++
    if 0#32 < authPadLength req then [newLink st.blockZeros (authPadLength req) usesFlags] else []

variable {p : Ptr} {chain : List Desc} {make1 make2 : Build (List Link)} {m : Mem}

lemma processAssoc_ok {r : List Link × BitVec 32} (h : processAssocFromNistParams st req p w = (.ok r, w')) :
  r.1 = assocLinks st req p ∧ w'.buffers = w.buffers ∧
    w'.log = w.log ++ [.change (storeBytes p (storeNistAuthLen req.authDataLength))] := by
  obtain ⟨block0,w1,h0,h⟩ := Build.bind_eq_ok h
  obtain ⟨hw1,rfl⟩ := createLink_yields _ _ _ _ _ _ h0
  obtain ⟨u,w2,h2,h⟩ := Build.bind_eq_ok h
  obtain ⟨-,rfl⟩ := Prod.mk.inj h2
  obtain ⟨link1,w3,h3,h⟩ := Build.bind_eq_ok h
  obtain ⟨hw3,rfl⟩ := (appendLink_yields _ _ _ _).onFailure _ _ _ _ h3
  obtain ⟨link1,w4,h4,h⟩ := Build.bind_eq_ok h
  obtain ⟨hw4,rfl⟩ := (appendLink_yields _ _ _ _).onFailure _ _ _ _ h4
  obtain ⟨link1,w5,h5,h⟩ := Build.bind_eq_ok h
  obtain ⟨hr,rfl⟩ := Prod.mk.inj h
  cases hr
  have hlog : w4.log = w.log ++ [.change (storeBytes p (storeNistAuthLen req.authDataLength))] := by
    rw [hw4.log,hw3.log,← hw1.log]
    rfl
  have hbuffers : w4.buffers = w.buffers := (hw4.buffers.trans hw3.buffers).trans hw1.buffers
  rw [assocLinks]
  unfold appendPad at h5
  split at h5
  · next hpad =>
    obtain ⟨hw5,rfl⟩ := (appendLink_yields _ _ _ _).onFailure _ _ _ _ h5
    rw [if_pos hpad,hw5.log,hlog,hw5.buffers,hbuffers]
    exact ⟨rfl,rfl,rfl⟩
  · next hpad =>
    obtain ⟨hlinks,rfl⟩ := Prod.mk.inj h5
    cases hlinks
    rw [if_neg hpad,hlog,hbuffers]
    exact ⟨rfl,rfl,rfl⟩

lemma sinkLoop_yields (link1 : List Link) : ∀ (fuel : ℕ) (n : BitVec 32) (link2 : List Link),
  Yields (sinkLoop st link1 fuel n link2) fun links => ∃ more, links = link2 ++ more ∧
    ∀ link ∈ more, link.flags = ⟨false, true, false, false, false⟩
  | 0, _, _ => Yields.pure ⟨[], (append_nil _).symm, fun _ h => absurd h not_mem_nil⟩
  | fuel + 1, n, link2 => by
    unfold sinkLoop
    split
    · exact Yields.pure ⟨[],(append_nil _).symm,fun _ h => absurd h not_mem_nil⟩
    · refine ((appendLink_yields _ _ _ _).onFailure _).bind fun link2' hlink2' w w' links h => ?_
      obtain ⟨hw,more,rfl,hmore⟩ := sinkLoop_yields link1 fuel _ link2' _ _ _ h
      refine ⟨hw,_,by rw [hlink2',List.append_assoc],fun link hlink => ?_⟩
      rcases mem_append.mp hlink with hlink | hlink
      · rw [mem_singleton.mp hlink]
        rfl
      · exact hmore link hlink

lemma whole_of_output {link : Link} {rest : List Link} (h : link.flags.output = true) : Whole (link :: rest) := by
  rintro ⟨hout,-⟩
  rw [hout link rfl] at h
  cases h

def Desc.Whole (d : Desc) : Prop := Shw.Whole d.ptr1 ∧ Shw.Whole d.ptr2

lemma assocLinks_whole (hn : req.authDataLength ≠ 0#32) (p : Ptr) : Whole (assocLinks st req p) := by
  intro _ link hlink
  rw [assocLinks] at hlink
  split at hlink
  · next hpad =>
    cases hlink
    intro hzero
    rw [show authPadLength req = 0#32 from hzero] at hpad
    exact absurd hpad (by decide)
  · cases hlink
    exact hn

lemma preamble_ok (hnist : req.authCtx.nistCcm = true) (hn : req.authDataLength ≠ 0#32) {chain' : List Desc}
  (h : addAssocPreamble st req chain w = (.ok chain', w')) :
  ∃ d p, chain' = chain ++ [d] ∧ d.header = SAH_HDR_SKHA_ENC_DEC ∧ d.ptr1 = assocLinks st req p ∧ d.Whole ∧
    p.block = (w.buffers, false) ∧ p.offset = 0 ∧
    w'.log = w.log ++ [.change (storeBytes p (storeNistAuthLen req.authDataLength))] := by
  obtain ⟨p,w1,hp,h⟩ := Build.bind_eq_ok h
  obtain ⟨hblock,hoff,hlog1,-⟩ := malloc_ok hp
  obtain ⟨part,w2,h2,h⟩ := Build.bind_eq_ok h
  unfold assocPart at h2
  rw [if_pos hnist] at h2
  obtain ⟨r,w3,h3,h2⟩ := Build.bind_eq_ok h2
  obtain ⟨hlink1,-,hlog3⟩ := processAssoc_ok h3
  obtain ⟨hpart,rfl⟩ := Prod.mk.inj h2
  cases hpart
  obtain ⟨link,w4,h4,h⟩ := Build.bind_eq_ok h
  obtain ⟨hw4,hlink⟩ := (createLink_yields _ _ _).onFailure _ _ _ _ h4
  obtain ⟨link2,w5,h5,h⟩ := Build.bind_eq_ok h
  obtain ⟨hw5,more,rfl,-⟩ := sinkLoop_yields _ _ _ _ _ _ _ h5
  obtain ⟨hw',rfl⟩ := appendDesc_yields _ _ _ _ _ _ _ h
  refine ⟨_,p,rfl,rfl,hlink1,⟨?_,?_⟩,hblock,hoff,?_⟩
  · exact hlink1 ▸ assocLinks_whole hn p
  · exact whole_of_output (by rw [hlink]; rfl)
  · rw [hw'.log,hw5.log,hw4.log,hlog3,hlog1]

/-! ### The chain -/

lemma addDesc_whole {header : BitVec 32} (h1 : Yields make1 fun l => l.length ≤ 1)
  (h2 : Yields make2 fun l => l.length ≤ 1) (chain : List Desc) : Yields (addDesc header make1 make2 chain) fun chain' =>
    ∃ d, chain' = chain ++ [d] ∧ d.header = header ∧ d.Whole := by
  intro w w' chain' h
  obtain ⟨hw,d,hd,hheader,hd1,hd2⟩ := addDesc_ok h1 h2 chain _ _ _ h
  exact ⟨hw,d,hd,hheader,whole_of_short hd1,whole_of_short hd2⟩

lemma userLink_short (p : Option Ptr) (n : BitVec 32) (output : Bool) :
  Yields (userLink p n output) fun l => l.length ≤ 1 := by
  intro w w' links h
  obtain ⟨hw,rfl⟩ := userLink_yields p n output _ _ _ h
  cases p <;> exact ⟨hw,by simp⟩

lemma keyLink_short (k : KeyInfo) : Yields (keyLink k) fun l => l.length ≤ 1 := by
  intro w w' links h
  obtain ⟨hw,hlen⟩ := keyLink_yields k _ _ _ h
  exact ⟨hw,hlen.le⟩

lemma orDestroy_addDesc {header : BitVec 32}
  (h1 : Yields make1 fun l => l.length ≤ 1) (h2 : Yields make2 fun l => l.length ≤ 1) (chain : List Desc) :
  Yields (orDestroy (addDesc header make1 make2) chain) fun chain' =>
    ∃ d, chain' = chain ++ [d] ∧ d.header = header ∧ d.Whole :=
  (addDesc_whole h1 h2 chain).onFailure _

structure Opening (st : Statics) (req : CcmRequest) (w w' : World) (p : Ptr) (chain : List Desc) : Prop where
  shape : ∃ d1 d2 d3 assoc, chain = d1 :: d2 :: d3 :: assoc ∧
    d1.header = SAH_HDR_SKHA_SET_MODE_IV_KEY ^^^ insertSkhaEncrypt ^^^ insertSkhaModeCtr ^^^ insertSkhaModulus128 ∧
    d2.header = SAH_HDR_SKHA_ENC_DEC ∧
    d3.header = SAH_HDR_SKHA_SET_MODE_IV_KEY ^^^ insertSkhaModeCbc ^^^ insertSkhaEncrypt ∧
    if req.authDataLength = 0#32 then assoc = []
    else ∃ d, assoc = [d] ∧ d.header = SAH_HDR_SKHA_ENC_DEC ∧ d.ptr1 = assocLinks st req p
  whole : ∀ d ∈ chain, d.Whole
  block : p.block = (w.buffers, false)
  offset : p.offset = 0
  log : w'.log = w.log ++ if req.authDataLength = 0#32 then []
    else [.change (storeBytes p (storeNistAuthLen req.authDataLength))]

lemma prologue_ok (hnist : req.authCtx.nistCcm = true) {inp out : Option Ptr} {n k : BitVec 32}
  (h : prologue st req (addInOutDesc SAH_HDR_SKHA_ENC_DEC inp n out k) w = (.ok chain, w')) :
  ∃ p, Opening st req w w' p chain := by
  unfold prologue at h
  split at h
  · cases h
  · split at h
    · cases h
    · obtain ⟨chain1,w1,h1,h⟩ := Build.bind_eq_ok h
      obtain ⟨hw1,d1,rfl,hh1,hd1⟩ := addDesc_whole (userLink_short _ _ _) (keyLink_short _) _ _ _ _ h1
      obtain ⟨chain2,w2,h2,h⟩ := Build.bind_eq_ok h
      obtain ⟨hw2,d2,rfl,hh2,hd2⟩ :=
        orDestroy_addDesc (userLink_short _ _ _) (userLink_short _ _ _) _ _ _ _ h2
      obtain ⟨chain3,w3,h3,h⟩ := Build.bind_eq_ok h
      obtain ⟨hw3,d3,rfl,hh3,hd3⟩ :=
        orDestroy_addDesc (userLink_short _ _ _) (userLink_short _ _ _) _ _ _ _ h3
      have hw := (hw1.trans hw2).trans hw3
      by_cases hn : req.authDataLength = 0#32
      · rw [hn,if_neg (by decide)] at h
        obtain ⟨hc,rfl⟩ := Prod.mk.inj h
        cases hc
        refine ⟨⟨w.buffers,0,0,false⟩,⟨d1,d2,d3,[],rfl,hh1,hh2,hh3,?_⟩,?_,rfl,rfl,?_⟩
        · rw [if_pos hn]
        · simp [hd1,hd2,hd3]
        · rw [if_pos hn,hw.log,append_nil]
      · rw [if_pos (by bv_omega)] at h
        obtain ⟨d,p,rfl,hh,hptr,hd,hblock,hoff,hlog⟩ := preamble_ok hnist hn (Build.onFailure_eq_ok.mp h)
        refine ⟨p,⟨d1,d2,d3,[d],rfl,hh1,hh2,hh3,?_⟩,?_,?_,hoff,?_⟩
        · rw [if_neg hn]
          exact ⟨d,rfl,hh,hptr⟩
        · simp [hd1,hd2,hd3,hd]
        · rw [hblock,hw.buffers]
        · rw [if_neg hn,hlog,hw.log]

def ccmChain (st : Statics) (req : CcmRequest) (encrypt : Bool) : Build (List Desc) :=
  if encrypt then genEncryptChain st req
  else do
    let r ← authDecryptChain st req
    return r.1

lemma chain_shape (hnist : req.authCtx.nistCcm = true) {encrypt : Bool}
  (h : ccmChain st req encrypt w = (.ok chain, w')) :
  ∃ w₁ p first payload rest, Opening st req w w₁ p first ∧ chain = first ++ payload :: rest ∧
    opOf payload.header = opOf SAH_HDR_SKHA_SET_MODE_ENC_DEC ∧
    skhaMode payload.header = skhaMode insertSkhaModeCcm ∧ (∀ d ∈ payload :: rest, d.Whole) ∧ w'.log = w₁.log := by
  have user := userLink_short
  unfold ccmChain at h
  split at h
  · obtain ⟨first,w₁,h1,h⟩ := Build.bind_eq_ok h
    obtain ⟨p,hopen⟩ := prologue_ok hnist h1
    obtain ⟨chain2,w2,h2,h⟩ := Build.bind_eq_ok h
    obtain ⟨hw2,d2,rfl,hh2,hd2⟩ := orDestroy_addDesc (user _ _ _) (user _ _ _) _ _ _ _ h2
    obtain ⟨chain3,w3,h3,h⟩ := Build.bind_eq_ok h
    obtain ⟨hw3,d3,rfl,-,hd3⟩ := orDestroy_addDesc (user _ _ _) (user _ _ _) _ _ _ _ h3
    obtain ⟨chain4,w4,h4,h⟩ := Build.bind_eq_ok h
    obtain ⟨hw4,d4,rfl,-,hd4⟩ := orDestroy_addDesc (user _ _ _) (user _ _ _) _ _ _ _ h4
    obtain ⟨hw',d5,rfl,-,hd5⟩ := orDestroy_addDesc (user _ _ _) (user _ _ _) _ _ _ _ h
    refine ⟨w₁,p,first,d2,[d3,d4,d5],hopen,by simp,by rw [hh2]; rfl,by rw [hh2]; rfl,?_,?_⟩
    · simp [hd2,hd3,hd4,hd5]
    · rw [hw'.log,hw4.log,hw3.log,hw2.log]
  · obtain ⟨r,w5,hdec,hpure⟩ := Build.bind_eq_ok h
    obtain ⟨hr,rfl⟩ := Prod.mk.inj hpure
    cases hr
    obtain ⟨first,w₁,h1,h⟩ := Build.bind_eq_ok hdec
    obtain ⟨p,hopen⟩ := prologue_ok hnist h1
    obtain ⟨chain2,w2,h2,h⟩ := Build.bind_eq_ok h
    obtain ⟨hw2,d2,rfl,hh2,hd2⟩ := orDestroy_addDesc (user _ _ _) (user _ _ _) _ _ _ _ h2
    obtain ⟨calced,w3,h3,h⟩ := Build.bind_eq_ok h
    obtain ⟨-,-,hlog3,-⟩ := malloc_ok (Build.onFailure_eq_ok.mp h3)
    obtain ⟨chain4,w4,h4,h⟩ := Build.bind_eq_ok h
    obtain ⟨hw4,d4,rfl,-,hd4⟩ :=
      orDestroy_addDesc (user _ _ _) (user _ _ _) _ _ _ _ (Build.onFailure_eq_ok.mp h4)
    obtain ⟨hr,rfl⟩ := Prod.mk.inj h
    cases hr
    refine ⟨w₁,p,first,d2,[d4],hopen,by simp,by rw [hh2]; rfl,by rw [hh2]; rfl,?_,?_⟩
    · simp [hd2,hd4]
    · rw [hw4.log,hlog3,hw2.log]

/-! ### What is run through the CBC-MAC -/

structure Placed (st : Statics) (req : CcmRequest) (w : World) (m : Mem) : Prop where
  ccmContext : req.authCtx.ccmContext.buffer < w.buffers
  authData : req.authData.buffer < w.buffers
  blockZeros : st.blockZeros.buffer < w.buffers
  zeros : ∀ i < 16, m st.blockZeros.block (st.blockZeros.offset + i) = 0#8

lemma bytesAt_store_other {q : Ptr} (h : q.block ≠ p.block) (bytes : List Byte) (n : ℕ) :
  bytesAt (storeBytes p bytes m) q n = bytesAt m q n := by
  refine map_congr_left fun i _ => ?_
  exact if_neg fun hi => h hi.1

lemma bytesAt_store_self (m : Mem) (p : Ptr) (bytes : List Byte) :
  bytesAt (storeBytes p bytes m) p bytes.length = bytes := by
  apply ext_getElem
  · rw [bytesAt,length_map,length_range]
  · intro i h1 h2
    simp only [bytesAt,getElem_map,getElem_range]
    rw [storeBytes,if_pos ⟨rfl,Nat.le_add_right _ _,by omega⟩,Nat.add_sub_cancel_left,getD_eq_getElem]

lemma bytesAt_zeros {k : ℕ} (hzero : ∀ i < k, m p.block (p.offset + i) = 0#8) {n : ℕ} (hn : n ≤ k) :
  bytesAt m p n = List.replicate n 0#8 := by
  refine eq_replicate_iff.mpr ⟨by rw [bytesAt,length_map,length_range],fun b hb => ?_⟩
  obtain ⟨i,hi,rfl⟩ := List.mem_map.mp hb
  exact hzero i ((mem_range.mp hi).trans_le hn)

lemma readLinks_assoc (hp : Placed st req w m) (hblock : p.block = (w.buffers, false)) :
  readLinks (storeBytes p (storeNistAuthLen req.authDataLength) m) (assocLinks st req p) =
    bytesAt m req.authCtx.ccmContext 16 ++ nistLength req.authDataLength.toNat ++
      bytesAt m req.authData req.authDataLength.toNat ++ List.replicate (authPadLength req).toNat 0#8 := by
  have hother : ∀ q : Ptr, q.buffer < w.buffers → q.block ≠ p.block := by
    intro q hq heq
    rw [hblock] at heq
    exact hq.ne (congrArg Prod.fst heq)
  have hpad : (authPadLength req).toNat ≤ 16 := by
    rw [authPadLength_eq]
    exact (Nat.mod_lt _ (by decide)).le
  have hzeros := bytesAt_zeros hp.zeros hpad
  have hfirst : readLinks (storeBytes p (nistLength req.authDataLength.toNat) m)
      [newLink req.authCtx.ccmContext BLOCK_SIZE_BYTES usesFlags,
        newLink p (computeNistAuthLenSize req.authDataLength) ownsFlags,
        newLink req.authData req.authDataLength usesFlags] =
      bytesAt m req.authCtx.ccmContext 16 ++ nistLength req.authDataLength.toNat ++
        bytesAt m req.authData req.authDataLength.toNat := by
    show bytesAt _ req.authCtx.ccmContext 16 ++ (bytesAt _ p (computeNistAuthLenSize ..).toNat ++
      (bytesAt _ req.authData req.authDataLength.toNat ++ [])) = _
    rw [bytesAt_store_other (hother _ hp.ccmContext),bytesAt_store_other (hother _ hp.authData),
      computeNistAuthLenSize_eq,bytesAt_store_self,append_nil,List.append_assoc]
  rw [storeNistAuthLen_eq,assocLinks,readLinks,flatMap_append]
  refine congrArg₂ _ hfirst ?_
  split
  · rw [flatMap_singleton,← hzeros]
    exact bytesAt_store_other (hother _ hp.blockZeros) ..
  · next hno =>
    have hzero : authPadLength req = 0#32 := by bv_omega
    rw [hzero]
    rfl

lemma cbcInput_assoc (hnist : req.authCtx.nistCcm = true) (encrypt : Bool)
  (h : ccmChain st req encrypt w = (.ok chain, w')) (hp : Placed st req w (Wipe.runAll w.log m))
  (mode : BitVec 32) (data : List Byte) :
  cbcInput (Wipe.runAll w'.log m) mode data (sahReworkLinks chain w').2.1 =
    if req.authDataLength = 0#32 then []
    else bytesAt (Wipe.runAll w.log m) req.authCtx.ccmContext 16 ++ nistLength req.authDataLength.toNat ++
      bytesAt (Wipe.runAll w.log m) req.authData req.authDataLength.toNat ++
        List.replicate (authPadLength req).toNat 0#8 := by
  obtain ⟨w1,p,first,payload,rest,hopen,rfl,hop,hmode,hwhole,hlog⟩ := chain_shape hnist h
  have hall : ∀ d ∈ first ++ payload :: rest, Whole d.ptr1 ∧ Whole d.ptr2 := by
    intro d hd
    rcases mem_append.mp hd with hd | hd
    · exact hopen.whole d hd
    · exact hwhole d hd
  rw [cbcInput_alike (readLinks_rework _ _ w' hall)]
  obtain ⟨d1,d2,d3,assoc,rfl,h1,h2,h3,hassoc⟩ := hopen.shape
  have hstop : ∀ mode' data', cbcInput (Wipe.runAll w'.log m) mode' data' (payload :: rest) = data' := by
    intro mode' data'
    rw [cbcInput,hop,if_neg (by decide),if_pos ⟨rfl,hmode⟩]
  have hstart : ∀ chain', cbcInput (Wipe.runAll w'.log m) mode data (d1 :: d2 :: d3 :: chain') =
      cbcInput (Wipe.runAll w'.log m) (skhaMode insertSkhaModeCbc) [] chain' := by
    intro chain'
    rw [cbcInput,h1,if_pos (by decide),cbcInput,h2,if_neg (by decide),if_neg (by decide),if_neg (by decide),
      cbcInput,h3,if_pos (by decide)]
    rfl
  have hmem := hopen.log
  split at hassoc
  · next hn =>
    rw [hassoc,if_pos hn]
    exact (hstart _).trans (hstop _ _)
  · next hn =>
    obtain ⟨d,rfl,hd,hptr⟩ := hassoc
    rw [if_neg hn] at hmem ⊢
    refine (hstart _).trans ?_
    show cbcInput _ _ _ (d :: payload :: rest) = _
    rw [cbcInput,hd,if_neg (by decide),if_neg (by decide),if_pos ⟨rfl,rfl⟩,hstop,hptr,hlog,
      hmem,Wipe.runAll_append]
    exact readLinks_assoc hp hopen.block

/-- **The associated data is formatted as it has to be** exactly if there is some. -/
theorem formatted_iff (hnist : req.authCtx.nistCcm = true) (encrypt : Bool) {chain : List Desc}
  (h : ccmChain st req encrypt w = (.ok chain, w')) {m : Mem} (hp : Placed st req w (Wipe.runAll w.log m))
  (mode : BitVec 32) (data : List Byte) :
  Formatted (bytesAt (Wipe.runAll w.log m) req.authCtx.ccmContext 16)
      (bytesAt (Wipe.runAll w.log m) req.authData req.authDataLength.toNat)
      (cbcInput (Wipe.runAll w'.log m) mode data (sahReworkLinks chain w').2.1) ↔
    req.authDataLength ≠ 0#32 := by
  rw [cbcInput_assoc hnist encrypt h hp]
  generalize Wipe.runAll w.log m = M
  by_cases hn : req.authDataLength = 0#32
  · refine iff_of_false (fun hf => ?_) (fun hne => hne hn)
    have hblock := hf.none (by rw [hn]; rfl)
    rw [if_pos hn] at hblock
    have hlen := congrArg List.length hblock
    rw [bytesAt_length] at hlen
    cases hlen
  · refine iff_of_true ?_ hn
    have hleast := authPadLength_least req
    have hlen : (bytesAt M req.authCtx.ccmContext 16 ++ nistLength req.authDataLength.toNat ++
        bytesAt M req.authData req.authDataLength.toNat).length =
        16 + (nistLength req.authDataLength.toNat).length + req.authDataLength.toNat := by
      rw [length_append,length_append,bytesAt_length,bytesAt_length]
    rw [if_neg hn]
    refine ⟨fun hnil => ?_,fun _ => ⟨(authPadLength req).toNat,?_,?_⟩,?_⟩
    · have hzero := congrArg List.length hnil
      rw [bytesAt_length] at hzero
      exact absurd (eq_of_toNat_eq hzero) hn
    · rw [bytesAt_length]
    · rw [bytesAt_length,hlen]
      exact hleast
    · rw [length_append,hlen,length_replicate]
      exact hleast.1

def userBuffer (i : ℕ) : Ptr := ⟨i, 0, 0x1000#32, false⟩

def sampleRequest (n : BitVec 32) : CcmRequest :=
  ⟨⟨.ccm, true, false, false, true, true, 8#8, userBuffer 0, userBuffer 1, userBuffer 2⟩,
    ⟨16#16, true, false, userBuffer 3, 0, 0⟩, n, userBuffer 4, 16#32, some (userBuffer 5), some (userBuffer 6),
    some (userBuffer 7)⟩

def sampleStatics : Statics := ⟨userBuffer 8, userBuffer 9, userBuffer 10⟩

def sampleWorld : World := ⟨[], [], 11, fun _ => 0x2000#32⟩

lemma sample_placed (n : BitVec 32) : Placed sampleStatics (sampleRequest n) sampleWorld fun _ _ => 0#8 :=
  ⟨show 1 < 11 by decide, show 4 < 11 by decide, by decide, fun _ _ => rfl⟩

theorem formatted_three : ∃ chain w', ccmChain sampleStatics (sampleRequest 3#32) true sampleWorld = (.ok chain, w') ∧
  (Formatted (List.replicate 16 0#8) (List.replicate 3 0#8)
      (cbcInput (Wipe.runAll w'.log fun _ _ => 0#8) 0#32 [] (sahReworkLinks chain w').2.1) ↔ 3#32 ≠ 0#32) := by
  obtain ⟨chain,w',h⟩ := Build.exists_ok (x := ccmChain sampleStatics (sampleRequest 3#32) true) (w := sampleWorld)
    (by decide +kernel)
  exact ⟨chain,w',h,formatted_iff rfl true h (sample_placed 3#32) 0#32 []⟩

/-- Without associated data nothing goes through the CBC-MAC before the payload. -/
theorem block0_left_out : ∃ chain w',
  ccmChain sampleStatics (sampleRequest 0#32) true sampleWorld = (.ok chain, w') ∧
  cbcInput (Wipe.runAll w'.log fun _ _ => 0#8) 0#32 [] (sahReworkLinks chain w').2.1 = [] ∧
  ¬ Formatted (List.replicate 16 0#8) []
    (cbcInput (Wipe.runAll w'.log fun _ _ => 0#8) 0#32 [] (sahReworkLinks chain w').2.1) := by
  obtain ⟨chain,w',h⟩ := Build.exists_ok (x := ccmChain sampleStatics (sampleRequest 0#32) true) (w := sampleWorld)
    (by decide +kernel)
  have hempty := cbcInput_assoc rfl true h (sample_placed 0#32) 0#32 []
  refine ⟨chain,w',h,hempty,fun hf => ?_⟩
  have hblock := hempty.symm.trans (hf.none rfl)
  cases hblock

end

end Mx27.Shw
