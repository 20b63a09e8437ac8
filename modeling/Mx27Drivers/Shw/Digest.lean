/-
# Hashing a message in parts

`fsl_shw_hash`, `fsl_shw_hmac_precompute` and `fsl_shw_hmac`.
-/
import Mx27Drivers.Shw.Accelerator

namespace Mx27.Shw

open List Function BitVec

open Sahara (Return)

/-! ### The message digest unit -/

inductive HashAlg
  | md5 | sha1 | sha224 | sha256
  deriving DecidableEq

namespace HashAlg

def digestLength : HashAlg → ℕ
  | .md5 => 16
  | .sha1 => 20
  | .sha224 => 28
  | .sha256 => 32

def contextLength : HashAlg → ℕ
  | .md5 => 16
  | .sha1 => 20
  | _ => 32

def contextRegisterLength : HashAlg → ℕ
  | .md5 | .sha1 => 24
  | _ => 36

def insertMdhaAlgorithm : HashAlg → BitVec 32
  | .md5 => 0x80000001#32
  | .sha1 => insertMdhaAlgorithmSha1
  | .sha224 => 0x00000003#32
  | .sha256 => 0x80000002#32

end HashAlg

def SAH_HDR_MDHA_STORE_DIGEST : BitVec 32 := 0x20820000#32
def insertMdhaOpad : BitVec 32 := 0x80000080#32
def insertMdhaIpad : BitVec 32 := 0x80000040#32

structure Hashing where
  State : Type
  start : HashAlg → State
  compress : HashAlg → State → List Byte → State
  padding : HashAlg → BitVec 32 → List Byte
  store : HashAlg → State × BitVec 32 → List Byte
  load : HashAlg → List Byte → State × BitVec 32
  length_store : ∀ a r, (store a r).length = a.contextRegisterLength
  load_store : ∀ a r, load a (store a r) = r
  load_state : ∀ a r, (load a ((store a r).take a.contextLength)).1 = r.1

def compressAll {σ : Type} (f : σ → List Byte → σ) (s : σ) (data : List Byte) : σ :=
  if 64 ≤ data.length then compressAll f (f s (data.take 64)) (data.drop 64) else s
termination_by data.length

structure MdhaMode where
  alg : HashAlg
  pdata : Bool
  hmac : Bool
  init : Bool
  ipad : Bool
  opad : Bool
  macFull : Bool
  deriving DecidableEq

def MdhaMode.ofHeader (header : BitVec 32) : MdhaMode :=
  ⟨if header.getLsbD 1 then if header.getLsbD 0 then .sha224 else .sha256 else if header.getLsbD 0 then .md5 else .sha1,
    header.getLsbD 2, header.getLsbD 3, header.getLsbD 5, header.getLsbD 6, header.getLsbD 7, header.getLsbD 9⟩

def keyPad (b : Byte) (key : List Byte) : List Byte := (key ++ List.replicate (64 - key.length) 0#8).map (· ^^^ b)

inductive Buf
  | msg | result | context | inner | outer | key
  deriving DecidableEq

structure HashLink where
  buf : Buf
  len : ℕ
  output : Bool

structure HashDesc where
  header : BitVec 32
  link1 : Option HashLink
  link2 : Option HashLink

abbrev Bufs : Type := Buf → List Byte

def Bufs.read (m : Bufs) (link : Option HashLink) : List Byte := link.elim [] fun l => (m l.buf).take l.len

def Bufs.write (m : Bufs) (link : Option HashLink) (bytes : List Byte) : Bufs :=
  link.elim m fun l =>
    if l.output then Function.update m l.buf (bytes.take l.len ++ (m l.buf).drop (bytes.take l.len).length) else m

namespace Hashing
variable (h : Hashing) (a : HashAlg)

abbrev Regs : Type := h.State × BitVec 32

def absorb (r : h.Regs) (data : List Byte) : h.Regs :=
  (compressAll (h.compress a) r.1 data, r.2 + BitVec.ofNat 32 data.length)

def finish (r : h.Regs) (data : List Byte) : h.Regs :=
  (compressAll (h.compress a) r.1 (data ++ h.padding a (h.absorb a r data).2), (h.absorb a r data).2)

def extend (last : Bool) (r : h.Regs) (data : List Byte) : h.Regs := if last then h.finish a r data else h.absorb a r data

def finishOuter (outer : h.State) (r : h.Regs) : h.Regs := h.finish a (outer, 64) ((h.store a r).take a.digestLength)

structure Mdha where
  bufs : Bufs
  mode : MdhaMode
  regs : h.Regs
  outer : h.State

variable {h}

def Mdha.put (link : Option HashLink) (e : h.Mdha) : h.Mdha :=
  { e with bufs := e.bufs.write link (h.store e.mode.alg e.regs) }

def Mdha.hash (data : List Byte) (e : h.Mdha) : h.Mdha :=
  { e with regs :=
      if e.mode.pdata = true ∧ e.mode.hmac = true then h.finishOuter e.mode.alg e.outer (h.finish e.mode.alg e.regs data)
      else h.extend e.mode.alg e.mode.pdata e.regs data }

def Mdha.setMode (mode : MdhaMode) (e : h.Mdha) : h.Mdha :=
  { e with mode := mode, regs := if mode.init then (h.start mode.alg, 0) else e.regs }

def Mdha.step (e : h.Mdha) (d : HashDesc) : h.Mdha :=
  let mode := MdhaMode.ofHeader d.header
  let op := opOf d.header
  let in1 := e.bufs.read d.link1
  let in2 := e.bufs.read d.link2
  if op = opOf SAH_HDR_MDHA_SET_MODE_MD_KEY then
    if mode.macFull then
      { e.setMode mode with
        regs := h.absorb mode.alg (h.start mode.alg, 0) (keyPad 0x36 in2)
        outer := (h.absorb mode.alg (h.start mode.alg, 0) (keyPad 0x5c in2)).1 }
    else
      { e.setMode mode with
        regs := if d.link1.isNone then (e.setMode mode).regs else h.load mode.alg in1
        outer := (h.load mode.alg in2).1 }
  else if op = opOf SAH_HDR_MDHA_SET_MODE_HASH then
    ((e.setMode mode).hash (if mode.ipad then keyPad 0x36 in1 else if mode.opad then keyPad 0x5c in1 else in1)).put d.link2
  else if op = opOf SAH_HDR_MDHA_HASH then (e.hash in1).put d.link2
  else if op = opOf SAH_HDR_MDHA_STORE_DIGEST then e.put d.link2
  else e

variable (h)

def run (chain : List HashDesc) (m : Bufs) : h.Mdha :=
  chain.foldl Mdha.step ⟨m, .ofHeader 0, (h.start .sha1, 0), h.start .sha1⟩

end Hashing

/-! ### The calls -/

def bitIf (last : Bool) (bit : BitVec 32) : BitVec 32 := if last then bit else 0#32

structure HashCall where
  algorithm : HashAlg
  init : Bool
  load : Bool
  save : Bool
  finalize : Bool
  precomputes : Bool
  length : ℕ
  result : Bool
  resultLen : ℕ

namespace HashCall
variable (c : HashCall)

def msgLink : Option HashLink := some ⟨.msg, c.length, false⟩

def contextLink (buf : Buf) (output : Bool) : Option HashLink := some ⟨buf, c.algorithm.contextRegisterLength, output⟩

def resultLink (bound : ℕ) : Option HashLink := if c.result then some ⟨.result, min c.resultLen bound, true⟩ else none

/-- `add_in_out_desc` makes the second link an output, `add_two_in_desc` does not. -/
def hashChain : Except Return (List HashDesc) :=
  let out := if c.save then c.contextLink .context true else c.resultLink c.algorithm.digestLength
  if c.init = c.load ∨ (c.save = false ∧ c.result = false) then .error .badFlag
  else .ok (
    (if c.init then
      [⟨SAH_HDR_MDHA_SET_MODE_HASH ^^^ insertMdhaInit ^^^ c.algorithm.insertMdhaAlgorithm ^^^ bitIf c.finalize insertMdhaPdata,
        c.msgLink, out⟩]
    else
      [⟨SAH_HDR_MDHA_SET_MODE_MD_KEY ^^^ c.algorithm.insertMdhaAlgorithm ^^^ bitIf c.finalize insertMdhaPdata,
        c.contextLink .context false, none⟩, ⟨SAH_HDR_MDHA_HASH, c.msgLink, out⟩]) ++
    if c.save = true ∧ c.result = true ∧ min c.resultLen c.algorithm.digestLength ≠ 0 then
      [⟨SAH_HDR_MDHA_STORE_DIGEST, none, c.resultLink c.algorithm.digestLength⟩] else [])

structure Key where
  hmac : Bool
  length : ℕ
  present : Bool

def hmacHeader : BitVec 32 :=
  SAH_HDR_MDHA_SET_MODE_MD_KEY ^^^ c.algorithm.insertMdhaAlgorithm ^^^ insertMdhaInit ^^^ bitIf c.finalize insertMdhaPdata ^^^
    bitIf c.finalize insertMdhaHmac

def hmacLoad (k : Key) : Except Return HashDesc :=
  if c.init = true ∧ c.precomputes = false then
    if c.finalize = false then .error .noResource
    else if k.present = false then .error .badFlag
    else if k.length = 0 then .error .badKeyLength
    else if k.hmac = false ∨ 64 < k.length then .error .badAlgorithm
    else .ok ⟨c.hmacHeader ^^^ insertMdhaMacFull, none, some ⟨.key, k.length, false⟩⟩
  else
    .ok ⟨c.hmacHeader, c.contextLink (if c.init then .inner else .context) false,
      if c.finalize then some ⟨.outer, c.algorithm.contextLength, false⟩ else none⟩

def hmacData : Except Return (List HashDesc) :=
  if c.finalize then
    if c.resultLen = 0 ∨ c.result = false then .error .badDataLength
    else .ok (⟨SAH_HDR_MDHA_HASH, c.msgLink, c.resultLink c.algorithm.contextRegisterLength⟩ ::
      if c.save then [⟨SAH_HDR_MDHA_STORE_DIGEST, none, c.contextLink .context false⟩] else [])
  else if c.length % 64 = 0 then .ok [⟨SAH_HDR_MDHA_HASH, c.msgLink, c.contextLink .context true⟩]
  else .error .badDataLength

def hmacChain (k : Key) : Except Return (List HashDesc) :=
  if c.init = c.load ∨ (c.save = false ∧ c.finalize = false) then .error .badFlag
  else do
    let desc ← c.hmacLoad k
    let rest ← c.hmacData
    return desc :: rest

end HashCall

section
variable (h : Hashing) (uco : Uco)

def checked (chain : Except Return (List HashDesc)) (m : Bufs) : Except Return h.Mdha :=
  if sahValidateUco uco = .ok then chain.map fun chain => h.run chain m else .error (sahValidateUco uco)

def fslShwHash (c : HashCall) : Bufs → Except Return h.Mdha := checked h uco c.hashChain

def fslShwHmacPrecompute (a : HashAlg) (k : HashCall.Key) : Bufs → Except Return h.Mdha :=
  checked h uco (
    if k.hmac = false ∨ 64 < k.length then .error .badAlgorithm
    else if k.length = 0 then .error .badKeyLength
    else
      let header := SAH_HDR_MDHA_SET_MODE_HASH ^^^ insertMdhaIpad ^^^ insertMdhaInit ^^^ a.insertMdhaAlgorithm
      .ok [⟨header, some ⟨.key, k.length, false⟩, some ⟨.inner, a.contextRegisterLength, true⟩⟩,
        ⟨header ^^^ (insertMdhaIpad ^^^ insertMdhaOpad), some ⟨.key, k.length, false⟩,
          some ⟨.outer, a.contextRegisterLength, true⟩⟩])

def fslShwHmac (k : HashCall.Key) (c : HashCall) : Bufs → Except Return h.Mdha := checked h uco (c.hmacChain k)

end

lemma compressAll_append {σ : Type} (f : σ → List Byte → σ) (s : σ) {l : List Byte} (hl : 64 ∣ l.length) (l' : List Byte) :
  compressAll f s (l ++ l') = compressAll f (compressAll f s l) l' := by
  induction hn : l.length using Nat.strong_induction_on generalizing s l with
  | _ n ih =>
    rw [compressAll.eq_def f s l]
    split
    · next h =>
      rw [compressAll,if_pos (by rw [length_append]; omega),take_append_of_le_length h,drop_append_of_le_length h]
      exact ih _ (by rw [length_drop]; omega) _ (by rw [length_drop]; omega) rfl
    · next h =>
      obtain rfl : l = [] := eq_nil_of_length_eq_zero (by omega)
      rfl

lemma Hashing.finish_absorb {h : Hashing} {a : HashAlg} (r : h.Regs) {l : List Byte} (hl : 64 ∣ l.length) (l' : List Byte) :
  h.finish a (h.absorb a r l) l' = h.finish a r (l ++ l') := by
  have hcount : (h.absorb a (h.absorb a r l) l').2 = (h.absorb a r (l ++ l')).2 := by
    simp only [absorb]
    rw [length_append,ofNat_add,BitVec.add_assoc]
  rw [finish,finish,hcount,List.append_assoc,compressAll_append _ _ hl]
  rfl

/-! ### One call -/

lemma Bufs.read_write (m : Bufs) {b : Buf} {n : ℕ} {bytes : List Byte} (hn : n ≤ bytes.length) :
  (m.write (some ⟨b, n, true⟩) bytes b).take n = bytes.take n := by
  have hlen : (bytes.take n).length = n := length_take_of_le hn
  show (Function.update m ..).take n = _
  rw [update_self,take_append_of_le_length hlen.ge,take_of_length_le hlen.le]

lemma Bufs.write_of_ne (m : Bufs) {b b' : Buf} (hb : b' ≠ b) (n : ℕ) (bytes : List Byte) :
  m.write (some ⟨b, n, true⟩) bytes b' = m b' := update_of_ne hb ..

lemma read_regs {h : Hashing} (m : Bufs) (b : Buf) (a : HashAlg) (r : h.Regs) :
  (m.write (some ⟨b, a.contextRegisterLength, true⟩) (h.store a r) b).take a.contextRegisterLength = h.store a r :=
  (m.read_write (h.length_store a r).ge).trans (take_of_length_le (h.length_store a r).le)

def padded (h : Hashing) (a : HashAlg) (b : Byte) (key : List Byte) : h.Regs := h.absorb a (h.start a, 0) (keyPad b key)

namespace Hashing
variable {h : Hashing} (e : h.Mdha) {mode : MdhaMode} {header : BitVec 32} (l : HashLink) (l' : Option HashLink)

lemma step_load (hop : opOf header = opOf SAH_HDR_MDHA_SET_MODE_MD_KEY) (hm : MdhaMode.ofHeader header = mode)
  (hfull : mode.macFull = false) : e.step ⟨header, some l, l'⟩ =
    { e with mode, regs := h.load mode.alg (e.bufs.read (some l)), outer := (h.load mode.alg (e.bufs.read l')).1 } := by
  subst hm
  rw [Mdha.step]
  simp only [hop,if_true,hfull,Bool.false_eq_true,if_false]
  rfl

lemma step_setMode (hop : opOf header = opOf SAH_HDR_MDHA_SET_MODE_HASH) (hm : MdhaMode.ofHeader header = mode)
  (hi : mode.ipad = false) (ho : mode.opad = false) : e.step ⟨header, some l, l'⟩ =
    ((e.setMode mode).hash (e.bufs.read (some l))).put l' := by
  subst hm
  rw [Mdha.step]
  simp only [hop,hi,ho,Bool.false_eq_true,if_false]
  rfl

lemma step_pad {a : HashAlg} (outer : Bool) (hop : opOf header = opOf SAH_HDR_MDHA_SET_MODE_HASH)
  (hm : MdhaMode.ofHeader header = ⟨a, false, false, true, !outer, outer, false⟩) :
  (e.step ⟨header, some l, l'⟩).bufs =
    e.bufs.write l' (h.store a (padded h a (if outer then 0x5c else 0x36) (e.bufs.read (some l)))) := by
  dsimp only [Mdha.step]
  rw [if_neg (by rw [hop]; decide),if_pos hop,hm]
  cases outer <;> rfl

lemma step_key (hop : opOf header = opOf SAH_HDR_MDHA_SET_MODE_MD_KEY) (hm : MdhaMode.ofHeader header = mode)
  (hfull : mode.macFull = true) : e.step ⟨header, none, some l⟩ = { e with
      mode, regs := h.absorb mode.alg (h.start mode.alg, 0) (keyPad 0x36 (e.bufs.read (some l)))
      outer := (h.absorb mode.alg (h.start mode.alg, 0) (keyPad 0x5c (e.bufs.read (some l)))).1 } := by
  subst hm
  dsimp only [Mdha.step]
  rw [if_pos hop,if_pos hfull]
  rfl

lemma step_hash : e.step ⟨SAH_HDR_MDHA_HASH, some l, l'⟩ = (e.hash (e.bufs.read (some l))).put l' := by
  dsimp only [Mdha.step]
  rw [if_neg (by decide),if_neg (by decide),if_pos rfl]

lemma step_storeDigest : e.step ⟨SAH_HDR_MDHA_STORE_DIGEST, none, l'⟩ = e.put l' := by
  dsimp only [Mdha.step]
  rw [if_neg (by decide),if_neg (by decide),if_neg (by decide),if_pos rfl]

end Hashing

/-- What the MDHA makes of a header. -/
abbrev Sets (header base : BitVec 32) (mode : MdhaMode) : Prop := opOf header = opOf base ∧ MdhaMode.ofHeader header = mode

variable (a : HashAlg) (last : Bool)

lemma initHeader_mode :
  Sets (SAH_HDR_MDHA_SET_MODE_HASH ^^^ insertMdhaInit ^^^ a.insertMdhaAlgorithm ^^^ bitIf last insertMdhaPdata)
    SAH_HDR_MDHA_SET_MODE_HASH ⟨a, last, false, true, false, false, false⟩ := by
  cases a <;> cases last <;> decide

lemma loadHeader_mode : Sets (SAH_HDR_MDHA_SET_MODE_MD_KEY ^^^ a.insertMdhaAlgorithm ^^^ bitIf last insertMdhaPdata)
    SAH_HDR_MDHA_SET_MODE_MD_KEY ⟨a, last, false, false, false, false, false⟩ := by
  cases a <;> cases last <;> decide

lemma hmacHeader_mode :
  Sets (SAH_HDR_MDHA_SET_MODE_MD_KEY ^^^ a.insertMdhaAlgorithm ^^^ insertMdhaInit ^^^ bitIf last insertMdhaPdata ^^^
    bitIf last insertMdhaHmac) SAH_HDR_MDHA_SET_MODE_MD_KEY ⟨a, last, last, true, false, false, false⟩ := by
  cases a <;> cases last <;> decide

lemma padHeader_mode :
  Sets (SAH_HDR_MDHA_SET_MODE_HASH ^^^ insertMdhaIpad ^^^ insertMdhaInit ^^^ a.insertMdhaAlgorithm ^^^
    bitIf last (insertMdhaIpad ^^^ insertMdhaOpad)) SAH_HDR_MDHA_SET_MODE_HASH ⟨a, false, false, true, !last, last, false⟩ := by
  cases a <;> cases last <;> decide

lemma keyHeader_mode :
  Sets (SAH_HDR_MDHA_SET_MODE_MD_KEY ^^^ a.insertMdhaAlgorithm ^^^ insertMdhaInit ^^^ insertMdhaPdata ^^^ insertMdhaHmac ^^^
    insertMdhaMacFull) SAH_HDR_MDHA_SET_MODE_MD_KEY ⟨a, true, true, true, false, false, true⟩ := by
  cases a <;> decide

section
variable {h : Hashing} {uco : Uco} {m : Bufs} {e : h.Mdha} {c : HashCall}

lemma checked_ok {x : Except Return (List HashDesc)} (he : checked h uco x m = .ok e) : ∃ chain, x = .ok chain ∧ e = h.run chain m := by
  rw [checked] at he
  split at he
  · cases x with
    | error r => cases he
    | ok chain => exact ⟨chain,rfl,(Except.ok.inj he).symm⟩
  · cases he

def HashCall.hashBegins (h : Hashing) (c : HashCall) (m : Bufs) : h.Regs :=
  if c.init then (h.start c.algorithm, 0) else h.load c.algorithm ((m .context).take c.algorithm.contextRegisterLength)

lemma fslShwHash_ok (hok : fslShwHash h uco c m = .ok e) :
  e.regs = h.extend c.algorithm c.finalize (c.hashBegins h m) ((m .msg).take c.length) ∧
  ∃ m₁, m₁ = m.write (if c.save then c.contextLink .context true else c.resultLink c.algorithm.digestLength)
      (h.store c.algorithm e.regs) ∧
    e.bufs = if c.save = true ∧ c.result = true ∧ min c.resultLen c.algorithm.digestLength ≠ 0 then
      m₁.write (c.resultLink c.algorithm.digestLength) (h.store c.algorithm e.regs) else m₁ := by
  obtain ⟨chain,hchain,rfl⟩ := checked_ok hok
  rw [HashCall.hashChain] at hchain
  split at hchain
  · cases hchain
  cases hchain
  rw [Hashing.run,foldl_append]
  generalize (if c.save then c.contextLink .. else c.resultLink ..) = out
  generalize he : foldl Hashing.Mdha.step _ (if c.init = true then _ else _) = e
  obtain ⟨halg,hregs,hbufs⟩ : e.mode.alg = c.algorithm ∧
      e.regs = h.extend c.algorithm c.finalize (c.hashBegins h m) ((m ..).take c.length) ∧
      e.bufs = m.write out (h.store c.algorithm e.regs) := by
    rw [← he,HashCall.hashBegins]
    split
    · obtain ⟨hop,hm⟩ := initHeader_mode ..
      rw [foldl_cons,foldl_nil,HashCall.msgLink,Hashing.step_setMode _ _ _ hop hm rfl rfl]
      exact ⟨rfl,if_neg fun hf => Bool.noConfusion hf.2,rfl⟩
    · obtain ⟨hop,hm⟩ := loadHeader_mode ..
      rw [foldl_cons,foldl_cons,foldl_nil,HashCall.msgLink,HashCall.contextLink,
        Hashing.step_load _ _ _ hop hm rfl,Hashing.step_hash]
      exact ⟨rfl,if_neg fun hf => Bool.noConfusion hf.2,rfl⟩
  split
  · rw [foldl_cons,foldl_nil,Hashing.step_storeDigest]
    refine ⟨hregs,e.bufs,hbufs,?_⟩
    rw [Hashing.Mdha.put,halg]
  · exact ⟨hregs,e.bufs,hbufs,rfl⟩

def HashCall.hmacBegins (h : Hashing) (c : HashCall) (m : Bufs) : h.Regs :=
  h.load c.algorithm ((m (if c.init then .inner else .context)).take c.algorithm.contextRegisterLength)

def outerState (h : Hashing) (a : HashAlg) (m : Bufs) : h.State := (h.load a ((m .outer).take a.contextLength)).1

variable {k : HashCall.Key}

lemma fslShwHmac_ok (hpre : c.init = true → c.precomputes = false → c.finalize = false)
  (hok : fslShwHmac h uco k c m = .ok e) :
  (c.finalize = false ∧ e.regs = h.absorb c.algorithm (c.hmacBegins h m) ((m .msg).take c.length) ∧
    e.bufs = m.write (c.contextLink .context true) (h.store c.algorithm e.regs)) ∨
  (c.finalize = true ∧ e.regs = h.finishOuter c.algorithm (outerState h c.algorithm m)
      (h.finish c.algorithm (c.hmacBegins h m) ((m .msg).take c.length)) ∧
    c.result = true ∧ e.bufs = m.write (c.resultLink c.algorithm.contextRegisterLength) (h.store c.algorithm e.regs)) := by
  obtain ⟨chain,hchain,rfl⟩ := checked_ok hok
  rw [HashCall.hmacChain] at hchain
  split at hchain
  · cases hchain
  rw [HashCall.hmacLoad] at hchain
  split at hchain
  · next hp =>
    rw [if_pos (hpre hp.1 hp.2)] at hchain
    cases hchain
  obtain ⟨hop,hm⟩ := hmacHeader_mode c.algorithm c.finalize
  rw [HashCall.hmacBegins]
  generalize (if c.init then Buf.inner else Buf.context) = buf at hchain ⊢
  rw [HashCall.hmacHeader,HashCall.hmacData] at hchain
  cases hfin : c.finalize with
  | false =>
    refine .inl ⟨rfl,?_⟩
    rw [hfin] at hop hm
    simp only [hfin,Bool.false_eq_true,if_false] at hchain
    split at hchain
    swap
    · cases hchain
    cases hchain
    rw [Hashing.run,foldl_cons,foldl_cons,foldl_nil,HashCall.msgLink,HashCall.contextLink,
      Hashing.step_load _ _ _ hop hm rfl,Hashing.step_hash]
    exact ⟨rfl,rfl⟩
  | true =>
    rw [hfin] at hop hm
    simp only [hfin,if_true] at hchain
    split at hchain
    · cases hchain
    next hres =>
    refine .inr ⟨rfl,?_⟩
    cases hchain
    rw [Hashing.run,foldl_cons,foldl_cons,HashCall.msgLink,HashCall.contextLink,
      Hashing.step_load _ _ _ hop hm rfl,Hashing.step_hash]
    have hresult : c.result = true := Bool.eq_true_of_not_eq_false fun hf => hres (.inr hf)
    cases c.save with
    | false => exact ⟨rfl,hresult,rfl⟩
    | true =>
      simp only [if_true,foldl_cons,foldl_nil,Hashing.step_storeDigest]
      exact ⟨rfl,hresult,rfl⟩

lemma fslShwHmacPrecompute_ok {a : HashAlg} (hok : fslShwHmacPrecompute h uco a k m = .ok e) :
  (e.bufs .inner).take a.contextRegisterLength = h.store a (padded h a 0x36 ((m .key).take k.length)) ∧
  (e.bufs .outer).take a.contextRegisterLength = h.store a (padded h a 0x5c ((m .key).take k.length)) := by
  obtain ⟨chain,hchain,rfl⟩ := checked_ok hok
  split at hchain
  · cases hchain
  split at hchain
  · cases hchain
  cases hchain
  obtain ⟨hop,hm⟩ := padHeader_mode ..
  obtain ⟨hop',hm'⟩ := padHeader_mode ..
  rw [bitIf,if_neg Bool.false_ne_true,xor_zero] at hop hm
  rw [bitIf,if_pos rfl] at hop' hm'
  rw [Hashing.run,foldl_cons,foldl_cons,foldl_nil,Hashing.step_pad _ _ _ true hop' hm',
    Hashing.step_pad _ _ _ false hop hm,Bufs.write_of_ne _ (by decide)]
  exact ⟨read_regs ..,read_regs ..⟩

lemma fslShwHmac_key (hinit : c.init = true) (hpre : c.precomputes = false) (hok : fslShwHmac h uco k c m = .ok e) :
  e.regs = h.finishOuter c.algorithm (padded h c.algorithm 0x5c ((m .key).take k.length)).1
      (h.finish c.algorithm (padded h c.algorithm 0x36 ((m .key).take k.length)) ((m .msg).take c.length)) ∧
    c.result = true ∧ e.bufs = m.write (c.resultLink c.algorithm.contextRegisterLength) (h.store c.algorithm e.regs) := by
  obtain ⟨chain,hchain,rfl⟩ := checked_ok hok
  rw [HashCall.hmacChain] at hchain
  split at hchain
  · cases hchain
  rw [HashCall.hmacLoad,if_pos (And.intro hinit hpre),HashCall.hmacHeader,HashCall.hmacData] at hchain
  cases hfin : c.finalize with
  | false =>
    rw [if_pos hfin] at hchain
    cases hchain
  | true =>
    simp only [hfin,Bool.true_eq_false,if_false,if_true,bitIf] at hchain
    split at hchain
    · cases hchain
    split at hchain
    · cases hchain
    split at hchain
    · cases hchain
    split at hchain
    · cases hchain
    next hres =>
    cases hchain
    obtain ⟨hop,hm⟩ := keyHeader_mode ..
    rw [Hashing.run,foldl_cons,foldl_cons,HashCall.msgLink,HashCall.contextLink,Hashing.step_key _ _ hop hm rfl,
      Hashing.step_hash]
    have hresult : c.result = true := Bool.eq_true_of_not_eq_false fun hf => hres (.inr hf)
    cases c.save with
    | false => exact ⟨rfl,hresult,rfl⟩
    | true =>
      simp only [if_true,foldl_cons,foldl_nil,Hashing.step_storeDigest]
      exact ⟨rfl,hresult,rfl⟩

end

/-! ### The parts of a message -/

section
variable {h : Hashing} (call : Bool → Bool → List Byte → Bufs → Except Return h.Mdha)

def parts : Bool → List (List Byte) → Bufs → Except Return h.Mdha
  | _, [], _ => .error .error
  | first, [p], m => call first true p m
  | first, p :: rest, m => (call first false p m).bind fun e => parts false rest e.bufs

structure Extends (a : HashAlg) (Ready : Bool → h.Regs → Bufs → Prop) (fin : h.Regs → List Byte) (k : ℕ) : Prop where
  next : ∀ {first r p m e}, Ready first r m → call first false p m = .ok e → Ready false (h.absorb a r p) e.bufs
  last : ∀ {first r p m e}, Ready first r m → call first true p m = .ok e → (e.bufs .result).take k = fin (h.finish a r p)

variable {call} {a : HashAlg} {Ready : Bool → h.Regs → Bufs → Prop} {fin : h.Regs → List Byte} {k : ℕ}

lemma Extends.result_eq (hx : Extends call a Ready fin k) {ps : List (List Byte)} (h64 : ∀ p ∈ ps.dropLast, 64 ∣ p.length)
  {first : Bool} {r : h.Regs} {m : Bufs} {e : h.Mdha} (hr : Ready first r m) (he : parts call first ps m = .ok e) :
  (e.bufs .result).take k = fin (h.finish a r ps.flatten) := by
  induction ps generalizing first r m with
  | nil => cases he
  | cons p rest ih =>
    cases rest with
    | nil =>
      rw [flatten_singleton]
      exact hx.last hr he
    | cons q rest =>
      cases h1 : call first false p m with
      | error r => simp only [parts,h1,Except.bind,reduceCtorEq] at he
      | ok e1 =>
        simp only [parts,h1,Except.bind] at he
        rw [ih (fun p' hp' => h64 p' (mem_cons_of_mem p hp')) (hx.next hr h1) he,
          Hashing.finish_absorb r (h64 p mem_cons_self)]
        rfl

end

section
variable (h : Hashing) (uco : Uco) (c : HashCall)

def HashCall.part (early first last : Bool) (p : List Byte) : HashCall :=
  { c with
    init := first, load := !first, save := !last, finalize := last, precomputes := true, length := p.length
    result := last || early }

def hashPart (early first last : Bool) (p : List Byte) (m : Bufs) : Except Return h.Mdha :=
  fslShwHash h uco (c.part early first last p) (Function.update m .msg p)

def hmacPart (k : HashCall.Key) (first last : Bool) (p : List Byte) (m : Bufs) : Except Return h.Mdha :=
  fslShwHmac h uco k (c.part false first last p) (Function.update m .msg p)

variable {h uco c}

lemma fslShwHash_saves {m : Bufs} {e : h.Mdha} (hsave : c.save = true) (hok : fslShwHash h uco c m = .ok e) :
  (e.bufs .context).take c.algorithm.contextRegisterLength = h.store c.algorithm e.regs := by
  obtain ⟨-,m1,hm1,hbufs⟩ := fslShwHash_ok hok
  have hself : (m1 .context).take c.algorithm.contextRegisterLength = h.store c.algorithm e.regs := by
    rw [hm1,if_pos hsave]
    exact read_regs ..
  rw [hbufs]
  split
  · next hne =>
    rw [HashCall.resultLink,if_pos hne.2.1,Bufs.write_of_ne _ (by decide)]
    exact hself
  · exact hself

lemma part_msg (m : Bufs) (p : List Byte) : (Function.update m .msg p Buf.msg).take p.length = p := by
  rw [update_self,take_length]

lemma read_result (m : Bufs) (a : HashAlg) (r : h.Regs) {n : ℕ} (hn : n ≤ a.contextRegisterLength) :
  (m.write (some ⟨.result, n, true⟩) (h.store a r) .result).take n = (h.store a r).take n :=
  m.read_write (hn.trans (h.length_store a r).ge)

lemma hash_extends (early : Bool) : Extends (hashPart h uco c early) c.algorithm
  (fun first r m => { c with init := first }.hashBegins h m = r)
  (fun r => (h.store c.algorithm r).take (min c.resultLen c.algorithm.digestLength))
  (min c.resultLen c.algorithm.digestLength) where
  next {first r p m e} hr hok := by
    refine (congrArg (h.load c.algorithm) (fslShwHash_saves (by rfl) hok)).trans ((h.load_store ..).trans ?_)
    rw [(fslShwHash_ok hok).1,← hr]
    exact congrArg (h.absorb c.algorithm _) (part_msg m p)
  last {first r p m e} hr hok := by
    obtain ⟨hregs,m1,hm1,hbufs⟩ := fslShwHash_ok hok
    have hdig : c.algorithm.digestLength ≤ c.algorithm.contextRegisterLength := by cases c.algorithm <;> decide
    rw [hbufs,if_neg fun hs => Bool.noConfusion hs.1,hm1,← hr]
    refine (read_result _ _ _ ((min_le_right ..).trans hdig)).trans ?_
    rw [hregs]
    exact congrArg (fun l => (h.store ..).take _) (part_msg m p)

lemma hmac_extends {k : HashCall.Key} (o : h.State) : Extends (hmacPart h uco c k) c.algorithm
  (fun first r m => { c with init := first }.hmacBegins h m = r ∧ outerState h c.algorithm m = o)
  (fun r => (h.store c.algorithm (h.finishOuter c.algorithm o r)).take (min c.resultLen c.algorithm.contextRegisterLength))
  (min c.resultLen c.algorithm.contextRegisterLength) where
  next {first r p m e} hr hok := by
    rcases fslShwHmac_ok (fun _ h => Bool.noConfusion h) hok with ⟨-,hregs,hbufs⟩ | ⟨hfin,-⟩
    swap
    · cases hfin
    rw [hbufs,← hr.1,← hr.2]
    refine ⟨(congrArg (h.load c.algorithm) (read_regs ..)).trans ((h.load_store ..).trans ?_),rfl⟩
    rw [hregs]
    cases first <;> exact congrArg (h.absorb c.algorithm _) (part_msg m p)
  last {first r p m e} hr hok := by
    rcases fslShwHmac_ok (fun _ h => Bool.noConfusion h) hok with ⟨hfin,-⟩ | ⟨-,hregs,-,hbufs⟩
    · cases hfin
    rw [hbufs,← hr.1,← hr.2]
    refine (read_result _ _ _ (min_le_right ..)).trans ?_
    rw [hregs]
    cases first <;>
    exact congrArg (fun l => (h.store c.algorithm (h.finishOuter ..)).take _)
      (part_msg m p)

lemma hmac_precomputed {k : HashCall.Key} {msg : List Byte} {m : Bufs} {e₀ e₁ e₂ : h.Mdha}
  (h₀ : fslShwHmacPrecompute h uco c.algorithm k m = .ok e₀) (h₁ : hmacPart h uco c k true true msg e₀.bufs = .ok e₁)
  (h₂ : fslShwHmac h uco k { c.part false true true msg with precomputes := false } (Function.update m .msg msg) = .ok e₂) :
  (e₁.bufs .result).take (min c.resultLen c.algorithm.contextRegisterLength) =
    (e₂.bufs .result).take (min c.resultLen c.algorithm.contextRegisterLength) := by
  obtain ⟨hinner,houter⟩ := fslShwHmacPrecompute_ok h₀
  have hbegins : { c with init := true }.hmacBegins h e₀.bufs = padded .. :=
    (congrArg (h.load c.algorithm) hinner).trans (h.load_store ..)
  have hstate : outerState h c.algorithm e₀.bufs = (padded h c.algorithm 0x5c ((m .key).take k.length)).1 := by
    have hle : c.algorithm.contextLength ≤ c.algorithm.contextRegisterLength := by cases c.algorithm <;> decide
    rw [outerState,← min_eq_left hle,← take_take,houter,h.load_state]
  obtain ⟨hregs,-,hbufs⟩ := fslShwHmac_key rfl rfl h₂
  rw [(hmac_extends _).last ⟨hbegins,hstate⟩ h₁,hbufs]
  refine Eq.symm ((read_result _ _ _ (min_le_right ..)).trans ?_)
  rw [hregs]
  exact congrArg (fun l => (h.store c.algorithm (h.finishOuter ..)).take _)
    (part_msg ..)

def SameDigest (call : Bool → Bool → List Byte → Bufs → Except Return h.Mdha) (k : ℕ) : Prop :=
  ∀ ps m e₁ e₂, (∀ p ∈ ps.dropLast, 64 ∣ p.length) → parts call true ps m = .ok e₁ → call true true ps.flatten m = .ok e₂ →
    (e₁.bufs .result).take k = (e₂.bufs .result).take k

end

def counting : Hashing where
  State := Unit
  start _ := ()
  compress _ s _ := s
  padding _ _ := []
  store a r := [BitVec.ofNat 8 r.2.toNat, BitVec.ofNat 8 (r.2.toNat / 256), BitVec.ofNat 8 (r.2.toNat / 65536),
    BitVec.ofNat 8 (r.2.toNat / 16777216)] ++ List.replicate (a.contextRegisterLength - 4) 0
  load _ l := ((), BitVec.ofNat 32
    ((l.getD 0 0).toNat + 256 * (l.getD 1 0).toNat + 65536 * (l.getD 2 0).toNat + 16777216 * (l.getD 3 0).toNat))
  length_store a r := by cases a <;> rfl
  load_state _ _ := rfl
  load_store a r := by
    refine Prod.ext rfl (eq_of_toNat_eq ?_)
    have := r.2.isLt
    simp
    omega

end Mx27.Shw
