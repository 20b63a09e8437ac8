/-
# What a chain of descriptors does

The meaning of the descriptors that the key functions use.
-/
import Mx27Drivers.Scc.Stream
import Mx27Drivers.Scc.Slots
import Mx27Drivers.Shw.Ccm

namespace Mx27.Shw

open List

open Sahara (Return)

structure Store where
  mem : Mem
  scc : Scc.State

def redBytes (s : Scc.State) (slot n : ℕ) : List Byte := Scc.bytesAt s.scm.red (Scc.slotOffset slot) n

def putRed (slot : ℕ) (bytes : List Byte) (s : Scc.State) : Scc.State :=
  { s with scm := { s.scm with red := (Scc.copyToScc bytes (Scc.slotOffset slot) s.scm.red none).1 } }

namespace Store

def readLink (s : Store) (link : Link) : List Byte :=
  if link.flags.storedKey then
    if s.scc.Verify link.ownerid link.slot.toNat link.len.toNat then redBytes s.scc link.slot.toNat link.len.toNat else []
  else link.bytes s.mem

def read (s : Store) (links : List Link) : List Byte := links.flatMap s.readLink

def writeLink (link : Link) (bytes : List Byte) (s : Store) : Store :=
  if link.flags.storedKey then
    if s.scc.Verify link.ownerid link.slot.toNat link.len.toNat then
      { s with scc := putRed link.slot.toNat (bytes.take link.len.toNat) s.scc }
    else s
  else { s with mem := storeBytes link.data (bytes.take link.len.toNat) s.mem }

def write : List Link → List Byte → Store → Store
  | [], _, s => s
  | link :: rest, bytes, s => write rest (bytes.drop link.len.toNat) (s.writeLink link bytes)

end Store

def firstBytes (f : ℕ → Byte) (n : ℕ) : List Byte := (List.range n).map f

def xorStream (stream : ℕ → Byte) (data : List Byte) : List Byte := data.mapIdx fun i b => b ^^^ stream i

structure Crypto where
  rng : ℕ → Byte
  sha1 : List Byte → ℕ → Byte
  hmac : List Byte → List Byte → ℕ → Byte
  ctr : List Byte → ℕ → Byte
  slotEncrypt : BitVec 64 → List Byte → List Byte
  slotDecrypt : BitVec 64 → List Byte → List Byte
  slotEncrypt_length : ∀ owner data, (slotEncrypt owner data).length = data.length
  slotDecrypt_length : ∀ owner data, (slotDecrypt owner data).length = data.length
  slotDecrypt_slotEncrypt : ∀ owner data, slotDecrypt owner (slotEncrypt owner data) = data

def SAH_HDR_MDHA_SET_MODE_MD_KEY : BitVec 32 := 0x20880000#32
def SAH_HDR_MDHA_SET_MODE_HASH : BitVec 32 := 0x208d0000#32
def SAH_HDR_MDHA_HASH : BitVec 32 := 0xa0850000#32
def SAH_HDR_RNG_GENERATE : BitVec 32 := 0x308c0000#32

def insertMdhaMacFull : BitVec 32 := 0x80000200#32
def insertMdhaInit : BitVec 32 := 0x80000020#32
def insertMdhaHmac : BitVec 32 := 0x80000008#32
def insertMdhaPdata : BitVec 32 := 0x80000004#32
def insertMdhaAlgorithmSha1 : BitVec 32 := 0x00000000#32
def insertSkhaAlgorithmAes : BitVec 32 := 0x00000000#32

inductive Operation
  | generate
  | hash
  | setKey
  | encDec
  | setMacKey
  | mac
  deriving DecidableEq

def operations : List (BitVec 32 × Operation) :=
  [(SAH_HDR_RNG_GENERATE, .generate), (SAH_HDR_MDHA_SET_MODE_HASH, .hash), (SAH_HDR_SKHA_SET_MODE_IV_KEY, .setKey),
    (SAH_HDR_SKHA_ENC_DEC, .encDec), (SAH_HDR_MDHA_SET_MODE_MD_KEY, .setMacKey), (SAH_HDR_MDHA_HASH, .mac)]

def operationOf (header : BitVec 32) : Option Operation :=
  (operations.find? fun op => opOf op.1 = opOf header).map Prod.snd

structure Engine where
  store : Store
  key : List Byte
  mode : BitVec 32
  macKey : List Byte

def SHA1_DIGEST_LENGTH : ℕ := 20

section
variable (c : Crypto)

def Desc.run (d : Desc) (e : Engine) : Engine :=
  match operationOf d.header with
  | some .generate => { e with store := e.store.write d.ptr1 (firstBytes c.rng (linksLen d.ptr1).toNat) }
  | some .hash => { e with store := e.store.write d.ptr2 (firstBytes (c.sha1 (e.store.read d.ptr1)) SHA1_DIGEST_LENGTH) }
  | some .setKey => { e with key := e.store.read d.ptr2, mode := skhaMode d.header }
  | some .encDec =>
    if e.mode = skhaMode insertSkhaModeCtr then
      { e with store := e.store.write d.ptr2 (xorStream (c.ctr e.key) (e.store.read d.ptr1)) }
    else e
  | some .setMacKey => { e with macKey := e.store.read d.ptr2 }
  | some .mac =>
    { e with store := e.store.write d.ptr2 (firstBytes (c.hmac e.macKey (e.store.read d.ptr1)) SHA1_DIGEST_LENGTH) }
  | none => e

def runChain (chain : List Desc) (s : Store) : Store :=
  (chain.foldl (fun e d => Desc.run c d e) (⟨s, [], 0#32, []⟩ : Engine)).store

structure Sys where
  world : World
  store : Store

/-- `sah_Descriptor_Chain_Execute`, where the accelerator succeeds. -/
def execute (chain : List Desc) (s : Sys) : Return × Sys :=
  if chain = [] then (.error, s)
  else
    let r := sahReworkLinks chain s.world
    if r.1 = .ok then (.ok, ⟨r.2.2, runChain c r.2.1 s.store⟩) else (r.1, { s with world := r.2.2 })

end

def doSccSlotAlloc (keyLen : ℕ) (owner : BitVec 64) (s : Sys) : Return × BitVec 32 × Sys :=
  let r := Scc.sccAllocSlot keyLen owner s.store.scc
  (if r.1.status = .ok then .ok else .noResource, BitVec.ofNat 32 (r.1.slot.getD 0), { s with store.scc := r.2 })

def doSccSlotDealloc (owner : BitVec 64) (slot : BitVec 32) (s : Sys) : Return × Sys :=
  let r := Scc.sccDeallocSlot owner slot.toNat s.store.scc
  (if r.1.status = .ok then .ok else .error, { s with store.scc := r.2 })

def doSccSlotLoadSlot (owner : BitVec 64) (slot : BitVec 32) (key : Ptr) (keyLength : ℕ) (s : Sys) : Return × Sys :=
  let r := Scc.sccLoadSlot owner slot.toNat (some fun i => s.store.mem key.block (key.offset + i)) keyLength s.store.scc
  (if r.1.status = .ok then .ok else .error, { s with store.scc := r.2 })

section
variable (c : Crypto)

def doSccSlotEncrypt (owner : BitVec 64) (slot : BitVec 32) (keyLength : ℕ) (blackData : Ptr) (s : Sys) : Return × Sys :=
  if s.store.scc.Verify owner slot.toNat keyLength then
    (.ok, { s with store.mem := storeBytes blackData (c.slotEncrypt owner (redBytes s.store.scc slot.toNat keyLength)) s.store.mem })
  else (.error, s)

def doSccSlotDecrypt (owner : BitVec 64) (slot : BitVec 32) (keyLength : ℕ) (blackData : Ptr) (s : Sys) : Return × Sys :=
  if s.store.scc.Verify owner slot.toNat keyLength then
    (.ok, { s with store.scc := putRed slot.toNat (c.slotDecrypt owner (bytesAt s.store.mem blackData keyLength)) s.store.scc })
  else (.error, s)

end

section
variable {m : Mem} {p q : Ptr} {bytes : List Byte} {n : ℕ}

lemma bytesAt_append (m : Mem) (p : Ptr) (a : BitVec 32) (b : ℕ) :
  bytesAt m p (a.toNat + b) = bytesAt m p a.toNat ++ bytesAt m (p.add a) b := by
  rw [bytesAt,range_add,map_append,List.map_map]
  refine congrArg₂ _ rfl (map_congr_left fun i _ => ?_)
  show m p.block (p.offset + (a.toNat + i)) = m p.block (p.offset + a.toNat + i)
  rw [Nat.add_assoc]

lemma bytesAt_take (m : Mem) (p : Ptr) {n l : ℕ} (h : l ≤ n) : (bytesAt m p n).take l = bytesAt m p l := by
  rw [bytesAt,← map_take,take_range,Nat.min_eq_left h]
  rfl

lemma bytesAt_storeBytes (h : n = bytes.length) : bytesAt (storeBytes p bytes m) p n = bytes := by
  refine ext_getElem (by rw [bytesAt_length,h]) fun i hi hi' => ?_
  simp only [bytesAt,getElem_map,getElem_range,storeBytes]
  rw [if_pos ⟨trivial,by omega,by omega⟩,Nat.add_sub_cancel_left,getD_eq_getElem]

lemma bytesAt_storeBytes_other
  (h : q.block ≠ p.block ∨ q.offset + n ≤ p.offset ∨ p.offset + bytes.length ≤ q.offset) :
  bytesAt (storeBytes p bytes m) q n = bytesAt m q n := by
  refine map_congr_left fun i hi => ?_
  rw [mem_range] at hi
  rw [storeBytes,if_neg]
  rintro ⟨hblock,hlow,hhigh⟩
  rcases h with h | h | h
  · exact h hblock
  · omega
  · omega

end

section
variable {s : Scc.State} {slot other : ℕ} {bytes : List Byte} {n : ℕ}

lemma length_redBytes (s : Scc.State) (slot n : ℕ) : (redBytes s slot n).length = n := Scc.length_bytesAt _ _ _

lemma redBytes_take (s : Scc.State) (slot : ℕ) {n k : ℕ} (h : k ≤ n) : (redBytes s slot n).take k = redBytes s slot k := by
  refine ext_getElem ?_ fun i hi hi' => ?_
  · rw [length_take,length_redBytes,length_redBytes]
    omega
  · rw [length_redBytes] at hi'
    have h1 := Scc.getD_bytesAt s.scm.red (Scc.slotOffset slot) (show i < n by omega)
    have h2 := Scc.getD_bytesAt s.scm.red (Scc.slotOffset slot) hi'
    rw [getD_eq_getElem _ _ (by rw [Scc.length_bytesAt]; omega)] at h1 h2
    rw [getElem_take]
    exact h1.trans h2.symm

lemma redBytes_putRed (h4 : 4 ∣ bytes.length) (h : n ≤ bytes.length) : redBytes (putRed slot bytes s) slot n = bytes.take n := by
  have hwhole : redBytes (putRed slot bytes s) slot bytes.length = bytes :=
    Scc.copyToScc_bytes ⟨8 * slot,by rw [Scc.slotOffset,Scc.SCC_KEY_SLOT_SIZE]; omega⟩ h4
  rw [← redBytes_take _ _ h,hwhole]

lemma redBytes_congr {s' : Scc.State} (h : ∀ i, Scc.InSlot slot i → s'.scm.red i = s.scm.red i) (hn : n ≤ 32) :
  redBytes s' slot n = redBytes s slot n := by
  refine ext_getElem (by rw [length_redBytes,length_redBytes]) fun i hi hi' => ?_
  rw [length_redBytes] at hi
  have h1 := Scc.getD_bytesAt s'.scm.red (Scc.slotOffset slot) hi
  have h2 := Scc.getD_bytesAt s.scm.red (Scc.slotOffset slot) hi
  rw [getD_eq_getElem _ _ (by rw [Scc.length_bytesAt]; omega)] at h1 h2
  refine h1.trans (Eq.trans ?_ h2.symm)
  rw [Scc.byteAt,Scc.byteAt,h]
  simp only [Scc.InSlot,Scc.slotOffset,Scc.SCC_KEY_SLOT_SIZE]
  omega

lemma redBytes_putRed_other (h : slot ≠ other) (hlen : bytes.length ≤ 32) (hn : n ≤ 32) :
  redBytes (putRed slot bytes s) other n = redBytes s other n := by
  refine redBytes_congr (fun i hi => ?_) hn
  refine Scc.copy_confined hlen ?_ _
  rw [Scc.InSlot] at hi ⊢
  omega

end

lemma reworkLinkChain_even {links : List Link} (h : ∀ link ∈ links.dropLast, ¬ link.Odd) (w : World) :
  sahReworkLinkChain links w = (.ok, links, w) := by
  cases links with
  | nil => rfl
  | cons link rest =>
    rw [sahReworkLinkChain]
    split
    · rfl
    · rw [reworkLoop_eq,if_neg]
      rintro ⟨hfound | ⟨l,hl,hodd⟩,-⟩
      · cases hfound
      · exact h l hl hodd

def Desc.Even (d : Desc) : Prop :=
  d.header &&& SAH_HDR_LLO = 0#32 ∧ (∀ link ∈ d.ptr1.dropLast, ¬ link.Odd) ∧ ∀ link ∈ d.ptr2.dropLast, ¬ link.Odd

lemma reworkLinks_cons_even {d : Desc} (h : d.Even) (chain : List Desc) (w : World) :
  sahReworkLinks (d :: chain) w = ((sahReworkLinks chain w).1, d :: (sahReworkLinks chain w).2.1, (sahReworkLinks chain w).2.2) := by
  obtain ⟨hllo,h1,h2⟩ := h
  rw [sahReworkLinks,if_neg (fun hne => hne hllo)]
  simp only [reworkLinkChain_even h1,reworkLinkChain_even h2,ne_eq,not_true_eq_false,if_false]

lemma reworkLinks_same : ∀ {chain : List Desc}, (∀ d ∈ chain, d.Even) → ∀ w, sahReworkLinks chain w = (.ok, chain, w)
  | [], _, _ => rfl
  | d :: chain, h, w => by
    rw [reworkLinks_cons_even (h d mem_cons_self),
      reworkLinks_same (fun d' hd' => h d' (mem_cons_of_mem d hd')) w]

lemma reworkLinks_cons_ok {d : Desc} {chain chain' : List Desc} {w w' : World} (h2 : ∀ link ∈ d.ptr2.dropLast, ¬ link.Odd)
  (h : sahReworkLinks (d :: chain) w = (.ok, chain', w')) :
  ∃ ptr1 rest w₁, chain' = { d with ptr1 := ptr1 } :: rest ∧ sahReworkLinks chain w₁ = (.ok, rest, w') := by
  rw [sahReworkLinks] at h
  split at h
  · cases h
  · simp only [reworkLinkChain_even h2,ne_eq,not_true_eq_false,if_false] at h
    split at h
    · next hne => exact absurd (Prod.mk.inj h).1 hne
    · obtain ⟨hok,hrest⟩ := Prod.mk.inj h
      obtain ⟨rfl,rfl⟩ := Prod.mk.inj hrest
      exact ⟨_,_,_,rfl,Prod.ext hok rfl⟩

lemma execute_run {c : Crypto} {chain : List Desc} {s : Sys} (h : (execute c chain s).1 = .ok) :
  ∃ chain' w', sahReworkLinks chain s.world = (.ok, chain', w') ∧ execute c chain s = (.ok, ⟨w', runChain c chain' s.store⟩) := by
  rcases hrework : sahReworkLinks chain s.world with ⟨r,chain',w'⟩
  unfold execute at h ⊢
  split at h
  · cases h
  · next hne =>
    simp only [hrework] at h ⊢
    split at h
    · next hr =>
      subst hr
      exact ⟨chain',w',rfl,by rw [if_neg hne,if_pos rfl]⟩
    · next hr => exact absurd h hr

lemma execute_ok (c : Crypto) {chain : List Desc} (hne : chain ≠ []) (h : ∀ d ∈ chain, d.Even) (s : Sys) :
  execute c chain s = (.ok, ⟨s.world, runChain c chain s.store⟩) := by
  rw [execute,if_neg hne]
  simp only [reworkLinks_same h,if_true]

end Mx27.Shw
