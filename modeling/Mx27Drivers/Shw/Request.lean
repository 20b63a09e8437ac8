/-
# Requests of the API layer
-/
import Mx27Drivers.Shw.Chain

namespace Mx27.Shw

open List

open Sahara (Return)

abbrev Byte : Type := BitVec 8

structure Uco where
  saharaOpenfd : ℤ
  blockingMode : Bool
  callbackMode : Bool
  memUtil : Bool
  poolSize : BitVec 32
  callback : Bool

def sahValidateUco (uco : Uco) : Return :=
  if uco.saharaOpenfd < 0 then .noResource
  else if uco.blockingMode = true ∧ uco.callbackMode = true then .badFlag
  else if uco.memUtil = false then .memoryError
  else if uco.poolSize = 0#32 then .error
  else if uco.callbackMode = true ∧ uco.callback = false then .internalError
  else .ok

def userLink (p : Option Ptr) (length : BitVec 32) (output : Bool) : Build (List Link) :=
  match p with
  | none => pure []
  | some p => do
    let link ← sahCreateLink p length ⟨false, output, false, false, false⟩
    return [link]

def keyLink (k : KeyInfo) : Build (List Link) := do
  let link ← sahCreateKeyLink k
  return [link]

def addDesc (header : BitVec 32) (make1 make2 : Build (List Link)) (chain : List Desc) : Build (List Desc) := do
  let link1 ← make1
  let link2 ← make2.onFailure (sahDestroyLink link1)
  sahAppendDesc chain header link1 link2

section
variable (header : BitVec 32)

def addTwoInDesc (in1 : Option Ptr) (in1Length : BitVec 32) (in2 : Option Ptr) (in2Length : BitVec 32) :
  List Desc → Build (List Desc) :=
  addDesc header (userLink in1 in1Length false) (userLink in2 in2Length false)

def addInKeyDesc (in1 : Option Ptr) (in1Length : BitVec 32) (k : KeyInfo) : List Desc → Build (List Desc) :=
  addDesc header (userLink in1 in1Length false) (keyLink k)

def addInOutDesc (inp : Option Ptr) (inLength : BitVec 32) (out : Option Ptr) (outLength : BitVec 32) :
  List Desc → Build (List Desc) :=
  addDesc header (userLink inp inLength false) (userLink out outLength true)

def addKeyOutDesc (k : KeyInfo) (out : Option Ptr) (outLength : BitVec 32) : List Desc → Build (List Desc) :=
  addDesc header (keyLink k) (userLink out outLength true)

end

/-! ### What a successful request leaves -/

def Yields {α : Type} (x : Build α) (P : α → Prop) : Prop :=
  ∀ w w' a, x w = (.ok a, w') → w.Same w' ∧ P a

lemma createLink_yields (p : Ptr) (n : BitVec 32) (flags : LinkFlags) :
  Yields (sahCreateLink p n flags) (· = newLink p n flags) := by
  intro w w' link h
  have hsame := World.Same.alloc w
  rw [sahCreateLink] at h
  split at h
  · next w1 halloc =>
    rw [halloc] at hsame
    obtain ⟨hlink,rfl⟩ := Prod.mk.inj h
    exact ⟨hsame,(Except.ok.inj hlink).symm⟩
  · cases h

lemma Yields.bind {α β : Type} {x : Build α} {f : α → Build β} {P : α → Prop} {Q : β → Prop} (hx : Yields x P)
  (hf : ∀ a, P a → Yields (f a) Q) : Yields (x >>= f) Q := by
  intro w w' b h
  obtain ⟨a,w1,ha,hb⟩ := Build.bind_eq_ok h
  obtain ⟨hw1,hP⟩ := hx _ _ _ ha
  obtain ⟨hw',hQ⟩ := hf a hP _ _ _ hb
  exact ⟨hw1.trans hw',hQ⟩

lemma Yields.pure {α : Type} {P : α → Prop} {a : α} (h : P a) : Yields (pure a) P := by
  intro w w' b hb
  obtain ⟨ha,rfl⟩ := Prod.mk.inj hb
  obtain rfl := Except.ok.inj ha
  exact ⟨.rfl,h⟩

lemma Yields.onFailure {α : Type} {x : Build α} {P : α → Prop} (h : Yields x P) (f : World → World) :
  Yields (x.onFailure f) P := fun _ _ _ hx => h _ _ _ (Build.onFailure_eq_ok.mp hx)

lemma userLink_yields (p : Option Ptr) (n : BitVec 32) (output : Bool) :
  Yields (userLink p n output) (· = p.toList.map fun p => newLink p n ⟨false, output, false, false, false⟩) := by
  cases p with
  | none => exact Yields.pure rfl
  | some p => exact (createLink_yields p n _).bind fun link hlink => Yields.pure (by rw [hlink]; rfl)

lemma appendLink_yields (links : List Link) (p : Ptr) (n : BitVec 32) (flags : LinkFlags) :
  Yields (sahAppendLink links p n flags) (· = links ++ [newLink p n flags]) :=
  (createLink_yields p n flags).bind fun link hlink => Yields.pure (by rw [hlink])

lemma createKeyLink_yields (k : KeyInfo) : Yields (sahCreateKeyLink k) fun link =>
  k.present = true ∧ link = ⟨k.keyLength.setWidth 32, k.key, ⟨false, false, false, false, false⟩, 0, 0, .null⟩ ∨
    k.present = false ∧ k.established = true ∧
      link = ⟨k.keyLength.setWidth 32, .null, ⟨false, false, true, false, false⟩, k.userid, k.handle, .null⟩ := by
  intro w w' link h
  have hsame := World.Same.alloc w
  rw [sahCreateKeyLink] at h
  split at h
  · next w1 halloc =>
    rw [halloc] at hsame
    split at h
    · next hpresent =>
      obtain ⟨hlink,rfl⟩ := Prod.mk.inj h
      exact ⟨hsame,.inl ⟨hpresent,(Except.ok.inj hlink).symm⟩⟩
    · next hpresent =>
      split at h
      · next hest =>
        obtain ⟨hlink,rfl⟩ := Prod.mk.inj h
        exact ⟨hsame,.inr ⟨Bool.eq_false_iff.mpr hpresent,hest,(Except.ok.inj hlink).symm⟩⟩
      · cases h
  · cases h

lemma keyLink_yields (k : KeyInfo) : Yields (keyLink k) fun links => links.length = 1 :=
  (createKeyLink_yields k).bind fun _ _ => Yields.pure rfl

lemma appendDesc_yields (chain : List Desc) (header : BitVec 32) (link1 link2 : List Link) :
  Yields (sahAppendDesc chain header link1 link2)
    (· = chain ++ [⟨header, linksLen link1, link1, linksLen link2, link2⟩]) := by
  refine Yields.bind (P := (· = (⟨header,linksLen link1,link1,linksLen link2,link2⟩ : Desc))) ?_
    fun d hd => Yields.pure (by rw [hd])
  intro w w' d h
  have hsame := World.Same.alloc w
  rw [sahCreateDesc] at h
  split at h
  · next w1 halloc =>
    rw [halloc] at hsame
    obtain ⟨hd,rfl⟩ := Prod.mk.inj h
    exact ⟨hsame,(Except.ok.inj hd).symm⟩
  · cases h

lemma addDesc_ok {header : BitVec 32} {make1 make2 : Build (List Link)} {P Q : List Link → Prop} (h1 : Yields make1 P)
  (h2 : Yields make2 Q) (chain : List Desc) : Yields (addDesc header make1 make2 chain) fun chain' =>
    ∃ d, chain' = chain ++ [d] ∧ d.header = header ∧ P d.ptr1 ∧ Q d.ptr2 :=
  h1.bind fun link1 hP => (h2.onFailure _).bind fun link2 hQ w w' chain' h => by
    obtain ⟨hw,rfl⟩ := appendDesc_yields chain header link1 link2 _ _ _ h
    exact ⟨hw,_,rfl,rfl,hP,hQ⟩

def bytesAt (m : Mem) (p : Ptr) (n : ℕ) : List Byte := (List.range n).map fun i => m p.block (p.offset + i)

lemma bytesAt_length (m : Mem) (p : Ptr) (n : ℕ) : (bytesAt m p n).length = n := by
  rw [bytesAt,length_map,length_range]

def Link.bytes (m : Mem) (link : Link) : List Byte := bytesAt m link.data link.len.toNat

def readLinks (m : Mem) (links : List Link) : List Byte := links.flatMap (Link.bytes m)

lemma bytes_split (m : Mem) {link : Link} (h : link.len ≠ 0#32) :
  link.shorten.bytes m ++ link.lastByte.bytes m = link.bytes m := by
  have hlen : link.len.toNat = (link.len - 1#32).toNat + 1 := by bv_omega
  rw [Link.bytes,Link.bytes,Link.bytes,hlen,bytesAt,bytesAt,bytesAt,range_succ,map_append]
  rfl

lemma readLinks_splitLast (m : Mem) : ∀ {links : List Link}, (∀ link ∈ links.getLast?, link.len ≠ 0#32) →
  readLinks m (splitLast links) = readLinks m links
  | [], _ => rfl
  | [link], h => by
    have hlen : link.len ≠ 0#32 := h link rfl
    rw [readLinks,splitLast,flatMap_cons,flatMap_singleton,bytes_split m hlen,readLinks,
      flatMap_singleton]
  | link :: next :: rest, h => by
    rw [getLast?_cons_cons] at h
    have ih : readLinks m (splitLast (next :: rest)) = readLinks m (next :: rest) := readLinks_splitLast m h
    rw [splitLast,readLinks,flatMap_cons,readLinks,flatMap_cons]
    exact congrArg _ ih

def Whole (links : List Link) : Prop := Splits links → ∀ link ∈ links.getLast?, link.len ≠ 0#32

lemma whole_of_short {links : List Link} (h : links.length ≤ 1) : Whole links := by
  rintro ⟨-,⟨link,hmem,-⟩,-⟩
  have hdrop : links.dropLast = [] := eq_nil_of_length_eq_zero (by rw [length_dropLast]; omega)
  rw [hdrop] at hmem
  cases hmem

lemma readLinks_reworkLinkChain (m : Mem) (links : List Link) (w : World) (h : Whole links) :
  readLinks m (sahReworkLinkChain links w).2.1 = readLinks m links := by
  obtain ⟨-,hsame | ⟨hsplit,hlinks⟩⟩ := sahReworkLinkChain_cases links w
  · rw [hsame]
  · rw [hlinks,readLinks_splitLast m (h hsplit)]

structure Desc.Alike (m : Mem) (d d' : Desc) : Prop where
  header : d'.header = d.header
  data1 : readLinks m d'.ptr1 = readLinks m d.ptr1
  data2 : readLinks m d'.ptr2 = readLinks m d.ptr2

lemma Desc.Alike.refl (m : Mem) (d : Desc) : d.Alike m d := ⟨rfl, rfl, rfl⟩

lemma readLinks_rework (m : Mem) : ∀ (chain : List Desc) (w : World), (∀ d ∈ chain, Whole d.ptr1 ∧ Whole d.ptr2) →
  List.Forall₂ (Desc.Alike m) chain (sahReworkLinks chain w).2.1
  | [], _, _ => .nil
  | d :: chain, w, h => by
    obtain ⟨hd1,hd2⟩ := h d mem_cons_self
    have h1 := readLinks_reworkLinkChain m d.ptr1 w hd1
    have hrefl : List.Forall₂ (Desc.Alike m) chain chain := forall₂_same.mpr fun d _ => .refl m d
    rw [sahReworkLinks]
    split
    · exact .cons (.refl m d) hrefl
    · simp only
      split
      · exact .cons ⟨rfl,h1,rfl⟩ hrefl
      · have h2 := readLinks_reworkLinkChain m d.ptr2 (sahReworkLinkChain d.ptr1 w).2.2 hd2
        split
        · exact .cons ⟨rfl,h1,h2⟩ hrefl
        · exact .cons ⟨rfl,h1,h2⟩ (readLinks_rework m chain _ fun d' hd' => h d' (mem_cons_of_mem d hd'))

end Mx27.Shw
