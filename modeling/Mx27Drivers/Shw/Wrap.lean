/-
# Wrapped keys

The key functions of `fsl_shw_wrap.c`.
-/
import Mx27Drivers.Shw.Accelerator

namespace Mx27.Shw

open List

open Sahara (Return)

inductive KeyAlg
  | hmac
  | aes
  | des
  | tdes
  | arc4
  deriving DecidableEq

def KeyAlg.byte : KeyAlg → Byte
  | .hmac => 0
  | .aes => 1
  | .des => 2
  | .tdes => 3
  | .arc4 => 4

structure Sko extends KeyInfo where
  algorithm : KeyAlg

def ICV_LENGTH : BitVec 32 := 16#32
def T_LENGTH : BitVec 16 := 16#16
def KEK_LENGTH : BitVec 16 := 16#16
def LENGTH_LENGTH : BitVec 32 := 1#32
def ALGORITHM_LENGTH : BitVec 32 := 1#32

def ICV_OFFSET : BitVec 32 := 0#32
def T_PRIME_OFFSET : BitVec 32 := 16#32
def LENGTH_OFFSET : BitVec 32 := 32#32
def ALGORITHM_OFFSET : BitVec 32 := 33#32
def KEY_PRIME_OFFSET : BitVec 32 := 34#32

structure Frame where
  keyUserid : Ptr
  tUserid : Ptr
  tKey : Ptr
  kekKey : Ptr

def ownerBytes (userid : BitVec 64) : List Byte := (List.range 8).map fun i => (userid >>> (8 * i)).setWidth 8

def USERID_LENGTH : BitVec 32 := 8#32

def Sys.poke (p : Ptr) (bytes : List Byte) (s : Sys) : Sys := { s with store.mem := storeBytes p bytes s.store.mem }

def outFlags : LinkFlags := ⟨false, true, false, false, false⟩

def icvHeader : BitVec 32 :=
  SAH_HDR_MDHA_SET_MODE_MD_KEY ^^^ insertMdhaAlgorithmSha1 ^^^ insertMdhaInit ^^^ insertMdhaHmac ^^^ insertMdhaPdata ^^^
    insertMdhaMacFull

def kekHeader : BitVec 32 :=
  SAH_HDR_MDHA_SET_MODE_HASH ^^^ insertMdhaInit ^^^ insertMdhaAlgorithmSha1 ^^^ insertMdhaPdata

def ctrHeader : BitVec 32 :=
  SAH_HDR_SKHA_SET_MODE_IV_KEY ^^^ insertSkhaModeCtr ^^^ insertSkhaAlgorithmAes ^^^ insertSkhaModulus128

def appendIcvHash (link1 : Link) (blackKey : Ptr) (keyLength : BitVec 16) (hmac : Ptr) (chain : List Desc) : Build (List Desc) :=
  fun w =>
    match sahAppendLink [link1] (blackKey.add LENGTH_OFFSET) (LENGTH_LENGTH + ALGORITHM_LENGTH + keyLength.setWidth 32)
        usesFlags w with
    | (.error _, w') => sahAppendDesc chain SAH_HDR_MDHA_HASH [] [] w'
    | (.ok link1, w') =>
      match sahCreateLink hmac ICV_LENGTH outFlags w' with
      | (.error _, w'') => sahAppendDesc chain SAH_HDR_MDHA_HASH link1 [] w''
      | (.ok link2, w'') => sahAppendDesc chain SAH_HDR_MDHA_HASH link1 [link2] w''

def createIcvCalc (f : Frame) (t : KeyInfo) (blackKey : Ptr) (keyLength : BitVec 16) (hmac : Ptr) (chain : List Desc) :
  Build (List Desc) := do
  let chain ← addInKeyDesc icvHeader none 0#32 t chain
  let link1 ← sahCreateLink f.tUserid USERID_LENGTH usesFlags
  appendIcvHash link1 blackKey keyLength hmac chain

def appendKek (f : Frame) (t kek : KeyInfo) (chain : List Desc) : Build (List Desc) := do
  let link1 ← keyLink t
  let link1 ← sahAppendLink link1 f.keyUserid USERID_LENGTH usesFlags
  let link2 ← keyLink kek
  sahAppendDesc chain kekHeader link1 link2

def wrapChain (f : Frame) (k t kek : KeyInfo) (blackKey : Ptr) : Build (List Desc) := do
  let chain ← addKeyOutDesc SAH_HDR_RNG_GENERATE t none 0#32 []
  let chain ← appendKek f t kek chain
  let chain ← addInKeyDesc ctrHeader none 0#32 kek chain
  let chain ← addKeyOutDesc SAH_HDR_SKHA_ENC_DEC k (some (blackKey.add KEY_PRIME_OFFSET)) (k.keyLength.setWidth 32) chain
  createIcvCalc f t blackKey k.keyLength (blackKey.add ICV_OFFSET) chain

section
variable (c : Crypto)

def freeSlots (k t kek : KeyInfo) (s : Sys) : Sys := (doSccSlotDealloc k.userid kek.handle (doSccSlotDealloc k.userid t.handle s).2).2

def wrapWith (f : Frame) (k t kek : KeyInfo) (blackKey : Ptr) (s : Sys) : Return × Sys :=
  match wrapChain f k t kek blackKey s.world with
  | (.error r, w) => (r, freeSlots k t kek { s with world := w })
  | (.ok chain, w) =>
    let r := execute c chain { s with world := w }
    if r.1 = .ok then
      let r := doSccSlotEncrypt c t.userid t.handle T_LENGTH.toNat (blackKey.add T_PRIME_OFFSET) r.2
      (r.1, freeSlots k t kek r.2)
    else (r.1, freeSlots k t kek r.2)

def wrapFields (f : Frame) (k : Sko) (blackKey : Ptr) (s : Sys) : Sys :=
  let s := s.poke (blackKey.add LENGTH_OFFSET) [k.keyLength.setWidth 8]
  let s := s.poke (blackKey.add ALGORITHM_OFFSET) [k.algorithm.byte]
  let s := s.poke f.tUserid (ownerBytes k.userid)
  let s := s.poke f.tKey (bytesAt s.store.mem k.key 64)
  s.poke f.kekKey (bytesAt s.store.mem k.key 64)

def wrap (f : Frame) (k : Sko) (blackKey : Ptr) (s : Sys) : Return × Sys :=
  let s := wrapFields f k blackKey s
  let T := doSccSlotAlloc T_LENGTH.toNat k.userid s
  if T.1 = .ok then
    let KEK := doSccSlotAlloc KEK_LENGTH.toNat k.userid T.2.2
    if KEK.1 = .ok then
      wrapWith c f k.toKeyInfo { k.toKeyInfo with keyLength := T_LENGTH, handle := T.2.1, key := f.tKey }
        { k.toKeyInfo with keyLength := T_LENGTH, handle := KEK.2.1, key := f.kekKey } blackKey KEK.2.2
    else (KEK.1, (doSccSlotDealloc k.userid T.2.1 KEK.2.2).2)
  else (T.1, T.2.2)

def roundedKeyLength (n : BitVec 16) : BitVec 16 := if n &&& 3#16 ≠ 0#16 then n + 4#16 - (n &&& 3#16) else n

def unwrapKey (f : Frame) (k : Sko) (t : KeyInfo) (blackKey : Ptr) (s : Sys) : Return × Sko × Sys :=
  match appendKek f t t [] s.world with
  | (.error r, w) => (r, k, { s with world := w })
  | (.ok chain, w) =>
    match addInKeyDesc ctrHeader none 0#32 t chain w with
    -- the key object keeps the rounded length here
    | (.error r, w) => (r, { k with keyLength := roundedKeyLength k.keyLength }, { s with world := w })
    | (.ok chain, w) =>
      match addInKeyDesc SAH_HDR_SKHA_ENC_DEC (some (blackKey.add KEY_PRIME_OFFSET))
          ((roundedKeyLength k.keyLength).setWidth 32) { k.toKeyInfo with keyLength := roundedKeyLength k.keyLength } chain w with
      | (.error r, w) => (r, k, { s with world := w })
      | (.ok chain, w) =>
        let r := execute c chain { s with world := w }
        (r.1, k, r.2)

def checkIcv (blackKey hmac : Ptr) (m : Mem) : Return :=
  if bytesAt m (blackKey.add ICV_OFFSET) ICV_LENGTH.toNat = bytesAt m hmac ICV_LENGTH.toNat then .ok else .authFailed

def unwrapWith (f : Frame) (k : Sko) (t : KeyInfo) (blackKey hmac : Ptr) (s : Sys) : Return × Sko × Sys :=
  match createIcvCalc f t blackKey k.keyLength hmac [] s.world with
  | (.error r, w) => (r, k, { s with world := w.emit [.free hmac.block hmac.offset] })
  | (.ok chain, w) =>
    let r := execute c chain { s with world := w }
    let ret := if r.1 = .ok then checkIcv blackKey hmac r.2.store.mem else r.1
    let s := { r.2 with world := r.2.world.emit [.free hmac.block hmac.offset] }
    if ret = .ok then unwrapKey c f k t blackKey s else (ret, k, s)

def unwrap (f : Frame) (k : Sko) (blackKey : Ptr) (s : Sys) : Return × Sko × Sys :=
  match Build.malloc s.world with
  | (.error r, w) => (r, k, { s with world := w })
  | (.ok hmac, w) =>
    let t : KeyInfo := { k.toKeyInfo with keyLength := T_LENGTH, key := f.tKey }
    let s := ({ s with world := w } : Sys).poke f.tUserid (ownerBytes k.userid)
    let r := doSccSlotDecrypt c k.userid t.handle T_LENGTH.toNat (blackKey.add T_PRIME_OFFSET) s
    if r.1 = .ok then unwrapWith c f k t blackKey hmac r.2 else (r.1, k, r.2)

inductive KeyWrap
  | create
  | accept
  | unwrap
  deriving DecidableEq

def createKey (k : Sko) (s : Sys) : Return × Sko × Sys :=
  match addKeyOutDesc SAH_HDR_RNG_GENERATE { k.toKeyInfo with keyLength := roundedKeyLength k.keyLength } none 0#32 [] s.world with
  | (.error r, w) => (r, k, { s with world := w })
  | (.ok chain, w) =>
    let r := execute c chain { s with world := w }
    (r.1, k, r.2)

def establishAs (uco : Uco) (f : Frame) (k : Sko) (establishType : KeyWrap) (key : Option Ptr) (s : Sys) : Return × Sko × Sys :=
  match establishType, key with
  | .create, _ => createKey c k s
  | .accept, none => (.error, k, s)
  | .accept, some key =>
    let r := doSccSlotLoadSlot k.userid k.handle key (roundedKeyLength k.keyLength).toNat s
    (r.1, k, r.2)
  | .unwrap, key =>
    if uco.blockingMode = false then (.badFlag, k, s)
    else
      match key with
      | none => (.error, k, s)
      | some key => unwrap c f k key s

def fslShwEstablishKey (uco : Uco) (f : Frame) (k : Sko) (establishType : KeyWrap) (key : Option Ptr) (s : Sys) :
  Return × Sko × Sys :=
  if sahValidateUco uco = .ok then
    let a := doSccSlotAlloc k.keyLength.toNat k.userid (s.poke f.keyUserid (ownerBytes k.userid))
    if a.1 = .ok then
      let r := establishAs c uco f { k with handle := a.2.1, established := true } establishType key a.2.2
      if r.1 = .ok then r
      else (r.1, { r.2.1 with established := false }, (doSccSlotDealloc k.userid r.2.1.handle r.2.2).2)
    else (a.1, k, a.2.2)
  else (sahValidateUco uco, k, s)

/-- `fsl_shw_extract_key`; where nothing is done the status is that of the check. -/
def fslShwExtractKey (uco : Uco) (f : Frame) (k : Sko) (coveredKey : Ptr) (s : Sys) : Return × Sko × Sys :=
  if sahValidateUco uco = .ok then
    if uco.blockingMode = true ∧ k.established = true then
      let r := wrap c f k coveredKey (s.poke f.keyUserid (ownerBytes k.userid))
      if r.1 = .ok then
        (.ok, { k with established := false, present := false }, (doSccSlotDealloc k.userid k.handle r.2).2)
      else (r.1, k, r.2)
    else (.ok, k, s)
  else (sahValidateUco uco, k, s)

def fslShwReleaseKey (uco : Uco) (k : Sko) (s : Sys) : Return × Sko × Sys :=
  if sahValidateUco uco = .ok then
    if k.established then
      let r := doSccSlotDealloc k.userid k.handle s
      (r.1, { k with established := false, present := false }, r.2)
    else (.ok, k, s)
  else (sahValidateUco uco, k, s)

end

section
variable (c : Crypto)

def kekOf (T : List Byte) (owner : BitVec 64) : List Byte := firstBytes (c.sha1 (T ++ ownerBytes owner)) 16

def coveredPart (T : List Byte) (owner : BitVec 64) (algorithm : KeyAlg) (key : List Byte) : List Byte :=
  BitVec.ofNat 8 key.length :: algorithm.byte :: xorStream (c.ctr (kekOf c T owner)) key

def icvOf (T : List Byte) (owner : BitVec 64) (covered : List Byte) : List Byte :=
  firstBytes (c.hmac T (ownerBytes owner ++ covered)) 16

def blackKey (T : List Byte) (owner : BitVec 64) (algorithm : KeyAlg) (key : List Byte) : List Byte :=
  icvOf c T owner (coveredPart c T owner algorithm key) ++
    (c.slotEncrypt owner T ++ coveredPart c T owner algorithm key)

end

/-! ### What the chains are made of -/

def Takes {α : Type} (n : ℕ) (x : Build α) (a : α) : Prop :=
  ∀ w w' b, x w = (.ok b, w') → b = a ∧ w' = { w with supply := w.supply.drop n }

def Honest {α : Type} (x : Build α) : Prop := ∀ w w' r, x w = (.error r, w') → r ≠ .ok

def World.Ample (w : World) : Prop := ∀ granted ∈ w.supply, granted = true

def Succeeds {α : Type} (x : Build α) : Prop := ∀ w : World, w.Ample → ∃ a w', x w = (.ok a, w') ∧ w'.Ample

structure Makes {α : Type} (P : Prop) (n : ℕ) (x : Build α) (a : α) : Prop where
  takes : Takes n x a
  honest : Honest x
  succeeds : P → Succeeds x

def World.grants (w : World) (i : ℕ) : Bool := (w.supply.drop i).headD true

section
variable {w : World}

lemma World.Ample.grants (h : w.Ample) (i : ℕ) : w.grants i = true := by
  rw [World.grants]
  cases hdrop : w.supply.drop i with
  | nil => rfl
  | cons granted rest => exact h granted (mem_of_mem_drop (i := i) (by rw [hdrop]; exact mem_cons_self))

lemma World.Ample.alloc (h : w.Ample) : ∃ w', w.alloc = (true, w') ∧ w'.Ample ∧ w'.buffers = w.buffers := by
  refine ⟨{ w with supply := w.supply.tail },Prod.ext (h.grants 0) rfl,fun granted hg => h granted (mem_of_mem_tail hg),rfl⟩

end

namespace Makes

variable {α β : Type} {P : Prop} {x : Build α} {f : α → Build β} {a : α} {b : β} {n m : ℕ}

lemma pure (a : α) : Makes P 0 (pure a : Build α) a where
  takes w w' b h := by
    obtain ⟨hb,rfl⟩ := Prod.mk.inj h
    exact ⟨(Except.ok.inj hb).symm,rfl⟩
  honest w w' r h := by cases h
  succeeds _ w hw := ⟨a,w,rfl,hw⟩

lemma bind_honest (hx : Makes P n x a) (hf : Honest (f a)) : Honest (x >>= f) := by
  intro w w' r h
  rcases hxw : x w with ⟨e | a',w1⟩
  · rw [Build.bind_error hxw] at h
    obtain ⟨he,rfl⟩ := Prod.mk.inj h
    rw [← Except.error.inj he]
    exact hx.honest _ _ _ hxw
  · rw [Build.bind_ok hxw,(hx.takes _ _ _ hxw).1] at h
    exact hf _ _ _ h

lemma bind_succeeds (hx : Makes P n x a) (hP : P) (hf : Succeeds (f a)) : Succeeds (x >>= f) := by
  intro w hw
  obtain ⟨a',w1,ha,hw1⟩ := hx.succeeds hP w hw
  obtain ⟨rfl,-⟩ := hx.takes _ _ _ ha
  obtain ⟨b,w2,hb,hw2⟩ := hf w1 hw1
  exact ⟨b,w2,by rw [Build.bind_ok ha,hb],hw2⟩

lemma bind (hx : Makes P n x a) (hf : Makes P m (f a) b) : Makes P (n + m) (x >>= f) b where
  takes w w' b' h := by
    obtain ⟨a',w1,ha,hb⟩ := Build.bind_eq_ok h
    obtain ⟨rfl,rfl⟩ := hx.takes _ _ _ ha
    obtain ⟨rfl,rfl⟩ := hf.takes _ _ _ hb
    exact ⟨rfl,by rw [drop_drop]⟩
  honest := hx.bind_honest hf.honest
  succeeds hP := hx.bind_succeeds hP (hf.succeeds hP)

lemma onFailure (h : Makes P n x a) (g : World → World) : Makes P n (x.onFailure g) a where
  takes _ _ _ hx := h.takes _ _ _ (Build.onFailure_eq_ok.mp hx)
  honest w w' r hx := by
    unfold Build.onFailure at hx
    split at hx
    · cases hx
    · next e w1 hxw =>
      rw [← Except.error.inj (Prod.mk.inj hx).1]
      exact h.honest _ _ _ hxw
  succeeds hP w hw := by
    obtain ⟨a,w1,ha,hw1⟩ := h.succeeds hP w hw
    exact ⟨a,w1,Build.onFailure_eq_ok.mpr ha,hw1⟩

lemma of_alloc {g : World → World}
  (h : ∀ w : World, x w = if w.alloc.1 then (.ok a, w.alloc.2) else (.error .noResource, g w.alloc.2)) : Makes P 1 x a where
  takes w w' b e := by
    rw [h] at e
    split at e
    · obtain ⟨hb,rfl⟩ := Prod.mk.inj e
      exact ⟨(Except.ok.inj hb).symm,by rw [drop_one]; rfl⟩
    · cases (Prod.mk.inj e).1
  honest w w' r e := by
    rw [h] at e
    split at e
    · cases (Prod.mk.inj e).1
    · rw [← Except.error.inj (Prod.mk.inj e).1]
      decide
  succeeds _ w hw := by
    obtain ⟨w',e,hw',-⟩ := hw.alloc
    exact ⟨a,w',by rw [h,e]; rfl,hw'⟩

lemma run (h : Makes P n x a) (hP : P) {w : World} (hw : w.Ample) : ∃ w', x w = (.ok a, w') ∧ w'.Ample := by
  obtain ⟨a',w',ha,hw'⟩ := h.succeeds hP w hw
  obtain ⟨rfl,-⟩ := h.takes _ _ _ ha
  exact ⟨w',ha,hw'⟩

end Makes

section
variable {P : Prop}

variable {flags : LinkFlags}

lemma createLink_grants {p : Ptr} {n : BitVec 32} (howns : flags.owns = false) {w : World} {granted : Bool}
  (h : w.grants 0 = granted) : sahCreateLink p n flags w =
    (if granted then .ok (newLink p n flags) else .error .noResource, { w with supply := w.supply.drop 1 }) := by
  subst h
  rw [sahCreateLink,show w.alloc = (w.grants 0, { w with supply := w.supply.drop 1 }) by rw [drop_one]; rfl,howns]
  cases w.grants 0
  · simp [World.emit]
  · rfl

lemma createLink_makes (p : Ptr) (n : BitVec 32) (howns : flags.owns = false) :
  Makes P 1 (sahCreateLink p n flags) (newLink p n flags) := by
  refine .of_alloc (g := id) fun w => ?_
  rw [createLink_grants howns rfl,drop_one]
  exact apply_ite (fun r => (r, w.alloc.2)) _ _ _

def slotLink (k : KeyInfo) : Link :=
  ⟨k.keyLength.setWidth 32, .null, ⟨false, false, true, false, false⟩, k.userid, k.handle, .null⟩

def KeyInfo.InSlot (k : KeyInfo) : Prop := k.present = false ∧ k.established = true

def KeyInfo.link (k : KeyInfo) : Link := if k.present then newLink k.key (k.keyLength.setWidth 32) usesFlags else slotLink k

lemma KeyInfo.InSlot.link {k : KeyInfo} (hk : k.InSlot) : k.link = slotLink k := by
  rw [KeyInfo.link,hk.1,if_neg (by decide)]

lemma keyLink_makes {k : KeyInfo} (hk : P → k.established = true) : Makes P 1 (keyLink k) [k.link] := by
  refine Makes.bind (n := 1) (m := 0) (a := k.link) ?_ (.pure _)
  by_cases hready : k.present = true ∨ k.established = true
  · refine .of_alloc (g := id) fun w => ?_
    rw [sahCreateKeyLink,KeyInfo.link]
    rcases w.alloc with ⟨_ | _,w'⟩
    · rfl
    · cases hp : k.present with
      | true => rfl
      | false =>
        rw [hp] at hready
        simp [hready.resolve_left Bool.false_ne_true,slotLink]
  · rw [not_or] at hready
    have hfail : ∀ w, ∃ r w', sahCreateKeyLink k w = (.error r, w') ∧ r ≠ .ok := by
      intro w
      rw [sahCreateKeyLink]
      rcases w.alloc with ⟨_ | _,w'⟩
      · exact ⟨_,_,rfl,by decide⟩
      · exact ⟨.badFlag,w',by simp [hready.1,hready.2],by decide⟩
    refine ⟨fun w w' b h => ?_,fun w w' r h => ?_,fun hP => absurd (hk hP) hready.2⟩
    · obtain ⟨r,w1,e,-⟩ := hfail w
      cases h.symm.trans e
    · obtain ⟨r',w1,e,hr⟩ := hfail w
      cases h.symm.trans e
      exact hr

lemma appendLink_makes (links : List Link) (p : Ptr) (n : BitVec 32) (howns : flags.owns = false) :
  Makes P 1 (sahAppendLink links p n flags) (links ++ [newLink p n flags]) :=
  (createLink_makes p n howns).bind (m := 0) (.pure _)

def descOf (header : BitVec 32) (link1 link2 : List Link) : Desc := ⟨header, linksLen link1, link1, linksLen link2, link2⟩

lemma appendDesc_makes (chain : List Desc) (header : BitVec 32) (link1 link2 : List Link) :
  Makes P 1 (sahAppendDesc chain header link1 link2) (chain ++ [descOf header link1 link2]) := by
  refine Makes.bind (n := 1) (m := 0) (a := descOf header link1 link2)
    (.of_alloc (g := fun w => sahDestroyLink link2 (sahDestroyLink link1 w)) fun w => ?_) (.pure _)
  rw [sahCreateDesc]
  rcases w.alloc with ⟨_ | _,w'⟩ <;> rfl

lemma addDesc_makes {header : BitVec 32} {make1 make2 : Build (List Link)} {link1 link2 : List Link} {n m : ℕ}
  (h1 : Makes P n make1 link1) (h2 : Makes P m make2 link2) (chain : List Desc) :
  Makes P (n + (m + 1)) (addDesc header make1 make2 chain) (chain ++ [descOf header link1 link2]) :=
  h1.bind ((h2.onFailure _).bind (appendDesc_makes chain header link1 link2))

end

def kekDesc (f : Frame) (t kek : KeyInfo) : Desc :=
  descOf kekHeader [t.link, newLink f.keyUserid USERID_LENGTH usesFlags] [kek.link]

section
variable {P : Prop} {f : Frame} {k t kek : KeyInfo} {blackKey hmac : Ptr} {keyLength : BitVec 16}

lemma appendKek_makes (ht : P → t.established = true) (hkek : P → kek.established = true) (chain : List Desc) :
  Makes P 4 (appendKek f t kek chain) (chain ++ [kekDesc f t kek]) :=
  (keyLink_makes ht).bind (m := 3) <| (appendLink_makes _ _ _ rfl).bind (m := 2) <|
    (keyLink_makes hkek).bind (m := 1) <| appendDesc_makes chain _ _ _

variable {w w' : World} {chain chain' : List Desc}

lemma addInKeyDesc_makes (header : BitVec 32) (hk : P → k.established = true) (chain : List Desc) :
  Makes P 2 (addInKeyDesc header none 0#32 k chain) (chain ++ [descOf header [] [k.link]]) :=
  addDesc_makes (.pure []) (keyLink_makes hk) chain

lemma addInKeyDesc_some_makes (header : BitVec 32) (hk : P → k.established = true) (p : Ptr) (n : BitVec 32) (chain : List Desc) :
  Makes P 3 (addInKeyDesc header (some p) n k chain) (chain ++ [descOf header [newLink p n usesFlags] [k.link]]) :=
  addDesc_makes ((createLink_makes p n rfl).bind (m := 0) (.pure _)) (keyLink_makes hk) chain

lemma addKeyOutDesc_makes (header : BitVec 32) (hk : P → k.established = true) (chain : List Desc) :
  Makes P 2 (addKeyOutDesc header k none 0#32 chain) (chain ++ [descOf header [k.link] []]) :=
  addDesc_makes (keyLink_makes hk) (.pure []) chain

lemma addKeyOutDesc_some_makes (header : BitVec 32) (hk : P → k.established = true) (p : Ptr) (n : BitVec 32) (chain : List Desc) :
  Makes P 3 (addKeyOutDesc header k (some p) n chain) (chain ++ [descOf header [k.link] [newLink p n outFlags]]) :=
  addDesc_makes (keyLink_makes hk) ((createLink_makes p n rfl).bind (m := 0) (.pure _)) chain

def icvDesc (f : Frame) (blackKey : Ptr) (keyLength : BitVec 16) (hmac : Ptr) (made1 made2 : Bool) : Desc :=
  descOf SAH_HDR_MDHA_HASH
    (if made1 then
      [newLink f.tUserid USERID_LENGTH usesFlags,
        newLink (blackKey.add LENGTH_OFFSET) (LENGTH_LENGTH + ALGORITHM_LENGTH + keyLength.setWidth 32) usesFlags]
    else [])
    (if made1 ∧ made2 then [newLink hmac ICV_LENGTH outFlags] else [])

lemma appendIcvHash_eq (f : Frame) (blackKey : Ptr) (keyLength : BitVec 16) (hmac : Ptr) (chain : List Desc) (w : World) :
  ∃ link1 link2 n, appendIcvHash (newLink f.tUserid USERID_LENGTH usesFlags) blackKey keyLength hmac chain w =
      sahAppendDesc chain SAH_HDR_MDHA_HASH link1 link2 { w with supply := w.supply.drop n } ∧
    descOf SAH_HDR_MDHA_HASH link1 link2 = icvDesc f blackKey keyLength hmac (w.grants 0) (w.grants 1) := by
  cases h0 : w.grants 0 with
  | false =>
    refine ⟨[],[],1,?_,rfl⟩
    rw [appendIcvHash,sahAppendLink,Build.bind_error (createLink_grants rfl h0)]
  | true =>
    have hlinks : sahAppendLink [newLink f.tUserid USERID_LENGTH usesFlags] (blackKey.add LENGTH_OFFSET)
        (LENGTH_LENGTH + ALGORITHM_LENGTH + keyLength.setWidth 32) usesFlags w = (.ok _, _) :=
      Build.bind_ok (createLink_grants rfl h0)
    cases h1 : w.grants 1 with
    | false =>
      refine ⟨_,[],2,?_,rfl⟩
      rw [appendIcvHash,hlinks]
      simp only [createLink_grants (w := { w with supply := w.supply.drop 1 }) (show outFlags.owns = false from rfl) h1,drop_drop]
      rfl
    | true =>
      refine ⟨_,_,2,?_,rfl⟩
      rw [appendIcvHash,hlinks]
      simp only [createLink_grants (w := { w with supply := w.supply.drop 1 }) (show outFlags.owns = false from rfl) h1,drop_drop]
      rfl

def icvDescs (f : Frame) (t : KeyInfo) (blackKey : Ptr) (keyLength : BitVec 16) (hmac : Ptr) (made1 made2 : Bool) : List Desc :=
  [descOf icvHeader [] [t.link], icvDesc f blackKey keyLength hmac made1 made2]

lemma createIcvCalc_ok
  (h : createIcvCalc f t blackKey keyLength hmac chain w = (.ok chain', w')) :
  chain' = chain ++ icvDescs f t blackKey keyLength hmac (w.grants 3) (w.grants 4) ∧
    ∃ n, w' = { w with supply := w.supply.drop n } := by
  unfold createIcvCalc at h
  obtain ⟨chain1,w1,h1,h⟩ := Build.bind_eq_ok h
  obtain ⟨rfl,rfl⟩ := (addInKeyDesc_makes (P := False) _ False.elim chain).takes _ _ _ h1
  obtain ⟨link1,w2,h2,h⟩ := Build.bind_eq_ok h
  obtain ⟨rfl,rfl⟩ := (createLink_makes (P := False) _ _ rfl).takes _ _ _ h2
  obtain ⟨link1,link2,n,happend,hdesc⟩ := appendIcvHash_eq f blackKey keyLength hmac _ _
  obtain ⟨rfl,rfl⟩ := (appendDesc_makes (P := False) _ _ _ _).takes _ _ _ (happend.symm.trans h)
  refine ⟨?_,3 + n + 1,?_⟩
  · rw [hdesc,List.append_assoc]
    simp only [World.grants,drop_drop,icvDescs]
    rfl
  · simp only [drop_drop]

lemma createIcvCalc_honest (chain : List Desc) : Honest (createIcvCalc f t blackKey keyLength hmac chain) := by
  refine (addInKeyDesc_makes (P := False) _ False.elim chain).bind_honest ((createLink_makes (P := False) _ _ rfl).bind_honest ?_)
  intro w w' r h
  obtain ⟨link1,link2,n,happend,-⟩ := appendIcvHash_eq f blackKey keyLength hmac _ _
  exact (appendDesc_makes (P := False) _ _ _ _).honest _ _ _ (happend.symm.trans h)

lemma createIcvCalc_succeeds (ht : t.established = true) (chain : List Desc) :
  Succeeds (createIcvCalc f t blackKey keyLength hmac chain) := by
  refine (addInKeyDesc_makes _ (fun _ => ht) chain).bind_succeeds trivial ((createLink_makes _ _ rfl).bind_succeeds trivial ?_)
  intro w hw
  obtain ⟨link1,link2,n,happend,-⟩ := appendIcvHash_eq f blackKey keyLength hmac _ _
  rw [happend]
  exact (appendDesc_makes _ _ _ _).succeeds trivial _ fun granted hg => hw granted (mem_of_mem_drop hg)

def wrapDescs (f : Frame) (k t kek : KeyInfo) (blackKey : Ptr) (made1 made2 : Bool) : List Desc :=
  [descOf SAH_HDR_RNG_GENERATE [t.link] [], kekDesc f t kek, descOf ctrHeader [] [kek.link],
    descOf SAH_HDR_SKHA_ENC_DEC [k.link] [newLink (blackKey.add KEY_PRIME_OFFSET) (k.keyLength.setWidth 32) outFlags]] ++
    icvDescs f t blackKey k.keyLength (blackKey.add ICV_OFFSET) made1 made2

lemma wrapChain_ok
  (h : wrapChain f k t kek blackKey w = (.ok chain, w')) :
  chain = wrapDescs f k t kek blackKey (w.grants 14) (w.grants 15) := by
  unfold wrapChain at h
  obtain ⟨chain1,w1,h1,h⟩ := Build.bind_eq_ok h
  obtain ⟨rfl,rfl⟩ := (addKeyOutDesc_makes (P := False) _ False.elim []).takes _ _ _ h1
  obtain ⟨chain2,w2,h2,h⟩ := Build.bind_eq_ok h
  obtain ⟨rfl,rfl⟩ := (appendKek_makes (P := False) False.elim False.elim _).takes _ _ _ h2
  obtain ⟨chain3,w3,h3,h⟩ := Build.bind_eq_ok h
  obtain ⟨rfl,rfl⟩ := (addInKeyDesc_makes (P := False) _ False.elim _).takes _ _ _ h3
  obtain ⟨chain4,w4,h4,h⟩ := Build.bind_eq_ok h
  obtain ⟨rfl,rfl⟩ := (addKeyOutDesc_some_makes (P := False) _ False.elim _ _ _).takes _ _ _ h4
  obtain ⟨rfl,-⟩ := createIcvCalc_ok h
  simp only [World.grants,drop_drop]
  rfl

lemma wrapChain_honest : Honest (wrapChain f k t kek blackKey) :=
  (addKeyOutDesc_makes (P := False) _ False.elim []).bind_honest <| (appendKek_makes (P := False) False.elim False.elim _).bind_honest <|
    (addInKeyDesc_makes (P := False) _ False.elim _).bind_honest <|
      (addKeyOutDesc_some_makes (P := False) _ False.elim _ _ _).bind_honest <| createIcvCalc_honest _

end

end Mx27.Shw
