/-
# Key slots

The twenty key slots of `mxc_scc.c`, thirty-two bytes each in the RED and in the BLACK memory.
-/
import Mx27Drivers.Lib.Run
import Mx27Drivers.Scc.Scm

namespace Mx27.Scc

open List Function

def SCC_KEY_SLOTS : ℕ := 20
def SCC_MAX_KEY_SIZE : ℕ := 32
def SCC_KEY_SLOT_SIZE : ℕ := 32

inductive Ret
  | ok
  | fail
  | verificationFailed
  | insufficientSpace
  deriving DecidableEq

structure Slot where
  ownerId : BitVec 64
  length : ℕ
  status : Bool
  deriving DecidableEq

def slotOffset (slot : ℕ) : ℕ := slot * SCC_KEY_SLOT_SIZE

/-- `scc_key_info` and the SCM. -/
structure State where
  keyInfo : ℕ → Slot
  scm : Scm

structure SlotInfo where
  address : ℕ
  valueSizeBytes : ℕ
  slotSizeBytes : ℕ
  deriving DecidableEq

structure Output where
  status : Ret
  slot : Option ℕ
  info : Option SlotInfo
  data : Option (List Byte)

def Output.of (status : Ret) : Output := ⟨status, none, none, none⟩

inductive Op
  | alloc (valueSizeBytes : ℕ) (owner : BitVec 64)
  | dealloc (owner : BitVec 64) (slot : ℕ)
  | load (owner : BitVec 64) (slot : ℕ) (keyData : Option (ℕ → Byte)) (keyLength : ℕ)
  | encrypt (owner : BitVec 64) (slot length : ℕ)
  | decrypt (owner : BitVec 64) (slot length : ℕ) (blackData : ℕ → Byte)
  | slotInfo (owner : BitVec 64) (slot : ℕ)

namespace State

def Owns (s : State) (owner : BitVec 64) (slot : ℕ) : Prop :=
  slot < SCC_KEY_SLOTS ∧ (s.keyInfo slot).status = true ∧ (s.keyInfo slot).ownerId = owner

instance (s : State) (owner : BitVec 64) (slot : ℕ) : Decidable (s.Owns owner slot) :=
  inferInstanceAs (Decidable (_ ∧ _ ∧ _))

/-- `verify_slot_access` succeeds. -/
def Verify (s : State) (owner : BitVec 64) (slot accessLen : ℕ) : Prop :=
  s.Owns owner slot ∧ accessLen ≤ SCC_KEY_SLOT_SIZE

instance (s : State) (owner : BitVec 64) (slot accessLen : ℕ) : Decidable (s.Verify owner slot accessLen) :=
  inferInstanceAs (Decidable (_ ∧ _))

end State

def sccAllocSlot (valueSizeBytes : ℕ) (owner : BitVec 64) (s : State) : Output × State :=
  if valueSizeBytes ≠ 0 ∧ valueSizeBytes ≤ SCC_MAX_KEY_SIZE then
    match (List.range SCC_KEY_SLOTS).find? fun i => !(s.keyInfo i).status with
    | some i =>
      (⟨.ok, some i, none, none⟩, { s with keyInfo := Function.update s.keyInfo i ⟨owner, valueSizeBytes, true⟩ })
    | none => (.of .insufficientSpace, s)
  else (.of .fail, s)

def clearSlot (slot : ℕ) (ram : Ram) : Ram :=
  (List.range 8).foldl (fun ram i => Function.update ram ((slotOffset slot + 4 * i) / 4) 0#32) ram

def sccDeallocSlot (owner : BitVec 64) (slot : ℕ) (s : State) : Output × State :=
  if s.Verify owner slot 0 then
    (.of .ok,
      { keyInfo := Function.update s.keyInfo slot { s.keyInfo slot with ownerId := 0, status := false }
        scm := { s.scm with red := clearSlot slot s.scm.red, black := clearSlot slot s.scm.black } })
  else (.of .fail, s)

def sccLoadSlot (owner : BitVec 64) (slot : ℕ) (keyData : Option (ℕ → Byte)) (keyLength : ℕ) (s : State) :
  Output × State :=
  if s.Verify owner slot keyLength then
    match keyData with
    | some data =>
      (.of .ok,
        { s with
          scm := { s.scm with
            red := (copyToScc ((List.range keyLength).map data) (slotOffset slot) s.scm.red none).1 } })
    | none => (.of .ok, s)
  else (.of .fail, s)

def ownerVector (owner : BitVec 64) : Block := (owner.setWidth 32, (owner >>> 32).setWidth 32)

def aimAt (owner : BitVec 64) (slot : ℕ) (scm : Scm) : Scm :=
  { scm with
    vector := ownerVector owner
    redStart := slotOffset slot / SCC_BLOCK_SIZE_BYTES
    blackStart := slotOffset slot / SCC_BLOCK_SIZE_BYTES }

section
variable (hw : Hardware)

/-- `scc_encrypt_slot`; the status stays what the verification gave. -/
def sccEncryptSlot (owner : BitVec 64) (slot length : ℕ) (s : State) : Output × State :=
  if s.Verify owner slot length then
    let r := sccDoCrypto hw length true false (aimAt owner slot s.scm)
    (⟨.ok, none, none, if r.1 then none else some (copyFromScc (slotOffset slot) length r.2.black none).1⟩,
      { s with scm := r.2 })
  else (.of .fail, s)

def sccDecryptSlot (owner : BitVec 64) (slot length : ℕ) (blackData : ℕ → Byte) (s : State) : Output × State :=
  if s.Verify owner slot length then
    let scm := { s.scm with black := (copyToScc ((List.range length).map blackData) (slotOffset slot) s.scm.black none).1 }
    let r := sccDoCrypto hw length true true (aimAt owner slot scm)
    (.of (if r.1 then .fail else .ok), { s with scm := r.2 })
  else (.of .fail, s)

def sccGetSlotInfo (owner : BitVec 64) (slot : ℕ) (s : State) : Output × State :=
  if s.Verify owner slot 0 then
    (⟨.ok, none, some ⟨slotOffset slot, (s.keyInfo slot).length, SCC_KEY_SLOT_SIZE⟩, none⟩, s)
  else (.of .fail, s)

def step (s : State) : Op → Output × State
  | .alloc n owner => sccAllocSlot n owner s
  | .dealloc owner slot => sccDeallocSlot owner slot s
  | .load owner slot keyData keyLength => sccLoadSlot owner slot keyData keyLength s
  | .encrypt owner slot length => sccEncryptSlot hw owner slot length s
  | .decrypt owner slot length blackData => sccDecryptSlot hw owner slot length blackData s
  | .slotInfo owner slot => sccGetSlotInfo owner slot s

def next (s : State) (op : Op) : Option State := some (step hw s op).2

end

structure State.Initial (s : State) : Prop where
  unassigned : ∀ slot, (s.keyInfo slot).status = false
  red : ∀ i, s.scm.red i = 0#32
  black : ∀ i, s.scm.black i = 0#32

def Op.target : Op → Option (BitVec 64 × ℕ)
  | .alloc _ _ => none
  | .dealloc owner slot => some (owner, slot)
  | .load owner slot _ _ => some (owner, slot)
  | .encrypt owner slot _ => some (owner, slot)
  | .decrypt owner slot _ _ => some (owner, slot)
  | .slotInfo owner slot => some (owner, slot)

def InSlot (slot i : ℕ) : Prop := 8 * slot ≤ i ∧ i < 8 * slot + 8

instance (slot i : ℕ) : Decidable (InSlot slot i) := inferInstanceAs (Decidable (_ ∧ _))

def Op.MayChange (op : Op) (i : ℕ) : Prop := ∃ owner slot, op.target = some (owner, slot) ∧ InSlot slot i

structure Isolated (s : State) (op : Op) (out : Output) (s' : State) : Prop where
  owner : ∀ owner slot, op.target = some (owner, slot) → s' ≠ s ∨ out.info ≠ none ∨ out.data ≠ none →
    s.Owns owner slot
  confined : ∀ i, ¬ op.MayChange i → s'.scm.red i = s.scm.red i ∧ s'.scm.black i = s.scm.black i
  fresh : ∀ slot, out.slot = some slot → ∀ i, InSlot slot i → s'.scm.red i = 0#32 ∧ s'.scm.black i = 0#32

def Op.Ok (s : State) : Op → Prop
  | .encrypt owner slot length => s.Verify owner slot length → 8 ≤ length
  | .decrypt owner slot length _ => s.Verify owner slot length → 8 ≤ length
  | _ => True

instance (s : State) : (op : Op) → Decidable (op.Ok s)
  | .encrypt owner slot length => inferInstanceAs (Decidable (s.Verify owner slot length → 8 ≤ length))
  | .decrypt owner slot length _ => inferInstanceAs (Decidable (s.Verify owner slot length → 8 ≤ length))
  | .alloc _ _ => isTrue trivial
  | .dealloc _ _ => isTrue trivial
  | .load _ _ _ _ => isTrue trivial
  | .slotInfo _ _ => isTrue trivial

/-! ### What one call does -/

def Clean (s : State) : Prop :=
  ∀ slot < SCC_KEY_SLOTS, (s.keyInfo slot).status = false → ∀ i, InSlot slot i → s.scm.red i = 0#32 ∧ s.scm.black i = 0#32

lemma clearSlot_eq (slot : ℕ) (ram : Ram) (i : ℕ) : clearSlot slot ram i = if InSlot slot i then 0#32 else ram i := by
  have hword : ∀ k, (slotOffset slot + 4 * k) / 4 = 8 * slot + k := by
    intro k
    simp only [slotOffset,SCC_KEY_SLOT_SIZE]
    omega
  have hfold : ∀ n, (List.range n).foldl (fun ram k => Function.update ram ((slotOffset slot + 4 * k) / 4) 0#32) ram i =
      if 8 * slot ≤ i ∧ i < 8 * slot + n then 0#32 else ram i := by
    intro n
    induction n with
    | zero => rw [if_neg (by omega)]; rfl
    | succ n ih =>
      rw [range_succ,foldl_append,foldl_cons,foldl_nil,hword]
      by_cases hi : i = 8 * slot + n
      · rw [hi,update_self,if_pos (by omega)]
      · rw [update_of_ne hi,ih]
        congr 1
        exact propext (by omega)
  exact hfold 8

section
variable {hw : Hardware} {s : State}

lemma crypto_confined (hblocks : 4 * SCC_KEY_SLOTS ≤ hw.blocks) (owner : BitVec 64) {slot length : ℕ} (dec : Bool)
  (hslot : slot < SCC_KEY_SLOTS) (hlen : 8 ≤ length ∧ length ≤ SCC_KEY_SLOT_SIZE) (scm : Scm) {i : ℕ}
  (hi : ¬ InSlot slot i) :
  (sccDoCrypto hw length true dec (aimAt owner slot scm)).2.red i = scm.red i ∧
    (sccDoCrypto hw length true dec (aimAt owner slot scm)).2.black i = scm.black i := by
  simp only [SCC_KEY_SLOTS,SCC_KEY_SLOT_SIZE] at hslot hlen hblocks
  have hstart : slotOffset slot / SCC_BLOCK_SIZE_BYTES = 4 * slot := by
    simp only [slotOffset,SCC_KEY_SLOT_SIZE,SCC_BLOCK_SIZE_BYTES]
    omega
  rw [InSlot] at hi
  rw [sccDoCrypto_blocks hw hlen.1 (by omega) true dec (s := aimAt owner slot scm) (by simp only [aimAt,hstart]; omega)
    (by simp only [aimAt,hstart]; omega)]
  cases dec with
  | true => exact ⟨cipherBlocks_other _ _ _ _ _ _ _ (by simp only [aimAt,hstart]; omega),rfl⟩
  | false => exact ⟨rfl,cipherBlocks_other _ _ _ _ _ _ _ (by simp only [aimAt,hstart]; omega)⟩

lemma copy_confined {data : List Byte} (hlen : data.length ≤ SCC_KEY_SLOT_SIZE) {slot i : ℕ} (hi : ¬ InSlot slot i) (ram : Ram) :
  (copyToScc data (slotOffset slot) ram none).1 i = ram i := by
  refine copyToScc_other _ _ _ _ ?_
  rw [InSlot] at hi
  simp only [slotOffset,SCC_KEY_SLOT_SIZE] at hlen ⊢
  omega

structure Frame (s : State) (op : Op) (s' : State) : Prop where
  owned : ∀ owner slot, op.target = some (owner, slot) → s' = s ∨ s.Owns owner slot
  ram : ∀ i, ¬ op.MayChange i → s'.scm.red i = s.scm.red i ∧ s'.scm.black i = s.scm.black i
  freed : ∀ slot, (s'.keyInfo slot).status = false → (s.keyInfo slot).status = true →
    ∀ i, InSlot slot i → s'.scm.red i = 0#32 ∧ s'.scm.black i = 0#32

lemma Frame.refl (s : State) (op : Op) : Frame s op s :=
  ⟨fun _ _ _ => .inl rfl, fun _ _ => ⟨rfl, rfl⟩, fun slot h h' => by rw [h] at h'; cases h'⟩

lemma Frame.of_scm {op : Op} {owner : BitVec 64} {slot : ℕ} {scm : Scm} (htarget : op.target = some (owner, slot))
  (howns : s.Owns owner slot) (hscm : ∀ i, ¬ InSlot slot i → scm.red i = s.scm.red i ∧ scm.black i = s.scm.black i) :
  Frame s op { s with scm := scm } := by
  refine ⟨fun o k hk => .inr ?_,fun i hi => hscm i fun hin => hi ⟨owner,slot,htarget,hin⟩,fun k h h' => ?_⟩
  · obtain ⟨rfl,rfl⟩ : o = owner ∧ k = slot := by simpa using hk.symm.trans htarget
    exact howns
  · rw [h] at h'
    cases h'

lemma alloc_frame (n : ℕ) (owner : BitVec 64) : Frame s (.alloc n owner) (sccAllocSlot n owner s).2 := by
  rw [sccAllocSlot]
  split
  · cases hfind : (List.range SCC_KEY_SLOTS).find? fun i => !(s.keyInfo i).status with
    | none => exact Frame.refl s _
    | some k =>
      refine ⟨fun _ _ h => (by cases h),fun _ _ => ⟨rfl,rfl⟩,fun slot h h' => ?_⟩
      simp only [update_apply] at h
      split at h
      · cases h
      · rw [h] at h'
        cases h'
  · exact Frame.refl s _

lemma dealloc_frame (owner : BitVec 64) (slot : ℕ) : Frame s (.dealloc owner slot) (sccDeallocSlot owner slot s).2 := by
  rw [sccDeallocSlot]
  split
  · next hv =>
    refine ⟨fun o k hk => .inr ?_,fun i hi => ?_,fun k h h' i hi => ?_⟩
    · obtain ⟨rfl,rfl⟩ : o = owner ∧ k = slot := by simpa [Op.target] using hk.symm
      exact hv.1
    · have hout : ¬ InSlot slot i := fun hin => hi ⟨owner,slot,rfl,hin⟩
      simp only [clearSlot_eq,if_neg hout,and_self]
    · -- the slot that became unassigned is the one that was cleared
      obtain rfl : k = slot := by
        by_contra hne
        simp only [update_of_ne hne] at h
        rw [h] at h'
        cases h'
      simp only [clearSlot_eq,if_pos hi,and_self]
  · exact Frame.refl s _

lemma load_frame (owner : BitVec 64) (slot : ℕ) (keyData : Option (ℕ → Byte)) (keyLength : ℕ) :
  Frame s (.load owner slot keyData keyLength) (sccLoadSlot owner slot keyData keyLength s).2 := by
  unfold sccLoadSlot
  split
  · next hv =>
    cases keyData with
    | none => exact Frame.refl s _
    | some data =>
      refine Frame.of_scm rfl hv.1 fun i hi => ⟨copy_confined ?_ hi _,rfl⟩
      rw [length_map,length_range]
      exact hv.2
  · exact Frame.refl s _

lemma encrypt_frame (hblocks : 4 * SCC_KEY_SLOTS ≤ hw.blocks) (owner : BitVec 64) (slot length : ℕ)
  (hok : Op.Ok s (.encrypt owner slot length)) :
  Frame s (.encrypt owner slot length) (sccEncryptSlot hw owner slot length s).2 := by
  rw [sccEncryptSlot]
  split
  · next hv =>
    exact Frame.of_scm rfl hv.1 fun i hi => crypto_confined hblocks owner false hv.1.1 ⟨hok hv,hv.2⟩ s.scm hi
  · exact Frame.refl s _

lemma decrypt_frame (hblocks : 4 * SCC_KEY_SLOTS ≤ hw.blocks) (owner : BitVec 64) (slot length : ℕ) (blackData : ℕ → Byte)
  (hok : Op.Ok s (.decrypt owner slot length blackData)) :
  Frame s (.decrypt owner slot length blackData) (sccDecryptSlot hw owner slot length blackData s).2 := by
  rw [sccDecryptSlot]
  split
  · next hv =>
    refine Frame.of_scm rfl hv.1 fun i hi => ?_
    obtain ⟨hred,hblack⟩ := crypto_confined hblocks owner true hv.1.1 ⟨hok hv,hv.2⟩
      { s.scm with black := (copyToScc ((List.range length).map blackData) (slotOffset slot) s.scm.black none).1 } hi
    refine ⟨hred,hblack.trans (copy_confined ?_ hi _)⟩
    rw [length_map,length_range]
    exact hv.2
  · exact Frame.refl s _

lemma step_frame (hblocks : 4 * SCC_KEY_SLOTS ≤ hw.blocks) (op : Op) (hok : op.Ok s) : Frame s op (step hw s op).2 := by
  cases op with
  | alloc n owner => exact alloc_frame n owner
  | dealloc owner slot => exact dealloc_frame owner slot
  | load owner slot keyData keyLength => exact load_frame owner slot keyData keyLength
  | encrypt owner slot length => exact encrypt_frame hblocks owner slot length hok
  | decrypt owner slot length blackData => exact decrypt_frame hblocks owner slot length blackData hok
  | slotInfo owner slot =>
    simp only [step,sccGetSlotInfo]
    split <;> exact Frame.refl s _

lemma step_reveals (op : Op) {owner : BitVec 64} {slot : ℕ} (htarget : op.target = some (owner, slot))
  (h : (step hw s op).1.info ≠ none ∨ (step hw s op).1.data ≠ none) : s.Owns owner slot := by
  cases op with
  | alloc n o => cases htarget
  | load o k keyData keyLength =>
    simp only [step,sccLoadSlot] at h
    split at h
    · cases keyData <;> simp [Output.of] at h
    · simp [Output.of] at h
  | dealloc | decrypt =>
    simp only [step,sccDeallocSlot,sccDecryptSlot] at h
    split at h <;> simp [Output.of] at h
  | encrypt | slotInfo =>
    cases htarget
    simp only [step,sccEncryptSlot,sccGetSlotInfo] at h
    split at h
    · next hv => exact hv.1
    · simp [Output.of] at h

lemma step_handsOut (op : Op) {slot : ℕ} (h : (step hw s op).1.slot = some slot) :
  slot < SCC_KEY_SLOTS ∧ (s.keyInfo slot).status = false ∧ (step hw s op).2.scm = s.scm := by
  cases op with
  | alloc n o =>
    simp only [step,sccAllocSlot] at h ⊢
    split at h
    · next hn =>
      rw [if_pos hn]
      cases hfind : (List.range SCC_KEY_SLOTS).find? fun i => !(s.keyInfo i).status with
      | none => simp [hfind,Output.of] at h
      | some k =>
        obtain rfl : k = slot := by simpa [hfind] using h
        have hmem := mem_of_find?_eq_some hfind
        have hfree := find?_some hfind
        exact ⟨mem_range.mp hmem,by simpa using hfree,rfl⟩
    · simp [Output.of] at h
  | load o k keyData keyLength =>
    simp only [step,sccLoadSlot] at h
    split at h
    · cases keyData <;> simp [Output.of] at h
    · simp [Output.of] at h
  | dealloc | encrypt | decrypt | slotInfo =>
    simp only [step,sccDeallocSlot,sccEncryptSlot,sccDecryptSlot,sccGetSlotInfo] at h
    split at h <;> simp [Output.of] at h

/-! ### Runs -/

lemma Initial.clean (h : s.Initial) : Clean s := fun _ _ _ i _ => ⟨h.red i, h.black i⟩

lemma Frame.clean {op : Op} {s' : State} (hframe : Frame s op s') (hclean : Clean s) : Clean s' := by
  intro slot hslot hfree i hi
  by_cases hbefore : (s.keyInfo slot).status = true
  · exact hframe.freed slot hfree hbefore i hi
  · rw [Bool.not_eq_true] at hbefore
    by_cases hsame : s' = s
    · rw [hsame]
      exact hclean slot hslot hbefore i hi
    · have hout : ¬ op.MayChange i := by
        rintro ⟨o,k,htarget,hin⟩
        have howns := (hframe.owned o k htarget).resolve_left hsame
        obtain rfl : k = slot := by
          simp only [InSlot] at hi hin
          omega
        have hstatus := howns.2.1
        rw [hbefore] at hstatus
        cases hstatus
      rw [(hframe.ram i hout).1,(hframe.ram i hout).2]
      exact hclean slot hslot hbefore i hi

lemma step_isolated (hblocks : 4 * SCC_KEY_SLOTS ≤ hw.blocks) (hclean : Clean s) (op : Op) (hok : op.Ok s) :
  Isolated s op (step hw s op).1 (step hw s op).2 := by
  have hframe := step_frame hblocks op hok
  refine ⟨fun o k htarget h => ?_,hframe.ram,fun slot h i hi => ?_⟩
  · rcases h with h | h
    · exact (hframe.owned o k htarget).resolve_left h
    · exact step_reveals op htarget h
  · obtain ⟨hlt,hfree,hscm⟩ := step_handsOut op h
    rw [hscm]
    exact hclean slot hlt hfree i hi

end

def zeroed : State := ⟨fun _ => ⟨0, 0, false⟩, ⟨fun _ => 0#32, fun _ => 0#32, (0#32, 0#32), 0, 0⟩⟩

lemma zeroed_initial : zeroed.Initial := ⟨fun _ => rfl, fun _ => rfl, fun _ => rfl⟩

def Hardware.toTheEnd (hw : Hardware) : Hardware :=
  { hw with overrun := fun cbc dec s => hw.cipher cbc dec (hw.blocks - max s.redStart s.blackStart) s }

def complement : Hardware :=
  Hardware.toTheEnd ⟨128, fun b => (~~~b.1, ~~~b.2), fun b => (~~~b.1, ~~~b.2), fun _ _ s => s⟩

def storeAndFetch : List Op := [.alloc 8 1, .decrypt 1 0 8 (fun _ => 7), .encrypt 1 0 8, .dealloc 1 0]

end Mx27.Scc
