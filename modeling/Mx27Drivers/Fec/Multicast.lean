/-
# The address filter

`set_multicast_list` programs the filter of the controller.
-/
import Mx27Drivers.Lib.Run

namespace Mx27.Fec

open List

abbrev Octet := BitVec 8

def CRC32_POLY : BitVec 32 := 0xEDB88320#32

def crcBit (crc data : BitVec 32) : BitVec 32 := (crc >>> 1) ^^^ (if (crc ^^^ data) &&& 1#32 ≠ 0#32 then CRC32_POLY else 0#32)

def crcLoop : ℕ → BitVec 32 → BitVec 32 → BitVec 32
  | 0, crc, _ => crc
  | n + 1, crc, data => crcLoop n (crcBit crc data) (data >>> 1)

def crcOf (addr : List Octet) : BitVec 32 := addr.foldl (fun crc b => crcLoop 8 crc (b.setWidth 32)) 0xffffffff#32

def hashOf (addr : List Octet) : ℕ := ((crcOf addr >>> 26) &&& 0x3f#32).toNat

def crcShift (r : BitVec 32) (b : Bool) : BitVec 32 := (r >>> 1) ^^^ (if r.getLsbD 0 != b then CRC32_POLY else 0#32)

def crc32Le (bits : List Bool) : BitVec 32 := bits.foldl crcShift 0xffffffff#32

def addrBits (addr : List Octet) : List Bool := addr.flatMap fun b => (List.range 8).map fun i => b.getLsbD i

lemma and_one_ne_zero (v : BitVec 32) : v &&& 1#32 ≠ 0#32 ↔ v.getLsbD 0 = true := by
  rw [BitVec.and_one_eq_setWidth_ofBool_getLsbD]
  cases v.getLsbD 0 <;> decide

lemma crcBit_eq (crc data : BitVec 32) :
  crcBit crc data = crcShift crc (data.getLsbD 0) := by
  rw [crcBit,crcShift]
  congr 1
  refine if_congr ?_ rfl rfl
  rw [and_one_ne_zero,BitVec.getLsbD_xor]

lemma crcLoop_eq : ∀ (n : ℕ) (crc data : BitVec 32), crcLoop n crc data =
  ((List.range n).map fun i => data.getLsbD i).foldl crcShift crc
  | 0, _, _ => rfl
  | n + 1, crc, data => by
    rw [crcLoop,crcLoop_eq n,crcBit_eq,range_succ_eq_map,map_cons,foldl_cons,List.map_map]
    congr 1
    refine map_congr_left fun i _ => ?_
    rw [BitVec.getLsbD_ushiftRight,Nat.add_comm]
    rfl

lemma crcOf_eq (addr : List Octet) : crcOf addr = crc32Le (addrBits addr) := by
  rw [crcOf,crc32Le,addrBits,foldl_flatMap]
  congr 1
  funext crc b
  exact crcLoop_eq 8 crc (b.setWidth 32)

lemma hashOf_eq (addr : List Octet) : hashOf addr = (crc32Le (addrBits addr)).toNat / 2 ^ 26 := by
  have hlt : (crc32Le (addrBits addr)).toNat / 2 ^ 26 < 2 ^ 6 := by
    have := (crc32Le (addrBits addr)).isLt
    omega
  rw [hashOf,crcOf_eq,BitVec.toNat_and,BitVec.toNat_ushiftRight,Nat.shiftRight_eq_div_pow]
  exact (Nat.and_two_pow_sub_one_eq_mod _ 6).trans (Nat.mod_eq_of_lt hlt)

lemma hashOf_lt (addr : List Octet) : hashOf addr < 64 := by
  have := (crc32Le (addrBits addr)).isLt
  rw [hashOf_eq]
  omega

/-! ### The registers -/

/-- `fec_r_cntrl`, `fec_hash_table_high` and `fec_hash_table_low` -/
structure Filter where
  rCntrl : BitVec 32
  hashHigh : BitVec 32
  hashLow : BitVec 32

/-- `IFF_PROMISC`, `IFF_ALLMULTI` and the multicast list -/
structure Subscriptions where
  promisc : Bool
  allmulti : Bool
  mcList : List (List Octet)

def Group (addr : List Octet) : Prop := addr.headD 0#8 &&& 1#8 ≠ 0#8

instance (addr : List Octet) : Decidable (Group addr) := inferInstanceAs (Decidable (_ ≠ _))

def Filter.addHash (f : Filter) (hash : ℕ) : Filter :=
  if 31 < hash then { f with hashHigh := f.hashHigh ||| 1#32 <<< (hash - 32) }
  else { f with hashLow := f.hashLow ||| 1#32 <<< hash }

def setMulticastList (dev : Subscriptions) (f : Filter) : Filter :=
  if dev.promisc then { f with rCntrl := f.rCntrl ||| 0x0008#32 }
  else
    let f := { f with rCntrl := f.rCntrl &&& ~~~0x0008#32 }
    if dev.allmulti then { f with hashHigh := 0xffffffff#32, hashLow := 0xffffffff#32 }
    else dev.mcList.foldl (fun f addr => if Group addr then f.addHash (hashOf addr) else f)
      { f with hashHigh := 0#32, hashLow := 0#32 }

def OPT_FRAME_SIZE : BitVec 32 := 1518#32 <<< 16

def restartFilter (duplex : Bool) : Filter := ⟨OPT_FRAME_SIZE ||| (if duplex then 0x04#32 else 0x06#32), 0#32, 0#32⟩

def Filter.bit (f : Filter) (n : ℕ) : Bool := if n < 32 then f.hashLow.getLsbD n else f.hashHigh.getLsbD (n - 32)

def Filter.Accepts (f : Filter) (addr : List Octet) : Prop :=
  f.rCntrl &&& 0x0008#32 ≠ 0#32 ∨ (Group addr ∧ f.bit (hashOf addr) = true)

lemma bit_addHash (f : Filter) {hash n : ℕ} (hh : hash < 64) (hn : n < 64) :
  (f.addHash hash).bit n = true ↔ f.bit n = true ∨ n = hash := by
  unfold Filter.addHash Filter.bit
  have hone : ∀ k i : ℕ, i < 32 → (1#32 <<< k).getLsbD i = decide (i = k) := by
    intro k i hi
    rw [BitVec.getLsbD_shiftLeft,BitVec.getLsbD_one]
    by_cases h : i = k
    · simp [h,show k < 32 by omega]
    · simp [hi,h]
      omega
  by_cases h1 : 31 < hash <;> by_cases h2 : n < 32 <;> simp only [h1,h2,↓reduceIte,BitVec.getLsbD_or]
  · exact ⟨.inl,fun h => h.resolve_right (by omega)⟩
  · rw [hone _ _ (by omega),Bool.or_eq_true,decide_eq_true_iff]
    exact or_congr_right (by omega)
  · rw [hone _ _ (by omega),Bool.or_eq_true,decide_eq_true_iff]
  · exact ⟨.inl,fun h => h.resolve_right (by omega)⟩

lemma bit_foldl {n : ℕ} (hn : n < 64) : ∀ (l : List (List Octet)) (f : Filter),
  (l.foldl (fun f addr => if Group addr then f.addHash (hashOf addr) else f) f).bit n = true ↔
    f.bit n = true ∨ ∃ addr ∈ l, Group addr ∧ n = hashOf addr
  | [], f => by simp
  | addr :: l, f => by
    rw [foldl_cons,bit_foldl hn l]
    by_cases hg : Group addr
    · rw [if_pos hg,bit_addHash f (hashOf_lt addr) hn]
      simp [hg,or_assoc]
    · rw [if_neg hg]
      simp [hg]

lemma filterBit_setMulticastList {dev : Subscriptions} (hp : dev.promisc = false) (ha : dev.allmulti = false) (f : Filter)
  {n : ℕ} (hn : n < 64) : (setMulticastList dev f).bit n = true ↔ ∃ addr ∈ dev.mcList, Group addr ∧ n = hashOf addr := by
  rw [setMulticastList,hp,ha,if_neg Bool.false_ne_true]
  simp only [Bool.false_eq_true,↓reduceIte]
  rw [bit_foldl hn,or_iff_right]
  simp [Filter.bit]

/-! ### Runs -/

structure Net where
  dev : Subscriptions
  filter : Filter
  running : Bool

inductive NetEvent
  | subscribe (dev : Subscriptions)
  | restart (duplex : Bool)
  | stop

def netStep (s : Net) : NetEvent → Option Net
  | .subscribe dev => some { s with dev := dev, filter := setMulticastList dev s.filter }
  | .restart duplex => some { s with filter := restartFilter duplex, running := true }
  | .stop => some { s with running := false }

def Follows (s : Net) : Prop := s.running = true →
  (∀ addr ∈ s.dev.mcList, Group addr → s.filter.Accepts addr) ∧
  (s.dev.promisc = true → ∀ addr, s.filter.Accepts addr) ∧
  (s.dev.allmulti = true → ∀ addr, Group addr → s.filter.Accepts addr) ∧
  (s.dev.promisc = false → s.dev.allmulti = false → ∀ n < 64,
    (s.filter.bit n = true ↔ ∃ addr ∈ s.dev.mcList, Group addr ∧ n = (crc32Le (addrBits addr)).toNat / 2 ^ 26))

def Unsubscribed (s : Net) : NetEvent → Prop
  | .restart _ => s.dev.promisc = false ∧ s.dev.allmulti = false ∧ ∀ addr ∈ s.dev.mcList, ¬ Group addr
  | _ => True

lemma follows_setMulticastList (dev : Subscriptions) (f : Filter) (running : Bool) :
  Follows ⟨dev, setMulticastList dev f, running⟩ := by
  intro _
  by_cases hp : dev.promisc = true
  · have hall : ∀ addr, (setMulticastList dev f).Accepts addr := by
      intro addr
      rw [setMulticastList,if_pos hp]
      refine .inl fun h => ?_
      have := congrArg (fun v => BitVec.getLsbD v 3) h
      simp at this
    exact ⟨fun addr _ _ => hall addr,fun _ => hall,fun _ addr _ => hall addr,fun hn => absurd (hn.symm.trans hp) (by decide)⟩
  have hp' : dev.promisc = false := Bool.eq_false_of_not_eq_true hp
  by_cases ha : dev.allmulti = true
  · have hall : ∀ addr, Group addr → (setMulticastList dev f).Accepts addr := by
      intro addr hg
      rw [setMulticastList,if_neg hp]
      simp only [ha,↓reduceIte]
      have hones : ∀ i < 32, (0xffffffff#32 : BitVec 32).getLsbD i = true := by decide
      refine .inr ⟨hg,?_⟩
      have := hashOf_lt addr
      rw [Filter.bit]
      split
      · next h => exact hones _ h
      · exact hones _ (by omega)
    exact ⟨fun addr _ hg => hall addr hg,fun h => absurd h hp,fun _ => hall,fun _ hn => absurd (hn.symm.trans ha) (by decide)⟩
  have ha' : dev.allmulti = false := Bool.eq_false_of_not_eq_true ha
  refine ⟨fun addr hm hg => .inr ⟨hg,?_⟩,fun h => absurd h hp,fun h => absurd h ha,fun _ _ n hn => ?_⟩
  · exact (filterBit_setMulticastList hp' ha' f (hashOf_lt addr)).mpr ⟨addr,hm,hg,rfl⟩
  · simp only [← hashOf_eq]
    exact filterBit_setMulticastList hp' ha' f hn

lemma restart_refuses (duplex : Bool) (addr : List Octet) : ¬ (restartFilter duplex).Accepts addr := by
  rintro (h | ⟨-,h⟩)
  · cases duplex
    · exact h (by decide)
    · exact h (by decide)
  · simp [restartFilter,Filter.bit] at h

lemma follows_restart_iff (s : Net) (duplex : Bool) :
  Follows ⟨s.dev, restartFilter duplex, true⟩ ↔ Unsubscribed s (.restart duplex) := by
  constructor
  · intro h
    obtain ⟨hlist,hp,ha,-⟩ := h rfl
    refine ⟨?_,?_,fun addr hm hg => restart_refuses duplex addr (hlist addr hm hg)⟩
    · exact Bool.eq_false_of_not_eq_true fun h => restart_refuses duplex [] (hp h [])
    · exact Bool.eq_false_of_not_eq_true fun h => restart_refuses duplex [1#8] (ha h [1#8] (by decide))
  · rintro ⟨hp,ha,hlist⟩ -
    refine ⟨fun addr hm hg => absurd hg (hlist addr hm),fun h => ?_,fun h => ?_,fun _ _ n hn => ?_⟩
    · exact absurd (hp.symm.trans h) (by decide)
    · exact absurd (ha.symm.trans h) (by decide)
    · refine iff_of_false (by simp [restartFilter,Filter.bit]) ?_
      rintro ⟨addr,hm,hg,-⟩
      exact hlist addr hm hg

def netStart (duplex : Bool) : Net := ⟨⟨false, false, []⟩, restartFilter duplex, true⟩

/-- **The filter follows the subscriptions** over a run exactly if there are none at any
restart. -/
theorem filter_follows_iff (duplex : Bool) (l : List NetEvent) :
  Run.AllStates netStep Follows (netStart duplex) l ↔ Run.AllSteps netStep Unsubscribed (netStart duplex) l := by
  refine Run.allStates_iff (J := fun _ => True) (fun e s _ h => ?_) trivial
    ((follows_restart_iff (netStart duplex) duplex).mpr ⟨rfl,rfl,fun _ hm => absurd hm not_mem_nil⟩)
  cases e with
  | subscribe dev => exact ⟨_,rfl,trivial,iff_of_true (follows_setMulticastList dev _ _) trivial⟩
  | restart duplex => exact ⟨_,rfl,trivial,follows_restart_iff s duplex⟩
  | stop => exact ⟨_,rfl,trivial,iff_of_true (fun h => Bool.noConfusion h) trivial⟩

/-- A timeout after a group was joined. -/
theorem filter_forgotten : ∃ s, [NetEvent.subscribe ⟨false, false, [[0x01#8, 0x00#8, 0x5e#8, 0x00#8, 0x00#8, 0x01#8]]⟩,
  .restart true].foldlM netStep (netStart true) = some s ∧ ¬ Follows s :=
  ⟨_, rfl, fun h => restart_refuses true _ ((h rfl).1 [0x01#8, 0x00#8, 0x5e#8, 0x00#8, 0x00#8, 0x01#8] mem_cons_self (by decide))⟩

end Mx27.Fec
