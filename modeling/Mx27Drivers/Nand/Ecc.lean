/-
# Error correction on page reads

The controller leaves the status of the sub-page just read in one register.
-/
import Mx27Drivers.Nand.Command
import Mx27Drivers.Nand.PageBuffer
import Mx27Drivers.Lib.Run

namespace Mx27.Nand

open List Function

open ByteMem

namespace Area

variable {bits : ℕ}

def single (a : Area bits) : Bool :=
  match a.error with
  | .oneBit _ => true
  | _ => false

def double (a : Area bits) : Bool :=
  match a.error with
  | .twoBit _ _ => true
  | _ => false

lemma code_cases (a : Area bits) :
  a.code = 0 ∧ a.single = false ∧ a.double = false ∨ a.code = 1 ∧ a.single = true ∧ a.double = false ∨
    a.code = 2 ∧ a.single = false ∧ a.double = true := by
  unfold code single double
  cases a.error with
  | clean => exact Or.inl ⟨rfl,rfl,rfl⟩
  | oneBit p => exact Or.inr (Or.inl ⟨rfl,rfl,rfl⟩)
  | twoBit p q => exact Or.inr (Or.inr ⟨rfl,rfl,rfl⟩)

end Area

namespace SubPage

def status (sub : SubPage) (spareOnly : Bool) : BitVec 16 :=
  (if spareOnly then 0#16 else sub.main.code <<< 2) ||| sub.spare.code

def single (sub : SubPage) (spareOnly : Bool) : Bool := !spareOnly && sub.main.single || sub.spare.single

def double (sub : SubPage) (spareOnly : Bool) : Bool := !spareOnly && sub.main.double || sub.spare.double

lemma status_spec (sub : SubPage) (sp : Bool) :
  (sub.status sp &&& 0xC = MAIN_SINGLEBIT_ERROR ↔ (!sp && sub.main.single) = true) ∧
    (sub.status sp &&& 0x3 = SPARE_SINGLEBIT_ERROR ↔ sub.spare.single = true) ∧
    (sub.status sp = 0 ↔ sub.single sp = false ∧ sub.double sp = false) ∧
    (sub.status sp &&& 0x3 = 2 ∨ sub.status sp >>> 2 = 2 ↔ sub.double sp = true) := by
  unfold status single double
  rcases sub.main.code_cases with ⟨h1,h2,h3⟩ | ⟨h1,h2,h3⟩ | ⟨h1,h2,h3⟩ <;>
    rcases sub.spare.code_cases with ⟨h4,h5,h6⟩ | ⟨h4,h5,h6⟩ | ⟨h4,h5,h6⟩ <;>
    rw [h1,h2,h3,h4,h5,h6] <;> cases sp <;> decide

end SubPage

def spareRead (b : Board) (bSpareOnly : Bool) (s : State) : Bool := if b.is2kPagesize then s.nfc.spEn else bSpareOnly

variable (b : Board) (dev : Device) {s : State}

lemma selectBuf_spEn (k : ℕ) (sp : Bool) (s : State) : (selectBuf b k sp s.nfc).spEn = spareRead b sp s := by
  unfold selectBuf spareRead Nfc.spEn
  cases b.is2kPagesize
  · cases sp
    · simp [NFC_SP_EN]
    · simp [NFC_SP_EN]
  · rfl

lemma selectBuf_eccEn (k : ℕ) (sp : Bool) (h : Nfc) : (selectBuf b k sp h).eccEn = h.eccEn := by
  unfold selectBuf Nfc.eccEn
  cases b.is2kPagesize
  · cases sp
    · simp [NFC_SP_EN]
    · simp [NFC_SP_EN]
  · rfl

def pageOut (b : Board) (dev : Device) (sp : Bool) (s : State) (k : ℕ) : State :=
  { s with nfc := Nfc.waitOpDone true (Nfc.output dev (selectBuf b k sp s.nfc)) }

lemma sendReadPage_eq (sp : Bool) (s : State) (k : ℕ) :
  sendReadPage b dev sp s k = mxcNdCorrectEcc k (pageOut b dev sp s k) := rfl

def loaded (ram : ℕ → BitVec 8) (k : ℕ) (sub : SubPage) (sp eccEn : Bool) : ℕ → BitVec 8 :=
  copy (if sp then ram else copy ram (MAIN_AREA0 + 512 * k) (sub.main.read eccEn) 0 512) (SPARE_AREA0 + 16 * k)
    (sub.spare.read eccEn) 0 16

section
variable (b : Board) (dev : Device) (sp : Bool) (s : State) (k : ℕ)

lemma pageOut_eccEn : (pageOut b dev sp s k).nfc.eccEn = s.nfc.eccEn :=
  (Nfc.waitOpDone_eccEn ..).trans (selectBuf_eccEn b k sp s.nfc)

lemma pageOut_spEn : (pageOut b dev sp s k).nfc.spEn = spareRead b sp s :=
  (Nfc.waitOpDone_spEn ..).trans (selectBuf_spEn b k sp s)

lemma pageOut_status : (pageOut b dev sp s k).nfc.eccStatusResult = (dev.page k).status (spareRead b sp s) := by
  rw [pageOut,Nfc.waitOpDone_eccStatusResult,← selectBuf_spEn]
  rfl

lemma pageOut_ram :
  (pageOut b dev sp s k).nfc.ram = loaded s.nfc.ram k (dev.page k) (spareRead b sp s) s.nfc.eccEn := by
  rw [pageOut,Nfc.waitOpDone_ram,← selectBuf_spEn,← selectBuf_eccEn]
  rfl

lemma pageOut_ops : (pageOut b dev sp s k).nfc.ops = s.nfc.ops ++ [.output k (dev.page k) (spareRead b sp s)] := by
  rw [pageOut,Nfc.waitOpDone_ops,← selectBuf_spEn]
  rfl

lemma pageOut_rsltMainArea {p : Fin 4096} (h : (dev.page k).main.error = .oneBit p)
  (hsp : spareRead b sp s = false) : (pageOut b dev sp s k).nfc.rsltMainArea = BitVec.ofNat 16 p := by
  rw [← selectBuf_spEn] at hsp
  show (if (selectBuf ..).spEn then _ else Nfc.report (dev.page k).main _) = _
  rw [hsp]
  simp [Nfc.report,h]

lemma pageOut_rsltSpareArea {p : Fin 128} (h : (dev.page k).spare.error = .oneBit p) :
  (pageOut b dev sp s k).nfc.rsltSpareArea = BitVec.ofNat 16 p := by
  rw [pageOut,Nfc.waitOpDone_rsltSpareArea]
  simp only [Nfc.output,Nfc.report,selectBuf,h]

end

/-! ### Uncorrectable errors -/

lemma mxcNdCorrectEcc_keeps (k : ℕ) (s : State) :
  (mxcNdCorrectEcc k s).nfc.eccStatusResult = s.nfc.eccStatusResult ∧ (mxcNdCorrectEcc k s).nfc.spEn = s.nfc.spEn ∧
    (mxcNdCorrectEcc k s).nfc.ops = s.nfc.ops := by
  unfold mxcNdCorrectEcc
  simp only
  split
  · split
    · exact ⟨rfl,rfl,rfl⟩
    · exact ⟨rfl,by simp [Nfc.spEn,NFC_ECC_EN],rfl⟩
  · split
    · split
      · exact ⟨rfl,by simp [Nfc.spEn,NFC_ECC_EN],rfl⟩
      · exact ⟨rfl,rfl,rfl⟩
    · exact ⟨rfl,rfl,rfl⟩

lemma sendReadPage_status (sp : Bool) (s : State) (k : ℕ) :
  (sendReadPage b dev sp s k).nfc.eccStatusResult = (dev.page k).status (spareRead b sp s) ∧
    spareRead b sp (sendReadPage b dev sp s k) = spareRead b sp s := by
  obtain ⟨h1,h2,-⟩ := mxcNdCorrectEcc_keeps ..
  rw [sendReadPage_eq]
  refine ⟨h1.trans (pageOut_status ..),?_⟩
  rw [spareRead,h2,pageOut_spEn]
  unfold spareRead
  split <;> rfl

lemma readAll_status (b : Board) (dev : Device) (sp : Bool) : ∀ (l : List ℕ) (k : ℕ) (s : State),
  ((l ++ [k]).foldl (sendReadPage b dev sp) s).nfc.eccStatusResult = (dev.page k).status (spareRead b sp s)
  | [], k, s => (sendReadPage_status ..).1
  | k' :: l, k, s => by
    rw [List.cons_append,foldl_cons,readAll_status,(sendReadPage_status ..).2]

def lastSubPage (b : Board) : ℕ := if b.is2kPagesize then 3 else 0

lemma subPages_eq : ∃ l, subPages b = l ++ [lastSubPage b] := by
  unfold subPages lastSubPage
  split
  · exact ⟨[0,1,2],rfl⟩
  · exact ⟨[],rfl⟩

variable {sub : SubPage} {sp : Bool} {bits k : ℕ} {r1 r2 : ℕ → BitVec 8}

lemma mxcNandCorrectData_eq (h : s.nfc.eccStatusResult = sub.status sp) :
  mxcNandCorrectData s = -1 ↔ sub.double sp = true := by
  rw [mxcNandCorrectData,h]
  by_cases hd : sub.double sp = true
  · rw [if_pos ((sub.status_spec sp).2.2.2.mpr hd)]
    simp [hd]
  · rw [if_neg fun hs => hd ((sub.status_spec sp).2.2.2.mp hs)]
    simp [hd]

/-- **When an uncorrectable error is reported.** -/
theorem twoBit_reported_iff (b : Board) (dev : Device) {c : NandCmd} (hc : c = .read0 ∨ c = .readoob)
  (column pageAddr : BitVec 32) (s : State) :
  ((∃ k ∈ subPages b, (dev.page k).double (spareRead b (c = .readoob) s) = true) →
      mxcNandCorrectData (mxcNandCommand b dev c column pageAddr s) = -1) ↔
    ((∃ k ∈ subPages b, (dev.page k).double (spareRead b (c = .readoob) s) = true) →
      (dev.page (lastSubPage b)).double (spareRead b (c = .readoob) s) = true) := by
  obtain ⟨s1,hk,he⟩ := mxcNandCommand_read b dev hc column pageAddr s
  obtain ⟨l,hl⟩ := subPages_eq b
  have hsp : spareRead b (c = .readoob) s1 = spareRead b (c = .readoob) s := by
    rw [spareRead,hk.spEn]
    rfl
  have hst : (mxcNandCommand b dev c column pageAddr s).nfc.eccStatusResult =
      (dev.page (lastSubPage b)).status (spareRead b (c = .readoob) s) := by
    rw [he,hl,readAll_status,hsp]
  rw [mxcNandCorrectData_eq hst]

def largeBoard : Board := ⟨largePage, true, false⟩

def readyState : State := ⟨⟨fun _ => 0, NFC_ECC_EN ||| NFC_INT_MSK, 0, 0, 0, 0, []⟩, ⟨false, false, 0⟩, false⟩

def zeroDevice (error : ℕ → EccResult 4096) : Device :=
  ⟨fun k => ⟨⟨fun _ => 0, error k⟩, ⟨fun _ => 0, .clean⟩⟩, fun _ => 0⟩

theorem twoBit_reported_last :
  mxcNandCorrectData (mxcNandCommand largeBoard (zeroDevice fun k => if k = 3 then .twoBit 0 1 else .clean) .read0 0 0
    readyState) = -1 :=
  (twoBit_reported_iff largeBoard (zeroDevice fun k => if k = 3 then .twoBit 0 1 else .clean) (Or.inl rfl) 0 0
    readyState).mpr (fun _ => by decide) ⟨3, by decide, by decide⟩

/-- A two-bit error in the first sub-page of a 2K page is not reported. -/
theorem twoBit_unreported :
  ∃ dev : Device, (∃ k ∈ subPages largeBoard, (dev.page k).double false = true) ∧
    mxcNandCorrectData (mxcNandCommand largeBoard dev .read0 0 0 readyState) = 0 :=
  ⟨zeroDevice fun k => if k = 0 then .twoBit 0 1 else .clean, ⟨0, by decide, by decide⟩, by decide⟩

/-! ### Single-bit errors -/

lemma mxcNdCorrectError_eq (k : ℕ) {p : ℕ} (hp : p < 2 ^ 16) (sp : Bool) (ram : ℕ → BitVec 8) :
  mxcNdCorrectError k (BitVec.ofNat 16 p) sp ram =
    flipBit ram (8 * (if sp then SPARE_AREA0 + 32 * k else MAIN_AREA0 + 1024 * k) + p) := by
  have hn : (BitVec.ofNat ..).toNat = p := (BitVec.toNat_ofNat ..).trans (Nat.mod_eq_of_lt hp)
  have hand : p &&& 0xf = p % 16 := Nat.and_two_pow_sub_one_eq_mod p 4
  have hshift : p >>> 3 >>> 1 = p / 16 := by
    rw [← Nat.shiftRight_add,Nat.shiftRight_eq_div_pow]
  simp only [mxcNdCorrectError,hn,hand,hshift]
  rw [storeHalf_flip _ _ (by omega)]
  congr 1
  split <;> omega

def bitAt (ram : ℕ → BitVec 8) (q : ℕ) : Bool := (ram (q / 8)).getLsbD (q % 8)

lemma bitAt_flipBit (ram : ℕ → BitVec 8) (p q : ℕ) : bitAt (flipBit ram p) q = (bitAt ram q ^^ decide (q = p)) := by
  unfold bitAt flipBit
  by_cases hq : q / 8 = p / 8
  · rw [hq,update_self,BitVec.getLsbD_xor]
    congr 1
    rw [BitVec.getLsbD_shiftLeft,BitVec.getLsbD_one,decide_eq_true (Nat.mod_lt q (by decide)),Bool.true_and,
      ← decide_not,← Bool.decide_and,← Bool.decide_and]
    exact decide_eq_decide.mpr (by omega)
  · rw [update_of_ne hq,decide_eq_false fun h => hq (by rw [h]),Bool.xor_false]

def areaBit (bSpareOnly : Bool) (bufId : ℕ) : ℕ :=
  8 * if bSpareOnly then SPARE_AREA0 + 16 * bufId else MAIN_AREA0 + 512 * bufId

/-- **The fix-up turns over the reported bit and no other** in the first buffer. -/
theorem fixup_exact_iff (ram : ℕ → BitVec 8) (sp : Bool) {k e : ℕ} (hk : k < 4) (he : e < if sp then 128 else 4096) :
  (∀ q < 8 * (SPARE_AREA0 + 64), bitAt (mxcNdCorrectError k (BitVec.ofNat 16 e) sp ram) q =
    (bitAt ram q ^^ decide (q = areaBit sp k + e))) ↔ k = 0 := by
  have hlt : e < 2 ^ 16 := by split at he <;> omega
  rw [mxcNdCorrectError_eq k hlt,areaBit]
  constructor
  · intro h
    have hq := h (areaBit sp k + e) (by cases sp <;> simp [areaBit,SPARE_AREA0,MAIN_AREA0] at he ⊢ <;> omega)
    rw [bitAt_flipBit,areaBit,decide_eq_true rfl] at hq
    have := of_decide_eq_true (Bool.xor_right_inj.mp hq)
    split at this <;> omega
  · rintro rfl q -
    rw [bitAt_flipBit]

theorem fixup_exact_first : bitAt (mxcNdCorrectError 0 4095 false fun _ => 0) (areaBit false 0 + 4095) = true ∧
  bitAt (mxcNdCorrectError 0 4095 false fun _ => 0) (areaBit false 1) = false := by
  have h := (fixup_exact_iff (fun _ => 0) false (e := 4095) (by decide) (by decide)).mpr rfl
  exact ⟨(h _ (by decide)).trans (by decide),(h _ (by decide)).trans (by decide)⟩

/-- The first bit of the second buffer: that of the third is turned over. -/
theorem fixup_other_buffer : bitAt (mxcNdCorrectError 1 0 false fun _ => 0) (areaBit false 1) = false ∧
  bitAt (mxcNdCorrectError 1 0 false fun _ => 0) (areaBit false 2) = true := by decide

def fixArea {bits : ℕ} (a : Area bits) (base : ℕ) (ram : ℕ → BitVec 8) : ℕ → BitVec 8 :=
  match a.error with
  | .oneBit p => flipBit ram (8 * base + p)
  | _ => ram

def driverFix (k : ℕ) (sub : SubPage) (sp : Bool) (ram : ℕ → BitVec 8) : ℕ → BitVec 8 :=
  fixArea sub.spare (SPARE_AREA0 + 32 * k) (if sp then ram else fixArea sub.main (MAIN_AREA0 + 1024 * k) ram)

/-- `Ecc_disabled` after a sub-page: set by a single-bit error, cleared by a clean
sub-page. -/
def nextDisabled (disabled : Bool) (sub : SubPage) (sp : Bool) : Bool :=
  if sub.single sp then true else if sub.double sp then disabled else false

lemma fixArea_of_not_single {a : Area bits} (h : a.single = false) (base : ℕ) (ram : ℕ → BitVec 8) :
  fixArea a base ram = ram := by
  unfold Area.single at h
  unfold fixArea
  cases he : a.error with
  | clean | twoBit => rfl
  | oneBit p => rw [he] at h; cases h

lemma driverFix_of_not_single (h : sub.single sp = false) (ram : ℕ → BitVec 8) : driverFix k sub sp ram = ram := by
  simp only [SubPage.single,Bool.or_eq_false_iff,Bool.and_eq_false_iff,Bool.not_eq_false'] at h
  rw [driverFix,fixArea_of_not_single h.2]
  rcases h.1 with hs | hm
  · rw [hs]
    rfl
  · rw [fixArea_of_not_single hm]
    split <;> rfl

lemma correctError_fixArea {a : Area bits} (hb : bits ≤ 2 ^ 16) {rslt : BitVec 16}
  (hr : ∀ p, a.error = .oneBit p → rslt = BitVec.ofNat 16 p) (ram : ℕ → BitVec 8) :
  (if a.single = true then mxcNdCorrectError k rslt sp ram else ram) =
    fixArea a (if sp then SPARE_AREA0 + 32 * k else MAIN_AREA0 + 1024 * k) ram := by
  unfold Area.single fixArea
  cases he : a.error with
  | clean | twoBit => rfl
  | oneBit p => rw [hr p he,if_pos rfl,mxcNdCorrectError_eq k (lt_of_lt_of_le p.isLt hb)]

lemma mxcNdCorrectEcc_spec {t : State} (k : ℕ) (h : t.nfc.eccEn = !t.eccDisabled)
  (hst : t.nfc.eccStatusResult = sub.status sp)
  (hmain : sp = false → ∀ p, sub.main.error = .oneBit p → t.nfc.rsltMainArea = BitVec.ofNat 16 p)
  (hspare : ∀ p, sub.spare.error = .oneBit p → t.nfc.rsltSpareArea = BitVec.ofNat 16 p) :
  (mxcNdCorrectEcc k t).nfc.eccEn = !(mxcNdCorrectEcc k t).eccDisabled ∧
    (mxcNdCorrectEcc k t).eccDisabled = nextDisabled t.eccDisabled sub sp ∧
    (mxcNdCorrectEcc k t).nfc.ram = (if t.eccDisabled then driverFix k sub sp else id) t.nfc.ram := by
  obtain ⟨hs1,hs2,hs3,-⟩ := sub.status_spec sp
  have hsingle : (sub.status sp &&& 0xC = MAIN_SINGLEBIT_ERROR ∨ sub.status sp &&& 0x3 = SPARE_SINGLEBIT_ERROR) ↔
      sub.single sp = true := by
    rw [hs1,hs2,SubPage.single,Bool.or_eq_true]
  simp only [mxcNdCorrectEcc,hst,hsingle,hs3]
  by_cases h1 : sub.single sp = true
  · rw [if_pos h1]
    cases hd : t.eccDisabled with
    | true =>
      refine ⟨h.trans (by simp [hd]),by simp [nextDisabled,h1],?_⟩
      simp only [hs1,hs2,if_true,driverFix]
      rw [correctError_fixArea (by decide) hspare]
      congr 1
      cases sp with
      | true => rfl
      | false => exact correctError_fixArea (by decide) (hmain rfl) t.nfc.ram
    | false =>
      refine ⟨?_,by simp [nextDisabled,h1],rfl⟩
      simp [Nfc.eccEn,NFC_ECC_EN]
  · rw [if_neg h1]
    have h1' : sub.single sp = false := Bool.eq_false_of_not_eq_true h1
    have hid : (if t.eccDisabled then driverFix k sub sp else id) t.nfc.ram = t.nfc.ram := by
      split
      · exact driverFix_of_not_single h1' _
      · rfl
    rw [hid]
    by_cases h2 : sub.double sp = true
    · rw [if_neg (by simp [h2])]
      exact ⟨h,by simp [nextDisabled,h1',h2],rfl⟩
    · have h2' : sub.double sp = false := Bool.eq_false_of_not_eq_true h2
      rw [if_pos ⟨h1',h2'⟩]
      cases hd : t.eccDisabled with
      | true =>
        refine ⟨?_,by simp [nextDisabled,h1',h2'],rfl⟩
        simp [Nfc.eccEn,NFC_ECC_EN]
      | false =>
        exact ⟨by simpa [hd] using h,by simp [nextDisabled,h1',h2',hd],rfl⟩

lemma sendReadPage_spec (sp : Bool) (h : s.nfc.eccEn = !s.eccDisabled) (k : ℕ) :
  (sendReadPage b dev sp s k).nfc.eccEn = !(sendReadPage b dev sp s k).eccDisabled ∧
    (sendReadPage b dev sp s k).eccDisabled = nextDisabled s.eccDisabled (dev.page k) (spareRead b sp s) ∧
    (sendReadPage b dev sp s k).nfc.ram = (if s.eccDisabled then driverFix k (dev.page k) (spareRead b sp s) else id)
        (loaded s.nfc.ram k (dev.page k) (spareRead b sp s) s.nfc.eccEn) ∧
    (sendReadPage b dev sp s k).nfc.ops = s.nfc.ops ++ [.output k (dev.page k) (spareRead b sp s)] := by
  obtain ⟨h1,h2,h3⟩ := mxcNdCorrectEcc_spec k ((pageOut_eccEn ..).trans h)
    (pageOut_status ..) (fun hs p hp => pageOut_rsltMainArea b dev sp s k hp hs)
    (fun p hp => pageOut_rsltSpareArea b dev sp s k hp)
  rw [pageOut_ram] at h3
  exact ⟨h1,h2,h3,(mxcNdCorrectEcc_keeps k _).2.2.trans (pageOut_ops ..)⟩

/-! ### What the RAM holds after a read -/

def HoldsAt (ram : ℕ → BitVec 8) (base n : ℕ) (data : ℕ → BitVec 8) : Prop := ∀ j < n, ram (base + j) = data j

def Held (ram : ℕ → BitVec 8) (k : ℕ) (sub : SubPage) (sp : Bool) : Prop :=
  (sp = false → sub.main.single = true → HoldsAt ram (MAIN_AREA0 + 512 * k) 512 sub.main.data) ∧
    (sub.spare.single = true → HoldsAt ram (SPARE_AREA0 + 16 * k) 16 sub.spare.data)

def SameBuffer (ram ram' : ℕ → BitVec 8) (k : ℕ) : Prop :=
  (∀ j < 512, ram' (MAIN_AREA0 + 512 * k + j) = ram (MAIN_AREA0 + 512 * k + j)) ∧
    ∀ j < 16, ram' (SPARE_AREA0 + 16 * k + j) = ram (SPARE_AREA0 + 16 * k + j)

lemma SameBuffer.trans {r3 : ℕ → BitVec 8} (h₁ : SameBuffer r1 r2 k) (h₂ : SameBuffer r2 r3 k) : SameBuffer r1 r3 k :=
  ⟨fun j hj => (h₂.1 j hj).trans (h₁.1 j hj), fun j hj => (h₂.2 j hj).trans (h₁.2 j hj)⟩

lemma Held.same (h : Held r1 k sub sp) (hs : SameBuffer r1 r2 k) : Held r2 k sub sp :=
  ⟨fun h1 h2 j hj => (hs.1 j hj).trans (h.1 h1 h2 j hj), fun h2 j hj => (hs.2 j hj).trans (h.2 h2 j hj)⟩

section
variable {ram : ℕ → BitVec 8} {k k' : ℕ} {sub : SubPage} {sp ecc : Bool}

lemma loaded_main (hk : k < 4) (hsp : sp = false) :
  HoldsAt (loaded ram k sub sp ecc) (MAIN_AREA0 + 512 * k) 512 (sub.main.read ecc) := by
  intro j hj
  rw [loaded,hsp,copy_apply_of_lt (by simp only [MAIN_AREA0,SPARE_AREA0]; omega)]
  exact (copy_apply_add hj).trans (by rw [Nat.zero_add])

lemma loaded_spare : HoldsAt (loaded ram k sub sp ecc) (SPARE_AREA0 + 16 * k) 16 (sub.spare.read ecc) := by
  intro j hj
  exact (copy_apply_add hj).trans (by rw [Nat.zero_add])

lemma loaded_other (hk : k < 4) (hk' : k' < 4) (h : k' ≠ k) : SameBuffer ram (loaded ram k sub sp ecc) k' := by
  constructor
  · intro j hj
    rw [loaded,copy_apply_of_lt (by simp only [MAIN_AREA0,SPARE_AREA0]; omega)]
    split
    · rfl
    · exact copy_apply_of_lt (by omega)
  · intro j hj
    rw [loaded,copy_apply_of_lt (by omega)]
    split
    · rfl
    · exact copy_apply_of_lt (by simp only [MAIN_AREA0,SPARE_AREA0]; omega)

variable {bits n base : ℕ} {a : Area bits}

lemma read_of_single (h : a.single = true) : a.read true = a.data := by
  unfold Area.single at h
  unfold Area.read
  cases he : a.error with
  | clean | twoBit => rw [he] at h; cases h
  | oneBit p => rfl

lemma held_of_eccEn (hk : k < 4) : Held (loaded ram k sub sp true) k sub sp := by
  constructor
  · intro hsp hs
    rw [← read_of_single hs]
    exact loaded_main hk hsp
  · intro hs
    rw [← read_of_single hs]
    exact loaded_spare

lemma fixArea_holdsAt (hb : bits = 8 * n)
  (h : HoldsAt ram base n (a.read false)) (hs : a.single = true) : HoldsAt (fixArea a base ram) base n a.data := by
  unfold Area.single at hs
  unfold fixArea
  unfold Area.read Area.raw at h
  cases he : a.error with
  | clean | twoBit => rw [he] at hs; cases hs
  | oneBit p =>
    simp only [he] at h ⊢
    intro j hj
    have hq : (8 * base + p) / 8 = base + p / 8 := by omega
    have hr : (8 * base + p) % 8 = p % 8 := by omega
    have hp : (p : ℕ) / 8 < n := by omega
    have hbit := congrFun (flipBit_flipBit a.data p) j
    rw [← hbit,flipBit,flipBit,hq,hr]
    by_cases hj' : j = p / 8
    · rw [hj',update_self,update_self,h _ hp]
      rfl
    · rw [update_of_ne (by omega),update_of_ne hj']
      exact h j hj

lemma fixArea_apply {x : ℕ} (hb : bits = 8 * n) (hx : x < base ∨ base + n ≤ x) : fixArea a base ram x = ram x := by
  unfold fixArea
  cases a.error with
  | clean | twoBit => rfl
  | oneBit p =>
    exact update_of_ne (by omega) ..

lemma held_of_driverFix : Held (driverFix 0 sub sp (loaded ram 0 sub sp false)) 0 sub sp := by
  constructor
  · rintro rfl hs j hj
    rw [driverFix,fixArea_apply (n := 16) rfl (by simp only [MAIN_AREA0,SPARE_AREA0]; omega)]
    exact fixArea_holdsAt rfl (loaded_main (by decide) rfl) hs j hj
  · intro hs
    apply fixArea_holdsAt rfl _ hs
    intro j hj
    split
    · exact loaded_spare j hj
    · rw [fixArea_apply (n := 512) rfl (by simp only [MAIN_AREA0,SPARE_AREA0]; omega)]
      exact loaded_spare j hj

lemma driverFix_other (hk' : k' < 4) (h : k' ≠ 0) : SameBuffer ram (driverFix 0 sub sp ram) k' := by
  constructor
  · intro j hj
    rw [driverFix,fixArea_apply (n := 16) rfl (by simp only [MAIN_AREA0,SPARE_AREA0]; omega)]
    split
    · rfl
    · exact fixArea_apply (n := 512) rfl (by omega)
  · intro j hj
    rw [driverFix,fixArea_apply (n := 16) rfl (by omega)]
    split
    · rfl
    · exact fixArea_apply (n := 512) rfl (by simp only [MAIN_AREA0,SPARE_AREA0]; omega)

lemma held_of_not_single (h : sub.single sp = false) (ram : ℕ → BitVec 8) (k : ℕ) : Held ram k sub sp := by
  simp only [SubPage.single,Bool.or_eq_false_iff,Bool.and_eq_false_iff,Bool.not_eq_false'] at h
  constructor
  · rintro rfl hs
    rcases h.1 with hf | hf
    · cases hf
    · rw [hf] at hs
      cases hs
  · intro hs
    rw [h.2] at hs
    cases hs

end

lemma sendReadPage_held (sp : Bool) (h : s.nfc.eccEn = !s.eccDisabled) (hk : k < 4)
  (hok : (dev.page k).single (spareRead b sp s) = true ∧ s.eccDisabled = true → k = 0) :
  Held (sendReadPage b dev sp s k).nfc.ram k (dev.page k) (spareRead b sp s) ∧
    ∀ k' < 4, k' ≠ k → SameBuffer s.nfc.ram (sendReadPage b dev sp s k).nfc.ram k' := by
  rw [(sendReadPage_spec b dev sp h k).2.2.1]
  cases hd : s.eccDisabled with
  | false =>
    rw [hd] at h
    rw [h]
    exact ⟨held_of_eccEn hk,fun k' hk' hne => loaded_other hk hk' hne⟩
  | true =>
    rw [hd] at h hok
    rw [h]
    simp only [if_true]
    by_cases hs : (dev.page k).single (spareRead b sp s) = true
    · obtain rfl := hok ⟨hs,rfl⟩
      exact ⟨held_of_driverFix,fun k' hk' hne => (loaded_other hk hk' hne).trans (driverFix_other hk' hne)⟩
    · have hs' := Bool.eq_false_of_not_eq_true hs
      rw [driverFix_of_not_single hs']
      exact ⟨held_of_not_single hs' ..,fun k' hk' hne => loaded_other hk hk' hne⟩

def ReadsOk (dev : Device) (sp : Bool) : Bool → List ℕ → Prop
  | _, [] => True
  | disabled, k :: l =>
    ((dev.page k).single sp = true ∧ disabled = true → k = 0) ∧
      ReadsOk dev sp (nextDisabled disabled (dev.page k) sp) l

instance (dev : Device) (sp : Bool) : ∀ (disabled : Bool) (l : List ℕ), Decidable (ReadsOk dev sp disabled l)
  | _, [] => isTrue trivial
  | disabled, k :: l =>
    have := instDecidableReadsOk dev sp (nextDisabled disabled (dev.page k) sp) l
    inferInstanceAs (Decidable (_ ∧ _))

lemma readAll_spec (b : Board) (dev : Device) (bSpareOnly sp : Bool) : ∀ (l : List ℕ) {s : State},
  s.nfc.eccEn = (!s.eccDisabled) → spareRead b bSpareOnly s = sp → l.Nodup → (∀ k ∈ l, k < 4) →
  (l.foldl (sendReadPage b dev bSpareOnly) s).nfc.eccEn = (!(l.foldl (sendReadPage b dev bSpareOnly) s).eccDisabled) ∧
    (l.foldl (sendReadPage b dev bSpareOnly) s).nfc.ops = s.nfc.ops ++ l.map (fun k => .output k (dev.page k) sp) ∧
    (ReadsOk dev sp s.eccDisabled l →
      (∀ k ∈ l, Held (l.foldl (sendReadPage b dev bSpareOnly) s).nfc.ram k (dev.page k) sp) ∧
      ∀ k < 4, k ∉ l → SameBuffer s.nfc.ram (l.foldl (sendReadPage b dev bSpareOnly) s).nfc.ram k)
  | [], s, h, _, _, _ => ⟨h, by simp, fun _ => ⟨by simp, fun _ _ _ => ⟨fun _ _ => rfl, fun _ _ => rfl⟩⟩⟩
  | k :: l, s, h, hsp, hnd, hlt => by
    obtain ⟨h1,h2,-,h4⟩ := sendReadPage_spec b dev bSpareOnly h k
    rw [hsp] at h2 h4
    obtain ⟨ih1,ih2,ih3⟩ := readAll_spec b dev bSpareOnly sp l h1
      ((sendReadPage_status ..).2.trans hsp) (nodup_cons.mp hnd).2
      (fun k' hk' => hlt k' (mem_cons_of_mem k hk'))
    have hk4 := hlt k mem_cons_self
    have hnot := (nodup_cons.mp hnd).1
    rw [foldl_cons]
    refine ⟨ih1,?_,?_⟩
    · rw [ih2,h4,List.append_assoc,map_cons,singleton_append]
    · rintro ⟨hok,hrest⟩
      obtain ⟨hheld,hother⟩ := sendReadPage_held b dev bSpareOnly h hk4 (by rwa [hsp])
      rw [hsp] at hheld
      rw [← h2] at hrest
      obtain ⟨ihh,iho⟩ := ih3 hrest
      constructor
      · intro k' hk'
        rcases mem_cons.mp hk' with rfl | hk'
        · exact hheld.same (iho k' hk4 hnot)
        · exact ihh k' hk'
      · intro k' hk4' hk'
        rw [mem_cons,not_or] at hk'
        exact (hother k' hk4' hk'.1).trans (iho k' hk4' hk'.2)

lemma subPages_nodup : (subPages b).Nodup ∧ ∀ k ∈ subPages b, k < 4 := by
  unfold subPages
  split <;> decide

/-! ### Runs -/

structure Discipline (s : State) : Prop where
  flag : s.nfc.eccEn = false ↔ s.eccDisabled = true
  programs : ∀ k ecc, BusOp.input k ecc ∈ s.nfc.ops → ecc = true
  corrected : ∀ k sub sp, BusOp.output k sub sp ∈ s.nfc.ops → Held s.nfc.ram k sub sp

inductive Act
  | command (c : NandCmd) (column pageAddr : BitVec 32) (dev : Device)
  | status (answer : BitVec 16)
  | buffer (info : NandInfo) (ram : ℕ → BitVec 8)

def State.fresh (s : State) : State := { s with nfc := { s.nfc with ops := [] } }

def step (b : Board) (s : State) : Act → Option State
  | .command c column pageAddr dev => some (mxcNandCommand b dev c column pageAddr s.fresh)
  | .status answer => some (getDevStatus answer s.fresh).2
  | .buffer info ram => some { s.fresh with info := info, nfc := { s.fresh.nfc with ram := ram } }

def readsPage (b : Board) (c : NandCmd) (column : BitVec 32) : Prop :=
  c = .read0 ∨ c = .readoob ∨ c = .seqin ∧ b.is2kPagesize = true ∧ b.mtd.writesize ≤ column.toNat

def Act.Ok (b : Board) (s : State) : Act → Prop
  | .command c column _ dev =>
    readsPage b c column → ReadsOk dev (spareRead b (c = .readoob) s) s.eccDisabled (subPages b)
  | _ => True

def BusOp.Harmless : BusOp → Prop
  | .input _ ecc => ecc = true
  | .output .. => False
  | _ => True

lemma BusOp.Cycle.harmless : ∀ {o : BusOp}, o.Cycle → o.Harmless
  | .cmd _, _ => trivial
  | .addr _, _ => trivial

structure Quiet (s : State) : Prop where
  flag : s.nfc.eccEn = !s.eccDisabled
  ops : ∀ o ∈ s.nfc.ops, o.Harmless

lemma flag_iff {ecc disabled : Bool} : (ecc = false ↔ disabled = true) ↔ ecc = !disabled := by
  cases ecc <;> cases disabled <;> decide

lemma harmless_append {ops ops' l : List BusOp} (h : ∀ o ∈ ops, o.Harmless) (e : ops' = ops ++ l)
  (hl : ∀ o ∈ l, o.Harmless) : ∀ o ∈ ops', o.Harmless := by
  intro o ho
  rw [e] at ho
  rcases mem_append.mp ho with ho | ho
  · exact h o ho
  · exact hl o ho

namespace Quiet

variable {s s' : State}

lemma keeps (h : Quiet s) (hk : Keeps s s') : Quiet s' where
  flag := by rw [hk.eccEn,hk.eccDisabled,h.flag]
  ops := by
    obtain ⟨l,e,hl⟩ := hk.ops
    exact harmless_append h.ops e fun o ho => (hl o ho).harmless

lemma withInfo (h : Quiet s) (info : NandInfo) : Quiet { s with info := info } := ⟨h.flag, h.ops⟩

lemma discipline (h : Quiet s) : Discipline s where
  flag := flag_iff.mpr h.flag
  programs := fun _ _ ho => h.ops _ ho
  corrected := fun _ _ _ ho => (h.ops _ ho).elim

end Quiet

namespace Discipline

variable {s s' : State}

lemma fresh (h : Discipline s) : Quiet s.fresh := ⟨flag_iff.mp h.flag, by simp [State.fresh]⟩

lemma keeps (h : Discipline s) (hk : Keeps s s') : Discipline s' := by
  obtain ⟨l,e,hl⟩ := hk.ops
  refine ⟨by rw [hk.eccEn,hk.eccDisabled]; exact h.flag,fun k ecc ho => ?_,fun k sub sp ho => ?_⟩
  · rw [e] at ho
    rcases mem_append.mp ho with ho | ho
    · exact h.programs k ecc ho
    · exact (hl _ ho).elim
  · rw [e] at ho
    rcases mem_append.mp ho with ho | ho
    · rw [hk.ram]
      exact h.corrected k sub sp ho
    · exact (hl _ ho).elim

lemma withInfo (h : Discipline s) (info : NandInfo) : Discipline { s with info := info } :=
  ⟨h.flag, h.programs, h.corrected⟩

end Discipline

section
variable {b : Board} {dev : Device} {s : State}

lemma readPages_discipline {bSpareOnly : Bool} (h : Quiet s)
  (hok : ReadsOk dev (spareRead b bSpareOnly s) s.eccDisabled (subPages b)) :
  Discipline ((subPages b).foldl (sendReadPage b dev bSpareOnly) s) := by
  obtain ⟨h1,h2,h3⟩ := readAll_spec b dev bSpareOnly _ (subPages b) h.flag rfl (subPages_nodup b).1 (subPages_nodup b).2
  refine ⟨flag_iff.mpr h1,fun k ecc ho => ?_,fun k sub sp ho => ?_⟩
  · rw [h2] at ho
    rcases mem_append.mp ho with ho | ho
    · exact h.ops _ ho
    · obtain ⟨k',-,he⟩ := List.mem_map.mp ho
      cases he
  · rw [h2] at ho
    rcases mem_append.mp ho with ho | ho
    · exact (h.ops _ ho).elim
    · obtain ⟨k',hk',he⟩ := List.mem_map.mp ho
      cases he
      exact (h3 hok).1 k hk'

lemma commandTail_read_discipline {c : NandCmd} (hc : c = .read0 ∨ c = .readoob) (u : Bool)
  (column pageAddr : BitVec 32) (h : Quiet s)
  (hok : ReadsOk dev (spareRead b s.info.bSpareOnly s) s.eccDisabled (subPages b)) :
  Discipline (commandTail b dev c u column pageAddr s) := by
  obtain ⟨s1,hk,he⟩ := commandTail_read b dev hc u column pageAddr s
  rw [he]
  apply readPages_discipline (h.keeps hk)
  rwa [hk.eccDisabled,spareRead,hk.spEn]

lemma eccEn_clear_spEn {h : Nfc} {v : BitVec 16} (hv : h.config1 = v &&& ~~~NFC_SP_EN) :
  (Nfc.waitOpDone true h).eccEn = v.getLsbD 3 := by
  rw [Nfc.waitOpDone_eccEn,Nfc.eccEn,hv]
  simp [NFC_SP_EN]

lemma sendReadId_quiet (h : Quiet s) : Quiet (sendReadId b dev s) := by
  have hops : (sendReadId b dev s).nfc.ops = s.nfc.ops ++ [.id] := by
    simp only [sendReadId]
    split <;> rfl
  refine ⟨?_,harmless_append h.ops hops (by simp [BusOp.Harmless])⟩
  simp only [sendReadId]
  split
  · exact (eccEn_clear_spEn rfl).trans h.flag
  · exact (eccEn_clear_spEn rfl).trans h.flag

lemma getDevStatus_quiet (answer : BitVec 16) (h : Quiet s) : Quiet (getDevStatus answer s).2 := by
  have h1 : Quiet (sendCmd .status true { s with nfc := { s.nfc with bufAddr := 1 } }) :=
    Quiet.keeps (s := { s with nfc := { s.nfc with bufAddr := 1 } }) ⟨h.flag,h.ops⟩ (sendCmd_keeps ..)
  refine ⟨(eccEn_clear_spEn rfl).trans h1.flag,harmless_append h1.ops (l := [.status]) ?_ (by simp [BusOp.Harmless])⟩
  exact Nfc.waitOpDone_ops ..

lemma programAll_spec (b : Board) (sp : Bool) : ∀ (l : List ℕ) {s : State}, s.nfc.eccEn = true →
  (l.foldl (fun t k => sendProgPage b k sp t) s).nfc.eccEn = true ∧
    (l.foldl (fun t k => sendProgPage b k sp t) s).eccDisabled = s.eccDisabled ∧
    (l.foldl (fun t k => sendProgPage b k sp t) s).nfc.ops = s.nfc.ops ++ l.map (fun k => .input k true)
  | [], s, h => ⟨h, rfl, by simp⟩
  | k :: l, s, h => by
    have he : (sendProgPage b k sp s).nfc.eccEn = true :=
      (Nfc.waitOpDone_eccEn ..).trans ((selectBuf_eccEn b k sp s.nfc).trans h)
    have ho : (sendProgPage b k sp s).nfc.ops = s.nfc.ops ++ [.input k true] := by
      rw [← h,← selectBuf_eccEn,sendProgPage,Nfc.waitOpDone_ops]
      rfl
    obtain ⟨ih1,ih2,ih3⟩ := programAll_spec b sp l he
    rw [foldl_cons]
    exact ⟨ih1,ih2,by rw [ih3,ho,List.append_assoc,map_cons,singleton_append]⟩

lemma programPages_spec (h : Quiet s) :
  (programPages b s).nfc.eccEn = true ∧ (programPages b s).eccDisabled = s.eccDisabled ∧
    ∀ o ∈ (programPages b s).nfc.ops, o.Harmless := by
  obtain ⟨s1,hs1⟩ : ∃ s1, s1 = if s.eccDisabled then
    { s with nfc := { s.nfc with config1 := s.nfc.config1 ||| NFC_ECC_EN } } else s := ⟨_,rfl⟩
  have hecc : s1.nfc.eccEn = true ∧ s1.eccDisabled = s.eccDisabled ∧ s1.nfc.ops = s.nfc.ops := by
    rw [hs1]
    split
    · exact ⟨by simp [Nfc.eccEn,NFC_ECC_EN],rfl,rfl⟩
    · next hd => exact ⟨by rw [h.flag,Bool.eq_false_of_not_eq_true hd]; rfl,rfl,rfl⟩
  obtain ⟨h1,h2,h3⟩ := programAll_spec b s1.info.bSpareOnly (subPages b) hecc.1
  have hprog : programPages b s = (subPages b).foldl (fun t k => sendProgPage b k s1.info.bSpareOnly t) s1 := by
    rw [programPages,← hs1]
  rw [hprog]
  refine ⟨h1,h2.trans hecc.2.1,harmless_append h.ops (h3.trans (by rw [hecc.2.2])) fun o ho => ?_⟩
  obtain ⟨k,-,rfl⟩ := List.mem_map.mp ho
  rfl

lemma pageprog_quiet (dev : Device) (column pageAddr : BitVec 32) (h : Quiet s) :
  Quiet (commandTail b dev .pageprog true column pageAddr (programPages b s)) := by
  obtain ⟨h1,h2,h3⟩ := programPages_spec h
  have hk := cycles_keeps b .pageprog true column pageAddr (programPages b s)
  obtain ⟨t,ht⟩ : ∃ t, t = sendPageAddr b pageAddr
    (sendColumn b column pageAddr (sendCmd .pageprog true (programPages b s))) := ⟨_,rfl⟩
  rw [← ht] at hk
  obtain ⟨l,e,hl⟩ := hk.ops
  have hops := harmless_append h3 e fun o ho => (hl o ho).harmless
  have htail : commandTail b dev .pageprog true column pageAddr (programPages b s) =
      if t.eccDisabled then { t with nfc := { t.nfc with config1 := t.nfc.config1 &&& ~~~NFC_ECC_EN } } else t := by
    rw [ht]
    rfl
  rw [htail]
  split
  · next hd => exact ⟨by simp [Nfc.eccEn,NFC_ECC_EN,hd],hops⟩
  · next hd => exact ⟨by rw [hk.eccEn,h1,Bool.eq_false_of_not_eq_true hd]; rfl,hops⟩

lemma seqinSetup_discipline (column pageAddr : BitVec 32) (h : Quiet s)
  (hok : b.is2kPagesize = true ∧ b.mtd.writesize ≤ column.toNat →
    ReadsOk dev (spareRead b false s) s.eccDisabled (subPages b)) :
  Discipline (seqinSetup b dev column pageAddr s) := by
  unfold seqinSetup
  by_cases h2k : b.is2kPagesize = true
  · split
    · next hcol =>
      have hread : Discipline (commandRead0 ..) :=
        commandTail_read_discipline (Or.inl rfl) false 0 pageAddr (h.withInfo _) (hok ⟨h2k,hcol⟩)
      exact hread.withInfo _
    · exact (h.withInfo _).discipline
  · split
    · exact ((h.withInfo _).keeps (sendCmd_keeps ..)).discipline
    · exact ((h.withInfo _).keeps (sendCmd_keeps ..)).discipline

lemma mxcNandCommand_discipline (c : NandCmd) (column pageAddr : BitVec 32) (h : Quiet s)
  (hok : readsPage b c column → ReadsOk dev (spareRead b (c = .readoob) s) s.eccDisabled (subPages b)) :
  Discipline (mxcNandCommand b dev c column pageAddr s) := by
  have h0 : Quiet { s with info := { s.info with bStatusRequest := false } } := h.withInfo _
  cases c with
  | status => exact ((h0.withInfo _).keeps (cycles_keeps ..)).discipline
  | read0 => exact commandTail_read_discipline (Or.inl rfl) false column pageAddr (h0.withInfo _) (hok (Or.inl rfl))
  | readoob =>
    apply commandTail_read_discipline _ false column pageAddr (h0.withInfo _) (hok (Or.inr (Or.inl rfl)))
    split
    · exact Or.inl rfl
    · exact Or.inr rfl
  | seqin =>
    exact (seqinSetup_discipline column pageAddr h0 fun hr => hok (Or.inr (Or.inr ⟨rfl,hr⟩))).keeps (cycles_keeps ..)
  | pageprog => exact (pageprog_quiet dev column pageAddr h0).discipline
  | erase1 | erase2 | reset | readstart | other => exact (h0.keeps (cycles_keeps ..)).discipline
  | readid => exact (sendReadId_quiet (h0.keeps (cycles_keeps ..))).discipline

lemma step_discipline (b : Board) (a : Act) (s : State) (h : Discipline s) (hok : a.Ok b s) :
  ∃ s', step b s a = some s' ∧ Discipline s' := by
  cases a with
  | command c column pageAddr dev => exact ⟨_,rfl,mxcNandCommand_discipline c column pageAddr h.fresh hok⟩
  | status answer => exact ⟨_,rfl,(getDevStatus_quiet answer h.fresh).discipline⟩
  | buffer info ram => exact ⟨_,rfl,Quiet.discipline ⟨h.fresh.flag,h.fresh.ops⟩⟩

end

/-- `mxcnd_probe` up to the first command. -/
def mxcndProbe (hardwareEcc : Bool) (config1 : BitVec 16) (ram : ℕ → BitVec 8) : State :=
  let config1 := config1 ||| NFC_INT_MSK
  ⟨⟨ram, if hardwareEcc then config1 ||| NFC_ECC_EN else config1, 0, 0, 0, 0, []⟩, ⟨false, false, 0⟩, false⟩

lemma mxcndProbe_discipline {hardwareEcc : Bool} {config1 : BitVec 16}
  (h : hardwareEcc = true ∨ config1.getLsbD 3 = true) (ram : ℕ → BitVec 8) :
  Discipline (mxcndProbe hardwareEcc config1 ram) := by
  apply Quiet.discipline
  refine ⟨?_,by simp [mxcndProbe]⟩
  rcases h with rfl | h
  · simp [mxcndProbe,Nfc.eccEn,NFC_ECC_EN]
  · cases hardwareEcc <;> simp [mxcndProbe,Nfc.eccEn,NFC_ECC_EN,h]

/-- **The ECC discipline in every run.** -/
theorem ecc_run (b : Board) {hardwareEcc : Bool} {config1 : BitVec 16}
  (h : hardwareEcc = true ∨ config1.getLsbD 3 = true) (ram : ℕ → BitVec 8) (acts : List Act)
  (hok : Run.AllSteps (step b) (fun s a => a.Ok b s) (mxcndProbe hardwareEcc config1 ram) acts) :
  (∃ s, acts.foldlM (step b) (mxcndProbe hardwareEcc config1 ram) = some s) ∧
    Run.AllStates (step b) Discipline (mxcndProbe hardwareEcc config1 ram) acts := by
  have hstart := mxcndProbe_discipline h ram
  obtain ⟨s,hs,-⟩ := hok.total (step_discipline b) hstart
  exact ⟨⟨s,hs⟩,hok.allStates (step_discipline b) (fun _ hI => hI) hstart⟩

/-- A page whose first sub-page has a single-bit error, read twice. -/
theorem ecc_run_twice :
  Run.AllStates (step largeBoard) Discipline (mxcndProbe true 0 fun _ => 0)
    [.command .read0 0 0 (zeroDevice fun k => if k = 0 then .oneBit 9 else .twoBit 0 1),
      .command .read0 0 0 (zeroDevice fun k => if k = 0 then .oneBit 9 else .clean)] := by
  apply (ecc_run largeBoard (Or.inl rfl) (fun _ => 0) _ _).2
  refine ⟨fun _ => by decide,fun s' hs' => ?_⟩
  obtain rfl := Option.some.inj hs'
  exact ⟨fun _ => by decide,fun _ _ => trivial⟩

/-- Single-bit errors in the first two sub-pages of a 2K page. -/
theorem ecc_misses_buffer :
  ∃ s, step largeBoard (mxcndProbe true 0 fun _ => 0)
      (.command .read0 0 0 (zeroDevice fun k => if k < 2 then .oneBit 0 else .clean)) = some s ∧
    s.nfc.ram 512 ≠ 0 ∧ ¬ Discipline s := by
  obtain ⟨s,hs⟩ : ∃ s, step largeBoard (mxcndProbe true 0 fun _ => 0)
    (.command .read0 0 0 (zeroDevice fun k => if k < 2 then .oneBit 0 else .clean)) = some s := ⟨_,rfl⟩
  have hram : s.nfc.ram 512 ≠ 0 := by
    cases hs
    decide
  refine ⟨s,hs,hram,fun h => hram ?_⟩
  have hmem : BusOp.output 1 ⟨⟨fun _ => 0,.oneBit 0⟩,⟨fun _ => 0,.clean⟩⟩ false ∈ s.nfc.ops := by
    cases hs
    exact mem_of_getElem? (i := 7) rfl
  exact (h.corrected _ _ _ hmem).1 rfl rfl 0 (by decide)

end Mx27.Nand
