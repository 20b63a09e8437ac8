/-
# The three ways to read the page buffer

`mxc_nand_read_byte`, `mxc_nand_read_word` and `mxc_nand_read_buf` share the saved column.
-/
import Mx27Drivers.Nand.PageBuffer
import Mx27Drivers.Nand.Command

namespace Mx27.Nand

open List Function

open ByteMem

def mxcNandReadByte (status : BitVec 16) (s : State) : BitVec 8 × State :=
  if s.info.bStatusRequest then
    let r := getDevStatus status s
    ((r.1 &&& 0xFF).setWidth 8, r.2)
  else
    let col := s.info.colAddr.toNat >>> 1
    let rdWord := if s.info.bSpareOnly then loadHalf s.nfc.ram (SPARE_AREA0 + 2 * col)
      else loadHalf s.nfc.ram (MAIN_AREA0 + 2 * col)
    let retVal := if s.info.colAddr.toNat % 2 = 1 then ((rdWord >>> 8) &&& 0xFF).setWidth 8
      else (rdWord &&& 0xFF).setWidth 8
    (retVal, { s with info := { s.info with colAddr := s.info.colAddr + 1 } })

def mxcNandReadWord (mtd : MtdInfo) (s : State) : BitVec 16 × State :=
  let col := startCol mtd s.info
  let p := if col < mtd.writesize then MAIN_AREA0 + 2 * (col >>> 1)
    else SPARE_AREA0 + 2 * ((col - mtd.writesize) >>> 1)
  let retVal := if col % 2 = 1
    then ((loadHalf s.nfc.ram p >>> 8) &&& 0xff#16) ||| ((loadHalf s.nfc.ram (p + 2) <<< 8) &&& 0xff00#16)
    else loadHalf s.nfc.ram p
  (retVal, { s with info := { s.info with colAddr := BitVec.ofNat 16 (col + 2) } })

def readBytes (status : BitVec 16) : ℕ → State → List (BitVec 8) × State
  | 0, s => ([], s)
  | n + 1, s =>
    let r := mxcNandReadByte status s
    let t := readBytes status n r.2
    (r.1 :: t.1, t.2)

def readWords (mtd : MtdInfo) : ℕ → State → List (BitVec 8) × State
  | 0, s => ([], s)
  | n + 1, s =>
    let r := mxcNandReadWord mtd s
    let t := readWords mtd n r.2
    ((r.1 &&& 0xFF).setWidth 8 :: ((r.1 >>> 8) &&& 0xFF).setWidth 8 :: t.1, t.2)

def byteAddr (info : NandInfo) : ℕ := (if info.bSpareOnly then SPARE_AREA0 else MAIN_AREA0) + info.colAddr.toNat

def skip (info : NandInfo) (n : ℕ) : NandInfo := { info with colAddr := info.colAddr + BitVec.ofNat 16 n }

variable {info : NandInfo}

lemma skip_colAddr {n : ℕ} (h : info.colAddr.toNat + n < 2 ^ 16) :
  (skip info n).colAddr.toNat = info.colAddr.toNat + n := by
  simp only [skip,BitVec.toNat_add,BitVec.toNat_ofNat]
  omega

lemma mxcNandReadByte_eq (status : BitVec 16) {s : State} (hs : s.info.bStatusRequest = false) :
  mxcNandReadByte status s = (s.nfc.ram (byteAddr s.info), { s with info := skip s.info 1 }) := by
  simp only [mxcNandReadByte,hs,Bool.false_eq_true,if_false,skip,Prod.mk.injEq]
  refine ⟨?_,rfl⟩
  obtain ⟨base,hb⟩ : ∃ base, base = if s.info.bSpareOnly then SPARE_AREA0 else MAIN_AREA0 := ⟨_,rfl⟩
  have hw : (if s.info.bSpareOnly then loadHalf s.nfc.ram (SPARE_AREA0 + 2 * (s.info.colAddr.toNat >>> 1))
      else loadHalf s.nfc.ram (MAIN_AREA0 + 2 * (s.info.colAddr.toNat >>> 1))) =
      loadHalf s.nfc.ram (base + 2 * (s.info.colAddr.toNat / 2)) := by
    rw [hb,Nat.shiftRight_eq_div_pow,pow_one]
    split <;> rfl
  rw [hw,byteAddr,← hb]
  split
  · rw [loadHalf_high]
    congr 1
    omega
  · rw [loadHalf_low]
    congr 1
    omega

lemma readBytes_eq (status : BitVec 16) : ∀ (n : ℕ) {s : State}, s.info.bStatusRequest = false →
  s.info.colAddr.toNat + n < 2 ^ 16 →
  readBytes status n s = ((List.range n).map (fun j => s.nfc.ram (byteAddr s.info + j)),
    { s with info := skip s.info n })
  | 0, s, _, _ => by simp [readBytes,skip]
  | n + 1, s, hs, hc => by
    have h1 : (skip s.info 1).colAddr.toNat = s.info.colAddr.toNat + 1 := skip_colAddr (by omega)
    rw [readBytes]
    simp only [mxcNandReadByte_eq status hs]
    rw [readBytes_eq status n (by exact hs) (by simp only [h1]; omega)]
    simp only [Prod.mk.injEq,range_succ_eq_map,map_cons,List.map_map,List.cons.injEq]
    refine ⟨⟨rfl,map_congr_left fun j _ => ?_⟩,?_⟩
    · simp only [comp_apply,byteAddr,h1]
      rw [show (skip s.info 1).bSpareOnly = s.info.bSpareOnly from rfl]
      congr 1
      omega
    · simp only [skip,BitVec.add_assoc,State.mk.injEq,NandInfo.mk.injEq,true_and,and_true]
      congr 1
      apply BitVec.eq_of_toNat_eq
      simp only [BitVec.toNat_add,BitVec.toNat_ofNat]
      omega

lemma mxcNandReadWord_eq (mtd : MtdInfo) (s : State) : mxcNandReadWord mtd s =
    (loadHalf s.nfc.ram (mtd.addr (startCol mtd s.info)), { s with info := movedTo mtd s.info 2 }) := by
  have h4 := mtd.writesize_mod_four
  have hle := mtd.writesize_le
  simp only [mxcNandReadWord,Prod.mk.injEq]
  refine ⟨?_,rfl⟩
  generalize startCol mtd s.info = c
  have hp : (if c < mtd.writesize then MAIN_AREA0 + 2 * (c >>> 1) else SPARE_AREA0 + 2 * ((c - mtd.writesize) >>> 1)) +
      c % 2 = mtd.addr c := by
    simp only [Nat.shiftRight_eq_div_pow,pow_one,MtdInfo.addr]
    split <;> omega
  by_cases h : c % 2 = 1
  · rw [if_pos h,loadHalf_odd,← hp,h]
  · rw [if_neg h,← hp,show c % 2 = 0 by omega,Nat.add_zero]

def Straight (mtd : MtdInfo) (c n : ℕ) : Prop := ∀ j < n, mtd.addr (c + j) = mtd.addr c + j

lemma startCol_movedTo {mtd : MtdInfo} {n : ℕ} (h : startCol mtd info + n ≤ mtd.total) :
  startCol mtd (movedTo mtd info n) = startCol mtd info + n := by
  have ht := mtd.total_le
  have hc : (movedTo mtd info n).colAddr.toNat = startCol mtd info + n :=
    (BitVec.toNat_ofNat ..).trans (Nat.mod_eq_of_lt (by omega))
  have hsp : (movedTo mtd info n).bSpareOnly = info.bSpareOnly := rfl
  have hge : info.bSpareOnly → mtd.writesize ≤ startCol mtd info := by
    intro hs
    unfold startCol
    split
    · omega
    · next hn => exact Nat.le_of_not_lt fun hlt => hn ⟨hlt,hs⟩
  rw [startCol,hc,hsp]
  split
  · next hs => exact absurd (hge hs.2) (by omega)
  · rfl

lemma readWords_eq (mtd : MtdInfo) : ∀ (n : ℕ) {s : State}, startCol mtd s.info + 2 * n ≤ mtd.total →
  Straight mtd (startCol mtd s.info) (2 * n) →
  (readWords mtd n s).1 = (List.range (2 * n)).map (fun j => mtd.page s.nfc.ram (startCol mtd s.info + j)) ∧
    startCol mtd (readWords mtd n s).2.info = startCol mtd s.info + 2 * n
  | 0, s, _, _ => by simp [readWords]
  | n + 1, s, hc, hst => by
    have h2 : startCol mtd (movedTo mtd s.info 2) = startCol mtd s.info + 2 := startCol_movedTo (by omega)
    have hst' : Straight mtd (startCol mtd (movedTo mtd s.info 2)) (2 * n) := by
      intro j hj
      rw [h2,Nat.add_assoc,hst (2 + j) (by omega),hst 2 (by omega),Nat.add_assoc]
    obtain ⟨ih1,ih2⟩ := readWords_eq mtd n (s := { s with info := movedTo mtd s.info 2 })
      (by simp only [h2]; omega) hst'
    simp only [h2] at ih1 ih2
    rw [readWords]
    simp only [mxcNandReadWord_eq,ih1,ih2,loadHalf_low,loadHalf_high]
    refine ⟨?_,by omega⟩
    rw [show 2 * (n + 1) = 2 * n + 1 + 1 by omega,range_succ_eq_map,range_succ_eq_map]
    simp only [map_cons,List.map_map,List.cons.injEq,MtdInfo.page,Nat.add_zero,true_and]
    refine ⟨by rw [hst 1 (by omega)],map_congr_left fun j _ => ?_⟩
    simp only [comp_apply]
    congr 2
    omega

inductive Reach (b : Board) : State → Prop
  | command (dev : Device) (c : NandCmd) (column pageAddr : BitVec 32) (s : State) :
    c = .read0 ∨ c = .readoob → startCol b.mtd (readInfo c column) ≤ b.mtd.total →
    Reach b (mxcNandCommand b dev c column pageAddr s)
  | byte (status : BitVec 16) {s : State} : Reach b s → startCol b.mtd s.info + 1 ≤ b.mtd.total →
    Reach b (mxcNandReadByte status s).2
  | word {s : State} : Reach b s → startCol b.mtd s.info + 2 ≤ b.mtd.total → Reach b (mxcNandReadWord b.mtd s).2
  | buf (base : ℕ) (out out' : ℕ → BitVec 8) (len fuel : ℕ) (info' : NandInfo) {s : State} : Reach b s →
    startCol b.mtd s.info + len ≤ b.mtd.total →
    mxcNandReadBuf b.mtd base out len fuel s.info s.nfc.ram = some (info', out') → Reach b { s with info := info' }

lemma startCol_skip {mtd : MtdInfo} {n : ℕ} (h : startCol mtd info + n ≤ mtd.total) :
  startCol mtd (skip info n) = startCol mtd info + n := by
  have ht := mtd.total_le
  have hoob := mtd.oobFits
  have hws := mtd.pagesize
  have hle : info.colAddr.toNat ≤ startCol mtd info := by
    unfold startCol
    split <;> omega
  have hc : (skip info n).colAddr.toNat = info.colAddr.toNat + n := skip_colAddr (by omega)
  have hsp : (skip info n).bSpareOnly = info.bSpareOnly := rfl
  simp only [startCol,MtdInfo.total] at h ht ⊢
  rw [hc,hsp]
  split at h
  · next hs => rw [if_pos hs,if_pos ⟨by omega,hs.2⟩]; omega
  · next hs => rw [if_neg hs,if_neg (fun hs' => hs ⟨by omega,hs'.2⟩)]

lemma Reach.onPage {b : Board} {s : State} (h : Reach b s) :
  s.info.bStatusRequest = false ∧ startCol b.mtd s.info ≤ b.mtd.total := by
  induction h with
  | command dev c column pageAddr s hc hcol =>
    rw [mxcNandCommand_read_info hc]
    exact ⟨rfl,hcol⟩
  | byte status h hcol ih =>
    rw [mxcNandReadByte_eq status ih.1]
    exact ⟨ih.1,(startCol_skip hcol).trans_le hcol⟩
  | word h hcol ih =>
    rw [mxcNandReadWord_eq]
    exact ⟨ih.1,(startCol_movedTo hcol).trans_le hcol⟩
  | buf base out out' len fuel info' h hcol he ih =>
    have hm := mxcNandReadBuf_some ih.2 he
    have hle := moved_le ih.2 len
    subst hm
    exact ⟨ih.1,(startCol_movedTo hle).trans_le hle⟩

/-! ### Agreement -/

def State.withRam (s : State) (ram : ℕ → BitVec 8) : State := { s with nfc := { s.nfc with ram := ram } }

def Agree (mtd : MtdInfo) (status : BitVec 16) (s : State) (n : ℕ) : Prop :=
  ∀ base out fuel, n < fuel → ∃ info' out', mxcNandReadBuf mtd base out n fuel s.info s.nfc.ram = some (info', out') ∧
    ((readBytes status n s).1 = (List.range n).map out' ∧
      startCol mtd (readBytes status n s).2.info = startCol mtd info') ∧
    (Even n → (readWords mtd (n / 2) s).1 = (List.range n).map out' ∧
      startCol mtd (readWords mtd (n / 2) s).2.info = startCol mtd info')

section
variable {mtd : MtdInfo} {s : State} {n : ℕ}

lemma moved_eq {info : NandInfo} (h : startCol mtd info + n ≤ mtd.total) : moved mtd info n = n := by
  unfold moved
  omega

lemma readBuf_onPage (h : startCol mtd s.info + n ≤ mtd.total) (base : ℕ) (out : ℕ → BitVec 8) {fuel : ℕ}
  (hf : n < fuel) : ∃ out', mxcNandReadBuf mtd base out n fuel s.info s.nfc.ram = some (movedTo mtd s.info n, out') ∧
    ∀ j < n, out' j = mtd.page s.nfc.ram (startCol mtd s.info + j) := by
  have hr := mxcNandReadBuf_reads (Nat.le_of_add_right_le h) base out s.nfc.ram n ((moved_eq h).trans_lt hf)
  rw [moved_eq h] at hr
  exact ⟨_,hr,fun j hj => copy_apply_lt hj⟩

def SamePlaces (mtd : MtdInfo) (info : NandInfo) (n : ℕ) : Prop :=
  ∀ j < n, byteAddr info + j = mtd.addr (startCol mtd info + j)

lemma colAddr_lt (h : startCol mtd s.info + n ≤ mtd.total) : s.info.colAddr.toNat + n < 2 ^ 16 := by
  have ht := mtd.total_le
  have hle : s.info.colAddr.toNat ≤ startCol mtd s.info := by
    unfold startCol
    split <;> omega
  omega

variable (status : BitVec 16)

lemma agree_of_samePlaces (hs : s.info.bStatusRequest = false)
  (h : startCol mtd s.info + n ≤ mtd.total) (hp : SamePlaces mtd s.info n) : Agree mtd status s n := by
  intro base out fuel hf
  obtain ⟨out',he,ho⟩ := readBuf_onPage h base out hf
  have hpage : (List.range n).map (fun j => mtd.page s.nfc.ram (startCol mtd s.info + j)) = (List.range n).map out' :=
    map_congr_left fun j hj => (ho j (mem_range.mp hj)).symm
  refine ⟨_,out',he,?_,?_⟩
  · rw [readBytes_eq status n hs (colAddr_lt h),startCol_movedTo h,← hpage]
    refine ⟨map_congr_left fun j hj => ?_,startCol_skip h⟩
    rw [MtdInfo.page,hp j (mem_range.mp hj)]
  · rintro ⟨k,rfl⟩
    have hst : Straight mtd (startCol mtd s.info) (2 * k) := by
      intro j hj
      have h0 := hp 0 (by omega)
      rw [Nat.add_zero,Nat.add_zero] at h0
      rw [← hp j (by omega),h0]
    have hk : (k + k) / 2 = k := by omega
    rw [startCol_movedTo h,← hpage,hk,← two_mul]
    exact readWords_eq mtd k (by omega) hst

lemma not_agree (hs : s.info.bStatusRequest = false) (h : startCol mtd s.info + n ≤ mtd.total) {j : ℕ} (hj : j < n)
  (hne : s.nfc.ram (byteAddr s.info + j) ≠ mtd.page s.nfc.ram (startCol mtd s.info + j)) :
  ¬ Agree mtd status s n := by
  intro ha
  obtain ⟨info',out',he,⟨hb,-⟩,-⟩ := ha 0 (fun _ => 0) (n + 1) (Nat.lt_succ_self n)
  obtain ⟨out'',he',ho⟩ := readBuf_onPage h 0 (fun _ => 0) (Nat.lt_succ_self n)
  obtain ⟨-,rfl⟩ := Prod.mk.inj (Option.some.inj (he.symm.trans he'))
  rw [readBytes_eq status n hs (colAddr_lt h)] at hb
  have hj' := congrArg (fun l => l[j]?) hb
  simp only [getElem?_map,getElem?_range hj,Option.map_some,Option.some.injEq,ho j hj] at hj'
  exact hne hj'

lemma samePlaces_of_agree (hs : s.info.bStatusRequest = false)
  (h : startCol mtd s.info + n ≤ mtd.total) (ha : ∀ ram, Agree mtd status (s.withRam ram) n) :
  SamePlaces mtd s.info n := by
  intro j hj
  by_contra hne
  -- a RAM that holds a one in the place read by byte `j`, and nowhere else
  refine not_agree (s := s.withRam fun a => if a = byteAddr s.info + j then 1 else 0) status hs h hj ?_ (ha _)
  have hne' : mtd.addr (startCol mtd s.info + j) ≠ byteAddr s.info + j := Ne.symm hne
  simp only [State.withRam,MtdInfo.page,if_true,if_neg hne']
  decide

lemma samePlaces_iff {info : NandInfo} (h : startCol mtd info + n ≤ mtd.total) :
  SamePlaces mtd info n ↔ n = 0 ∨ if info.bSpareOnly then info.colAddr.toNat < mtd.writesize
    else mtd.writesize = 2048 ∨ info.colAddr.toNat + n ≤ mtd.writesize := by
  have hws := mtd.pagesize
  constructor
  · intro hp
    by_cases h0 : n = 0
    · exact Or.inl h0
    · right
      have hf := hp 0 (by omega)
      have hl := hp (n - 1) (by omega)
      simp only [byteAddr,startCol,MtdInfo.addr,MAIN_AREA0,SPARE_AREA0] at hf hl
      by_cases hsp : info.bSpareOnly
      · simp only [hsp,if_true,and_true] at hf ⊢
        by_contra hge
        rw [if_neg hge,if_neg (by omega)] at hf
        omega
      · simp only [hsp,Bool.false_eq_true,if_false,and_false] at hl ⊢
        by_contra hne
        rw [if_neg (by omega)] at hl
        omega
  · rintro (rfl | hc) j hj
    · exact absurd hj (Nat.not_lt_zero j)
    · simp only [byteAddr,startCol,MtdInfo.addr,MAIN_AREA0,SPARE_AREA0]
      by_cases hsp : info.bSpareOnly
      · simp only [hsp,if_true,and_true] at hc ⊢
        rw [if_pos hc,if_neg (by omega)]
        omega
      · simp only [hsp,Bool.false_eq_true,if_false,and_false] at hc ⊢
        split <;> omega

end

/-- **When the accessors agree.** -/
theorem readAccess_agree_iff {b : Board} {s : State} (h : Reach b s) {n : ℕ}
  (hn : startCol b.mtd s.info + n ≤ b.mtd.total) (status : BitVec 16) :
  (∀ ram, Agree b.mtd status (s.withRam ram) n) ↔
    n = 0 ∨ if s.info.bSpareOnly then s.info.colAddr.toNat < b.mtd.writesize
      else b.mtd.writesize = 2048 ∨ s.info.colAddr.toNat + n ≤ b.mtd.writesize := by
  rw [← samePlaces_iff hn]
  constructor
  · intro ha
    exact samePlaces_of_agree status h.onPage.1 hn ha
  · intro hp ram
    exact agree_of_samePlaces status h.onPage.1 hn hp

def smallBoard : Board := ⟨smallPage, false, false⟩

def blankState : State := ⟨⟨fun _ => 0, NFC_ECC_EN ||| NFC_INT_MSK, 0, 0, 0, 0, []⟩, ⟨false, false, 0⟩, false⟩

def markedDevice : Device := ⟨fun _ => ⟨⟨fun _ => 0, .clean⟩, ⟨fun _ => 0xAA, .clean⟩⟩, fun _ => 0⟩

lemma reach_read {column : BitVec 32} {c : NandCmd} (hc : c = .read0 ∨ c = .readoob)
  (h : startCol smallPage (readInfo c column) ≤ smallPage.total) :
  Reach smallBoard (mxcNandCommand smallBoard markedDevice c column 0 blankState) :=
  Reach.command markedDevice c column 0 blankState hc h

theorem readAccess_agree_main : ∃ s, Reach smallBoard s ∧ startCol smallBoard.mtd s.info + 512 ≤ smallBoard.mtd.total ∧
  ∀ ram, Agree smallBoard.mtd 0 (s.withRam ram) 512 := by
  have hr := reach_read (Or.inl rfl) (show startCol smallPage (readInfo .read0 0) ≤ smallPage.total by decide)
  exact ⟨_,hr,by decide,(readAccess_agree_iff hr (by decide) 0).mpr (Or.inr (by decide))⟩

/-- The last main byte of a small page and the first spare byte. -/
theorem readAccess_disagree :
  (∃ s, Reach smallBoard s ∧ startCol smallPage s.info = 511 ∧ ¬ Agree smallPage 0 s 2) ∧
    ∃ s, Reach smallBoard s ∧ s.info.bSpareOnly ∧ startCol smallPage s.info = 514 ∧ ¬ Agree smallPage 0 s 1 := by
  have h1 := reach_read (Or.inl rfl) (show startCol smallPage (readInfo .read0 511) ≤ smallPage.total by decide)
  have h2 := reach_read (Or.inr rfl) (show startCol smallPage (readInfo .readoob 0) ≤ smallPage.total by decide)
  refine ⟨⟨_,h1,by decide,not_agree 0 h1.onPage.1 (by decide) (j := 1) (by decide) (by decide)⟩,?_⟩
  have h3 := Reach.word h2 (by decide)
  exact ⟨_,h3,by decide,by decide,not_agree 0 h3.onPage.1 (by decide) (j := 0) (by decide) (by decide)⟩

end Mx27.Nand
