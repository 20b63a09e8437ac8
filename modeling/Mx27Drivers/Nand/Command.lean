/-
# Commands to the NAND flash

`mxc_nand_command` with what it calls, on a model of the controller.
-/
import Mx27Drivers.Nand.Basic

namespace Mx27.Nand

open List BitVec

open ByteMem

inductive EccResult (bits : ℕ)
  | clean
  | oneBit (p : Fin bits)
  | twoBit (p q : Fin bits)
  deriving DecidableEq

structure Area (bits : ℕ) where
  data : ℕ → BitVec 8
  error : EccResult bits

namespace Area

variable {bits : ℕ}

def raw (a : Area bits) : ℕ → BitVec 8 :=
  match a.error with
  | .clean => a.data
  | .oneBit p => flipBit a.data p
  | .twoBit p q => flipBit (flipBit a.data p) q

def read (a : Area bits) (eccEn : Bool) : ℕ → BitVec 8 :=
  match a.error with
  | .oneBit _ => if eccEn then a.data else a.raw
  | _ => a.raw

def code (a : Area bits) : BitVec 16 :=
  match a.error with
  | .clean => 0
  | .oneBit _ => 1
  | .twoBit _ _ => 2

end Area

structure SubPage where
  main : Area 4096
  spare : Area 128

structure Device where
  page : ℕ → SubPage
  id : ℕ → BitVec 8

inductive NandCmd
  | status
  | read0
  | readoob
  | seqin
  | pageprog
  | erase1
  | erase2
  | reset
  | readid
  | readstart
  | other (code : BitVec 16)
  deriving DecidableEq

inductive BusOp
  | cmd (c : NandCmd)
  | addr (a : BitVec 16)
  | input (buf : ℕ) (eccEn : Bool)
  | output (buf : ℕ) (sub : SubPage) (spareOnly : Bool)
  | id
  | status

def NFC_SP_EN : BitVec 16 := 1 <<< 2
def NFC_ECC_EN : BitVec 16 := 1 <<< 3
def NFC_INT_MSK : BitVec 16 := 1 <<< 4

structure Nfc where
  ram : ℕ → BitVec 8
  config1 : BitVec 16
  bufAddr : ℕ
  eccStatusResult : BitVec 16
  rsltMainArea : BitVec 16
  rsltSpareArea : BitVec 16
  ops : List BusOp

namespace Nfc

def spEn (h : Nfc) : Bool := h.config1.getLsbD 2

def eccEn (h : Nfc) : Bool := h.config1.getLsbD 3

def report {bits : ℕ} (a : Area bits) (old : BitVec 16) : BitVec 16 :=
  match a.error with
  | .oneBit p => BitVec.ofNat 16 p
  | _ => old

def output (dev : Device) (h : Nfc) : Nfc :=
  let sub := dev.page h.bufAddr
  let withMain := if h.spEn then h.ram else copy h.ram (MAIN_AREA0 + 512 * h.bufAddr) (sub.main.read h.eccEn) 0 512
  { h with
    ram := copy withMain (SPARE_AREA0 + 16 * h.bufAddr) (sub.spare.read h.eccEn) 0 16
    eccStatusResult := (if h.spEn then 0#16 else sub.main.code <<< 2) ||| sub.spare.code
    rsltMainArea := if h.spEn then h.rsltMainArea else report sub.main h.rsltMainArea
    rsltSpareArea := report sub.spare h.rsltSpareArea
    ops := h.ops ++ [.output h.bufAddr sub h.spEn] }

def input (h : Nfc) : Nfc := { h with ops := h.ops ++ [.input h.bufAddr h.eccEn] }

def readId (dev : Device) (h : Nfc) : Nfc :=
  { h with ram := copy h.ram (MAIN_AREA0 + 512 * h.bufAddr) dev.id 0 512, ops := h.ops ++ [.id] }

def readStatus (status : BitVec 16) (h : Nfc) : Nfc :=
  { h with ram := storeHalf h.ram (MAIN_AREA0 + 512 * h.bufAddr) status, ops := h.ops ++ [.status] }

def waitOpDone (useirq : Bool) (h : Nfc) : Nfc :=
  if useirq then { h with config1 := (h.config1 &&& ~~~NFC_INT_MSK) ||| NFC_INT_MSK } else h

end Nfc

/-! ### The driver -/

structure Board where
  mtd : MtdInfo
  is2kPagesize : Bool
  buswidth16 : Bool

structure State where
  nfc : Nfc
  info : NandInfo
  eccDisabled : Bool

def sendCmd (cmd : NandCmd) (useirq : Bool) (s : State) : State :=
  { s with nfc := Nfc.waitOpDone useirq { s.nfc with ops := s.nfc.ops ++ [.cmd cmd] } }

def sendAddr (addr : BitVec 16) (islast : Bool) (s : State) : State :=
  { s with nfc := Nfc.waitOpDone islast { s.nfc with ops := s.nfc.ops ++ [.addr addr] } }

def selectBuf (b : Board) (bufId : ℕ) (bSpareOnly : Bool) (h : Nfc) : Nfc :=
  { h with
    bufAddr := bufId
    config1 := if b.is2kPagesize then h.config1 else
      if bSpareOnly then h.config1 ||| NFC_SP_EN else h.config1 &&& ~~~NFC_SP_EN }

def sendProgPage (b : Board) (bufId : ℕ) (bSpareOnly : Bool) (s : State) : State :=
  { s with nfc := Nfc.waitOpDone true (Nfc.input (selectBuf b bufId bSpareOnly s.nfc)) }

def mxcNdCorrectError (bufId : ℕ) (eccpos : BitVec 16) (bSpareOnly : Bool) (ram : ℕ → BitVec 8) : ℕ → BitVec 8 :=
  let col := eccpos.toNat >>> 3
  let pos := eccpos.toNat &&& 0xf
  let buf := if bSpareOnly then SPARE_AREA0 + 2 * ((col >>> 1) + 16 * bufId)
    else MAIN_AREA0 + 2 * ((col >>> 1) + 512 * bufId)
  storeHalf ram buf (loadHalf ram buf ^^^ (1#16 <<< pos))

def MAIN_SINGLEBIT_ERROR : BitVec 16 := 0x4
def SPARE_SINGLEBIT_ERROR : BitVec 16 := 0x1

def mxcNdCorrectEcc (bufId : ℕ) (s : State) : State :=
  let eccStatus := s.nfc.eccStatusResult
  if eccStatus &&& 0xC = MAIN_SINGLEBIT_ERROR ∨ eccStatus &&& 0x3 = SPARE_SINGLEBIT_ERROR then
    if s.eccDisabled then
      let ram := if eccStatus &&& 0xC = MAIN_SINGLEBIT_ERROR
        then mxcNdCorrectError bufId s.nfc.rsltMainArea false s.nfc.ram else s.nfc.ram
      let ram := if eccStatus &&& 0x3 = SPARE_SINGLEBIT_ERROR
        then mxcNdCorrectError bufId s.nfc.rsltSpareArea true ram else ram
      { s with nfc := { s.nfc with ram := ram } }
    else { s with nfc := { s.nfc with config1 := s.nfc.config1 &&& ~~~NFC_ECC_EN }, eccDisabled := true }
  else if eccStatus = 0 then
    if s.eccDisabled then
      { s with nfc := { s.nfc with config1 := s.nfc.config1 ||| NFC_ECC_EN }, eccDisabled := false }
    else s
  -- a two-bit error
  else s

def sendReadPage (b : Board) (dev : Device) (bSpareOnly : Bool) (s : State) (bufId : ℕ) : State :=
  mxcNdCorrectEcc bufId
    { s with nfc := Nfc.waitOpDone true (Nfc.output dev (selectBuf b bufId bSpareOnly s.nfc)) }

def sendReadId (b : Board) (dev : Device) (s : State) : State :=
  let h := { s.nfc with bufAddr := 0, config1 := s.nfc.config1 &&& ~~~NFC_SP_EN }
  let h := Nfc.waitOpDone true (Nfc.readId dev h)
  let pack := fun (ram : ℕ → BitVec 8) (k : ℕ) =>
    storeHalf ram (MAIN_AREA0 + 2 * k)
      ((loadHalf ram (MAIN_AREA0 + 4 * k) &&& 0xff#16) |||
        ((loadHalf ram (MAIN_AREA0 + 4 * k + 2) &&& 0xff#16) <<< 8))
  { s with nfc := if b.buswidth16 then { h with ram := pack (pack (pack h.ram 0) 1) 2 } else h }

def subPages (b : Board) : List ℕ := if b.is2kPagesize then [0, 1, 2, 3] else [0]

def sendColumn (b : Board) (column pageAddr : BitVec 32) (s : State) : State :=
  if column ≠ -1 then
    let s := sendAddr 0 (pageAddr = -1) s
    if b.is2kPagesize then sendAddr 0 false s else s
  else s

def highDensity (b : Board) : ℕ := if b.is2kPagesize then 0x10000000 else 0x4000000

def sendPageAddr (b : Board) (pageAddr : BitVec 32) (s : State) : State :=
  if pageAddr ≠ -1 then
    let s := sendAddr ((pageAddr &&& 0xff).setWidth 16) false s
    if highDensity b ≤ b.mtd.size then
      let s := sendAddr (((pageAddr >>> 8) &&& 0xff).setWidth 16) false s
      sendAddr (((pageAddr >>> 16) &&& 0xff).setWidth 16) true s
    else sendAddr (((pageAddr >>> 8) &&& 0xff).setWidth 16) true s
  else s

def readPages (b : Board) (dev : Device) (s : State) : State :=
  let s := if b.is2kPagesize then sendCmd .readstart true s else s
  (subPages b).foldl (sendReadPage b dev s.info.bSpareOnly) s

/-- `mxc_nand_command` after the pre-processing step. -/
def commandTail (b : Board) (dev : Device) (command : NandCmd) (useirq : Bool) (column pageAddr : BitVec 32)
  (s : State) : State :=
  let s := sendPageAddr b pageAddr (sendColumn b column pageAddr (sendCmd command useirq s))
  match command with
  | .readoob => readPages b dev s
  | .read0 => readPages b dev s
  | .readid => sendReadId b dev s
  | .pageprog =>
    if s.eccDisabled then { s with nfc := { s.nfc with config1 := s.nfc.config1 &&& ~~~NFC_ECC_EN } } else s
  | _ => s

def commandRead0 (b : Board) (dev : Device) (column pageAddr : BitVec 32) (s : State) : State :=
  commandTail b dev .read0 false column pageAddr { s with info := ⟨false, false, column.setWidth 16⟩ }

def programPages (b : Board) (s : State) : State :=
  let s := if s.eccDisabled then { s with nfc := { s.nfc with config1 := s.nfc.config1 ||| NFC_ECC_EN } } else s
  (subPages b).foldl (fun t k => sendProgPage b k s.info.bSpareOnly t) s

def seqinSetup (b : Board) (dev : Device) (column pageAddr : BitVec 32) (s : State) : State :=
  if b.mtd.writesize ≤ column.toNat then
    let s := if b.is2kPagesize then commandRead0 b dev 0 pageAddr s else s
    let s := { s with info := ⟨true, s.info.bStatusRequest, (column - BitVec.ofNat 32 b.mtd.writesize).setWidth 16⟩ }
    if b.is2kPagesize then s else sendCmd .readoob false s
  else
    let s := { s with info := ⟨false, s.info.bStatusRequest, column.setWidth 16⟩ }
    if b.is2kPagesize then s else sendCmd .read0 false s

def mxcNandCommand (b : Board) (dev : Device) (command : NandCmd) (column pageAddr : BitVec 32) (s : State) : State :=
  let s := { s with info := { s.info with bStatusRequest := false } }
  match command with
  | .status => commandTail b dev .status true column pageAddr { s with info := ⟨s.info.bSpareOnly, true, 0⟩ }
  | .read0 => commandRead0 b dev column pageAddr s
  | .readoob =>
    commandTail b dev (if b.is2kPagesize then .read0 else .readoob) false column pageAddr
      { s with info := ⟨true, false, column.setWidth 16⟩ }
  | .seqin => commandTail b dev .seqin false column pageAddr (seqinSetup b dev column pageAddr s)
  | .pageprog => commandTail b dev .pageprog true column pageAddr (programPages b s)
  | .erase1 => commandTail b dev .erase1 false column pageAddr s
  | c => commandTail b dev c true column pageAddr s

/-- `get_dev_status`, where the device answers `status`. -/
def getDevStatus (status : BitVec 16) (s : State) : BitVec 16 × State :=
  let store := loadWord s.nfc.ram MAIN_AREA1
  let s := sendCmd .status true { s with nfc := { s.nfc with bufAddr := 1 } }
  let h := { s.nfc with config1 := s.nfc.config1 &&& ~~~NFC_SP_EN }
  let h := Nfc.waitOpDone true (Nfc.readStatus status h)
  (loadHalf h.ram MAIN_AREA1, { s with nfc := { h with ram := storeWord h.ram MAIN_AREA1 store } })

def mxcNandCorrectData (s : State) : ℤ :=
  let eccStatus := s.nfc.eccStatusResult
  if eccStatus &&& 0x3 = 2 ∨ eccStatus >>> 2 = 2 then -1 else 0

/-! ### What the parts of a command leave as it is -/

namespace Nfc

variable (u : Bool) (h : Nfc)

@[simp] lemma waitOpDone_ram : (waitOpDone u h).ram = h.ram := by cases u <;> rfl

@[simp] lemma waitOpDone_ops : (waitOpDone u h).ops = h.ops := by cases u <;> rfl

@[simp] lemma waitOpDone_eccStatusResult : (waitOpDone u h).eccStatusResult = h.eccStatusResult := by cases u <;> rfl

@[simp] lemma waitOpDone_rsltSpareArea : (waitOpDone u h).rsltSpareArea = h.rsltSpareArea := by cases u <;> rfl

lemma getLsbD_waitOpDone {i : ℕ} (hi : i < 4) : (waitOpDone u h).config1.getLsbD i = h.config1.getLsbD i := by
  have hm : NFC_INT_MSK.getLsbD i = false := by interval_cases i <;> rfl
  cases u
  · rfl
  · simp only [waitOpDone,if_true,getLsbD_or,getLsbD_and,getLsbD_not,hm,
      show i < 16 by omega,decide_true,Bool.not_false,Bool.and_true,Bool.or_false]

@[simp] lemma waitOpDone_eccEn : (waitOpDone u h).eccEn = h.eccEn :=
  getLsbD_waitOpDone u h (by decide)

@[simp] lemma waitOpDone_spEn : (waitOpDone u h).spEn = h.spEn :=
  getLsbD_waitOpDone u h (by decide)

end Nfc

def BusOp.Cycle : BusOp → Prop
  | .cmd _ => True
  | .addr _ => True
  | _ => False

structure Keeps (s s' : State) : Prop where
  info : s'.info = s.info
  eccDisabled : s'.eccDisabled = s.eccDisabled
  eccEn : s'.nfc.eccEn = s.nfc.eccEn
  spEn : s'.nfc.spEn = s.nfc.spEn
  ram : s'.nfc.ram = s.nfc.ram
  eccStatusResult : s'.nfc.eccStatusResult = s.nfc.eccStatusResult
  ops : ∃ l, s'.nfc.ops = s.nfc.ops ++ l ∧ ∀ o ∈ l, o.Cycle

namespace Keeps

variable {s s1 s2 : State}

lemma refl (s : State) : Keeps s s := ⟨rfl, rfl, rfl, rfl, rfl, rfl, [], by simp, by simp⟩

lemma trans (h₁ : Keeps s s1) (h2 : Keeps s1 s2) : Keeps s s2 where
  info := h2.info.trans h₁.info
  eccDisabled := h2.eccDisabled.trans h₁.eccDisabled
  eccEn := h2.eccEn.trans h₁.eccEn
  spEn := h2.spEn.trans h₁.spEn
  ram := h2.ram.trans h₁.ram
  eccStatusResult := h2.eccStatusResult.trans h₁.eccStatusResult
  ops := by
    obtain ⟨l1,e1,c1⟩ := h₁.ops
    obtain ⟨l2,e2,c2⟩ := h2.ops
    refine ⟨l1 ++ l2,by rw [e2,e1,List.append_assoc],fun o ho => ?_⟩
    rcases mem_append.mp ho with ho | ho
    · exact c1 o ho
    · exact c2 o ho

end Keeps

lemma sendCmd_keeps (cmd : NandCmd) (useirq : Bool) (s : State) : Keeps s (sendCmd cmd useirq s) :=
  ⟨rfl, rfl, Nfc.waitOpDone_eccEn .., Nfc.waitOpDone_spEn .., Nfc.waitOpDone_ram .., Nfc.waitOpDone_eccStatusResult ..,
    [.cmd cmd], Nfc.waitOpDone_ops .., by simp [BusOp.Cycle]⟩

lemma sendAddr_keeps (addr : BitVec 16) (islast : Bool) (s : State) : Keeps s (sendAddr addr islast s) :=
  ⟨rfl, rfl, Nfc.waitOpDone_eccEn .., Nfc.waitOpDone_spEn .., Nfc.waitOpDone_ram .., Nfc.waitOpDone_eccStatusResult ..,
    [.addr addr], Nfc.waitOpDone_ops .., by simp [BusOp.Cycle]⟩

variable (b : Board) {c : NandCmd}

lemma sendColumn_keeps (column pageAddr : BitVec 32) (s : State) : Keeps s (sendColumn b column pageAddr s) := by
  unfold sendColumn
  split
  · split
    · exact (sendAddr_keeps ..).trans (sendAddr_keeps ..)
    · exact sendAddr_keeps ..
  · exact Keeps.refl s

lemma sendPageAddr_keeps (pageAddr : BitVec 32) (s : State) : Keeps s (sendPageAddr b pageAddr s) := by
  unfold sendPageAddr
  split
  · split
    · exact ((sendAddr_keeps ..).trans (sendAddr_keeps ..)).trans (sendAddr_keeps ..)
    · exact (sendAddr_keeps ..).trans (sendAddr_keeps ..)
  · exact Keeps.refl s

lemma cycles_keeps (c : NandCmd) (u : Bool) (column pageAddr : BitVec 32) (s : State) :
  Keeps s (sendPageAddr b pageAddr (sendColumn b column pageAddr (sendCmd c u s))) :=
  ((sendCmd_keeps c u s).trans (sendColumn_keeps b column pageAddr _)).trans (sendPageAddr_keeps b pageAddr _)

lemma readPages_eq (dev : Device) (s : State) :
  ∃ s1, Keeps s s1 ∧ readPages b dev s = (subPages b).foldl (sendReadPage b dev s.info.bSpareOnly) s1 := by
  unfold readPages
  by_cases h : b.is2kPagesize
  · simp only [h,if_true]
    exact ⟨_,sendCmd_keeps ..,rfl⟩
  · simp only [h]
    exact ⟨s,Keeps.refl s,rfl⟩

lemma commandTail_read (dev : Device) (hc : c = .read0 ∨ c = .readoob) (u : Bool)
  (column pageAddr : BitVec 32) (s : State) : ∃ s1, Keeps s s1 ∧ commandTail b dev c u column pageAddr s =
    (subPages b).foldl (sendReadPage b dev s.info.bSpareOnly) s1 := by
  have hk := cycles_keeps b c u column pageAddr s
  obtain ⟨s1,h1,e1⟩ := readPages_eq b dev (sendPageAddr b pageAddr (sendColumn b column pageAddr (sendCmd c u s)))
  rw [hk.info] at e1
  refine ⟨s1,hk.trans h1,?_⟩
  rcases hc with rfl | rfl
  · exact e1
  · exact e1

def readInfo (c : NandCmd) (column : BitVec 32) : NandInfo := ⟨c = .readoob, false, column.setWidth 16⟩

lemma mxcNandCommand_read (b : Board) (dev : Device) (hc : c = .read0 ∨ c = .readoob)
  (column pageAddr : BitVec 32) (s : State) :
  ∃ s1, Keeps { s with info := readInfo c column } s1 ∧ mxcNandCommand b dev c column pageAddr s =
    (subPages b).foldl (sendReadPage b dev (c = .readoob)) s1 := by
  rcases hc with rfl | rfl
  · exact commandTail_read b dev (Or.inl rfl) ..
  · apply commandTail_read
    split
    · exact Or.inl rfl
    · exact Or.inr rfl

lemma mxcNdCorrectEcc_info (k : ℕ) (s : State) : (mxcNdCorrectEcc k s).info = s.info := by
  unfold mxcNdCorrectEcc
  simp only
  split
  · split <;> rfl
  · split
    · split <;> rfl
    · rfl

lemma readPages_info (b : Board) (dev : Device) (sp : Bool) :
  ∀ (l : List ℕ) (s : State), (l.foldl (sendReadPage b dev sp) s).info = s.info
  | [], _ => rfl
  | k :: l, s => by
    rw [foldl_cons,readPages_info b dev sp l]
    exact mxcNdCorrectEcc_info k _

lemma mxcNandCommand_read_info {b : Board} {dev : Device} (hc : c = .read0 ∨ c = .readoob)
  (column pageAddr : BitVec 32) (s : State) : (mxcNandCommand b dev c column pageAddr s).info = readInfo c column := by
  obtain ⟨s1,hk,he⟩ := mxcNandCommand_read b dev hc column pageAddr s
  rw [he,readPages_info,hk.info]

end Mx27.Nand
