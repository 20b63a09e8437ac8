/-
# The descriptor chain of a request

`arcotg_req_to_dtd` cuts a request into descriptors of at most 16 KB.
-/
import Mx27Drivers.Usb.Udc

namespace Mx27.Usb
namespace Td

open List Function BitVec

def DTD_NEXT_TERMINATE : BitVec 32 := 0x00000001
def DTD_IOC : BitVec 32 := 0x00008000
def DTD_STATUS_ACTIVE : BitVec 32 := 0x00000080
def DTD_RESERVED_FIELDS : BitVec 32 := 0x80007300
def DTD_PACKET_SIZE : BitVec 32 := 0x7FFF0000
def DTD_LENGTH_BIT_POS : ℕ := 16
def EP_MAX_LENGTH_TRANSFER : BitVec 32 := 0x4000

/-- `ep_td_struct`. -/
structure EpTd where
  nextTdPtr : BitVec 32
  sizeIocSts : BitVec 32
  buffPtr0 : BitVec 32
  buffPtr1 : BitVec 32
  buffPtr2 : BitVec 32
  buffPtr3 : BitVec 32
  buffPtr4 : BitVec 32
  tdDma : BitVec 32
  nextTdVirt : Option ℕ
  deriving DecidableEq, Repr

structure DtdPool where
  next : ℕ
  handle : ℕ → BitVec 32
  td : ℕ → EpTd

structure ReqTd where
  length : BitVec 32
  zero : Bool
  dma : BitVec 32
  actual : BitVec 32
  head : Option ℕ
  tail : Option ℕ
  dtdCount : ℕ

def activeWord (length : BitVec 32) : BitVec 32 :=
  ((length <<< DTD_LENGTH_BIT_POS) ||| DTD_IOC ||| DTD_STATUS_ACTIVE) &&& ~~~DTD_RESERVED_FIELDS

/-- `arcotg_build_dtd`: the length and the address of the new descriptor. -/
def buildDtd (req : ReqTd) (max : BitVec 32) (u : DtdPool) : (BitVec 32 × ℕ) × ReqTd × DtdPool :=
  let length := if req.length - req.actual < max then req.length - req.actual else max
  let buf := req.dma + req.actual
  let dtd : EpTd :=
    { nextTdPtr := 0
      sizeIocSts := activeWord length
      buffPtr0 := buf
      buffPtr1 := buf + 0x1000
      buffPtr2 := buf + 0x2000
      buffPtr3 := buf + 0x3000
      buffPtr4 := buf + 0x4000
      tdDma := u.handle u.next
      nextTdVirt := none }
  ((length, u.next), { req with actual := req.actual + length },
    { u with next := u.next + 1, td := Function.update u.td u.next dtd })

inductive Fault
  | nullWrite
  | outOfFuel
  deriving DecidableEq, Repr

def linkTd (lastAddr : Option ℕ) (addr : ℕ) (u : DtdPool) : Except Fault DtdPool :=
  match lastAddr with
  | none => .error .nullWrite
  | some a =>
    let t := { u.td a with nextTdPtr := (u.td addr).tdDma, nextTdVirt := some addr }
    .ok { u with td := Function.update u.td a t }

/-- `is_last`, after `arcotg_build_dtd` -/
def isLastTd (count max : BitVec 32) (req : ReqTd) : Bool :=
  if count ≠ max then true
  else if req.length ≠ req.actual ∨ req.zero = true then false
  else true

def terminate (addr : ℕ) (req : ReqTd) (u : DtdPool) : ReqTd × DtdPool :=
  let t := { u.td addr with nextTdPtr := DTD_NEXT_TERMINATE, nextTdVirt := none }
  ({ req with tail := some addr }, { u with td := Function.update u.td addr t })

def reqToDtdLoop : ℕ → Bool → Option ℕ → ReqTd → DtdPool → Except Fault (ReqTd × DtdPool)
  | 0, _, _, _, _ => .error .outOfFuel
  | fuel + 1, isFirst, lastAddr, req, u =>
    let b := buildDtd req EP_MAX_LENGTH_TRANSFER u
    let count := b.1.1
    let addr := b.1.2
    let linked := if isFirst then .ok (({ b.2.1 with head := some addr }, b.2.2), lastAddr)
      else (linkTd lastAddr addr b.2.2).map fun u => ((b.2.1, u), some addr)
    match linked with
    | .error f => .error f
    | .ok ((req, u), lastAddr) =>
      let last := isLastTd count EP_MAX_LENGTH_TRANSFER req
      let req := { req with dtdCount := req.dtdCount + 1 }
      if last then .ok (terminate addr req u) else reqToDtdLoop fuel false lastAddr req u

/-- `arcotg_req_to_dtd`. -/
def reqToDtd (req : ReqTd) (u : DtdPool) : Except Fault (ReqTd × DtdPool) :=
  reqToDtdLoop (req.length.toNat / EP_MAX_LENGTH_TRANSFER.toNat + 2) true none req u

def newReq (length : BitVec 32) (zero : Bool) (dma : BitVec 32) (head tail : Option ℕ) : ReqTd :=
  ⟨length, zero, dma, 0, head, tail, 0⟩

def EpTd.size (t : EpTd) : ℕ := ((t.sizeIocSts &&& DTD_PACKET_SIZE) >>> DTD_LENGTH_BIT_POS).toNat

structure EpTd.Active (t : EpTd) : Prop where
  active : t.sizeIocSts &&& DTD_STATUS_ACTIVE ≠ 0
  page1 : t.buffPtr1 = t.buffPtr0 + 0x1000
  page2 : t.buffPtr2 = t.buffPtr0 + 0x2000
  page3 : t.buffPtr3 = t.buffPtr0 + 0x3000
  page4 : t.buffPtr4 = t.buffPtr0 + 0x4000

def Linked (u : DtdPool) : List ℕ → Prop
  | [] => False
  | [d] => (u.td d).nextTdPtr = DTD_NEXT_TERMINATE ∧ (u.td d).nextTdVirt = none
  | d :: d' :: ds => (u.td d).nextTdPtr = (u.td d').tdDma ∧ (u.td d).nextTdVirt = some d' ∧ Linked u (d' :: ds)

def Covers (dma : BitVec 32) (length : ℕ) : ℕ → List EpTd → Prop
  | off, [] => off = length
  | off, t :: ts => t.Active ∧ t.buffPtr0 = dma + BitVec.ofNat 32 off ∧ 0 < t.size ∧ t.size ≤ 0x4000 ∧
      Covers dma length (off + t.size) ts

def NeedsZlp (maxpacket length : ℕ) (zero : Bool) : Prop :=
  length = 0 ∨ (zero = true ∧ length ≠ 0 ∧ maxpacket ∣ length)

instance (maxpacket length : ℕ) (zero : Bool) : Decidable (NeedsZlp maxpacket length zero) :=
  inferInstanceAs (Decidable (_ ∨ _))

structure Chain (maxpacket : ℕ) (length : BitVec 32) (zero : Bool) (dma : BitVec 32) (req : ReqTd) (u : DtdPool)
    (data zlp : List ℕ) : Prop where
  linked : Linked u (data ++ zlp)
  head : req.head = (data ++ zlp).head?
  tail : req.tail = (data ++ zlp).getLast?
  count : req.dtdCount = (data ++ zlp).length
  covers : Covers dma length.toNat 0 (data.map u.td)
  zlp : if NeedsZlp maxpacket length.toNat zero then ∃ d, zlp = [d] ∧ (u.td d).Active ∧ (u.td d).size = 0
    else zlp = []

def Correct (maxpacket : ℕ) (length : BitVec 32) (zero : Bool) (dma : BitVec 32) :
  Except Fault (ReqTd × DtdPool) → Prop
  | .ok (req, u) => ∃ data zlp, Chain maxpacket length zero dma req u data zlp
  | .error _ => False

lemma tdSize_word {n : BitVec 32} (h : n.toNat ≤ 0x4000) :
  ((activeWord n &&& DTD_PACKET_SIZE) >>> DTD_LENGTH_BIT_POS) = n := by
  have hbit : ∀ i, 15 ≤ i → n.getLsbD i = false := fun i hi =>
    Nat.testBit_lt_two_pow (lt_of_le_of_lt h (lt_of_lt_of_le (by norm_num) (Nat.pow_le_pow_right (by norm_num) hi)))
  refine eq_of_getLsbD_eq fun i hi => ?_
  simp only [activeWord,DTD_PACKET_SIZE,DTD_LENGTH_BIT_POS,DTD_IOC,DTD_STATUS_ACTIVE,DTD_RESERVED_FIELDS]
  by_cases h15 : 15 ≤ i
  · rw [hbit i h15]
    interval_cases i <;> simp
  · interval_cases i <;> simp

lemma activeWord_active (n : BitVec 32) : activeWord n &&& DTD_STATUS_ACTIVE ≠ 0 := by
  intro h
  have hbit := congrArg (fun w => w.getLsbD 7) h
  simp [activeWord,DTD_IOC,DTD_STATUS_ACTIVE,DTD_RESERVED_FIELDS,DTD_LENGTH_BIT_POS] at hbit

/-! ### What is built -/

section Build

variable {length dma : BitVec 32} {zero : Bool} {head tail : Option ℕ} {u : DtdPool}

def OneTd (length : BitVec 32) (zero : Bool) : Prop :=
  length < EP_MAX_LENGTH_TRANSFER ∨ (length = EP_MAX_LENGTH_TRANSFER ∧ zero = false)

instance (length : BitVec 32) (zero : Bool) : Decidable (OneTd length zero) := inferInstanceAs (Decidable (_ ∨ _))

def onlyTd (length dma : BitVec 32) (u : DtdPool) : EpTd :=
  { nextTdPtr := DTD_NEXT_TERMINATE
    sizeIocSts := activeWord length
    buffPtr0 := dma
    buffPtr1 := dma + 0x1000
    buffPtr2 := dma + 0x2000
    buffPtr3 := dma + 0x3000
    buffPtr4 := dma + 0x4000
    tdDma := u.handle u.next
    nextTdVirt := none }

lemma OneTd.toNat_le (h : OneTd length zero) : length.toNat ≤ 0x4000 := by
  rcases h with h | ⟨rfl,-⟩
  · exact Nat.le_of_lt (lt_def.mp h)
  · decide

lemma buildDtd_first : buildDtd (newReq length zero dma head tail) EP_MAX_LENGTH_TRANSFER u =
  let count := if length < EP_MAX_LENGTH_TRANSFER then length else EP_MAX_LENGTH_TRANSFER
  let t := { onlyTd count dma u with nextTdPtr := 0 }
  ((count, u.next), { newReq length zero dma head tail with actual := count },
    { u with next := u.next + 1, td := Function.update u.td u.next t }) := by
  simp [buildDtd,newReq,onlyTd]

lemma isLastTd_first (length : BitVec 32) (zero : Bool) {req : ReqTd} (hlen : req.length = length) (hzero : req.zero = zero)
  (hactual : req.actual = if length < EP_MAX_LENGTH_TRANSFER then length else EP_MAX_LENGTH_TRANSFER) :
  isLastTd (if length < EP_MAX_LENGTH_TRANSFER then length else EP_MAX_LENGTH_TRANSFER) EP_MAX_LENGTH_TRANSFER
    req = decide (OneTd length zero) := by
  unfold isLastTd OneTd
  rw [hlen,hzero,hactual]
  by_cases hlt : length < EP_MAX_LENGTH_TRANSFER
  · have hne : length ≠ EP_MAX_LENGTH_TRANSFER := fun e => absurd (e ▸ hlt) (BitVec.lt_irrefl _)
    simp [hlt,hne]
  · cases zero <;> simp [hlt]

lemma reqToDtd_single (h : OneTd length zero) : reqToDtd (newReq length zero dma head tail) u =
  .ok (⟨length, zero, dma, length, some u.next, some u.next, 1⟩,
    { u with next := u.next + 1, td := Function.update u.td u.next (onlyTd length dma u) }) := by
  have hcount : (if length < EP_MAX_LENGTH_TRANSFER then length else EP_MAX_LENGTH_TRANSFER) = length := by
    rcases h with h | ⟨rfl,-⟩
    · rw [if_pos h]
    · rw [ite_self]
  unfold reqToDtd reqToDtdLoop
  rw [buildDtd_first]
  simp only [if_true]
  rw [isLastTd_first length zero rfl rfl rfl,decide_eq_true h,if_pos rfl,hcount]
  simp [terminate,newReq,onlyTd]

lemma reqToDtd_fault (h : ¬OneTd length zero) :
  reqToDtd (newReq length zero dma head tail) u = .error .nullWrite := by
  unfold reqToDtd reqToDtdLoop
  rw [buildDtd_first]
  simp only [if_true]
  rw [isLastTd_first length zero rfl rfl rfl,decide_eq_false h,if_neg Bool.false_ne_true]
  unfold reqToDtdLoop
  rfl

lemma onlyTd_active : (onlyTd length dma u).Active := ⟨activeWord_active length, rfl, rfl, rfl, rfl⟩

lemma onlyTd_size (h : OneTd length zero) : (onlyTd length dma u).size = length.toNat := by
  show ((activeWord length &&& DTD_PACKET_SIZE) >>> DTD_LENGTH_BIT_POS).toNat = length.toNat
  rw [tdSize_word h.toNat_le]

end Build

lemma not_correct_of_zlp {maxpacket : ℕ} {length dma : BitVec 32} {zero : Bool} {head tail : Option ℕ} {u : DtdPool}
  (hone : OneTd length zero) (hzero : zero = true) (hne : length ≠ 0) (hdvd : maxpacket ∣ length.toNat) :
  ¬Correct maxpacket length zero dma (reqToDtd (newReq length zero dma head tail) u) := by
  rw [reqToDtd_single hone]
  rintro ⟨data,zlp,hc⟩
  have hne' : length.toNat ≠ 0 := fun e => hne (eq_of_toNat_eq e)
  have hneed : NeedsZlp maxpacket length.toNat zero := .inr ⟨hzero,hne',hdvd⟩
  have hz := hc.zlp
  rw [if_pos hneed] at hz
  obtain ⟨d,rfl,-⟩ := hz
  have hdata : data = [] := by
    have hcount := hc.count
    simp only [length_append,length_singleton] at hcount
    exact eq_nil_of_length_eq_zero (by omega)
  have hcovers := hc.covers
  rw [hdata] at hcovers
  exact hne' hcovers.symm

lemma correct_single {maxpacket : ℕ} {length dma : BitVec 32} {zero : Bool} {head tail : Option ℕ} {u : DtdPool}
  (hone : OneTd length zero) (hno : ¬(zero = true ∧ length ≠ 0 ∧ maxpacket ∣ length.toNat)) :
  Correct maxpacket length zero dma (reqToDtd (newReq length zero dma head tail) u) := by
  rw [reqToDtd_single hone]
  have htd : ∀ t, Function.update u.td u.next t u.next = t := fun t => update_self ..
  have hsize : (onlyTd length dma u).size = length.toNat := onlyTd_size hone
  by_cases h0 : length.toNat = 0
  · refine ⟨[],[u.next],?_,rfl,rfl,rfl,h0.symm,?_⟩
    · simp [Linked,onlyTd]
    · have hneed : NeedsZlp maxpacket length.toNat zero := .inl h0
      rw [if_pos hneed]
      refine ⟨u.next,rfl,?_,?_⟩ <;> simp only [htd]
      · exact onlyTd_active
      · rw [hsize,h0]
  · refine ⟨[u.next],[],?_,rfl,rfl,rfl,?_,?_⟩
    · simp [Linked,onlyTd]
    · simp only [map_cons,map_nil,Covers,htd,hsize,Nat.zero_add,and_true]
      exact ⟨onlyTd_active,by simp [onlyTd],Nat.pos_of_ne_zero h0,hone.toNat_le⟩
    · have hneed : ¬NeedsZlp maxpacket length.toNat zero := by
        rintro (h | ⟨hzero,-,hdvd⟩)
        · exact h0 h
        · exact hno ⟨hzero,fun e => h0 (by rw [e]; rfl),hdvd⟩
      rw [if_neg hneed]

/-- **A request gets a correct chain** exactly if it needs one descriptor and no
zero-length packet after its data. -/
theorem reqToDtd_chain_iff (maxpacket : ℕ) (length : BitVec 32) (zero : Bool) (dma : BitVec 32) (head tail : Option ℕ)
  (u : DtdPool) : Correct maxpacket length zero dma (reqToDtd (newReq length zero dma head tail) u) ↔
    OneTd length zero ∧ ¬(zero = true ∧ length ≠ 0 ∧ maxpacket ∣ length.toNat) := by
  by_cases hone : OneTd length zero
  · refine ⟨fun h => ⟨hone,fun hz => ?_⟩,fun h => correct_single hone h.2⟩
    exact not_correct_of_zlp hone hz.1 hz.2.1 hz.2.2 h
  · rw [reqToDtd_fault hone]
    simp [Correct,hone]

def emptyPool : DtdPool := ⟨0, fun n => BitVec.ofNat 32 (32 * n), fun _ => ⟨0, 0, 0, 0, 0, 0, 0, 0, none⟩⟩

/-- A request of 16 KB and one byte, and one of a full packet with `zero` set. -/
theorem second_piece_faults :
  ¬Correct 512 0x4001 false 0 (reqToDtd (newReq 0x4001 false 0 none none) emptyPool) ∧
  ¬Correct 512 512 true 0 (reqToDtd (newReq 512 true 0 none none) emptyPool) := by
  constructor
  · rw [reqToDtd_fault (by decide)]
    exact id
  · exact not_correct_of_zlp (by decide) rfl (by decide) (by decide)

end Td
end Mx27.Usb
