/-
# What a transfer puts on the bus

In receive mode the data register is one byte ahead: its read starts the next byte.
-/
import Mx27Drivers.I2c.Master

namespace Mx27.I2c

open List

def readEvents : List UInt8 → List BusEvent
  | [] => []
  | [b] => [.received b false]
  | b :: bs => .received b true :: readEvents bs

def DataOf (m : Msg) (d : List BusEvent) : Prop :=
  if m.rd then ∃ bs : List UInt8, bs.length = m.buf.length ∧ d = readEvents bs else d = m.buf.map .sent

def opening (prev : Option Msg) : BusEvent := if prev.isNone then .start else .repStart

def Conforms : Option Msg → List Msg → List BusEvent → Prop
  | _, [], t => t = [.stop]
  | prev, m :: ms, t => ∃ d t', DataOf m d ∧ Conforms (some m) ms t' ∧
    t = opening prev :: .sent (addrTrans m) :: (d ++ t')

lemma readEvents_cons (b : UInt8) (bs : List UInt8) :
  readEvents (b :: bs) = .received b (!decide (bs.length = 0)) :: readEvents bs := by
  cases bs with
  | nil => rfl
  | cons b' bs => rfl

lemma length_readEvents : ∀ bs : List UInt8, (readEvents bs).length = bs.length
  | [] => rfl
  | b :: bs => by rw [readEvents_cons,length_cons,length_readEvents bs,length_cons]

/-! ### The controller between two steps of the driver -/

structure Sending (s : State) : Prop where
  msta : s.cr.msta = true
  mtx : s.cr.mtx = true
  rsta : s.cr.rsta = false
  done : s.transferDone = false

structure Receiving (s : State) : Prop where
  msta : s.cr.msta = true
  mtx : s.cr.mtx = false
  rsta : s.cr.rsta = false
  pending : s.repeatPending = false
  done : s.transferDone = true

section Spec

variable {sl : Slave} (hack : ∀ n, sl.ack n = true) {s : State} {m : Msg}

include hack in
lemma writeI2dr_spec (hmsta : s.cr.msta = true) (hmtx : s.cr.mtx = true) (hrsta : s.cr.rsta = false) (b : UInt8)
  (rd : Bool) :
  (waitForTc rd (writeI2dr sl b s)).2 = true ∧ Sending (waitForTc rd (writeI2dr sl b s)).1 ∧
  (waitForTc rd (writeI2dr sl b s)).1.repeatPending = false ∧
  (waitForTc rd (writeI2dr sl b s)).1.trace = s.trace ++ [.sent b] := by
  have e : writeI2dr sl b s = handler (!sl.ack s.sent)
      { s with repeatPending := false, sent := s.sent + 1, trace := s.trace ++ [.sent b] } := by
    unfold writeI2dr
    rw [hmsta,hmtx]
    rfl
  rw [e]
  refine ⟨?_,⟨hmsta,hmtx,hrsta,rfl⟩,rfl,rfl⟩
  simp [waitForTc,handler,hmtx,hack]

def Ready (prev : Option Msg) (m : Msg) (s : State) : Prop :=
  match prev with
  | none => s.cr.msta = false
  | some p => Sending s ∧ p.Differs m

include hack in
lemma address_spec {prev : Option Msg} (h : Ready prev m s) :
  (addressCycle sl prev m s).1.2 = true ∧ (addressCycle sl prev m s).2 = true ∧
  Sending (addressCycle sl prev m s).1.1 ∧ (addressCycle sl prev m s).1.1.repeatPending = false ∧
  (addressCycle sl prev m s).1.1.trace = s.trace ++ [opening prev, .sent (addrTrans m)] := by
  cases prev with
  | none =>
    replace h : s.cr.msta = false := h
    have htrace : (writeI2cr { (writeI2cr { s.cr with msta := true } s).cr with mtx := true }
        (writeI2cr { s.cr with msta := true } s)).trace = s.trace ++ [.start] := by
      simp [writeI2cr,crEvents,h]
    obtain ⟨hok,hsend,hpend,hsent⟩ := writeI2dr_spec hack (s := writeI2cr
      { (writeI2cr { s.cr with msta := true } s).cr with mtx := true } (writeI2cr { s.cr with msta := true } s))
      rfl rfl rfl (addrTrans m) m.rd
    refine ⟨hok,rfl,hsend,hpend,hsent.trans ?_⟩
    rw [htrace,List.append_assoc]
    rfl
  | some p =>
    obtain ⟨hs,hdiff⟩ := h
    have e : addressCycle sl (some p) m s = (waitForTc m.rd (repstart sl m s), true) := if_pos hdiff
    have htrace : (writeI2cr { s.cr with rsta := true } s).trace = s.trace ++ [.repStart] := by
      simp [writeI2cr,crEvents,hs.msta]
    obtain ⟨hok,hsend,hpend,hsent⟩ := writeI2dr_spec hack (s := writeI2cr { s.cr with rsta := true } s)
      hs.msta hs.mtx rfl (addrTrans m) m.rd
    rw [e]
    refine ⟨hok,rfl,hsend,hpend,hsent.trans ?_⟩
    rw [htrace,List.append_assoc]
    rfl

include hack in
lemma writeLoop_spec : ∀ (bs : List UInt8) {s : State}, Sending s →
  (writeLoop sl m bs s).2 = true ∧ Sending (writeLoop sl m bs s).1 ∧
  (writeLoop sl m bs s).1.trace = s.trace ++ bs.map .sent
  | [], s, hs => ⟨rfl, hs, (append_nil _).symm⟩
  | b :: bs, s, hs => by
    obtain ⟨hok,hsend,-,hsent⟩ := writeI2dr_spec hack hs.msta hs.mtx hs.rsta b m.rd
    obtain ⟨hrest,hsend',htrace⟩ := writeLoop_spec bs hsend
    have e : writeLoop sl m (b :: bs) s = writeLoop sl m bs (waitForTc m.rd (writeI2dr sl b s)).1 := if_pos hok
    rw [e]
    refine ⟨hrest,hsend',htrace.trans ?_⟩
    rw [hsent,List.append_assoc]
    rfl

lemma stop_trace (hmsta : s.cr.msta = true) : (stop s).trace = s.trace ++ [.stop] := by
  simp [stop,writeI2cr,crEvents,hmsta]

include hack in
lemma writebytes_spec (last : Bool) (hs : Sending s) :
  (writebytes sl m last s).2 = true ∧
  (last = true → (writebytes sl m last s).1.cr.msta = false) ∧
  (last = false → Sending (writebytes sl m last s).1) ∧
  (writebytes sl m last s).1.trace = s.trace ++ (m.buf.map .sent ++ if last then [.stop] else []) := by
  have hs' : Sending (writeI2cr { s.cr with mtx := true } s) := ⟨hs.msta, rfl, rfl, hs.done⟩
  have htrace' : (writeI2cr { s.cr with mtx := true } s).trace = s.trace := by
    simp [writeI2cr,crEvents,hs.msta,hs.rsta]
  obtain ⟨hok,hsend,htrace⟩ := writeLoop_spec hack m.buf hs' (m := m)
  rw [htrace'] at htrace
  unfold writebytes
  dsimp only
  cases last with
  | true =>
    rw [if_pos (by rw [hok]; rfl)]
    refine ⟨rfl,fun _ => rfl,(fun h => by cases h),?_⟩
    rw [stop_trace hsend.msta,htrace,List.append_assoc]
    rfl
  | false =>
    rw [if_neg (by simp)]
    refine ⟨hok,(fun h => by cases h),fun _ => hsend,?_⟩
    rw [htrace]
    simp

lemma readI2dr_spec (sl : Slave) (hmsta : s.cr.msta = true) (hmtx : s.cr.mtx = false) (hrsta : s.cr.rsta = false)
  (hpending : s.repeatPending = false) :
  (readI2dr sl s).1 = s.dr ∧ Receiving (readI2dr sl s).2 ∧ (readI2dr sl s).2.cr = s.cr ∧
  (readI2dr sl s).2.trace = s.trace ++ [.received (readI2dr sl s).2.dr (!s.cr.txak)] := by
  have e : readI2dr sl s = (s.dr, handler true
      { s with
        dr := sl.data s.received
        received := s.received + 1
        trace := s.trace ++ [.received (sl.data s.received) (!s.cr.txak)] }) := by
    unfold readI2dr
    rw [hmsta,hmtx,hpending]
    rfl
  rw [e]
  exact ⟨rfl,⟨hmsta,hmtx,hrsta,hpending,rfl⟩,rfl,rfl⟩

lemma readLoop_spec (hrd : m.rd = true) (last : Bool) : ∀ (n i : ℕ) {s : State}, Receiving s →
  s.cr.txak = decide (n = 0) → i + (n + 1) = m.buf.length →
  ∃ (bs : List UInt8) (b : UInt8), bs.length = n ∧ (readLoop sl m last i (n + 1) s).ok = true ∧
    (readLoop sl m last i (n + 1) s).bytes = s.dr :: bs ∧
    (last = true → (readLoop sl m last i (n + 1) s).state.cr.msta = false) ∧
    (readLoop sl m last i (n + 1) s).state.trace =
      s.trace ++ (readEvents bs ++ [if last then .stop else .received b false])
  | 0, i, s, hs, htxak, hi => by
    have hw : (waitForTc m.rd s).2 = true := by simp [waitForTc,hs.done,hrd]
    have e : readLoop sl m last i 1 s =
        ⟨(readI2dr sl (if last = true then stop (waitForTc m.rd s).1 else (waitForTc m.rd s).1)).2,
          [(readI2dr sl (if last = true then stop (waitForTc m.rd s).1 else (waitForTc m.rd s).1)).1], true⟩ := by
      have hlen : ¬i + 2 = m.buf.length := by omega
      simp only [readLoop,if_pos hw,if_neg hlen,hi,true_and]
    rw [e]
    cases last with
    | true =>
      have hread : readI2dr sl (stop (waitForTc m.rd s).1) = (s.dr, stop (waitForTc m.rd s).1) :=
        if_neg (by simp [stop,writeI2cr])
      rw [if_pos rfl,hread]
      exact ⟨[],0,rfl,rfl,rfl,fun _ => rfl,stop_trace hs.msta⟩
    | false =>
      obtain ⟨hdr,-,-,htrace⟩ :=
        readI2dr_spec sl (s := (waitForTc m.rd s).1) hs.msta hs.mtx hs.rsta hs.pending
      have hnack : (!(waitForTc m.rd s).1.cr.txak) = false := by
        show (!s.cr.txak) = false
        rw [htxak]
        rfl
      rw [hnack] at htrace
      rw [if_neg (by decide)]
      exact ⟨[],(readI2dr sl (waitForTc m.rd s).1).2.dr,rfl,rfl,congrArg (fun b => [b]) hdr,
        (fun h => by cases h),htrace⟩
  | n + 1, i, s, hs, htxak, hi => by
    have hw : (waitForTc m.rd s).2 = true := by simp [waitForTc,hs.done,hrd]
    have hlast : ¬(i + 1 = m.buf.length ∧ last = true) := by omega
    -- the acknowledge of the last byte is switched off one byte ahead
    obtain ⟨s1,hs1,hcr,htxak1,hpending,hdr,htrace1⟩ : ∃ s1 : State,
        (if i + 2 = m.buf.length then writeI2cr { (waitForTc m.rd s).1.cr with txak := true } (waitForTc m.rd s).1
          else (waitForTc m.rd s).1) = s1 ∧
        (s1.cr.msta = true ∧ s1.cr.mtx = false ∧ s1.cr.rsta = false) ∧ s1.cr.txak = decide (n = 0) ∧
        s1.repeatPending = false ∧ s1.dr = s.dr ∧ s1.trace = s.trace := by
      by_cases h2 : i + 2 = m.buf.length
      · have hn : n = 0 := by omega
        refine ⟨_,if_pos h2,⟨hs.msta,hs.mtx,rfl⟩,by simp [writeI2cr,hn],?_,rfl,?_⟩
        · simp [writeI2cr,waitForTc,hs.rsta,hs.pending]
        · simp [writeI2cr,crEvents,waitForTc,hs.msta,hs.rsta]
      · have hn : n ≠ 0 := by omega
        refine ⟨_,if_neg h2,⟨hs.msta,hs.mtx,hs.rsta⟩,?_,hs.pending,rfl,rfl⟩
        show s.cr.txak = _
        simp [htxak,hn]
    obtain ⟨hfst,hrecv,hcr',htrace⟩ := readI2dr_spec sl hcr.1 hcr.2.1 hcr.2.2 hpending
    obtain ⟨bs,b,hlen,hok,hbytes,hmsta,hrest⟩ :=
      readLoop_spec hrd last n (i + 1) hrecv (hcr' ▸ htxak1) (by omega)
    have e : readLoop sl m last i (n + 1 + 1) s =
        { readLoop sl m last (i + 1) (n + 1) (readI2dr sl s1).2 with
          bytes := (readI2dr sl s1).1 :: (readLoop sl m last (i + 1) (n + 1) (readI2dr sl s1).2).bytes } := by
      rw [← hs1,readLoop]
      simp only [if_pos hw,if_neg hlast]
    rw [e]
    refine ⟨(readI2dr sl s1).2.dr :: bs,b,by rw [length_cons,hlen],hok,?_,hmsta,hrest.trans ?_⟩
    · show (readI2dr sl s1).1 :: _ = _
      rw [hbytes,hfst,hdr]
    · rw [htrace,htrace1,htxak1,readEvents_cons,hlen]
      simp

lemma readbytes_spec (sl : Slave) (hrd : m.rd = true) (hlen : m.buf ≠ []) (last : Bool) (hs : Sending s)
  (hpending : s.repeatPending = false) :
  ∃ (bs : List UInt8) (b : UInt8), bs.length = m.buf.length ∧ (readbytes sl m last true s).ok = true ∧
    (readbytes sl m last true s).bytes = bs ∧
    (last = true → (readbytes sl m last true s).state.cr.msta = false) ∧
    (readbytes sl m last true s).state.trace =
      s.trace ++ (readEvents bs ++ [if last then .stop else .received b false]) := by
  obtain ⟨n,hn⟩ : ∃ n, m.buf.length = n + 1 :=
    Nat.exists_eq_succ_of_ne_zero fun h => hlen (length_eq_zero_iff.mp h)
  obtain ⟨-,hrecv,hcr',htrace⟩ := readI2dr_spec sl
    (s := writeI2cr { s.cr with mtx := false, txak := m.buf.length == 1 } s) hs.msta rfl rfl
    (by simp [writeI2cr,hs.rsta,hpending])
  have htrace1 : (writeI2cr { s.cr with mtx := false, txak := m.buf.length == 1 } s).trace = s.trace := by
    simp [writeI2cr,crEvents,hs.msta,hs.rsta]
  have htxak : (writeI2cr { s.cr with mtx := false, txak := m.buf.length == 1 } s).cr.txak = decide (n = 0) := by
    show (m.buf.length == 1) = _
    rw [hn]
    cases n <;> rfl
  obtain ⟨bs,b,hbs,hok,hbytes,hmsta,hrest⟩ := readLoop_spec hrd last n 0 hrecv (hcr' ▸ htxak) (by omega)
  have e : readbytes sl m last true s = readLoop sl m last 0 (n + 1)
      (readI2dr sl (writeI2cr { s.cr with mtx := false, txak := m.buf.length == 1 } s)).2 := by
    unfold readbytes
    rw [hn]
    rfl
  rw [e]
  refine ⟨_ :: bs,b,by rw [length_cons,hbs,hn],hok,hbytes,hmsta,hrest.trans ?_⟩
  rw [htrace,htrace1,htxak,readEvents_cons,hbs]
  simp

lemma moduleDis_trace (hmsta : s.cr.msta = false) : (moduleDis s).trace = s.trace := by
  simp [moduleDis,writeI2cr,crEvents,hmsta]

lemma conforms_last {prev : Option Msg} {d : List BusEvent} (hd : DataOf m d) :
  Conforms prev [m] (opening prev :: .sent (addrTrans m) :: (d ++ [.stop])) := ⟨d, [.stop], hd, rfl, rfl⟩

lemma conforms_write {prev : Option Msg} {ms : List Msg} {t : List BusEvent} (hrd : m.rd = false) :
  Conforms prev (m :: ms) (opening prev :: .sent (addrTrans m) :: (m.buf.map .sent ++ t)) ↔
    Conforms (some m) ms t := by
  have hdata : ∀ d, DataOf m d ↔ d = m.buf.map .sent := fun d => by simp [DataOf,hrd]
  constructor
  · rintro ⟨d,t',hd,ht',e⟩
    rw [(hdata d).mp hd] at e
    have et : t = t' := append_cancel_left (List.cons.inj (List.cons.inj e).2).2
    exact et ▸ ht'
  · intro ht
    exact ⟨_,t,(hdata _).mpr rfl,ht,rfl⟩

lemma not_conforms_overrun {prev : Option Msg} {m' : Msg} {ms : List Msg} {bs : List UInt8} {b : UInt8} {ack : Bool}
  {t : List BusEvent} (hrd : m.rd = true) (hbs : bs.length = m.buf.length) :
  ¬Conforms prev (m :: m' :: ms)
    (opening prev :: .sent (addrTrans m) :: (readEvents bs ++ .received b ack :: t)) := by
  rintro ⟨d,t',hd,⟨d',t'',-,-,ht'⟩,e⟩
  obtain ⟨bs',hbs',rfl⟩ : ∃ bs' : List UInt8, bs'.length = m.buf.length ∧ d = readEvents bs' := by
    simpa [DataOf,hrd] using hd
  have hlen : (readEvents bs).length = (readEvents bs').length := by
    rw [length_readEvents,length_readEvents,hbs,hbs']
  have et := (append_inj (List.cons.inj (List.cons.inj e).2).2 hlen).2
  rw [ht'] at et
  cases (List.cons.inj et).1

include hack in
lemma xferLoop_spec : ∀ (ms : List Msg) (i : ℕ) (prev : Option Msg) {m : Msg} {s : State}, Ready prev m s →
  (∀ m' ∈ m :: ms, m'.buf ≠ []) → List.IsChain Msg.Differs (m :: ms) →
  ∃ t, (xferLoop sl i prev (m :: ms) s).state.trace = s.trace ++ t ∧
    (Conforms prev (m :: ms) t ↔ ∀ m' ∈ (m :: ms).dropLast, m'.rd = false)
  | [], i, prev, m, s, hready, hlen, _ => by
    obtain ⟨hok,hcomp,hsend,hpend,htrace⟩ := address_spec hack hready
    cases hrd : m.rd with
    | false =>
      obtain ⟨hwok,hmsta,-,hw⟩ := writebytes_spec hack true hsend (m := m)
      have e : (xferLoop sl i prev [m] s).state =
          moduleDis (writebytes sl m true (addressCycle sl prev m s).1.1).1 := by
        simp [xferLoop,hok,hrd,hwok]
      refine ⟨opening prev :: .sent (addrTrans m) :: (m.buf.map .sent ++ [.stop]),?_,?_⟩
      · rw [e,moduleDis_trace (hmsta rfl),hw,htrace]
        simp
      · exact iff_of_true (conforms_last (by simp [DataOf,hrd])) (by simp)
    | true =>
      obtain ⟨bs,b,hbs,hrok,-,hmsta,hr⟩ := readbytes_spec sl hrd (hlen m mem_cons_self) true hsend hpend
      have e : (xferLoop sl i prev [m] s).state =
          moduleDis (readbytes sl m true true (addressCycle sl prev m s).1.1).state := by
        simp [xferLoop,hok,hcomp,hrd,hrok]
      refine ⟨opening prev :: .sent (addrTrans m) :: (readEvents bs ++ [.stop]),?_,?_⟩
      · rw [e,moduleDis_trace (hmsta rfl),hr,htrace]
        simp
      · exact iff_of_true (conforms_last (by simpa [DataOf,hrd] using ⟨bs,hbs,rfl⟩)) (by simp)
  | m' :: ms, i, prev, m, s, hready, hlen, hdiff => by
    obtain ⟨hok,hcomp,hsend,hpend,htrace⟩ := address_spec hack hready
    obtain ⟨hd,hchain⟩ := isChain_cons_cons.mp hdiff
    cases hrd : m.rd with
    | false =>
      obtain ⟨hwok,-,hsend',hw⟩ := writebytes_spec hack false hsend (m := m)
      obtain ⟨t,ht,hiff⟩ := xferLoop_spec ms (i + 1) (some m) ⟨hsend' rfl, hd⟩
        (fun m'' hm'' => hlen m'' (mem_cons_of_mem m hm'')) hchain
      have e : (xferLoop sl i prev (m :: m' :: ms) s).state = (xferLoop sl (i + 1) (some m) (m' :: ms)
          (writebytes sl m false (addressCycle sl prev m s).1.1).1).state := by
        conv_lhs => rw [xferLoop]
        simp [hok,hrd,hwok]
      refine ⟨opening prev :: .sent (addrTrans m) :: (m.buf.map .sent ++ t),?_,?_⟩
      · rw [e,ht,hw,htrace]
        simp
      · rw [conforms_write hrd,hiff,dropLast_cons_cons]
        simp [hrd]
    | true =>
      obtain ⟨bs,b,hbs,hrok,-,-,hr⟩ := readbytes_spec sl hrd (hlen m mem_cons_self) false hsend hpend
      have e : (xferLoop sl i prev (m :: m' :: ms) s).state = (xferLoop sl (i + 1) (some m) (m' :: ms)
          (readbytes sl m false true (addressCycle sl prev m s).1.1).state).state := by
        conv_lhs => rw [xferLoop]
        simp [hok,hcomp,hrd,hrok]
      -- whatever follows, the byte too many stays on the bus
      obtain ⟨t,ht⟩ := xferLoop_extends sl (m' :: ms) (i + 1) (some m)
        (readbytes sl m false true (addressCycle sl prev m s).1.1).state
      refine ⟨opening prev :: .sent (addrTrans m) :: (readEvents bs ++ .received b false :: t),?_,?_⟩
      · rw [e,← ht,hr,htrace]
        simp
      · refine iff_of_false (not_conforms_overrun hrd hbs) fun h => ?_
        have hfalse := h m (by simp)
        rw [hrd] at hfalse
        cases hfalse

end Spec

def idle : State where
  lowPower := false
  cr := ⟨false, false, false, false⟩
  repeatPending := false
  ibb := false
  dr := 0
  transferDone := false
  txSuccess := false
  sent := 0
  received := 0
  trace := []

/-- **The bus follows the message list** exactly if no message but the last is a read. -/
theorem xfer_traffic (sl : Slave) (hack : ∀ n, sl.ack n = true) (msgs : List Msg) (hne : msgs ≠ [])
  (hlen : ∀ m ∈ msgs, m.buf ≠ []) (hdiff : List.IsChain Msg.Differs msgs) :
  Conforms none msgs (xfer sl msgs idle).state.trace ↔ ∀ m ∈ msgs.dropLast, m.rd = false := by
  cases msgs with
  | nil => exact absurd rfl hne
  | cons m ms =>
    obtain ⟨t,ht,hiff⟩ := xferLoop_spec hack ms 0 none (s := { moduleEn idle with
      transferDone := false, txSuccess := false }) rfl hlen hdiff
    have e : (xfer sl (m :: ms) idle).state.trace = t := ht
    rw [e]
    exact hiff

def counting : Slave := ⟨fun _ => true, UInt8.ofNat⟩

def randomRead : List Msg := [⟨0x50, false, [0x10]⟩, ⟨0x50, true, [0, 0, 0]⟩]

theorem xfer_randomRead : Conforms none randomRead (xfer counting randomRead idle).state.trace :=
  (xfer_traffic counting (fun _ => rfl) randomRead (by decide) (by decide)
    (isChain_pair.mpr (by decide))).mpr (by decide)

/-- A read of one byte, then a write. -/
theorem read_overruns : ¬Conforms none [⟨0x50, true, [0]⟩, ⟨0x50, false, [7]⟩]
  (xfer counting [⟨0x50, true, [0]⟩, ⟨0x50, false, [7]⟩] idle).state.trace := by
  have e : (xfer counting [⟨0x50,true,[0]⟩,⟨0x50,false,[7]⟩] idle).state.trace =
      [.start,.sent 0xA1,.received 0 false,.received 1 false,.repStart,.stop] := by decide
  rw [e]
  exact not_conforms_overrun (m := ⟨0x50,true,[0]⟩) (b := 1) (t := [.repStart,.stop]) rfl
    (rfl : [(0 : UInt8)].length = _)

end Mx27.I2c
