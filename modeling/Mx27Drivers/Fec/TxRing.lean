/-
# The transmit ring is a queue of packets

The ring holds a list of packets, oldest first, of which the controller has sent the first few
(`Laid`).
-/
import Mx27Drivers.Fec.Transmit

namespace Mx27.Fec

open List Option Function

open Bits (hits)

structure TxGood (s : Tx) : Prop where
  latest : s.handed <:+ s.accepted.map Skb.frame
  order : s.sent <+: s.handed
  once : (s.accepted.map some).Perm (s.freed ++ s.inRing)
  noNull : none ∉ s.freed
  late : ∀ i < TX_RING_SIZE, hits (s.bd i).sc BD_ENET_TX_READY = true →
    ∃ skb, s.skbuff i = some skb ∧ s.onWire (s.bd i) = skb.frame
  cur : s.skbCur = s.curTx
  dirty : s.skbDirty = s.dirtyTx
  stops : (∀ i < TX_RING_SIZE, (s.skbuff i).isSome = true) → s.stopped = true
  wakes : s.stopped = true → s.link = true → ∀ i < TX_RING_SIZE, (s.skbuff i).isSome = true

def QueueObeyed (s : Tx) : TxEvent → Prop
  | .startXmit _ => s.stopped = false
  | _ => True

instance (s : Tx) (e : TxEvent) : Decidable (QueueObeyed s e) :=
  match e with
  | .startXmit _ => instDecidableEqBool s.stopped false
  | .transmit _ | .interrupt | .timeout | .relink .. => isTrue trivial

def Tx.readyAt (s : Tx) (i : ℕ) : Option (List UInt8) :=
  if hits (s.bd i).sc BD_ENET_TX_READY then some (s.onWire (s.bd i)) else none

structure Laid (s : Tx) (q : List Skb) (k : ℕ) : Prop where
  skbuff : Ring.Holds 16 s.skbuff s.dirtyTx q
  ready : Ring.Holds 16 s.readyAt s.hw ((q.drop k).map Skb.frame)
  sent : k ≤ q.length
  skbDirty : s.skbDirty = s.dirtyTx
  cur : s.curTx = (s.dirtyTx + q.length) % 16
  skbCur : s.skbCur = s.curTx
  hw : s.hw = (s.dirtyTx + k) % 16
  wrap : Wrapped 16 fun i => (s.bd i).sc
  own : ∀ i < 16, ∀ b, (s.bd i).bufaddr = .bounce b → b = i

structure Kept (s : Tx) (q : List Skb) (k : ℕ) : Prop where
  full : q.length = 16 → s.txFull = true
  stops : q.length = 16 → s.stopped = true
  wakes : s.stopped = true → s.link = true → q.length = 16
  books : (s.accepted.map some).Perm (s.freed ++ q.map some)
  latest : s.handed <:+ s.accepted.map Skb.frame
  order : s.handed = s.sent ++ (q.drop k).map Skb.frame

def TxInv (s : Tx) : Prop := ∃ q k, Laid s q k ∧ Kept s q k ∧ (q = [] → s.txEvent = true → s.txFull = false)

section Ring

variable {s : Tx} {q : List Skb} {k : ℕ} {p : Skb}

lemma mask_eq (i : ℕ) : (i + 1) &&& TX_RING_MOD_MASK = (i + 1) % 16 := Nat.and_two_pow_sub_one_eq_mod (i + 1) 4

/-! ### A packet is handed over -/

lemma status_bits (sc : BitVec 16) :
  let status := (sc &&& ~~~BD_ENET_TX_STATS) |||
    (BD_ENET_TX_READY ||| BD_ENET_TX_INTR ||| BD_ENET_TX_LAST ||| BD_ENET_TX_TC)
  hits status BD_ENET_TX_READY = true ∧ hits status BD_SC_WRAP = hits sc BD_SC_WRAP := by
  intro status
  constructor
  · have he : status = ((sc &&& ~~~BD_ENET_TX_STATS) |||
        (BD_ENET_TX_INTR ||| BD_ENET_TX_LAST ||| BD_ENET_TX_TC)) ||| BD_ENET_TX_READY := by
      rw [BitVec.or_assoc]
      rfl
    rw [he]
    exact Bits.hits_or_self _ (by decide)
  · show hits (_ ||| _) _ = _
    rw [Bits.hits_or_of_disjoint (by decide),Bits.hits_clear_of_disjoint (by decide)]

lemma fillIn_wire (s : Tx) (skb : Skb) : (s.fillIn skb).onWire ((s.fillIn skb).bd s.curTx) = skb.frame := by
  have hlen : skb.frame.length % 65536 = skb.frame.length :=
    Nat.mod_eq_of_lt (Nat.lt_of_le_of_lt skb.fits (by decide))
  cases ha : hits skb.data FEC_ALIGNMENT <;> simp [Tx.onWire,Tx.fillIn,ha,hlen]

lemma fillIn_wire_of_ne (skb : Skb) {i : ℕ} (hi : i ≠ s.curTx)
  (hown : ∀ b, (s.bd i).bufaddr = .bounce b → b = i) : (s.fillIn skb).onWire (s.bd i) = s.onWire (s.bd i) := by
  unfold Tx.onWire
  cases hb : (s.bd i).bufaddr with
  | null => rfl
  | data p => rfl
  | bounce b =>
    obtain rfl := hown b hb
    have hbounce : (s.fillIn skb).bounce b = s.bounce b := by
      simp only [Tx.fillIn]
      split
      · rfl
      · exact update_of_ne hi _ _
    show List.take _ ((s.fillIn skb).bounce b) = List.take _ (s.bounce b)
    rw [hbounce]

lemma fillIn_readyAt (h : Laid s q k) (skb : Skb) {i : ℕ} (hi : i < 16) :
  (s.fillIn skb).readyAt i = Function.update s.readyAt s.curTx (some skb.frame) i := by
  unfold Tx.readyAt
  by_cases hic : i = s.curTx
  · have hready : hits ((s.fillIn skb).bd s.curTx).sc BD_ENET_TX_READY = true := by
      rw [show (s.fillIn skb).bd s.curTx = _ from update_self _ _ _]
      exact (status_bits _).1
    rw [hic,update_self,if_pos hready,fillIn_wire]
  · have hbd : (s.fillIn skb).bd i = s.bd i := update_of_ne hic _ _
    rw [hbd,update_of_ne hic,fillIn_wire_of_ne skb hic (h.own i hi)]

lemma Laid.curTx_lt (h : Laid s q k) : s.curTx < 16 := h.cur ▸ Nat.mod_lt _ (by decide)

lemma Laid.fillIn_cur (h : Laid s q k) (skb : Skb) : (s.fillIn skb).curTx = (s.curTx + 1) % 16 := by
  show nextBd _ s.curTx = _
  rw [nextBd,(status_bits _).2,← nextBd]
  exact h.wrap.next h.curTx_lt

lemma fillIn_laid (h : Laid s q k) (hroom : q.length < 16) (skb : Skb) : Laid (s.fillIn skb) (q ++ [skb]) k := by
  have hcur := h.cur
  have hhw := h.hw
  have hsent := h.sent
  refine
    { skbuff := ?_
      ready := ?_
      sent := by rw [length_append]; omega
      skbDirty := h.skbDirty
      cur := ?_
      skbCur := ?_
      hw := hhw
      wrap := ?_
      own := ?_ }
  · show Ring.Holds 16 (Function.update s.skbuff s.skbCur (some skb)) s.dirtyTx (q ++ [skb])
    rw [h.skbCur,hcur]
    exact h.skbuff.push hroom skb
  · have hlen : ((q.drop k).map Skb.frame).length = q.length - k := by rw [length_map,length_drop]
    have hpush := h.ready.push (by omega) skb.frame
    rw [hlen,show (s.hw + (q.length - k)) % 16 = s.curTx by omega] at hpush
    rw [drop_append_of_le_length hsent,map_append]
    exact hpush.congr fun i hi => fillIn_readyAt h skb hi
  · rw [h.fillIn_cur skb,length_append,length_singleton]
    show (s.curTx + 1) % 16 = (s.dirtyTx + (q.length + 1)) % 16
    omega
  · rw [h.fillIn_cur skb,← h.skbCur]
    exact mask_eq s.skbCur
  · exact h.wrap.write (status_bits _).2
  · intro i hi b hb
    change (Function.update s.bd s.curTx _ i).bufaddr = _ at hb
    by_cases hic : i = s.curTx
    · rw [hic,update_self] at hb
      dsimp only at hb
      split at hb
      · cases hb
      · cases hb
        exact hic.symm
    · rw [update_of_ne hic] at hb
      exact h.own i hi b hb

lemma released_bits (sc status : BitVec 16) :
  hits ((sc &&& ~~~BD_ENET_TX_READY) ||| (status &&& BD_ENET_TX_STATS)) BD_ENET_TX_READY = false ∧
    hits ((sc &&& ~~~BD_ENET_TX_READY) ||| (status &&& BD_ENET_TX_STATS)) BD_SC_WRAP = hits sc BD_SC_WRAP := by
  constructor
  · rw [Bits.hits_or_of_disjoint (Bits.and_and_eq_zero (by decide) status),Bits.hits_clear_self]
  · rw [Bits.hits_or_of_disjoint (Bits.and_and_eq_zero (by decide) status),Bits.hits_clear_of_disjoint (by decide)]

lemma Laid.waiting (h : Laid s q k) (hr : hits (s.bd s.hw).sc BD_ENET_TX_READY = true) :
  ∃ hk : k < q.length, s.onWire (s.bd s.hw) = q[k].frame := by
  have hfirst := h.ready.first
  rw [Tx.readyAt,if_pos hr,getElem?_map,getElem?_drop,Nat.add_zero] at hfirst
  obtain ⟨p,hp,he⟩ := map_eq_some_iff.mp hfirst.symm
  obtain ⟨hk,rfl⟩ := List.getElem?_eq_some_iff.mp hp
  exact ⟨hk,he.symm⟩

lemma sendFrame_laid (h : Laid s q k) (hk : k < q.length) (status : BitVec 16) :
  Laid (s.sendFrame status) q (k + 1) := by
  have hhw := h.hw
  have hnext : nextBd (s.bd s.hw).sc s.hw = (s.hw + 1) % 16 := h.wrap.next h.ready.lt
  refine
    { h with
      ready := ?_
      sent := hk
      hw := ?_
      wrap := ?_
      own := ?_ }
  · have hpop := h.ready
    rw [drop_eq_getElem_cons hk,map_cons] at hpop
    show Ring.Holds 16 (s.sendFrame status).readyAt (nextBd (s.bd s.hw).sc s.hw) _
    rw [hnext]
    refine hpop.pop.congr fun i _ => ?_
    unfold Tx.readyAt
    by_cases hih : i = s.hw
    · rw [hih,update_self,show (s.sendFrame status).bd s.hw = _ from update_self _ _ _]
      exact if_neg (by rw [(released_bits _ status).1]; exact Bool.false_ne_true)
    · rw [update_of_ne hih,show (s.sendFrame status).bd i = s.bd i from update_of_ne hih _ _]
      rfl
  · show nextBd (s.bd s.hw).sc s.hw = (s.dirtyTx + (k + 1)) % 16
    omega
  · exact h.wrap.write (released_bits _ status).2
  · intro i hi b hb
    apply h.own i hi b
    change (Function.update s.bd s.hw _ i).bufaddr = _ at hb
    by_cases hih : i = s.hw
    · rw [hih] at hb ⊢
      rwa [update_self] at hb
    · rwa [update_of_ne hih] at hb

lemma sendFrame_kept (h : Kept s q k) (hk : k < q.length) (hwire : s.onWire (s.bd s.hw) = q[k].frame)
  (status : BitVec 16) : Kept (s.sendFrame status) q (k + 1) := by
  refine { h with order := ?_ }
  show s.handed = s.sent ++ [s.onWire (s.bd s.hw)] ++ (q.drop (k + 1)).map Skb.frame
  rw [h.order,hwire,drop_eq_getElem_cons hk,map_cons,List.append_assoc]
  rfl

/-! ### Packets are reaped -/

lemma reap_laid (h : Laid s (p :: q) (k + 1)) (status : BitVec 16) :
  Laid { s.reap status with dirtyTx := (s.dirtyTx + 1) % 16 } q k := by
  have hsent := h.sent
  have hcur := h.cur
  have hhw := h.hw
  rw [length_cons] at hsent hcur
  refine
    { h with
      skbuff := ?_
      ready := h.ready
      sent := by omega
      skbDirty := ?_
      cur := ?_
      hw := ?_ }
  · show Ring.Holds 16 (Function.update s.skbuff s.skbDirty none) ((s.dirtyTx + 1) % 16) q
    rw [h.skbDirty]
    exact h.skbuff.pop
  · show (s.skbDirty + 1) &&& TX_RING_MOD_MASK = (s.dirtyTx + 1) % 16
    rw [mask_eq,h.skbDirty]
  · show s.curTx = ((s.dirtyTx + 1) % 16 + q.length) % 16
    omega
  · show s.hw = ((s.dirtyTx + 1) % 16 + k) % 16
    omega

lemma reap_kept (hl : Laid s (p :: q) (k + 1)) (h : Kept s (p :: q) (k + 1)) (status : BitVec 16) (d : ℕ) :
  Kept { s.reap status with dirtyTx := d } q k := by
  have hlen := hl.skbuff.len
  rw [length_cons] at hlen
  have hskb : s.skbuff s.skbDirty = some p := hl.skbDirty ▸ hl.skbuff.first
  refine
    { full := fun hf => by omega
      stops := fun hf => by omega
      wakes := ?_
      books := ?_
      latest := h.latest
      order := h.order }
  · intro hs hlink
    -- the queue can only have been stopped for a full ring, and this was seen from the flag
    change (if s.txFull then false else s.stopped) = true at hs
    split at hs
    · cases hs
    · rename_i hf
      have := h.full (h.wakes hs hlink)
      contradiction
  · show (s.accepted.map some).Perm (s.freed ++ [s.skbuff s.skbDirty] ++ q.map some)
    rw [hskb,List.append_assoc]
    exact h.books

lemma reapLoop_spec : ∀ (k fuel : ℕ) (q : List Skb) (s : Tx) (bdp : ℕ), k < fuel →
  Laid { s with dirtyTx := bdp } q k → Kept { s with dirtyTx := bdp } q k → (q = [] → s.txFull = false) →
    ∃ s', reapLoop fuel s bdp = some s' ∧ Laid s' (q.drop k) 0 ∧ Kept s' (q.drop k) 0 ∧ s'.txEvent = s.txEvent
  | 0, fuel + 1, q, s, bdp, _, hl, hk, hempty => by
    refine ⟨{ s with dirtyTx := bdp },?_,by rwa [drop_zero],by rwa [drop_zero],rfl⟩
    have hd : bdp < 16 := hl.skbuff.lt
    have hhw : s.hw = bdp := hl.hw.trans (Nat.mod_eq_of_lt hd)
    unfold reapLoop
    by_cases hq : q = []
    · have hcur : s.curTx = bdp := by
        have hc : s.curTx = (bdp + q.length) % 16 := hl.cur
        rwa [hq,length_nil,Nat.add_zero,Nat.mod_eq_of_lt hd] at hc
      have hstop : bdp = s.curTx ∧ s.txFull = false := ⟨hcur.symm,hempty hq⟩
      rw [if_pos hstop,ite_self]
    · -- the oldest packet was not sent
      obtain ⟨p,q,rfl⟩ := exists_cons_of_ne_nil hq
      have hfirst : s.readyAt s.hw = some p.frame := hl.ready.first
      rw [hhw] at hfirst
      rw [if_pos (ite_none_right_eq_some.mp hfirst).1]
  | k + 1, fuel + 1, [], s, bdp, _, hl, _, _ => absurd hl.sent (by simp)
  | k + 1, fuel + 1, p :: q, s, bdp, hfuel, hl, hk, _ => by
    have hd : bdp < 16 := hl.skbuff.lt
    have hlen : q.length + 1 ≤ 16 := hl.skbuff.len
    have hsent : k + 1 ≤ q.length + 1 := hl.sent
    have hhw : s.hw = (bdp + (k + 1)) % 16 := hl.hw
    have hc : s.curTx = (bdp + (q.length + 1)) % 16 := hl.cur
    -- a turn after the controller's descriptor, or where nothing waits, none is ready
    have hready : hits (s.bd bdp).sc BD_ENET_TX_READY = false := by
      have hslot : s.readyAt ((s.hw + (15 - k)) % 16) = (((p :: q).drop (k + 1)).map Skb.frame)[15 - k]? :=
        hl.ready.slot _ (by omega)
      rw [show (s.hw + (15 - k)) % 16 = bdp by omega,List.getElem?_eq_none] at hslot
      · by_contra hr
        rw [Tx.readyAt,if_pos (by simpa using hr)] at hslot
        cases hslot
      · rw [length_map,length_drop,length_cons]
        omega
    have hnext : nextBd (s.bd bdp).sc bdp = (bdp + 1) % 16 := hl.wrap.next hd
    have hgo : ¬ (bdp = s.curTx ∧ s.txFull = false) := by
      rintro ⟨he,hf⟩
      have := hk.full (show q.length + 1 = 16 by omega)
      rw [show s.txFull = true from this] at hf
      cases hf
    obtain ⟨s',e,hl',hk',hev⟩ := reapLoop_spec k fuel q (s.reap (s.bd bdp).sc) ((bdp + 1) % 16) (by omega)
      (reap_laid hl (s.bd bdp).sc) (reap_kept hl hk (s.bd bdp).sc ((bdp + 1) % 16)) fun _ => rfl
    refine ⟨s',?_,hl',hk',hev⟩
    unfold reapLoop
    rw [hready,if_neg Bool.false_ne_true,if_neg hgo,hnext,e]

lemma txGood_of_laid (hl : Laid s q k) (hk : Kept s q k) : TxGood s where
  latest := hk.latest
  order := hk.order ▸ prefix_append _ _
  once := hk.books.trans (hl.skbuff.perm.symm.append_left s.freed)
  noNull := by
    intro hn
    have := hk.books.symm.subset (mem_append_left _ hn)
    simp at this
  late := by
    intro i hi hr
    obtain ⟨j,hj,hij,he⟩ := hl.ready.exists_slot hi
    rw [Tx.readyAt,if_pos hr,getElem?_map,getElem?_drop] at he
    obtain ⟨skb,hskb,hframe⟩ := map_eq_some_iff.mp he.symm
    have hlt := (List.getElem?_eq_some_iff.mp hskb).1
    have hlen := hl.skbuff.len
    have hhw := hl.hw
    refine ⟨skb,?_,hframe.symm⟩
    rw [← hskb,← hl.skbuff.slot (k + j) (by omega)]
    congr 1
    omega
  cur := hl.skbCur
  dirty := hl.skbDirty
  stops := fun hall => hk.stops (hl.skbuff.full_iff.mp hall)
  wakes := fun hs hlink => hl.skbuff.full_iff.mpr (hk.wakes hs hlink)

lemma reset_laid (hbd : ∀ i, (s.bd i).sc = resetSc 16 0 i ∧ (s.bd i).bufaddr = .null) (hskb : ∀ i, s.skbuff i = none)
  (hptr : s.dirtyTx = 0 ∧ s.curTx = 0 ∧ s.skbDirty = 0 ∧ s.skbCur = 0 ∧ s.hw = 0) : Laid s [] 0 := by
  obtain ⟨hdirty,hcur,hskbDirty,hskbCur,hhw⟩ := hptr
  have hready : ∀ i, hits (resetSc 16 0 i) BD_ENET_TX_READY = false := by
    intro i
    unfold resetSc
    split <;> decide
  have hsc : (fun i => (s.bd i).sc) = resetSc 16 0 := funext fun i => (hbd i).1
  refine
    { skbuff := Ring.holds_nil (by rw [hdirty]; decide) fun i _ => hskb i
      ready := Ring.holds_nil (by rw [hhw]; decide) fun i _ => ?_
      sent := le_rfl
      skbDirty := hskbDirty.trans hdirty.symm
      cur := by rw [hcur,hdirty]; rfl
      skbCur := hskbCur.trans hcur.symm
      hw := by rw [hhw,hdirty]
      wrap := hsc ▸ wrapped_reset (by decide)
      own := ?_ }
  · rw [Tx.readyAt,(hbd i).1,hready]
    rfl
  · intro i _ b hb
    rw [(hbd i).2] at hb
    cases hb

lemma restart_inv (hl : Laid s q k) (hbooks : (s.accepted.map some).Perm (s.freed ++ q.map some)) (duplex : Bool) :
  TxInv (fecRestartTx s duplex) := by
  refine ⟨[],0,reset_laid (fun _ => ⟨rfl,rfl⟩) (fun _ => rfl) ⟨rfl,rfl,rfl,rfl,rfl⟩,?_,fun _ he => by cases he⟩
  refine
    { full := fun hf => by cases hf
      stops := fun hf => by cases hf
      wakes := fun hs => by cases hs
      books := ?_
      latest := nil_suffix
      order := rfl }
  show (s.accepted.map some).Perm (s.freed ++ s.inRing ++ [])
  rw [append_nil]
  exact hbooks.trans (hl.skbuff.perm.symm.append_left s.freed)

end Ring

/-! ### Runs -/

section Run

variable {s : Tx}

lemma startXmit_inv (h : TxInv s) (hs : s.stopped = false) (skb : Skb) : TxInv (fecEnetStartXmit s skb).2 := by
  unfold fecEnetStartXmit
  split
  · exact h
  split
  · exact h
  obtain ⟨q,k,hl,hk,hstale⟩ := h
  have hlen := hl.skbuff.len
  have hroom : q.length < 16 := by
    by_contra hn
    have := hk.stops (by omega)
    rw [hs] at this
    cases this
  have hd := hl.skbuff.lt
  have hc := hl.cur
  have hnext := hl.fillIn_cur skb
  -- the pointers meet when the last place is taken
  have hmeet : (s.fillIn skb).curTx = s.dirtyTx ↔ q.length + 1 = 16 := by
    rw [hnext]
    omega
  refine ⟨q ++ [skb],k,fillIn_laid hl hroom skb,?_,fun he => by simp at he⟩
  refine
    { full := ?_
      stops := ?_
      wakes := ?_
      books := ?_
      latest := ?_
      order := ?_ }
  · intro hf
    rw [length_append,length_singleton] at hf
    exact if_pos (hmeet.mpr hf)
  · intro hf
    rw [length_append,length_singleton] at hf
    exact if_pos (hmeet.mpr hf)
  · intro hst _
    rw [length_append,length_singleton]
    change (if (s.fillIn skb).curTx = s.dirtyTx then true else s.stopped) = true at hst
    split at hst
    · exact hmeet.mp ‹_›
    · rw [hs] at hst
      cases hst
  · show ((s.accepted ++ [skb]).map some).Perm (s.freed ++ (q ++ [skb]).map some)
    rw [map_append,map_append,← List.append_assoc]
    exact hk.books.append_right _
  · show s.handed ++ [skb.frame] <:+ (s.accepted ++ [skb]).map Skb.frame
    rw [map_append]
    exact suffix_append_self_iff.mpr hk.latest
  · show s.handed ++ [skb.frame] = s.sent ++ ((q ++ [skb]).drop k).map Skb.frame
    rw [drop_append_of_le_length hl.sent,map_append,← List.append_assoc,← hk.order]
    rfl

lemma transmit_inv (h : TxInv s) (status : BitVec 16) : TxInv (transmitFrame s status) := by
  unfold transmitFrame
  split
  · rename_i hr
    obtain ⟨q,k,hl,hk,-⟩ := h
    obtain ⟨hlt,hwire⟩ := hl.waiting (Bool.and_eq_true_iff.mp hr).2
    refine ⟨q,k + 1,sendFrame_laid hl hlt status,sendFrame_kept hk hlt hwire status,fun hq => ?_⟩
    rw [hq] at hlt
    exact absurd hlt (Nat.not_lt_zero _)
  · exact h

lemma interrupt_inv (h : TxInv s) : ∃ s', fecEnetInterrupt s = some s' ∧ TxInv s' := by
  unfold fecEnetInterrupt
  split
  · rename_i hev
    obtain ⟨q,k,hl,hk,hstale⟩ := h
    have hlen := hl.skbuff.len
    have hsent := hl.sent
    obtain ⟨s',e,hl',hk',hev'⟩ := reapLoop_spec k (TX_RING_SIZE + 1) q { s with txEvent := false } s.dirtyTx
      (by unfold TX_RING_SIZE; omega) { hl with } { hk with } fun hq => hstale hq hev
    refine ⟨s',e,q.drop k,0,hl',hk',fun _ hf => ?_⟩
    rw [hev'] at hf
    cases hf
  · exact ⟨s,rfl,h⟩

lemma timeout_inv (h : TxInv s) : TxInv (fecTimeout s) := by
  obtain ⟨q,k,hl,hk,-⟩ := h
  set s1 : Tx := { s with stats := { s.stats with errors := s.stats.errors + 1 } }
  have hl1 : Laid s1 q k := { hl with }
  exact restart_inv hl1 hk.books s.fullDuplex

lemma relink_inv (h : TxInv s) (up duplex : Bool) : TxInv (miiRelink s up duplex) := by
  obtain ⟨q,k,hl,hk,hstale⟩ := h
  cases up with
  | true =>
    have hl1 : Laid { s with link := true } q k := { hl with }
    exact restart_inv hl1 hk.books duplex
  | false =>
    refine ⟨q,k,{ hl with },{ hk with stops := fun _ => rfl,wakes := ?_ },hstale⟩
    intro _ hlink
    cases hlink

lemma txInv_step {e : TxEvent} (h : TxInv s) (hok : QueueObeyed s e) : ∃ s', txStep s e = some s' ∧ TxInv s' := by
  cases e with
  | startXmit skb => exact ⟨_,rfl,startXmit_inv h hok skb⟩
  | transmit status => exact ⟨_,rfl,transmit_inv h status⟩
  | interrupt => exact interrupt_inv h
  | timeout => exact ⟨_,rfl,timeout_inv h⟩
  | relink up duplex => exact ⟨_,rfl,relink_inv h up duplex⟩

lemma txInv_start (link duplex : Bool) : TxInv (Tx.start link duplex) := by
  refine ⟨[],0,reset_laid (fun _ => ⟨rfl,rfl⟩) (fun _ => rfl) ⟨rfl,rfl,rfl,rfl,rfl⟩,?_,fun _ _ => rfl⟩
  exact
    { full := fun hf => by cases hf
      stops := fun hf => by cases hf
      wakes := fun hs => by cases hs
      books := List.Perm.refl _
      latest := nil_suffix
      order := rfl }

def tiny (data : BitVec 32) (x : UInt8) : Skb := ⟨data, [x], show 1 ≤ FEC_ENET_TX_FRSIZE by decide⟩

def timeoutRun : List TxEvent :=
  List.replicate 16 (.startXmit (tiny 0x100 1)) ++
    [.transmit 0, .timeout, .startXmit (tiny 0x102 2), .transmit BD_ENET_TX_DEF, .interrupt, .relink false false,
      .relink true true, .startXmit (tiny 0x110 3)]

def stoppedRun : List TxEvent :=
  List.replicate 16 (.startXmit (tiny 0x100 1)) ++ [.transmit 0, .startXmit (tiny 0x100 2)]

end Run

end Mx27.Fec
