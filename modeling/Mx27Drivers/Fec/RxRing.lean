/-
# What the receive half passes up

`fec_enet_rx` counts the frames with an error flag, but passes them up like the others.
-/
import Mx27Drivers.Fec.Receive

namespace Mx27.Fec

open List Option Function

open Bits (hits)

def rxErrors : BitVec 16 := BD_ENET_RX_LG ||| BD_ENET_RX_SH ||| BD_ENET_RX_NO ||| BD_ENET_RX_CR ||| BD_ENET_RX_OV

def Handled.due (h : Handled) : Option (List UInt8) :=
  if h.opened && h.memory && !hits h.frame.status (rxErrors ||| BD_ENET_RX_CL) then
    some (h.frame.bytes.take (h.frame.bytes.length - 4))
  else none

structure RxGood (s : Rx) : Prop where
  delivered : s.up.map Passed.bytes = s.handled.filterMap Handled.due
  account : s.received = s.handled.map Handled.frame ++ s.waiting
  puts : ∀ n ∈ s.puts, 0 ≤ n
  alive : s.crashed = false
  refers : ∀ i < RX_RING_SIZE, (s.bd i).buf = s.skbuff i
  distinct : ∀ i < RX_RING_SIZE, ∀ j < RX_RING_SIZE, s.skbuff i = s.skbuff j → i = j
  apart : ∀ i < RX_RING_SIZE, ∀ u ∈ s.held, u.buf ≠ s.skbuff i
  intact : ∀ u ∈ s.held, (s.mem u.buf).take u.bytes.length = u.bytes
  held : s.held.Sublist s.up

def RxOk (s : Rx) : RxEvent → Prop
  | .pass alloc => s.opened = true → alloc.isSome = true → hits (s.bd s.pos).sc BD_ENET_RX_CL = true ∨
      (hits (s.bd s.pos).sc rxErrors = false ∧ 4 ≤ (s.bd s.pos).datlen)
  | .restart => hits (s.bd s.curRx).sc BD_ENET_RX_EMPTY = true
  | _ => True

instance (s : Rx) (e : RxEvent) : Decidable (RxOk s e) :=
  match e with
  | .pass alloc => @instDecidableForall (s.opened = true) _ _ (@instDecidableForall (alloc.isSome = true) _ _ instDecidableOr)
  | .restart => instDecidableEqBool (hits (s.bd s.curRx).sc BD_ENET_RX_EMPTY) true
  | .fill .. | .enter | .leave | .setOpened _ | .consume _ => isTrue trivial

def Rx.filledAt (s : Rx) (i : ℕ) : Option Frame :=
  if hits (s.bd i).sc BD_ENET_RX_EMPTY then none else some (s.frameAt i)

structure Filled (s : Rx) (w : List Frame) : Prop where
  cells : Ring.Holds 16 s.filledAt s.pos w
  hw : s.hw = (s.pos + w.length) % 16
  lens : ∀ i < 16, hits (s.bd i).sc BD_ENET_RX_EMPTY = false → (s.frameAt i).bytes.length = (s.bd i).datlen
  wrap : Wrapped 16 fun i => (s.bd i).sc

structure Owned (s : Rx) : Prop where
  refers : ∀ i < 16, (s.bd i).buf = s.skbuff i
  distinct : ∀ i < 16, ∀ j < 16, s.skbuff i = s.skbuff j → i = j
  apart : ∀ i < 16, ∀ u ∈ s.held, u.buf ≠ s.skbuff i
  intact : ∀ u ∈ s.held, (s.mem u.buf).take u.bytes.length = u.bytes

structure Told (s : Rx) (w : List Frame) : Prop where
  delivered : s.up.map Passed.bytes = s.handled.filterMap Handled.due
  account : s.received = s.handled.map Handled.frame ++ w
  puts : ∀ n ∈ s.puts, 0 ≤ n
  alive : s.crashed = false
  held : s.held.Sublist s.up

def RxInv (s : Rx) : Prop := ∃ w, Filled s w ∧ Owned s ∧ Told s w

section Ring

variable {s s' : Rx} {w : List Frame} {f : Frame} {i : ℕ} {alloc : Option ℕ}

/-! ### A frame is looked at -/

structure Processed (s s' : Rx) (i : ℕ) (h : Handled) : Prop where
  sc : ∀ j, (s'.bd j).sc = (s.bd j).sc
  datlen : ∀ j, (s'.bd j).datlen = (s.bd j).datlen
  frames : ∀ j < 16, j ≠ i → s'.frameAt j = s.frameAt j
  owned : Owned s'
  up : s'.up.map Passed.bytes = s.up.map Passed.bytes ++ h.due.toList
  puts : ∀ n ∈ s'.puts, n ∈ s.puts ∨ 0 ≤ n
  held : s.held.Sublist s.up → s'.held.Sublist s'.up
  alive : s'.crashed = s.crashed
  hw : s'.hw = s.hw
  received : s'.received = s.received
  handled : s'.handled = s.handled

variable {h : Handled}

lemma processed_none (ho : Owned s) (t : RxStats) (hdue : h.due = none) :
  Processed s { s with stats := t } i h where
  sc _ := rfl
  datlen _ := rfl
  frames _ _ _ := rfl
  owned := { ho with }
  up := by rw [hdue]; simp
  puts _ hn := .inl hn
  held := id
  alive := rfl
  hw := rfl
  received := rfl
  handled := rfl

lemma Processed.of_stats {t : RxStats} (hp : Processed { s with stats := t } s' i h) :
  Processed s s' i h := { hp with }

lemma copyFrame_spec (ho : Owned s) {b : ℕ} (hb : s.Free b) (hlen : 4 ≤ (s.bd i).datlen)
  (hdue : h.due = some ((s.mem (s.bd i).buf).take ((s.bd i).datlen - 4))) : Processed s (s.copyFrame i b) i h := by
  have hne : ∀ j < 16, (s.bd j).buf ≠ b := fun j hj => ho.refers j hj ▸ hb.1 j hj
  unfold Rx.copyFrame
  rw [if_neg (by omega)]
  set data := (s.mem (s.bd i).buf).take ((s.bd i).datlen - 4) with hdata
  refine
    { sc := fun _ => rfl
      datlen := fun _ => rfl
      frames := ?_
      owned := { ho with apart := ?_, intact := ?_ }
      up := ?_
      puts := ?_
      held := fun hs => hs.append_right _
      alive := rfl
      hw := rfl
      received := rfl
      handled := rfl }
  · intro j hj _
    show Frame.mk (s.bd j).sc ((Function.update s.mem b data (s.bd j).buf).take (s.bd j).datlen) = s.frameAt j
    rw [update_of_ne (hne j hj)]
    rfl
  · intro j hj u hu
    rcases mem_append.mp hu with hu | hu
    · exact ho.apart j hj u hu
    · rw [mem_singleton.mp hu]
      exact (hb.1 j hj).symm
  · intro u hu
    show (Function.update s.mem b data u.buf).take u.bytes.length = u.bytes
    rcases mem_append.mp hu with hu | hu
    · rw [update_of_ne (hb.2 u hu)]
      exact ho.intact u hu
    · rw [mem_singleton.mp hu,update_self,take_length]
  · show (s.up ++ [Passed.mk b data]).map Passed.bytes = _
    rw [hdue,map_append]
    rfl
  · intro n hn
    rcases mem_append.mp hn with hn | hn
    · exact .inl hn
    · right
      rw [mem_singleton.mp hn]
      omega

lemma swapBuffer_spec (ho : Owned s) {b : ℕ} (hi : i < 16) (hb : s.Free b) (hlen : 4 ≤ (s.bd i).datlen)
  (hdue : h.due = some ((s.mem (s.bd i).buf).take ((s.bd i).datlen - 4))) : Processed s (s.swapBuffer i b) i h := by
  have hbd : ∀ j, j ≠ i → (s.swapBuffer i b).bd j = s.bd j := fun j hj => update_of_ne hj _ _
  have hbd' : (s.swapBuffer i b).bd i = { s.bd i with buf := b } := update_self _ _ _
  have hskb : ∀ j, j ≠ i → (s.swapBuffer i b).skbuff j = s.skbuff j := fun j hj => update_of_ne hj _ _
  have hskb' : (s.swapBuffer i b).skbuff i = b := update_self _ _ _
  refine
    { sc := ?_
      datlen := ?_
      frames := ?_
      owned := ⟨?_,?_,?_,?_⟩
      up := ?_
      puts := ?_
      held := fun hs => hs.append_right _
      alive := rfl
      hw := rfl
      received := rfl
      handled := rfl }
  · intro j
    by_cases hj : j = i
    · rw [hj,hbd']
    · rw [hbd j hj]
  · intro j
    by_cases hj : j = i
    · rw [hj,hbd']
    · rw [hbd j hj]
  · intro j _ hj
    unfold Rx.frameAt
    rw [hbd j hj]
    rfl
  · intro j hj
    by_cases hji : j = i
    · rw [hji,hbd',hskb']
    · rw [hbd j hji,hskb j hji]
      exact ho.refers j hj
  · intro j hj j' hj' he
    by_cases hji : j = i <;> by_cases hji' : j' = i
    · rw [hji,hji']
    · rw [hji,hskb',hskb j' hji'] at he
      exact absurd he.symm (hb.1 j' hj')
    · rw [hji',hskb',hskb j hji] at he
      exact absurd he (hb.1 j hj)
    · rw [hskb j hji,hskb j' hji'] at he
      exact ho.distinct j hj j' hj' he
  · intro j hj u hu
    rcases mem_append.mp hu with hu | hu
    · by_cases hji : j = i
      · rw [hji,hskb']
        exact hb.2 u hu
      · rw [hskb j hji]
        exact ho.apart j hj u hu
    · -- the buffer that leaves the ring
      rw [mem_singleton.mp hu]
      by_cases hji : j = i
      · rw [hji,hskb']
        exact hb.1 i hi
      · rw [hskb j hji]
        exact fun he => hji (ho.distinct i hi j hj he).symm
  · intro u hu
    show (s.mem u.buf).take u.bytes.length = u.bytes
    rcases mem_append.mp hu with hu | hu
    · exact ho.intact u hu
    · rw [mem_singleton.mp hu]
      dsimp only
      rw [length_take,← take_eq_take_min]
  · show (s.up ++ [Passed.mk (s.skbuff i) ((s.mem (s.skbuff i)).take ((s.bd i).datlen - 4))]).map Passed.bytes = _
    rw [hdue,map_append,ho.refers i hi]
    rfl
  · intro n hn
    rcases mem_append.mp hn with hn | hn
    · exact .inl hn
    · right
      rw [mem_singleton.mp hn]
      omega

lemma process_spec (ho : Owned s) (hi : i < 16) (hlen : (s.frameAt i).bytes.length = (s.bd i).datlen)
  (hfree : ∀ b ∈ alloc, s.Free b)
  (hok : s.opened = true → alloc.isSome = true → hits (s.bd i).sc BD_ENET_RX_CL = true ∨
    (hits (s.bd i).sc rxErrors = false ∧ 4 ≤ (s.bd i).datlen)) :
  Processed s (s.process i alloc) i { frame := s.frameAt i, opened := s.opened, memory := alloc.isSome } := by
  have hflags : hits (s.frameAt i).status (rxErrors ||| BD_ENET_RX_CL) =
      (hits (s.bd i).sc rxErrors || hits (s.bd i).sc BD_ENET_RX_CL) := Bits.hits_or_mask _ _ _
  unfold Rx.process
  dsimp only
  split
  · rename_i hopen
    exact processed_none ho s.stats (by simp [Handled.due,hopen])
  split
  · rename_i hcl
    exact processed_none ho _ (by simp [Handled.due,hflags,hcl])
  rename_i hopen hcl
  have hopened : s.opened = true := by simpa using hopen
  cases alloc with
  | none => exact processed_none ho _ (by simp [Handled.due])
  | some b =>
    have hb : s.Free b := hfree b rfl
    obtain hcl' | ⟨herr,hlen4⟩ := hok hopened rfl
    · exact absurd hcl' hcl
    have hdue : Handled.due { frame := s.frameAt i, opened := s.opened, memory := true } =
        some ((s.mem (s.bd i).buf).take ((s.bd i).datlen - 4)) := by
      have hgood : hits (s.frameAt i).status (rxErrors ||| BD_ENET_RX_CL) = false := by
        rw [hflags,herr]
        simpa using hcl
      have hbytes : (s.frameAt i).bytes.take ((s.frameAt i).bytes.length - 4) =
          (s.mem (s.bd i).buf).take ((s.bd i).datlen - 4) := by
        rw [hlen]
        show ((s.mem (s.bd i).buf).take (s.bd i).datlen).take _ = _
        rw [take_take,Nat.min_eq_left (Nat.sub_le _ _)]
      rw [Handled.due]
      simp [hopened,hgood,hbytes]
    have ho1 : ∀ t, Owned { s with stats := t } := fun t => { ho with }
    have hcopy := fun t => (copyFrame_spec (ho1 t) hb hlen4 hdue).of_stats
    have hswap := fun t => (swapBuffer_spec (ho1 t) hi hb hlen4 hdue).of_stats
    dsimp only
    split
    · exact hcopy _
    · exact hswap _

/-! ### A pass -/

lemma emptied_bits (sc : BitVec 16) :
  hits ((sc &&& ~~~BD_ENET_RX_STATS) ||| BD_ENET_RX_EMPTY) BD_ENET_RX_EMPTY = true ∧
    hits ((sc &&& ~~~BD_ENET_RX_STATS) ||| BD_ENET_RX_EMPTY) BD_SC_WRAP = hits sc BD_SC_WRAP := by
  constructor
  · exact Bits.hits_or_self _ (by decide)
  · rw [Bits.hits_or_of_disjoint (by decide),Bits.hits_clear_of_disjoint (by decide)]

lemma giveBack_filled (hf : Filled s (f :: w)) (hp : Processed s s' s.pos h) :
  Filled (s'.giveBack s.pos) w := by
  have hhw := hf.hw
  rw [length_cons] at hhw
  have hwrap : Wrapped 16 fun j => (s'.bd j).sc := by
    simpa only [hp.sc] using hf.wrap
  have hnext : (s'.giveBack s.pos).pos = (s.pos + 1) % 16 := by
    show nextBd _ s.pos = _
    rw [nextBd,(emptied_bits _).2,← nextBd]
    exact hwrap.next hf.cells.lt
  have hbd : ∀ j, j ≠ s.pos → (s'.giveBack s.pos).bd j = s'.bd j := fun j hj => update_of_ne hj _ _
  have hempty : hits ((s'.giveBack s.pos).bd s.pos).sc BD_ENET_RX_EMPTY = true := by
    rw [show (s'.giveBack s.pos).bd s.pos = _ from update_self _ _ _]
    exact (emptied_bits _).1
  have hframe : ∀ j < 16, j ≠ s.pos → (s'.giveBack s.pos).frameAt j = s.frameAt j := by
    intro j hj hne
    rw [← hp.frames j hj hne,Rx.frameAt,hbd j hne]
    rfl
  refine
    { cells := ?_
      hw := ?_
      lens := ?_
      wrap := ?_ }
  · rw [hnext]
    refine hf.cells.pop.congr fun j hj => ?_
    unfold Rx.filledAt
    by_cases hjp : j = s.pos
    · rw [hjp,update_self,if_pos hempty]
    · rw [update_of_ne hjp,hframe j hj hjp,hbd j hjp,hp.sc]
  · rw [hnext,show (s'.giveBack s.pos).hw = s.hw from hp.hw]
    omega
  · intro j hj he
    by_cases hjp : j = s.pos
    · rw [hjp,hempty] at he
      cases he
    · rw [hbd j hjp,hp.sc] at he
      rw [hframe j hj hjp,hbd j hjp,hp.datlen]
      exact hf.lens j hj he
  · exact hwrap.write (emptied_bits _).2

lemma giveBack_owned (h : Owned s) (i : ℕ) : Owned (s.giveBack i) := by
  refine { h with refers := ?_ }
  intro j hj
  show (Function.update s.bd i _ j).buf = s.skbuff j
  rw [← h.refers j hj]
  by_cases hji : j = i
  · rw [hji,update_self]
  · rw [update_of_ne hji]

lemma filterMap_due (h : Handled) : [h].filterMap Handled.due = h.due.toList := by
  rw [filterMap_cons]
  cases h.due <;> rfl

lemma pass_inv (hf : Filled s (f :: w)) (ho : Owned s) (ht : Told s (f :: w)) (hfree : ∀ b ∈ alloc, s.Free b)
  (hok : RxOk s (.pass alloc)) : RxInv (s.pass s.pos alloc) := by
  obtain ⟨hfull,hframe⟩ := ite_none_left_eq_some.mp hf.cells.first
  have hframe : s.frameAt s.pos = f := Option.some.inj hframe
  have hlen := hf.lens s.pos hf.cells.lt (by simpa using hfull)
  set n := s.note s.pos alloc with hn
  have hp : Processed n (n.process s.pos alloc) s.pos
      { frame := s.frameAt s.pos, opened := s.opened, memory := alloc.isSome } :=
    process_spec (s := n) { ho with } hf.cells.lt hlen hfree hok
  have hfn : Filled n (f :: w) := { hf with }
  have halive : (n.process s.pos alloc).crashed = false := hp.alive.trans ht.alive
  have hpass : s.pass s.pos alloc = (n.process s.pos alloc).giveBack s.pos := by
    show (if (n.process s.pos alloc).crashed then _ else _) = _
    rw [halive]
    rfl
  rw [hpass]
  refine ⟨w,giveBack_filled (s := n) hfn hp,giveBack_owned hp.owned s.pos,?_⟩
  refine
    { delivered := ?_
      account := ?_
      puts := ?_
      alive := halive
      held := hp.held ht.held }
  · show (n.process s.pos alloc).up.map Passed.bytes = (n.process s.pos alloc).handled.filterMap Handled.due
    rw [hp.up,hp.handled]
    show s.up.map Passed.bytes ++ _ = (s.handled ++ [_]).filterMap Handled.due
    rw [ht.delivered,filterMap_append,filterMap_due]
  · show (n.process s.pos alloc).received = (n.process s.pos alloc).handled.map Handled.frame ++ w
    rw [hp.received,hp.handled]
    show s.received = (s.handled ++ [_]).map Handled.frame ++ w
    rw [ht.account,map_append,List.append_assoc]
    show _ = _ ++ ([s.frameAt s.pos] ++ w)
    rw [hframe]
    rfl
  · intro m hm
    exact (hp.puts m hm).elim (ht.puts m) id

/-! ### The controller fills a descriptor -/

lemma filled_bits (sc status : BitVec 16) :
  hits ((status &&& ~~~(BD_ENET_RX_EMPTY ||| BD_SC_WRAP)) ||| (sc &&& BD_SC_WRAP)) BD_ENET_RX_EMPTY = false ∧
    hits ((status &&& ~~~(BD_ENET_RX_EMPTY ||| BD_SC_WRAP)) ||| (sc &&& BD_SC_WRAP)) BD_SC_WRAP =
      hits sc BD_SC_WRAP := by
  constructor
  · rw [Bits.hits_or_of_disjoint (Bits.and_and_eq_zero (by decide) sc),hits,Bits.and_and_eq_zero (by decide) status]
    rfl
  · rw [BitVec.or_comm,Bits.hits_or_of_disjoint (Bits.and_and_eq_zero (by decide) status),hits,BitVec.and_assoc,
      BitVec.and_self,hits]

lemma Filled.room (h : Filled s w) (he : hits (s.bd s.hw).sc BD_ENET_RX_EMPTY = true) : w.length < 16 := by
  have hlen := h.cells.len
  have hpos := h.cells.lt
  have hhw := h.hw
  by_contra hn
  have hfull := h.cells.full_iff.mpr (by omega) s.hw (by omega)
  rw [Rx.filledAt,if_pos he] at hfull
  cases hfull

lemma fill_inv (hf : Filled s w) (ho : Owned s) (ht : Told s w)
  (he : hits (s.bd s.hw).sc BD_ENET_RX_EMPTY = true) (status : BitVec 16) (bytes : List UInt8) :
  RxInv (s.fill status bytes) := by
  have hroom := hf.room he
  have hhw := hf.hw
  have hlt : s.hw < 16 := hhw ▸ Nat.mod_lt _ (by decide)
  have hbd : ∀ i, i ≠ s.hw → (s.fill status bytes).bd i = s.bd i := fun i hi => update_of_ne hi _ _
  have hnew : (s.fill status bytes).bd s.hw = _ := update_self _ _ _
  have hfull : hits ((s.fill status bytes).bd s.hw).sc BD_ENET_RX_EMPTY = false := by
    rw [hnew]
    exact (filled_bits _ status).1
  -- the frame is written into a buffer of the ring, which no other descriptor and no skb has
  have hmem : ∀ b, b ≠ (s.bd s.hw).buf → (s.fill status bytes).mem b = s.mem b := fun b hb =>
    update_of_ne hb _ _
  have hmem' : (s.fill status bytes).mem (s.bd s.hw).buf = _ := update_self _ _ _
  have hother : ∀ i < 16, i ≠ s.hw → (s.fill status bytes).frameAt i = s.frameAt i := by
    intro i hi hne
    unfold Rx.frameAt
    rw [hbd i hne,hmem]
    rw [ho.refers i hi,ho.refers s.hw hlt]
    exact fun hb => hne (ho.distinct i hi s.hw hlt hb)
  have hframe : (s.fill status bytes).frameAt s.hw = ⟨((s.fill status bytes).bd s.hw).sc,bytes⟩ := by
    unfold Rx.frameAt
    rw [hnew]
    dsimp only
    rw [hmem',take_left]
  refine ⟨w ++ [⟨((s.fill status bytes).bd s.hw).sc,bytes⟩],?_,?_,?_⟩
  · refine
      { cells := ?_
        hw := ?_
        lens := ?_
        wrap := ?_ }
    · refine (hf.cells.push hroom _).congr fun i hi => ?_
      rw [← hhw]
      unfold Rx.filledAt
      by_cases hih : i = s.hw
      · rw [hih,update_self,hfull,hframe]
        rfl
      · rw [update_of_ne hih,hbd i hih,hother i hi hih]
    · show nextBd (s.bd s.hw).sc s.hw = (s.pos + _) % 16
      rw [hf.wrap.next hlt,length_append,length_singleton]
      omega
    · intro i hi hie
      by_cases hih : i = s.hw
      · rw [hih,hframe,hnew]
      · rw [hbd i hih] at hie ⊢
        rw [hother i hi hih]
        exact hf.lens i hi hie
    · exact hf.wrap.write (filled_bits _ status).2
  · refine { ho with refers := ?_, intact := ?_ }
    · intro i hi
      show ((s.fill status bytes).bd i).buf = s.skbuff i
      rw [← ho.refers i hi]
      by_cases hih : i = s.hw
      · rw [hih,hnew]
      · rw [hbd i hih]
    · intro u hu
      rw [hmem u.buf (ho.refers s.hw hlt ▸ ho.apart s.hw hlt u hu)]
      exact ho.intact u hu
  · refine { ht with account := ?_ }
    show s.received ++ [_] = s.handled.map Handled.frame ++ (w ++ [_])
    rw [ht.account,hnew,List.append_assoc]

lemma Filled.congr (h : Filled s w) (hpos : s'.pos = s.pos) (hbd : s'.bd = s.bd) (hmem : s'.mem = s.mem)
  (hhw : s'.hw = s.hw) : Filled s' w := by
  have hframe : s'.frameAt = s.frameAt := by
    funext i
    unfold Rx.frameAt
    rw [hbd,hmem]
  have hcells : s'.filledAt = s.filledAt := by
    funext i
    unfold Rx.filledAt
    rw [hbd,hframe]
  exact
    { cells := by rw [hcells,hpos]; exact h.cells
      hw := by rw [hhw,hpos,h.hw]
      lens := by rw [hbd,hframe]; exact h.lens
      wrap := by rw [hbd]; exact h.wrap }

lemma reset_filled (hbd : ∀ i, (s.bd i).sc = resetSc 16 BD_ENET_RX_EMPTY i) (hpos : s.pos = 0) (hhw : s.hw = 0) :
  Filled s [] := by
  have hempty : ∀ i, hits (s.bd i).sc BD_ENET_RX_EMPTY = true := by
    intro i
    rw [hbd,resetSc]
    split <;> decide
  have hsc : (fun i => (s.bd i).sc) = resetSc 16 BD_ENET_RX_EMPTY := funext hbd
  refine
    { cells := Ring.holds_nil (by rw [hpos]; decide) fun i _ => if_pos (hempty i)
      hw := by rw [hhw,hpos]; rfl
      lens := ?_
      wrap := hsc ▸ wrapped_reset (by decide) }
  intro i _ he
  rw [hempty i] at he
  cases he

lemma Filled.waiting (h : Filled s w) : s.waiting = w := by
  have hfilter : ∀ l : List ℕ, (l.filter fun i => !hits (s.bd i).sc BD_ENET_RX_EMPTY).map s.frameAt =
      (l.map s.filledAt).filterMap id := by
    intro l
    induction l with
    | nil => rfl
    | cons i l ih =>
      rw [filter_cons,map_cons,filterMap_cons,Rx.filledAt]
      cases hits (s.bd i).sc BD_ENET_RX_EMPTY <;> simp [ih]
  have hslots := h.cells.slots_eq
  rw [Ring.slots] at hslots
  show (((List.range 16).map fun j => (s.pos + j) % 16).filter _).map s.frameAt = w
  rw [hfilter,List.map_map]
  simp only [comp_def]
  rw [hslots,filterMap_append]
  simp [filterMap_map]

lemma Filled.ne_nil (h : Filled s w) : hits (s.bd s.pos).sc BD_ENET_RX_EMPTY = decide (w = []) := by
  have hfirst := h.cells.first
  unfold Rx.filledAt at hfirst
  cases w with
  | nil => simpa using hfirst
  | cons f w => simpa using (ite_none_left_eq_some.mp hfirst).1

lemma rxGood_of_inv (h : RxInv s) : RxGood s := by
  obtain ⟨w,hf,ho,ht⟩ := h
  exact { ho, ht with account := by rw [hf.waiting]; exact ht.account }

end Ring

/-! ### Runs -/

section Run

variable {s s' : Rx} {e : RxEvent}

lemma restart_inv_rx (h : RxInv s) (hh : s.handler = none)
  (hok : hits (s.bd s.curRx).sc BD_ENET_RX_EMPTY = true) : RxInv (fecRestartRx s) := by
  obtain ⟨w,hf,ho,ht⟩ := h
  have hpos : s.pos = s.curRx := by
    unfold Rx.pos
    rw [hh]
    rfl
  rw [← hpos,hf.ne_nil,decide_eq_true_eq] at hok
  subst hok
  have hpos' : (fecRestartRx s).pos = 0 := by
    show s.handler.getD 0 = 0
    rw [hh]
    rfl
  exact ⟨[],reset_filled (fun _ => rfl) hpos' rfl,{ ho with },{ ht with }⟩

lemma consume_inv (h : RxInv s) (i : ℕ) : RxInv { s with held := s.held.eraseIdx i } := by
  obtain ⟨w,hf,ho,ht⟩ := h
  have hsub := eraseIdx_sublist s.held i
  refine ⟨w,{ hf with },{ ho with apart := ?_,intact := ?_ },{ ht with held := hsub.trans ht.held }⟩
  · intro j hj u hu
    exact ho.apart j hj u (hsub.subset hu)
  · intro u hu
    exact ho.intact u (hsub.subset hu)

lemma rxInv_step (h : RxInv s) (hok : RxOk s e) (hstep : rxStep s e = some s') : RxInv s' := by
  obtain ⟨hcrash,hstep⟩ := ite_none_left_eq_some.mp hstep
  cases e with
  | fill status bytes =>
    obtain ⟨⟨hempty,-⟩,hstep⟩ := ite_none_right_eq_some.mp hstep
    cases hstep
    obtain ⟨w,hf,ho,ht⟩ := h
    exact fill_inv hf ho ht hempty status bytes
  | enter =>
    obtain ⟨hh,hstep⟩ := ite_none_right_eq_some.mp hstep
    cases hstep
    obtain ⟨w,hf,ho,ht⟩ := h
    refine ⟨w,hf.congr ?_ rfl rfl rfl,{ ho with },{ ht with }⟩
    show s.curRx = s.handler.getD s.curRx
    rw [hh]
    rfl
  | pass alloc =>
    obtain ⟨bdp,hh,hstep⟩ := bind_eq_some_iff.mp hstep
    obtain ⟨⟨hfull,hfree⟩,hstep⟩ := ite_none_right_eq_some.mp hstep
    cases hstep
    obtain ⟨w,hf,ho,ht⟩ := h
    have hpos : s.pos = bdp := by
      unfold Rx.pos
      rw [hh]
      rfl
    subst hpos
    rw [hf.ne_nil,decide_eq_false_iff_not] at hfull
    obtain ⟨f,w,rfl⟩ := exists_cons_of_ne_nil hfull
    exact pass_inv hf ho ht hfree hok
  | leave =>
    obtain ⟨bdp,hh,hstep⟩ := bind_eq_some_iff.mp hstep
    obtain ⟨-,hstep⟩ := ite_none_right_eq_some.mp hstep
    cases hstep
    obtain ⟨w,hf,ho,ht⟩ := h
    refine ⟨w,hf.congr ?_ rfl rfl rfl,{ ho with },{ ht with }⟩
    show bdp = s.handler.getD s.curRx
    rw [hh]
    rfl
  | restart =>
    obtain ⟨hh,hstep⟩ := ite_none_right_eq_some.mp hstep
    cases hstep
    exact restart_inv_rx h hh hok
  | setOpened b =>
    obtain ⟨-,hstep⟩ := ite_none_right_eq_some.mp hstep
    cases hstep
    obtain ⟨w,hf,ho,ht⟩ := h
    exact ⟨w,{ hf with },{ ho with },{ ht with }⟩
  | consume i =>
    cases hstep
    exact consume_inv h i

lemma allocRing_spec : ∀ (allocs : List (Option ℕ)) (n : ℕ) (got bufs : List ℕ), allocRing allocs n got = .ok bufs →
  ∃ more, bufs = got ++ more ∧ more.length = n ∧ more.Sublist (allocs.filterMap id)
  | _, 0, got, bufs, h => by
    rw [allocRing] at h
    exact ⟨[],by rw [append_nil,Except.ok.inj h],rfl,nil_sublist _⟩
  | [], n + 1, got, bufs, h => nomatch h
  | none :: allocs, n + 1, got, bufs, h => nomatch h
  | some b :: allocs, n + 1, got, bufs, h => by
    obtain ⟨more,rfl,hlen,hsub⟩ := allocRing_spec allocs n (got ++ [b]) bufs h
    exact ⟨b :: more,by simp,by simp [hlen],hsub.cons_cons b⟩

lemma rxInv_init {allocs : List (Option ℕ)} (hfresh : (allocs.filterMap id).Nodup)
  (hinit : fecEnetInitRx allocs = .ok s) : RxInv s := by
  obtain ⟨bufs,hbufs,rfl⟩ : ∃ bufs, allocRing allocs RX_RING_SIZE [] = .ok bufs ∧ Rx.start bufs = s := by
    unfold fecEnetInitRx at hinit
    cases ha : allocRing allocs RX_RING_SIZE [] with
    | error freed =>
      rw [ha] at hinit
      cases hinit
    | ok bufs =>
      rw [ha] at hinit
      exact ⟨bufs,rfl,Except.ok.inj hinit⟩
  obtain ⟨more,rfl,hlen,hsub⟩ := allocRing_spec allocs RX_RING_SIZE [] bufs hbufs
  have hnodup := hsub.nodup hfresh
  refine ⟨[],reset_filled (fun _ => rfl) rfl rfl,⟨fun _ _ => rfl,?_,?_,?_⟩,⟨rfl,rfl,?_,rfl,List.Sublist.refl _⟩⟩
  · intro i hi j hj he
    change bufs.length = 16 at hlen
    change bufs.getD i 0 = bufs.getD j 0 at he
    rw [getD_eq_getElem _ _ (by omega),getD_eq_getElem _ _ (by omega)] at he
    exact (hnodup.getElem_inj_iff).mp he
  · intro i _ u hu
    cases hu
  · intro u hu
    cases hu
  · intro n hn
    cases hn

def mixedRun : List RxEvent :=
  [.setOpened true, .fill 0x0800 (List.replicate 64 1), .enter, .pass (some 16), .fill 0x0800 (List.replicate 300 2),
    .pass (some 17), .fill 0x0801 [3], .fill 0x0804 (List.replicate 70 4), .pass none, .pass none, .leave, .consume 0,
    .restart, .fill 0x0800 (List.replicate 64 5), .enter, .pass (some 16), .leave]

def crcRun : List RxEvent :=
  [.setOpened true, .fill (0x0800 ||| BD_ENET_RX_CR) (List.replicate 64 7), .enter, .pass (some 16)]

def runtRun : List RxEvent := [.setOpened true, .fill 0x0800 [7, 7], .enter, .pass (some 16)]

def lostRun : List RxEvent := [.setOpened true, .fill 0x0800 (List.replicate 64 7), .restart]

end Run

end Mx27.Fec
