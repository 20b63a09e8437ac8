/-
# The hardware event service

Drivers report events with `hw_event_send`; a kernel thread broadcasts them over netlink.
-/
import Mx27Drivers.Lib.Mealy

namespace Mx27.HwEvent

open List Option Function

def EVENT_POOL_SIZE : ℕ := 10

structure MxcHwEvent where
  event : ℕ
  args : ℤ
  deriving DecidableEq, Repr

structure Message where
  seq : ℕ
  data : MxcHwEvent
  deriving DecidableEq, Repr

inductive Priority
  | high
  | default
  deriving DecidableEq, Repr

structure State where
  freeHead : List ℕ
  eventHead : List ℕ
  tmpHead : List ℕ
  events : ℕ → MxcHwEvent
  seq : ℕ
  skb : Option Message

structure Effects where
  ret : Option ℤ := none
  queued : Option MxcHwEvent := none
  broadcast : Option Message := none
  deriving DecidableEq, Repr

def nextSeq (n : ℕ) : ℕ := (n + 1) % 2 ^ 32

/-- `hw_event_send` from `send_later` on. -/
def sendLater (new : MxcHwEvent) (s : State) : State × Effects :=
  match s.freeHead with
  | [] => (s, { ret := some (-1) })
  | n :: free =>
    ({ s with freeHead := free, eventHead := n :: s.eventHead, events := Function.update s.events n new },
      { ret := some 1, queued := some new })

structure Answers where
  alloc : Bool
  broadcast : Bool
  deriving DecidableEq, Repr

def hwEventSend (priority : Priority) (new : MxcHwEvent) (a : Answers) (s : State) : State × Effects :=
  match priority with
  | .default => sendLater new s
  | .high =>
    if a.alloc then
      let s₁ := { s with seq := nextSeq s.seq }
      if a.broadcast then (s₁, { ret := some 0, broadcast := some ⟨s.seq, new⟩ }) else sendLater new s₁
    else sendLater new s

/-- `hw_event_thread` takes over the whole event list, once that is not empty. -/
def fetch (s : State) : State :=
  if s.eventHead = [] then s else { s with tmpHead := s.eventHead, eventHead := [] }

def take (alloc : Bool) (s : State) : State :=
  match s.tmpHead with
  | [] => s
  | n :: rest =>
    if alloc then
      { s with
        tmpHead := rest, freeHead := n :: s.freeHead, seq := nextSeq s.seq, skb := some ⟨s.seq, s.events n⟩ }
    else { s with tmpHead := rest, freeHead := s.freeHead ++ [n] }

inductive Event
  | send (priority : Priority) (new : MxcHwEvent) (a : Answers)
  | fetch
  | take (alloc : Bool)
  | broadcast
  deriving DecidableEq, Repr

def act (s : State) : Event → State × Effects
  | .send priority new a => hwEventSend priority new a s
  | .fetch => (if s.skb = none ∧ s.tmpHead = [] then fetch s else s, {})
  | .take alloc => (if s.skb = none then take alloc s else s, {})
  | .broadcast => ({ s with skb := none }, { broadcast := s.skb })

def step : State → Event → Option State := Mealy.step act

def init : State where
  freeHead := List.range EVENT_POOL_SIZE
  eventHead := []
  tmpHead := []
  events := fun _ => ⟨0, 0⟩
  seq := 0
  skb := none

def Partition (s : State) : Prop := (s.freeHead ++ s.eventHead ++ s.tmpHead).Perm (List.range EVENT_POOL_SIZE)

def Ordinary : Event → Prop
  | .send priority _ _ => priority = .default
  | .take alloc => alloc = true
  | .fetch | .broadcast => True

instance : DecidablePred Ordinary
  | .send priority _ _ => inferInstanceAs (Decidable (priority = .default))
  | .take alloc => inferInstanceAs (Decidable (alloc = true))
  | .fetch | .broadcast => isTrue trivial

def Alone (s : State) : Event → Prop
  | .send _ _ _ => s.freeHead ≠ [] → s.eventHead = []
  | _ => True

instance (s : State) : DecidablePred (Alone s)
  | .send _ _ _ => inferInstanceAs (Decidable (s.freeHead ≠ [] → s.eventHead = []))
  | .fetch | .take _ | .broadcast => isTrue trivial

def pending (s : State) : List MxcHwEvent :=
  (s.skb.map Message.data).toList ++ s.tmpHead.map s.events ++ s.eventHead.map s.events

def queuedIn (s : State) (l : List Event) : List MxcHwEvent := Mealy.seen act (fun o => o.queued.toList) s l

def broadcastIn (s : State) (l : List Event) : List MxcHwEvent :=
  Mealy.seen act (fun o => (o.broadcast.map Message.data).toList) s l

structure Delivers (s : State) (l : List Event) : Prop where
  order : pending s ++ queuedIn s l = broadcastIn s l ++ pending (Mealy.after act s l)
  rounds : ∀ rounds : List (List Event), l = rounds.flatten →
    (∀ r ∈ rounds, [.fetch, .take true, .broadcast].Sublist r) → (pending s).length ≤ rounds.length →
      pending s <+: broadcastIn s l

/-! ### One step -/

section Step

variable {s : State}

lemma Partition.nodup (h : Partition s) : (s.freeHead ++ s.eventHead ++ s.tmpHead).Nodup :=
  h.nodup_iff.mpr nodup_range

lemma Partition.head_free (h : Partition s) {n : ℕ} {free : List ℕ} (hfree : s.freeHead = n :: free) :
  n ∉ s.eventHead ∧ n ∉ s.tmpHead := by
  have hnodup := h.nodup
  rw [hfree,List.cons_append,List.cons_append,nodup_cons] at hnodup
  simp only [mem_append,not_or] at hnodup
  exact ⟨hnodup.1.1.2,hnodup.1.2⟩

lemma sendLater_cases (new : MxcHwEvent) (s : State) :
  (s.freeHead = [] ∧ sendLater new s = (s, { ret := some (-1) })) ∨
  ∃ n free, s.freeHead = n :: free ∧ sendLater new s =
    ({ s with freeHead := free, eventHead := n :: s.eventHead, events := Function.update s.events n new },
      { ret := some 1, queued := some new }) := by
  cases hfree : s.freeHead with
  | nil => exact Or.inl ⟨rfl,by simp [sendLater,hfree]⟩
  | cons n free => exact Or.inr ⟨n,free,rfl,by simp [sendLater,hfree]⟩

lemma map_update_of_notMem {l : List ℕ} {n : ℕ} (h : n ∉ l) (f : ℕ → MxcHwEvent) (new : MxcHwEvent) :
  l.map (Function.update f n new) = l.map f :=
  map_congr_left fun m hm => update_of_ne (ne_of_mem_of_not_mem hm h) _ _

lemma partition_sendLater (h : Partition s) (new : MxcHwEvent) : Partition (sendLater new s).1 := by
  obtain ⟨-,e⟩ | ⟨n,free,hfree,e⟩ := sendLater_cases new s
  · rw [e]
    exact h
  · rw [e]
    refine List.Perm.trans ?_ h
    rw [hfree]
    exact perm_middle.append_right s.tmpHead

lemma partition_act (h : Partition s) (e : Event) : Partition (act s e).1 := by
  cases e with
  | send priority new a =>
    simp only [act]
    unfold hwEventSend
    split
    · exact partition_sendLater h new
    · split
      · split
        · exact h
        · exact partition_sendLater (s := { s with seq := nextSeq s.seq }) h new
      · exact partition_sendLater h new
  | fetch =>
    simp only [act]
    split
    · rename_i hidle
      unfold fetch
      split
      · exact h
      · unfold Partition at h ⊢
        simpa [hidle.2] using h
    · exact h
  | take alloc =>
    simp only [act]
    split
    · unfold take
      split
      · exact h
      · rename_i n rest htmp
        unfold Partition at h ⊢
        rw [htmp] at h
        split
        · refine List.Perm.trans ?_ h
          exact perm_middle.symm
        · refine List.Perm.trans ?_ h
          simp only [List.append_assoc,singleton_append]
          exact perm_middle.symm.append_left s.freeHead
    · exact h
  | broadcast => exact h

lemma act_send (s : State) (new : MxcHwEvent) (a : Answers) : act s (.send .default new a) = sendLater new s := rfl

lemma pending_fifo (h : Partition s) {e : Event} (he : Ordinary e) (halone : Alone s e) :
  pending s ++ (act s e).2.queued.toList =
    ((act s e).2.broadcast.map Message.data).toList ++ pending (act s e).1 := by
  cases e with
  | send priority new a =>
    obtain rfl : priority = .default := he
    rw [act_send]
    obtain ⟨-,e⟩ | ⟨n,free,hfree,e⟩ := sendLater_cases new s
    · rw [e]
      simp
    · obtain ⟨-,htmp⟩ := h.head_free hfree
      have hempty : s.eventHead = [] := halone (by simp [hfree])
      rw [e]
      simp [pending,hempty,map_update_of_notMem htmp]
  | fetch =>
    simp only [act]
    split
    · rename_i hidle
      unfold fetch
      split
      · simp
      · simp [pending,hidle.2]
    · simp
  | take alloc =>
    obtain rfl : alloc = true := he
    simp only [act]
    split
    · rename_i hskb
      unfold take
      split
      · simp
      · rename_i n rest htmp
        simp [pending,hskb,htmp]
    · simp
  | broadcast =>
    simp [act,pending]

lemma pending_perm (h : Partition s) {e : Event} (he : Ordinary e) :
  (pending s ++ (act s e).2.queued.toList).Perm
    (((act s e).2.broadcast.map Message.data).toList ++ pending (act s e).1) := by
  by_cases halone : Alone s e
  · rw [pending_fifo h he halone]
  · cases e with
    | send priority new a =>
      obtain rfl : priority = .default := he
      rw [act_send]
      obtain ⟨hfree,-⟩ | ⟨n,free,hfree,e⟩ := sendLater_cases new s
      · exact absurd (fun hne => absurd hfree hne) halone
      · obtain ⟨hevent,htmp⟩ := h.head_free hfree
        rw [e]
        simp only [pending,map_cons,update_self,map_update_of_notMem hevent,
          map_update_of_notMem htmp,toList_some,map_none,toList_none,nil_append]
        rw [List.append_assoc]
        exact (perm_append_singleton _ _).append_left _
    | fetch | take | broadcast => exact absurd trivial halone

def need (s : State) : List Event :=
  if s.skb ≠ none then [.broadcast] else if s.tmpHead ≠ [] then [.take true, .broadcast]
  else [.fetch, .take true, .broadcast]

lemma need_cases (s : State) :
  (s.skb ≠ none ∧ need s = [.broadcast]) ∨
  (s.skb = none ∧ s.tmpHead ≠ [] ∧ need s = [.take true, .broadcast]) ∨
  (s.skb = none ∧ s.tmpHead = [] ∧ need s = [.fetch, .take true, .broadcast]) := by
  by_cases hskb : s.skb = none
  · right
    by_cases htmp : s.tmpHead = []
    · exact Or.inr ⟨hskb,htmp,by simp [need,hskb,htmp]⟩
    · exact Or.inl ⟨hskb,htmp,by simp [need,hskb,htmp]⟩
  · exact Or.inl ⟨hskb,by simp [need,hskb]⟩

lemma need_ne_nil (s : State) : need s ≠ [] := by
  obtain ⟨-,e⟩ | ⟨-,-,e⟩ | ⟨-,-,e⟩ := need_cases s
  all_goals simp [e]

lemma need_sublist (s : State) : (need s).Sublist [.fetch, .take true, .broadcast] := by
  obtain ⟨-,e⟩ | ⟨-,-,e⟩ | ⟨-,-,e⟩ := need_cases s
  · rw [e]
    exact ((List.Sublist.refl _).cons _).cons _
  · rw [e]
    exact (List.Sublist.refl _).cons _
  · rw [e]

lemma need_thread {e : Event} (he : Ordinary e) (hpending : pending s ≠ [])
  (hnone : (act s e).2.broadcast = none) {l : List Event} (hl : (need s).Sublist (e :: l)) :
  (need (act s e).1).Sublist l := by
  -- a step that leaves the thread where it is
  have hkept : ∀ s' : State, s'.skb = s.skb → s'.tmpHead = s.tmpHead → (need s).head? ≠ some e →
      (need s').Sublist l := by
    intro s' hskb htmp hhead
    rw [show need s' = need s by rw [need,need,hskb,htmp]]
    exact Mealy.sublist_of_head_ne hl hhead
  cases e with
  | send priority new a =>
    obtain rfl : priority = .default := he
    have hhead : (need s).head? ≠ some (.send .default new a) := by
      obtain ⟨-,e⟩ | ⟨-,-,e⟩ | ⟨-,-,e⟩ := need_cases s
      all_goals simp [e]
    rw [act_send]
    obtain ⟨-,e⟩ | ⟨n,free,-,e⟩ := sendLater_cases new s
    · exact hkept _ (by rw [e]) (by rw [e]) hhead
    · exact hkept _ (by rw [e]) (by rw [e]) hhead
  | fetch =>
    obtain ⟨hskb,e⟩ | ⟨hskb,htmp,e⟩ | ⟨hskb,htmp,e⟩ := need_cases s
    · exact hkept _ (by simp [act,hskb]) (by simp [act,hskb]) (by simp [e])
    · exact hkept _ (by simp [act,hskb,htmp]) (by simp [act,hskb,htmp]) (by simp [e])
    · have hevent : s.eventHead ≠ [] := by
        intro hevent
        apply hpending
        simp [pending,hskb,htmp,hevent]
      rw [e] at hl
      have hnext : need (act s .fetch).1 = [.take true,.broadcast] := by
        simp [need,act,fetch,hskb,htmp,hevent]
      rw [hnext]
      exact hl.tail
  | take alloc =>
    obtain rfl : alloc = true := he
    obtain ⟨hskb,e⟩ | ⟨hskb,htmp,e⟩ | ⟨hskb,htmp,e⟩ := need_cases s
    · exact hkept _ (by simp [act,hskb]) (by simp [act,hskb]) (by simp [e])
    · obtain ⟨n,rest,htmp⟩ := exists_cons_of_ne_nil htmp
      rw [e] at hl
      have hnext : need (act s (.take true)).1 = [.broadcast] := by
        simp [need,act,take,hskb,htmp]
      rw [hnext]
      exact hl.tail
    · exact hkept _ (by simp [act,take,hskb,htmp]) (by simp [act,take,hskb,htmp]) (by simp [e])
  | broadcast =>
    have hskb : s.skb = none := hnone
    obtain ⟨hne,-⟩ | ⟨-,-,e⟩ | ⟨-,-,e⟩ := need_cases s
    · exact absurd hskb hne
    · exact hkept _ hskb.symm rfl (by simp [e])
    · exact hkept _ hskb.symm rfl (by simp [e])

end Step

lemma partition_init : Partition init := by simp [Partition,init]

lemma delivers_run {s : State} (h : Partition s) {l : List Event} (hl : ∀ e ∈ l, Ordinary e)
  (hok : Run.AllSteps step Alone s l) : Delivers s l := by
  have hok := hok.and_labels hl
  have hJ : ∀ s e, Partition s → Alone s e ∧ Ordinary e → Partition (act s e).1 := fun s e h _ => partition_act h e
  have hfifo : ∀ s e, Partition s → Alone s e ∧ Ordinary e →
      pending s ++ (act s e).2.queued.toList = ((act s e).2.broadcast.map Message.data).toList ++ pending (act s e).1 :=
    fun s e h he => pending_fifo h he.2 he.1
  refine ⟨Mealy.seen_fifo (fun o => o.queued.toList) (fun o => (o.broadcast.map Message.data).toList) hJ hfifo l hok h,
    ?_⟩
  rintro rounds rfl hr hlen
  refine Mealy.rounds_prefix (fun o => o.queued.toList) (fun o => (o.broadcast.map Message.data).toList) hJ hfifo
    (fun s r hs hokr hround hpending => ?_) hok h hr hlen
  refine Mealy.seen_of_need (fun o => o.queued.toList) (fun o => (o.broadcast.map Message.data).toList) hJ hfifo
    need_ne_nil (fun s e l hs he hpending hnone hsub => ?_) r hokr hs hpending ((need_sublist s).trans hround)
  exact need_thread he.2 hpending (by simpa using hnone) hsub

def jack (n : ℕ) : Event := .send .default ⟨n, 0⟩ ⟨true, true⟩

def inTurn : List Event :=
  [jack 1, .fetch, jack 2, .take true, .broadcast, .fetch, .take true, .broadcast]

end Mx27.HwEvent
