/-
# The event buffer of an alarm input

`ain_work` puts events into a ring of 32 without a look at the read index.
-/
import Mx27Drivers.Ain.Driver
import Mx27Drivers.Lib.Ring

namespace Mx27.Ain

open List Option

def IEVENT_SIZE : ℕ := 12

structure Reader where
  count : ℕ
  got : List Ievent

structure Feed where
  dev : Dev
  reader : Option Reader
  produced : List Ievent
  returned : List Ievent

inductive FeedEvent
  | dev (e : Event)
  | read (rdonly nonblock : Bool) (count : ℕ)
  | copy (fault : Bool)
  | done

def More (d : Dev) (r : Reader) : Prop := d.wptr ≠ d.rptr ∧ IEVENT_SIZE * r.got.length + IEVENT_SIZE ≤ r.count

instance (d : Dev) (r : Reader) : Decidable (More d r) := inferInstanceAs (Decidable (_ ∧ _))

def Feed.got (s : Feed) : List Ievent := (s.reader.map Reader.got).getD []

def feed (s : Feed) : FeedEvent → Option Feed
  | .dev e => (act s.dev e).map fun r => { s with dev := r.1, produced := s.produced ++ r.2 }
  | .read rdonly nonblock count =>
    if s.reader.isSome then none
    else if ¬ rdonly then some s
    else if s.dev.wptr = s.dev.rptr then (if nonblock then some s else none)
    else some { s with reader := some ⟨count, []⟩ }
  | .copy fault => s.reader.bind fun r =>
    if More s.dev r then
      if fault then some { s with reader := none }
      else some { s with
        dev := { s.dev with rptr := (s.dev.rptr + 1) % EV_BUF_SZ }
        reader := some { r with got := r.got ++ [s.dev.buffer s.dev.rptr] } }
    else none
  | .done => s.reader.bind fun r =>
    if ¬ More s.dev r then some { s with reader := none, returned := s.returned ++ r.got } else none

def ainPoll (d : Dev) : Bool := d.wptr != d.rptr

def FeedOk (s : Feed) : FeedEvent → Prop
  | .dev (.work high now) => (ainWork high now s.dev).2 ≠ [] → s.produced.length < s.returned.length + s.got.length + 31
  | .copy true => s.got = []
  | _ => True

instance (s : Feed) (e : FeedEvent) : Decidable (FeedOk s e) :=
  match e with
  | .dev (.work high now) =>
    @instDecidableForall ((ainWork high now s.dev).2 ≠ []) _ _ _
  | .copy true => inferInstanceAs (Decidable (_ = _))
  | .dev (.open _) => isTrue trivial
  | .dev .release => isTrue trivial
  | .dev .irq => isTrue trivial
  | .read _ _ _ => isTrue trivial
  | .copy false => isTrue trivial
  | .done => isTrue trivial

def Served (s : Feed) : Prop :=
  s.returned <+: s.produced ∧ (s.reader = none → (ainPoll s.dev = true ↔ s.returned.length < s.produced.length))

def ReadsAll (s : Feed) (e : FeedEvent) : Prop :=
  ∀ r s', e = .done → s.reader = some r → feed s e = some s' →
    IEVENT_SIZE * (s.produced.length - s.returned.length) ≤ r.count → s'.returned = s'.produced

structure Ringed (s : Feed) (k : ℕ) : Prop where
  room : k < 32
  rptr : s.dev.rptr < 32
  wptr : s.dev.wptr = (s.dev.rptr + k) % 32
  all : s.produced = s.returned ++ s.got ++ Ring.slots 32 s.dev.buffer s.dev.rptr k

section
variable {s s' : Feed} {k : ℕ} {e : FeedEvent}

lemma Ringed.empty_iff (h : Ringed s k) : s.dev.wptr = s.dev.rptr ↔ k = 0 := by
  rw [h.wptr]
  constructor
  · intro he
    have he0 : (s.dev.rptr + k) % 32 = (s.dev.rptr + 0) % 32 := he.trans (Nat.mod_eq_of_lt h.rptr).symm
    exact Ring.index_inj h.room (by decide) he0
  · rintro rfl
    exact Nat.mod_eq_of_lt h.rptr

lemma Ringed.length (h : Ringed s k) : s.produced.length = s.returned.length + s.got.length + k := by
  rw [h.all,length_append,length_append,Ring.length_slots]

lemma act_ring {d d' : Dev} {e : Event} {evs : List Ievent} (h : act d e = some (d', evs)) :
  d'.rptr = d.rptr ∧ ((evs = [] ∧ d'.wptr = d.wptr ∧ d'.buffer = d.buffer) ∨
    ∃ high now ev, e = .work high now ∧ evs = [ev] ∧ d'.wptr = (d.wptr + 1) % 32 ∧
      d'.buffer = Function.update d.buffer d.wptr ev) := by
  cases e with
  | «open» ret =>
    obtain ⟨rfl,rfl⟩ := Prod.mk.inj (Option.some.inj h)
    have hsame : (ainOpen ret d).2.rptr = d.rptr ∧ (ainOpen ret d).2.wptr = d.wptr ∧ (ainOpen ret d).2.buffer = d.buffer := by
      rw [ainOpen]
      simp only
      split
      · exact ⟨rfl,rfl,rfl⟩
      · split <;> exact ⟨rfl,rfl,rfl⟩
    exact ⟨hsame.1,.inl ⟨rfl,hsame.2⟩⟩
  | release =>
    obtain ⟨rfl,rfl⟩ := Prod.mk.inj (Run.of_guard h).2
    exact ⟨rfl,.inl ⟨rfl,rfl,rfl⟩⟩
  | irq =>
    obtain ⟨rfl,rfl⟩ := Prod.mk.inj (Run.of_guard h).2
    exact ⟨rfl,.inl ⟨rfl,rfl,rfl⟩⟩
  | work high now =>
    have hd := (Run.of_guard h).2
    rw [ainWork] at hd
    simp only at hd
    split at hd <;> split at hd <;> obtain ⟨rfl,rfl⟩ := Prod.mk.inj hd
    · exact ⟨rfl,.inr ⟨high,now,_,rfl,rfl,rfl,rfl⟩⟩
    · exact ⟨rfl,.inl ⟨rfl,rfl,rfl⟩⟩
    · exact ⟨rfl,.inr ⟨high,now,_,rfl,rfl,rfl,rfl⟩⟩
    · exact ⟨rfl,.inl ⟨rfl,rfl,rfl⟩⟩

lemma Ringed.feed (h : Ringed s k) (hok : FeedOk s e) (hs : feed s e = some s') : ∃ k', Ringed s' k' := by
  cases e with
  | dev e =>
    obtain ⟨⟨d,evs⟩,hact,rfl⟩ := map_eq_some_iff.mp hs
    obtain ⟨hr,⟨rfl,hw,hb⟩ | ⟨high,now,ev,rfl,rfl,hw,hb⟩⟩ := act_ring hact
    · refine ⟨k,h.room,by rw [hr]; exact h.rptr,by rw [hw,hr]; exact h.wptr,?_⟩
      rw [append_nil,hb,hr]
      exact h.all
    · have hlen := h.length
      have hlt : s.produced.length < s.returned.length + s.got.length + 31 := hok (by rw [(Run.of_guard hact).2]; exact cons_ne_nil _ _)
      refine ⟨k + 1,by omega,by rw [hr]; exact h.rptr,?_,?_⟩
      · rw [hw,hr,h.wptr,Nat.mod_add_mod,Nat.add_assoc]
      · show s.produced ++ [ev] = s.returned ++ s.got ++ Ring.slots 32 d.buffer d.rptr (k + 1)
        rw [hb,hr,h.wptr,Ring.slots_push _ _ h.room,← List.append_assoc,← h.all]
  | read rdonly nonblock count =>
    rw [Ain.feed] at hs
    split at hs
    · cases hs
    next hnone =>
    split at hs
    · cases hs
      exact ⟨k,h⟩
    split at hs
    · obtain ⟨-,rfl⟩ := Run.of_guard hs
      exact ⟨k,h⟩
    · cases hs
      have hgot : s.got = [] := by rw [Feed.got,not_isSome_iff_eq_none.mp hnone]; rfl
      refine ⟨k,h.room,h.rptr,h.wptr,?_⟩
      have := h.all
      rwa [hgot] at this
  | copy fault =>
    obtain ⟨r,hr,hs⟩ := bind_eq_some_iff.mp hs
    have hgot : s.got = r.got := by rw [Feed.got,hr]; rfl
    split at hs
    swap
    · cases hs
    next hmore =>
    split at hs
    · next hf =>
      cases hs
      rw [hf] at hok
      refine ⟨k,h.room,h.rptr,h.wptr,?_⟩
      have := h.all
      rwa [show s.got = [] from hok] at this
    · cases hs
      cases k with
      | zero => exact absurd (h.empty_iff.mpr rfl) hmore.1
      | succ k =>
        have hroom := h.room
        refine ⟨k,by omega,Nat.mod_lt _ (by decide),?_,?_⟩
        · show s.dev.wptr = ((s.dev.rptr + 1) % 32 + k) % 32
          rw [h.wptr,Nat.mod_add_mod,Nat.add_assoc,Nat.add_comm 1 k]
        · show s.produced = s.returned ++ (r.got ++ [s.dev.buffer s.dev.rptr]) ++
            Ring.slots 32 s.dev.buffer ((s.dev.rptr + 1) % 32) k
          rw [h.all,Ring.slots_cons,Nat.mod_eq_of_lt h.rptr,hgot]
          simp only [List.append_assoc,singleton_append]
  | done =>
    obtain ⟨r,hr,hs⟩ := bind_eq_some_iff.mp hs
    obtain ⟨-,rfl⟩ := Run.of_guard hs
    refine ⟨k,h.room,h.rptr,h.wptr,?_⟩
    have hgot : s.got = r.got := by rw [Feed.got,hr]; rfl
    have := h.all
    rw [hgot] at this
    show s.produced = s.returned ++ r.got ++ [] ++ _
    rwa [append_nil]

lemma Ringed.served (h : Ringed s k) : Served s := by
  refine ⟨⟨s.got ++ Ring.slots 32 s.dev.buffer s.dev.rptr k,by rw [← List.append_assoc]; exact h.all.symm⟩,fun hr => ?_⟩
  have hlen := h.length
  have hgot : s.got.length = 0 := by rw [Feed.got,hr]; rfl
  rw [ainPoll,bne_iff_ne,Ne,h.empty_iff]
  omega

lemma Ringed.readsAll (h : Ringed s k) : ReadsAll s e := by
  rintro r s' rfl hr hs hroom
  have hgot : s.got = r.got := by rw [Feed.got,hr]; rfl
  rw [Ain.feed,hr] at hs
  obtain ⟨hend,rfl⟩ := Run.of_guard hs
  have hk : k = 0 := by
    by_contra hne
    refine hend ⟨fun he => hne (h.empty_iff.mp he),?_⟩
    have hlen := h.length
    rw [hgot] at hlen
    rw [IEVENT_SIZE] at hroom ⊢
    omega
  show s.returned ++ r.got = s.produced
  rw [h.all,hgot,hk,Ring.slots_zero,append_nil]

end

/-- **The events are served** over all steps of the driver, of reads and of copies that keep to
the conditions. -/
theorem events_served {d : Dev} (hd : d.wptr = d.rptr ∧ d.rptr < 32) {l : List FeedEvent}
  (hok : Run.AllSteps feed FeedOk ⟨d, none, [], []⟩ l) :
  Run.AllStates feed Served ⟨d, none, [], []⟩ l ∧ Run.AllSteps feed ReadsAll ⟨d, none, [], []⟩ l := by
  have h0 : ∃ k, Ringed ⟨d,none,[],[]⟩ k :=
    ⟨0,by decide,hd.2,hd.1.trans (Nat.mod_eq_of_lt hd.2).symm,rfl⟩
  have hstep : ∀ e s s', (∃ k, Ringed s k) → FeedOk s e → feed s e = some s' → ∃ k, Ringed s' k := by
    rintro e s s' ⟨k,h⟩ hok hs
    exact h.feed hok hs
  refine ⟨hok.keeps hstep ?_ h0,hok.entails hstep ?_ h0⟩
  · rintro s ⟨k,h⟩
    exact h.served
  · rintro e s ⟨k,h⟩ -
    exact h.readsAll

/-- A press is read. -/
theorem events_served_press : Run.AllStates feed Served ⟨opened, none, [], []⟩
  [.dev .irq, .dev (.work false 1), .dev (.work false 2), .read true false 24, .copy false, .done] :=
  (events_served (d := opened) ⟨rfl, by decide⟩ (by decide)).1

def pressed : List FeedEvent := [.dev .irq, .dev (.work false 1), .dev (.work false 2), .dev (.work true 3)]

/-- 32 unread events look like none. -/
theorem events_lost :
  (∃ s, (List.replicate 16 pressed).flatten.foldlM feed ⟨opened, none, [], []⟩ = some s ∧ s.produced.length = 32 ∧
    s.returned = [] ∧ ainPoll s.dev = false) ∧
  ∃ s, (pressed ++ [FeedEvent.read true false 24, .copy false, .copy true, .read true false 24, .copy false, .done]).foldlM feed
    ⟨opened, none, [], []⟩ = some s ∧ s.produced = [⟨2, .dn⟩, ⟨3, .up⟩] ∧ s.returned = [⟨3, .up⟩] ∧ ainPoll s.dev = false :=
  ⟨⟨_, rfl, rfl, rfl, rfl⟩, ⟨_, rfl, rfl, rfl, rfl⟩⟩

end Mx27.Ain
