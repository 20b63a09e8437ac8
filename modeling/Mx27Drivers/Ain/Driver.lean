/-
# The alarm inputs

`mxc_ain.c`: a falling edge masks the interrupt of the input and schedules the work.
-/
import Mx27Drivers.Lib.Run

namespace Mx27.Ain

open List Option BitVec

/-- `EVT_DN` and `EVT_UP` -/
inductive Evt
  | dn | up
  deriving DecidableEq

structure Ievent where
  time : ℕ
  value : Evt
  deriving DecidableEq

def EV_BUF_SZ : ℕ := 32
def EBUSY : ℤ := 16

/-- `ain_dev_t`, whether its work is pending, and the interrupt line. -/
structure Dev where
  ref : ℤ
  count : BitVec 32
  wptr : ℕ
  rptr : ℕ
  buffer : ℕ → Ievent
  pending : Bool
  depth : ℕ
  handler : Bool

def enableIrq (d : Dev) : Dev := { d with depth := d.depth - 1 }

def requestIrq (d : Dev) : Dev := { d with depth := 0, handler := true }

def Dev.put (d : Dev) (e : Ievent) : Dev :=
  { d with buffer := Function.update d.buffer d.wptr e, wptr := (d.wptr + 1) % EV_BUF_SZ }

/-- `ain_work` with the level of the pin and the time, and the events it reports. -/
def ainWork (high : Bool) (now : ℕ) (d : Dev) : Dev × List Ievent :=
  let d := { d with pending := false }
  if high then
    if d.count ≠ 0 then (enableIrq (d.put ⟨now, .up⟩), [⟨now, .up⟩]) else (enableIrq d, [])
  else
    let r := if d.count = 1 then (d.put ⟨now, .dn⟩, [⟨now, .dn⟩]) else (d, [])
    ({ r.1 with count := r.1.count + 1, pending := true }, r.2)

def ainIrqHandler (d : Dev) : Dev := { d with depth := d.depth + 1, count := 0, pending := true }

/-- `ain_open`; `ret` is what `request_irq` returns. -/
def ainOpen (ret : ℤ) (d : Dev) : ℤ × Dev :=
  let d := { d with ref := d.ref - 1 }
  if d.ref ≠ 0 then (-EBUSY, { d with ref := d.ref + 1 })
  else if ret ≠ 0 then (ret, { d with ref := d.ref + 1 })
  else (0, enableIrq (requestIrq d))

def ainRelease (d : Dev) : Dev := { d with depth := d.depth + 1, handler := false, ref := d.ref + 1 }

inductive Event
  | open (ret : ℤ)
  | release
  | irq
  | work (high : Bool) (now : ℕ)

def act (d : Dev) : Event → Option (Dev × List Ievent)
  | .open ret => some ((ainOpen ret d).2, [])
  | .release => if d.ref = 0 then some (ainRelease d, []) else none
  | .irq => if d.handler ∧ d.depth = 0 then some (ainIrqHandler d, []) else none
  | .work high now => if d.pending then some (ainWork high now d) else none

/-! ### Presses and releases -/

structure Watch where
  dev : Dev
  out : List Evt
  lows : ℕ

def lowsAfter (n : ℕ) : Event → ℕ
  | .work false _ => n + 1
  | _ => 0

def watch (s : Watch) (e : Event) : Option Watch :=
  (act s.dev e).map fun r => ⟨r.1, s.out ++ r.2.map Ievent.value, lowsAfter s.lows e⟩

def Alternate (l : List Evt) : Prop := ∀ i < l.length, l[i]? = some (if i % 2 = 0 then .dn else .up)

def due (n : ℕ) : Event → List Evt
  | .work false _ => if n = 1 then [.dn] else []
  | .work true _ => if 2 ≤ n then [.up] else []
  | _ => []

def Due (s : Watch) (e : Event) : Prop := ∀ s', watch s e = some s' → s'.out = s.out ++ due s.lows e

def SampleOk (s : Watch) : Event → Prop
  | .irq => True
  | .work false _ => s.lows + 1 < 2 ^ 32
  | .work true _ => s.lows ≠ 1
  | _ => False

instance (s : Watch) (e : Event) : Decidable (SampleOk s e) :=
  match e with
  | .irq => isTrue trivial
  | .work false _ => inferInstanceAs (Decidable (_ < _))
  | .work true _ => inferInstanceAs (Decidable (_ ≠ _))
  | .open _ => isFalse id
  | .release => isFalse id

lemma Alternate.snoc {l : List Evt} {v : Evt} (h : Alternate l) (hv : v = if l.length % 2 = 0 then .dn else .up) :
  Alternate (l ++ [v]) := by
  intro i hi
  rw [length_append,length_singleton] at hi
  by_cases hl : i = l.length
  · rw [hl,getElem?_concat_length,hv]
  · rw [getElem?_append_left (by omega)]
    exact h i (by omega)

structure Sampling (s : Watch) : Prop where
  handler : s.dev.handler = true
  alternate : Alternate s.out
  idle : s.dev.pending = false → s.dev.depth = 0 ∧ s.out.length % 2 = 0
  busy : s.dev.pending = true → s.dev.depth = 1 ∧ s.dev.count.toNat = s.lows ∧ (s.out.length % 2 = 1 ↔ 2 ≤ s.lows)

lemma Sampling.step {s s' : Watch} {e : Event} (h : Sampling s) (hok : SampleOk s e) (hs : watch s e = some s') :
  Sampling s' ∧ s'.out = s.out ++ due s.lows e := by
  obtain ⟨⟨d,evs⟩,hact,rfl⟩ := map_eq_some_iff.mp hs
  cases e with
  | «open» ret => exact hok.elim
  | release => exact hok.elim
  | irq =>
    obtain ⟨hg,hd⟩ := Run.of_guard hact
    cases hd
    have hidle : s.dev.pending = false := by
      cases hp : s.dev.pending with
      | false => rfl
      | true => exact absurd (h.busy hp).1 (by omega)
    have heven := (h.idle hidle).2
    have hdepth : s.dev.depth = 0 := hg.2
    refine ⟨⟨h.handler,by rw [map_nil,append_nil]; exact h.alternate,fun hp => (Bool.noConfusion hp),fun _ => ?_⟩,rfl⟩
    refine ⟨by show s.dev.depth + 1 = 1; omega,rfl,?_⟩
    show (s.out ++ []).length % 2 = 1 ↔ 2 ≤ 0
    rw [append_nil]
    omega
  | work high now =>
    obtain ⟨hp,hd⟩ := Run.of_guard hact
    obtain ⟨hdepth,hcount,hodd⟩ := h.busy hp
    cases high with
    | false =>
      have hwrap : s.lows + 1 < 2 ^ 32 := hok
      have h1 : s.dev.count = 1 ↔ s.lows = 1 := by rw [← toNat_inj,hcount]; rfl
      have hsucc : (s.dev.count + 1).toNat = s.lows + 1 := by
        rw [toNat_add,hcount]
        exact Nat.mod_eq_of_lt hwrap
      by_cases hl : s.lows = 1
      · rw [ainWork,if_neg Bool.false_ne_true,if_pos (h1.mpr hl)] at hd
        cases hd
        refine ⟨⟨h.handler,h.alternate.snoc (by rw [if_pos (by omega)]),fun hp => (Bool.noConfusion hp),fun _ => ?_⟩,
          by rw [due,if_pos hl]; rfl⟩
        refine ⟨hdepth,hsucc,?_⟩
        show (s.out ++ [Evt.dn]).length % 2 = 1 ↔ 2 ≤ s.lows + 1
        rw [length_append,length_singleton]
        omega
      · rw [ainWork,if_neg Bool.false_ne_true,if_neg (fun h => hl (h1.mp h))] at hd
        cases hd
        refine ⟨⟨h.handler,by rw [map_nil,append_nil]; exact h.alternate,fun hp => (Bool.noConfusion hp),fun _ => ?_⟩,
          by rw [due,if_neg hl]; rfl⟩
        refine ⟨hdepth,hsucc,?_⟩
        show (s.out ++ []).length % 2 = 1 ↔ 2 ≤ s.lows + 1
        rw [append_nil]
        omega
    | true =>
      have hne : s.lows ≠ 1 := hok
      have h0 : s.dev.count = 0 ↔ s.lows = 0 := by rw [← toNat_inj,hcount]; rfl
      by_cases hl : s.lows = 0
      · rw [ainWork,if_pos rfl,if_neg (not_not.mpr (h0.mpr hl))] at hd
        cases hd
        refine ⟨⟨h.handler,by rw [map_nil,append_nil]; exact h.alternate,fun _ => ?_,fun hp => (Bool.noConfusion hp)⟩,
          by rw [due,if_neg (by omega)]; rfl⟩
        refine ⟨by show s.dev.depth - 1 = 0; omega,?_⟩
        show (s.out ++ []).length % 2 = 0
        rw [append_nil]
        omega
      · rw [ainWork,if_pos rfl,if_pos (fun h => hl (h0.mp h))] at hd
        cases hd
        refine ⟨⟨h.handler,h.alternate.snoc (by rw [if_neg (by omega)]),fun _ => ?_,fun hp => (Bool.noConfusion hp)⟩,
          by rw [due,if_pos (by omega)]; rfl⟩
        refine ⟨by show s.dev.depth - 1 = 0; omega,?_⟩
        show (s.out ++ [Evt.up]).length % 2 = 0
        rw [length_append,length_singleton]
        omega

/-- **The reports alternate**. -/
theorem events_alternate {d : Dev} (hd : d.handler = true ∧ d.depth = 0 ∧ d.pending = false) {l : List Event}
  (hok : Run.AllSteps watch SampleOk ⟨d, [], 0⟩ l) :
  Run.AllStates watch (fun s => Alternate s.out) ⟨d, [], 0⟩ l ∧ Run.AllSteps watch Due ⟨d, [], 0⟩ l := by
  have h0 : Sampling ⟨d,[],0⟩ := by
    refine ⟨hd.1,fun i hi => absurd hi (Nat.not_lt_zero i),fun _ => ⟨hd.2.1,rfl⟩,fun hp => ?_⟩
    cases hd.2.2.symm.trans hp
  exact ⟨hok.keeps (fun _ _ _ h hok hs => (h.step hok hs).1) (fun _ h => h.alternate) h0,
    hok.entails (fun _ _ _ h hok hs => (h.step hok hs).1) (fun _ _ h hok _ hs => (h.step hok hs).2) h0⟩

def opened : Dev := ⟨0, 0, 0, 0, fun _ => ⟨0, .up⟩, false, 0, true⟩

theorem events_alternate_press : Run.AllStates watch (fun s => Alternate s.out) ⟨opened, [], 0⟩
  [.irq, .work false 1, .work false 2, .work true 3] :=
  (events_alternate (d := opened) ⟨rfl, rfl, rfl⟩ (by decide)).1

/-- A bounce is reported as a release. -/
theorem bounce_reported : ∃ s, [Event.irq, .work false 1, .work true 2].foldlM watch ⟨opened, [], 0⟩ = some s ∧ s.out = [.up] :=
  ⟨_, rfl, rfl⟩

/-! ### Masking -/

def step (d : Dev) (e : Event) : Option Dev := (act d e).map Prod.fst

def enableCall (d : Dev) : Event → Option Dev
  | .open ret => if d.ref - 1 = 0 ∧ ret = 0 then some (requestIrq { d with ref := d.ref - 1 }) else none
  | .work true _ => if d.pending then some d else none
  | _ => none

/-- `enable_irq` is called only for a line that is disabled and has a handler. -/
def Masked (d : Dev) (e : Event) : Prop := ∀ c, enableCall d e = some c → 1 ≤ c.depth ∧ c.handler = true

def NotOpened (d : Dev) (e : Event) : Prop := ∀ ret, e = .open ret → (ainOpen ret d).1 ≠ 0

def Lined (d : Dev) : Prop :=
  (d.ref = 1 ∧ d.handler = false) ∨ (d.ref = 0 ∧ d.handler = true ∧ d.depth ≤ 1 ∧ (d.depth = 1 → d.pending = true))

def Tidy (d : Dev) : Prop :=
  (d.ref = 1 ∧ d.handler = false ∧ d.pending = false) ∨
    (d.ref = 0 ∧ d.handler = true ∧ d.depth ≤ 1 ∧ (d.depth = 1 ↔ d.pending = true))

section
variable {d d' : Dev} {e : Event}

lemma step_cases (h : step d e = some d') :
  (∃ ret, e = .open ret ∧ ((d.ref = 1 ∧ ret = 0 ∧ d'.ref = 0 ∧ d'.depth = 0 ∧ d'.handler = true ∧ d'.pending = d.pending) ∨
    ((ainOpen ret d).1 ≠ 0 ∧ d' = d))) ∨
  (e = .release ∧ d.ref = 0 ∧ d'.ref = 1 ∧ d'.handler = false ∧ d'.pending = d.pending) ∨
  (d.handler = true ∧ d.depth = 0 ∧ d'.ref = d.ref ∧ d'.handler = true ∧ d'.depth = 1 ∧ d'.pending = true ∧ e = .irq) ∨
  ∃ high now, e = .work high now ∧ d.pending = true ∧ d'.ref = d.ref ∧ d'.handler = d.handler ∧
    d'.depth = (if high then d.depth - 1 else d.depth) ∧ d'.pending = !high := by
  obtain ⟨⟨d1,evs⟩,hact,rfl⟩ := map_eq_some_iff.mp h
  cases e with
  | «open» ret =>
    refine .inl ⟨ret,rfl,?_⟩
    obtain rfl : (ainOpen ret d).2 = d1 := (Prod.mk.inj (Option.some.inj hact)).1
    have hback : ({ d with ref := d.ref - 1 + 1 } : Dev) = d := by rw [Int.sub_add_cancel]
    rw [ainOpen]
    simp only
    split
    · exact .inr ⟨show (-EBUSY : ℤ) ≠ 0 by decide,hback⟩
    · next href =>
      split
      · next hret => exact .inr ⟨hret,hback⟩
      · next hret =>
        exact .inl ⟨by omega,not_not.mp hret,not_not.mp href,rfl,rfl,rfl⟩
  | release =>
    obtain ⟨href,hd⟩ := Run.of_guard hact
    cases hd
    exact .inr (.inl ⟨rfl,href,by show d.ref + 1 = 1; omega,rfl,rfl⟩)
  | irq =>
    obtain ⟨hg,hd⟩ := Run.of_guard hact
    cases hd
    exact .inr (.inr (.inl ⟨hg.1,hg.2,rfl,hg.1,by show d.depth + 1 = 1; omega,rfl,rfl⟩))
  | work high now =>
    obtain ⟨hp,hd⟩ := Run.of_guard hact
    refine .inr (.inr (.inr ⟨high,now,rfl,hp,?_⟩))
    rw [ainWork] at hd
    cases high with
    | true =>
      rw [if_pos rfl] at hd
      split at hd <;> obtain ⟨rfl,-⟩ := Prod.mk.inj hd <;> exact ⟨rfl,rfl,rfl,rfl⟩
    | false =>
      rw [if_neg Bool.false_ne_true] at hd
      simp only at hd
      split at hd <;> obtain ⟨rfl,-⟩ := Prod.mk.inj hd <;> exact ⟨rfl,rfl,rfl,rfl⟩

lemma Lined.step (h : Lined d) (hs : step d e = some d') : Lined d' := by
  rcases step_cases hs with ⟨ret,-,h1 | ⟨-,rfl⟩⟩ | h1 | h1 | ⟨high,now,-,h1⟩
  · exact .inr ⟨h1.2.2.1,h1.2.2.2.2.1,by omega,fun hd => by omega⟩
  · exact h
  · exact .inl ⟨h1.2.2.1,h1.2.2.2.1⟩
  · rcases h with h | h
    · exact absurd (h.2.symm.trans h1.1) Bool.false_ne_true
    · exact .inr ⟨by omega,h1.2.2.2.1,by omega,fun _ => h1.2.2.2.2.2.1⟩
  · obtain ⟨-,href,hhandler,hdepth,hpending⟩ := h1
    rw [Lined,href,hhandler,hdepth,hpending]
    cases high with
    | true => exact h.imp id fun h => ⟨h.1,h.2.1,by simp; omega,fun hd => by simp at hd; omega⟩
    | false => exact h.imp id fun h => ⟨h.1,h.2.1,h.2.2.1,fun _ => rfl⟩

lemma Tidy.step (h : Tidy d) (hrel : e = .release → d.pending = false) (hs : Ain.step d e = some d') : Tidy d' := by
  rcases step_cases hs with ⟨ret,-,h1 | ⟨-,rfl⟩⟩ | h1 | h1 | ⟨high,now,-,h1⟩
  · have hp : d.pending = false := by
      rcases h with h | h
      · exact h.2.2
      · omega
    refine .inr ⟨h1.2.2.1,h1.2.2.2.2.1,by omega,?_⟩
    rw [h1.2.2.2.2.2,hp,h1.2.2.2.1]
    decide
  · exact h
  · exact .inl ⟨h1.2.2.1,h1.2.2.2.1,h1.2.2.2.2.trans (hrel h1.1)⟩
  · rcases h with h | h
    · exact absurd (h.2.1.symm.trans h1.1) Bool.false_ne_true
    · exact .inr ⟨by omega,h1.2.2.2.1,by omega,iff_of_true h1.2.2.2.2.1 h1.2.2.2.2.2.1⟩
  · obtain ⟨hp,href,hhandler,hdepth,hpending⟩ := h1
    rcases h with h | h
    · exact absurd (h.2.2.symm.trans hp) Bool.false_ne_true
    · have hd1 := h.2.2.2.mpr hp
      refine .inr ⟨by omega,hhandler.trans h.2.1,?_,?_⟩
      · rw [hdepth]; split <;> omega
      · rw [hdepth,hpending]
        cases high <;> simp [hd1]

lemma masked_closed_iff (href : d.ref = 1) (hp : d.pending = false) : Masked d e ↔ NotOpened d e := by
  cases e with
  | «open» ret =>
    have hcall : enableCall d (.open ret) = if ret = 0 then some (requestIrq { d with ref := d.ref - 1 }) else none := by
      rw [enableCall,href]
      simp
    have hret : (ainOpen ret d).1 = ret := by
      rw [ainOpen]
      simp only [href]
      split
      · next h => exact absurd rfl h
      · split
        · rfl
        · next h => exact (not_not.mp h).symm
    constructor
    · intro h ret' he h0
      obtain rfl : ret = ret' := Event.open.inj he
      have := (h _ (by rw [hcall,if_pos (hret.symm.trans h0)])).1
      exact absurd (show 1 ≤ 0 from this) (by decide)
    · intro h c hc
      rw [hcall,if_neg (fun h0 => h ret rfl (hret.trans h0))] at hc
      cases hc
  | work high now =>
    refine iff_of_true (fun c hc => ?_) (fun ret he => by cases he)
    cases high with
    | true => rw [enableCall,hp] at hc; cases hc
    | false => cases hc
  | release => exact iff_of_true (fun c hc => by cases hc) (fun ret he => by cases he)
  | irq => exact iff_of_true (fun c hc => by cases hc) (fun ret he => by cases he)

end

def probed : Dev := ⟨1, 0, 0, 0, fun _ => ⟨0, .up⟩, false, 1, false⟩

/-- **Masking.** -/
theorem masking_run (l : List Event) :
  Run.AllStates step (fun d => d.ref = 0 → d.pending = false → d.depth = 0) probed l ∧
  (Run.AllSteps step Masked probed l ↔ Run.AllSteps step NotOpened probed l) ∧
  (Run.AllSteps step (fun d e => e = .release → d.pending = false) probed l →
    Run.AllSteps step (fun d e => ∀ high now, e = .work high now → Masked d e) probed l) := by
  refine ⟨?_,?_,fun h => ?_⟩
  · refine Run.AllStates.of_inv (J := Lined) (fun _ _ _ h hs => h.step hs) (fun d h href hp => ?_) (.inl ⟨rfl,rfl⟩)
    rcases h with h | h
    · omega
    · by_contra hne
      cases hp.symm.trans (h.2.2.2 (by omega))
  · refine Run.allSteps_iff (J := fun d => d.ref = 1 ∧ d.handler = false ∧ d.pending = false) (Q := fun _ => True)
      (fun e d h _ => masked_closed_iff h.1 h.2.2) (fun e d d' h _ hn hs => ?_) (fun _ _ => trivial) ⟨rfl,rfl,rfl⟩
    rcases step_cases hs with ⟨ret,rfl,h1 | ⟨-,rfl⟩⟩ | h1 | h1 | ⟨high,now,-,h1⟩
    · refine absurd ?_ (hn ret rfl)
      rw [ainOpen,h.1,h1.2.1]
      rfl
    · exact h
    · omega
    · exact absurd (h.2.1.symm.trans h1.1) Bool.false_ne_true
    · exact absurd (h.2.2.symm.trans h1.1) Bool.false_ne_true
  · refine h.entails (J := Tidy) (fun e d d' h hrel hs => h.step hrel hs) (fun e d h _ high now he c hc => ?_) (.inl ⟨rfl,rfl,rfl⟩)
    subst he
    cases high with
    | false => cases hc
    | true =>
      rw [enableCall] at hc
      obtain ⟨hp,rfl⟩ := Run.of_guard hc
      rcases h with h | h
      · exact absurd (h.2.2.symm.trans hp) Bool.false_ne_true
      · exact ⟨(h.2.2.2.mpr hp).ge,h.2.1⟩

/-- The first open enables a line that is enabled. -/
theorem unmasked_twice : ¬ Masked probed (.open 0) ∧
  ∃ d, [Event.open 0, .irq, .release].foldlM step probed = some d ∧ ¬ Masked d (.work true 1) ∧ d.handler = false :=
  ⟨fun h => absurd (h _ rfl).1 (by decide), _, rfl, fun h => absurd (h _ rfl).2 (by decide), rfl⟩

end Mx27.Ain
