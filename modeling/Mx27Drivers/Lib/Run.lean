/-
# Runs of a step function

A step function `step : σ → α → Option σ` takes a state and a label.
-/
import Mathlib

namespace Run

open List Option

variable {σ α : Type}

variable {step : σ → α → Option σ} {I J : σ → Prop} {ok P : σ → α → Prop}

lemma of_guard {p : Prop} [Decidable p] {s s' : σ} (h : (if p then some s else none) = some s') : p ∧ s = s' := by
  split at h
  · next hp => exact ⟨hp,Option.some.inj h⟩
  · cases h

lemma foldlM_total (I : List α → σ → Prop)
  (h : ∀ a l s, I (a :: l) s → ∃ s', step s a = some s' ∧ I l s') :
  ∀ (l : List α) (s : σ), I l s → ∃ s', l.foldlM step s = some s' ∧ I [] s'
  | [], s, hs => ⟨s, rfl, hs⟩
  | a :: l, s, hs => by
    obtain ⟨s1,e1,h1⟩ := h a l s hs
    obtain ⟨s2,e2,h2⟩ := foldlM_total I h l s1 h1
    exact ⟨s2,by simp [foldlM_cons,e1,e2],h2⟩

lemma foldlM_inv
  (h : ∀ a s s', I s → step s a = some s' → I s') :
  ∀ (l : List α) (s s' : σ), I s → l.foldlM step s = some s' → I s'
  | [], s, s', hs, e => by
    simp only [foldlM_nil,Option.pure_def,Option.some.injEq] at e
    exact e ▸ hs
  | a :: l, s, s', hs, e => by
    simp only [foldlM_cons,bind_eq_bind,bind_eq_some_iff] at e
    obtain ⟨s1,e1,e2⟩ := e
    exact foldlM_inv h l s1 s' (h a s s1 hs e1) e2

def AllSteps (step : σ → α → Option σ) (ok : σ → α → Prop) : σ → List α → Prop
  | _, [] => True
  | s, a :: l => ok s a ∧ ∀ s', step s a = some s' → AllSteps step ok s' l

instance AllSteps.decidable (step : σ → α → Option σ) (ok : σ → α → Prop) [∀ s a, Decidable (ok s a)] :
  ∀ (s : σ) (l : List α), Decidable (AllSteps step ok s l)
  | _, [] => isTrue trivial
  | s, a :: l =>
    match h : step s a with
    | none => decidable_of_iff (ok s a) (by simp [AllSteps,h])
    | some s' =>
      have := AllSteps.decidable step ok s' l
      decidable_of_iff (ok s a ∧ AllSteps step ok s' l) (by simp [AllSteps,h])

lemma AllSteps.total
  (h : ∀ a s, I s → ok s a → ∃ s', step s a = some s' ∧ I s') :
  ∀ {l : List α} {s : σ}, AllSteps step ok s l → I s → ∃ s', l.foldlM step s = some s' ∧ I s'
  | [], s, _, hs => ⟨s, rfl, hs⟩
  | a :: l, s, hok, hs => by
    obtain ⟨s1,e1,h1⟩ := h a s hs hok.1
    obtain ⟨s2,e2,h2⟩ := AllSteps.total h (hok.2 s1 e1) h1
    exact ⟨s2,by simp [foldlM_cons,e1,e2],h2⟩

def AllStates (step : σ → α → Option σ) (I : σ → Prop) : σ → List α → Prop
  | s, [] => I s
  | s, a :: l => I s ∧ ∀ s', step s a = some s' → AllStates step I s' l

lemma AllStates.head :
  ∀ {l : List α} {s : σ}, AllStates step I s l → I s
  | [], _, h => h
  | _ :: _, _, h => h.1

lemma AllStates.of_inv (hstep : ∀ a s s', J s → step s a = some s' → J s')
  (hI : ∀ s, J s → I s) : ∀ {l : List α} {s : σ}, J s → AllStates step I s l
  | [], s, hJ => hI s hJ
  | a :: _, s, hJ => ⟨hI s hJ, fun s' e => AllStates.of_inv hstep hI (hstep a s s' hJ e)⟩

lemma AllSteps.always : ∀ {l : List α} {s : σ}, AllSteps step (fun _ _ => True) s l
  | [], _ => trivial
  | _ :: _, _ => ⟨trivial, fun _ _ => AllSteps.always⟩

lemma AllSteps.of_labels {ok : α → Prop} : ∀ {l : List α} {s : σ}, (∀ a ∈ l, ok a) →
  AllSteps step (fun _ a => ok a) s l
  | [], _, _ => trivial
  | a :: _, _, h =>
    ⟨h a mem_cons_self, fun _ _ => AllSteps.of_labels fun b hb => h b (mem_cons_of_mem a hb)⟩

lemma AllSteps.and_labels {Q : α → Prop} :
  ∀ {l : List α} {s : σ}, AllSteps step ok s l → (∀ a ∈ l, Q a) → AllSteps step (fun s a => ok s a ∧ Q a) s l
  | [], _, _, _ => trivial
  | a :: _, _, h, hl => ⟨⟨h.1, hl a mem_cons_self⟩, fun s' e =>
      AllSteps.and_labels (h.2 s' e) fun b hb => hl b (mem_cons_of_mem a hb)⟩

lemma AllSteps.of_inv
  (hstep : ∀ a s s', J s → step s a = some s' → J s') (hok : ∀ a s, J s → ok s a) :
  ∀ {l : List α} {s : σ}, J s → AllSteps step ok s l
  | [], _, _ => trivial
  | a :: _, s, hJ => ⟨hok a s hJ, fun s' e => AllSteps.of_inv hstep hok (hstep a s s' hJ e)⟩

lemma AllSteps.keeps
  (h : ∀ a s s', J s → ok s a → step s a = some s' → J s') (hI : ∀ s, J s → I s) :
  ∀ {l : List α} {s : σ}, AllSteps step ok s l → J s → AllStates step I s l
  | [], s, _, hJ => hI s hJ
  | a :: _, s, hok, hJ => ⟨hI s hJ, fun s' e => AllSteps.keeps h hI (hok.2 s' e) (h a s s' hJ hok.1 e)⟩

lemma AllSteps.entails
  (h : ∀ a s s', J s → ok s a → step s a = some s' → J s') (hP : ∀ a s, J s → ok s a → P s a) :
  ∀ {l : List α} {s : σ}, AllSteps step ok s l → J s → AllSteps step P s l
  | [], _, _, _ => trivial
  | a :: _, s, hok, hJ =>
    ⟨hP a s hJ hok.1, fun s' e => AllSteps.entails h hP (hok.2 s' e) (h a s s' hJ hok.1 e)⟩

lemma allSteps_iff {Q : α → Prop}
  (hiff : ∀ a s, J s → Q a → (P s a ↔ ok s a)) (h : ∀ a s s', J s → Q a → ok s a → step s a = some s' → J s') :
  ∀ {l : List α} {s : σ}, (∀ a ∈ l, Q a) → J s → (AllSteps step P s l ↔ AllSteps step ok s l)
  | [], _, _, _ => Iff.rfl
  | a :: l, s, hl, hJ => by
    have hQ := hl a mem_cons_self
    have htail : ∀ b ∈ l, Q b := fun b hb => hl b (mem_cons_of_mem a hb)
    constructor
    · rintro ⟨hP,hrest⟩
      have hok := (hiff a s hJ hQ).mp hP
      exact ⟨hok,fun s' e => (allSteps_iff hiff h htail (h a s s' hJ hQ hok e)).mp (hrest s' e)⟩
    · rintro ⟨hok,hrest⟩
      exact ⟨(hiff a s hJ hQ).mpr hok,fun s' e => (allSteps_iff hiff h htail (h a s s' hJ hQ hok e)).mpr (hrest s' e)⟩

lemma AllSteps.allStates
  (h : ∀ a s, J s → ok s a → ∃ s', step s a = some s' ∧ J s') (hI : ∀ s, J s → I s) {l : List α} {s : σ}
  (hok : AllSteps step ok s l) (hJ : J s) : AllStates step I s l := by
  refine hok.keeps (fun a s s' hJ hok e => ?_) hI hJ
  obtain ⟨s1,e1,h1⟩ := h a s hJ hok
  obtain rfl := Option.some.inj (e1.symm.trans e)
  exact h1

lemma allStates_iff_of_steps
  (hnone : ∀ a s, J s → I s → step s a = none → ok s a)
  (h : ∀ a s s', J s → I s → step s a = some s' → J s' ∧ (I s' ↔ ok s a)) :
  ∀ {l : List α} {s : σ}, J s → I s → (AllStates step I s l ↔ AllSteps step ok s l)
  | [], s, _, hI => by simp [AllStates,AllSteps,hI]
  | a :: l, s, hJ, hI => by
    constructor
    · rintro ⟨-,hall⟩
      refine ⟨?_,fun s' e => ?_⟩
      · cases e : step s a with
        | none => exact hnone a s hJ hI e
        | some s' => exact (h a s s' hJ hI e).2.mp (hall s' e).head
      · exact (allStates_iff_of_steps hnone h (h a s s' hJ hI e).1 (hall s' e).head).mp (hall s' e)
    · rintro ⟨hok,hall⟩
      refine ⟨hI,fun s' e => ?_⟩
      obtain ⟨hJ',hiff⟩ := h a s s' hJ hI e
      exact (allStates_iff_of_steps hnone h hJ' (hiff.mpr hok)).mpr (hall s' e)

lemma allStates_iff
  (h : ∀ a s, J s → I s → ∃ s', step s a = some s' ∧ J s' ∧ (I s' ↔ ok s a)) {l : List α} {s : σ} (hJ : J s)
  (hI : I s) : AllStates step I s l ↔ AllSteps step ok s l := by
  refine allStates_iff_of_steps (fun a s hJ hI hn => ?_) (fun a s s' hJ hI e => ?_) hJ hI
  · obtain ⟨s',e,-⟩ := h a s hJ hI
    cases hn.symm.trans e
  · obtain ⟨s1,e1,h1⟩ := h a s hJ hI
    obtain rfl := Option.some.inj (e1.symm.trans e)
    exact h1

end Run
