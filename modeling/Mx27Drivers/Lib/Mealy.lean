/-
# Machines with outputs

A machine `act : σ → ε → σ × ο` answers an event with a new state and an output.
-/
import Mx27Drivers.Lib.Run

namespace Mealy

open List

variable {σ ε ο β : Type}

def step (act : σ → ε → σ × ο) (s : σ) (e : ε) : Option σ := some (act s e).1

def after (act : σ → ε → σ × ο) (s : σ) (l : List ε) : σ := l.foldl (fun s e => (act s e).1) s

def seen (act : σ → ε → σ × ο) (out : ο → List β) : σ → List ε → List β
  | _, [] => []
  | s, e :: l => out (act s e).2 ++ seen act out (act s e).1 l

variable {act : σ → ε → σ × ο} {ok : σ → ε → Prop} {J : σ → Prop}

lemma seen_append (out : ο → List β) : ∀ (l₁ : List ε) {s : σ} {l₂ : List ε},
  seen act out s (l₁ ++ l₂) = seen act out s l₁ ++ seen act out (after act s l₁) l₂
  | [], _, _ => rfl
  | e :: l₁, s, l₂ => by
    show out (act s e).2 ++ seen act out (act s e).1 (l₁ ++ l₂) = _
    rw [seen_append out l₁,← List.append_assoc]
    rfl

lemma map_seen {γ : Type} (g : β → γ) (out : ο → List β) : ∀ (l : List ε) {s : σ},
  (seen act out s l).map g = seen act (fun o => (out o).map g) s l
  | [], _ => rfl
  | e :: l, s => by
    show (out (act s e).2 ++ seen act out (act s e).1 l).map g = _
    rw [map_append,map_seen g out l]
    rfl

lemma allSteps_append : ∀ (l₁ : List ε) {s : σ} {l₂ : List ε}, Run.AllSteps (step act) ok s (l₁ ++ l₂) →
  Run.AllSteps (step act) ok s l₁ ∧ Run.AllSteps (step act) ok (after act s l₁) l₂
  | [], _, _, h => ⟨trivial, h⟩
  | e :: l₁, s, l₂, h => by
    obtain ⟨h1,h2⟩ := allSteps_append l₁ (h.2 _ rfl)
    refine ⟨⟨h.1,fun s' hs' => ?_⟩,h2⟩
    obtain rfl := Option.some.inj hs'
    exact h1

lemma after_inv (h : ∀ s e, J s → ok s e → J (act s e).1) :
  ∀ (l : List ε) {s : σ}, Run.AllSteps (step act) ok s l → J s → J (after act s l)
  | [], _, _, hJ => hJ
  | e :: l, s, hok, hJ => after_inv h l (hok.2 _ rfl) (h s e hJ hok.1)

section Fifo

variable {f : σ → List β} (inp out : ο → List β)

lemma seen_fifo (hJ : ∀ s e, J s → ok s e → J (act s e).1)
  (hfifo : ∀ s e, J s → ok s e → f s ++ inp (act s e).2 = out (act s e).2 ++ f (act s e).1) :
  ∀ (l : List ε) {s : σ}, Run.AllSteps (step act) ok s l → J s →
    f s ++ seen act inp s l = seen act out s l ++ f (after act s l)
  | [], s, _, _ => by simp [seen,after]
  | e :: l, s, hok, hs => by
    have hstep := hfifo s e hs hok.1
    have hrest := seen_fifo hJ hfifo l (hok.2 _ rfl) (hJ s e hs hok.1)
    calc f s ++ seen act inp s (e :: l)
        = (f s ++ inp (act s e).2) ++ seen act inp (act s e).1 l := (List.append_assoc _ _ _).symm
      _ = out (act s e).2 ++ (f (act s e).1 ++ seen act inp (act s e).1 l) := by rw [hstep,List.append_assoc]
      _ = seen act out s (e :: l) ++ f (after act s (e :: l)) := by
        rw [hrest,← List.append_assoc]
        rfl

lemma seen_fifo_iff (hJ : ∀ s e, J s → J (act s e).1)
  (hiff : ∀ s e, J s → (f s ++ inp (act s e).2 = out (act s e).2 ++ f (act s e).1 ↔ ok s e)) :
  ∀ (l : List ε) {s : σ}, J s →
    ((∀ l₁ l₂, l = l₁ ++ l₂ → f s ++ seen act inp s l₁ = seen act out s l₁ ++ f (after act s l₁)) ↔
      Run.AllSteps (step act) ok s l)
  | [], s, _ => by
    refine ⟨fun _ => trivial,fun _ l₁ l₂ hl => ?_⟩
    obtain ⟨rfl,-⟩ := append_eq_nil_iff.mp hl.symm
    simp [seen,after]
  | e :: l, s, hs => by
    constructor
    · intro h
      have hstep : f s ++ inp (act s e).2 = out (act s e).2 ++ f (act s e).1 := by
        simpa [seen,after] using h [e] l rfl
      refine ⟨(hiff s e hs).mp hstep,fun s' hs' => ?_⟩
      obtain rfl := Option.some.inj hs'
      refine (seen_fifo_iff hJ hiff l (hJ s e hs)).mp fun l₁ l₂ hl => ?_
      -- what the first step puts out is common to both sides
      have hlong := h (e :: l₁) l₂ (by rw [hl]; rfl)
      have hcancel : out (act s e).2 ++ (f (act s e).1 ++ seen act inp (act s e).1 l₁) =
          out (act s e).2 ++ (seen act out (act s e).1 l₁ ++ f (after act (act s e).1 l₁)) := by
        rw [← List.append_assoc,← List.append_assoc,← hstep,List.append_assoc]
        exact hlong
      exact append_cancel_left hcancel
    · intro h l₁ l₂ hl
      rw [hl] at h
      exact seen_fifo inp out (fun s e hs _ => hJ s e hs) (fun s e hs hok => (hiff s e hs).mpr hok) l₁
        (allSteps_append l₁ h).1 hs

lemma seen_perm (hJ : ∀ s e, J s → ok s e → J (act s e).1)
  (hperm : ∀ s e, J s → ok s e → (f s ++ inp (act s e).2).Perm (out (act s e).2 ++ f (act s e).1)) :
  ∀ (l : List ε) {s : σ}, Run.AllSteps (step act) ok s l → J s →
    (f s ++ seen act inp s l).Perm (seen act out s l ++ f (after act s l))
  | [], s, _, _ => by simp [seen,after]
  | e :: l, s, hok, hs => by
    have hstep := hperm s e hs hok.1
    have hrest := seen_perm hJ hperm l (hok.2 _ rfl) (hJ s e hs hok.1)
    calc f s ++ seen act inp s (e :: l)
        = (f s ++ inp (act s e).2) ++ seen act inp (act s e).1 l := (List.append_assoc _ _ _).symm
      List.Perm _ ((out (act s e).2 ++ f (act s e).1) ++ seen act inp (act s e).1 l) := hstep.append_right _
      _ = out (act s e).2 ++ (f (act s e).1 ++ seen act inp (act s e).1 l) := List.append_assoc _ _ _
      List.Perm _ (out (act s e).2 ++ (seen act out (act s e).1 l ++ f (after act (act s e).1 l))) :=
        hrest.append_left _
      _ = seen act out s (e :: l) ++ f (after act s (e :: l)) := by
        rw [← List.append_assoc]
        rfl

lemma sublist_of_head_ne {need l : List ε} {e : ε} (h : need.Sublist (e :: l)) (hhead : need.head? ≠ some e) :
  need.Sublist l := by
  cases need with
  | nil => exact nil_sublist l
  | cons a t =>
    rcases cons_sublist_cons'.mp h with h | ⟨rfl,-⟩
    · exact h
    · exact absurd rfl hhead

lemma seen_of_need {need : σ → List ε} (hJ : ∀ s e, J s → ok s e → J (act s e).1)
  (hfifo : ∀ s e, J s → ok s e → f s ++ inp (act s e).2 = out (act s e).2 ++ f (act s e).1)
  (hne : ∀ s, need s ≠ [])
  (hneed : ∀ s e l, J s → ok s e → f s ≠ [] → out (act s e).2 = [] → (need s).Sublist (e :: l) →
    (need (act s e).1).Sublist l) :
  ∀ (l : List ε) {s : σ}, Run.AllSteps (step act) ok s l → J s → f s ≠ [] → (need s).Sublist l →
    seen act out s l ≠ []
  | [], s, _, _, _, hsub => absurd (sublist_nil.mp hsub) (hne s)
  | e :: l, s, hok, hs, hf, hsub => by
    show out (act s e).2 ++ seen act out (act s e).1 l ≠ []
    by_cases hout : out (act s e).2 = []
    · have hf' : f (act s e).1 ≠ [] := by
        have hstep := hfifo s e hs hok.1
        rw [hout,nil_append] at hstep
        rw [← hstep]
        simp [hf]
      have hrest := seen_of_need hJ hfifo hne hneed l (hok.2 _ rfl) (hJ s e hs hok.1) hf'
        (hneed s e l hs hok.1 hf hout hsub)
      simp [hrest]
    · simp [hout]

variable {Round : List ε → Prop}

lemma rounds_length (hJ : ∀ s e, J s → ok s e → J (act s e).1)
  (hfifo : ∀ s e, J s → ok s e → f s ++ inp (act s e).2 = out (act s e).2 ++ f (act s e).1)
  (hround : ∀ s r, J s → Run.AllSteps (step act) ok s r → Round r → f s ≠ [] → seen act out s r ≠ []) :
  ∀ (rounds : List (List ε)) {s : σ}, Run.AllSteps (step act) ok s rounds.flatten → J s →
    (∀ r ∈ rounds, Round r) → min (f s).length rounds.length ≤ (seen act out s rounds.flatten).length
  | [], _, _, _, _ => by simp
  | r :: rs, s, hok, hs, hr => by
    rw [flatten_cons] at hok ⊢
    obtain ⟨hokr,hoks⟩ := allSteps_append r hok
    have hrest := rounds_length hJ hfifo hround rs hoks (after_inv hJ r hokr hs)
      (fun r' hr' => hr r' (mem_cons_of_mem r hr'))
    have hlen := congrArg List.length (seen_fifo inp out hJ hfifo r hokr hs)
    rw [seen_append]
    simp only [length_append,length_cons] at hlen ⊢
    by_cases hf : f s = []
    · simp [hf]
    · have hone : 0 < (seen act out s r).length :=
        length_pos_iff.mpr (hround s r hs hokr (hr r mem_cons_self) hf)
      omega

lemma rounds_prefix (hJ : ∀ s e, J s → ok s e → J (act s e).1)
  (hfifo : ∀ s e, J s → ok s e → f s ++ inp (act s e).2 = out (act s e).2 ++ f (act s e).1)
  (hround : ∀ s r, J s → Run.AllSteps (step act) ok s r → Round r → f s ≠ [] → seen act out s r ≠ [])
  {rounds : List (List ε)} {s : σ} (hok : Run.AllSteps (step act) ok s rounds.flatten) (hs : J s)
  (hr : ∀ r ∈ rounds, Round r) (hlen : (f s).length ≤ rounds.length) :
  f s <+: seen act out s rounds.flatten := by
  have hmin := rounds_length inp out hJ hfifo hround rounds hok hs hr
  refine prefix_of_prefix_length_le (prefix_append _ (seen act inp s rounds.flatten)) ?_ (by omega)
  rw [seen_fifo inp out hJ hfifo _ hok hs]
  exact prefix_append _ _

end Fifo

end Mealy
