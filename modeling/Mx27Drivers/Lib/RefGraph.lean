/-
# Reference counts on an acyclic dependency graph

A node in use holds references on the nodes it depends on, `w d c` of them from `d` on `c`.
-/
import Mathlib

namespace RefGraph

open Function

variable {κ : Type}

def Dep (w : κ → κ → ℕ) (d c : κ) : Prop := 0 < w d c

def Acyclic (w : κ → κ → ℕ) : Prop := ∀ c, ¬ Relation.TransGen (Dep w) c c

section Graph

variable [Fintype κ] {w : κ → κ → ℕ}

open Classical in
noncomputable def below (w : κ → κ → ℕ) (c : κ) : Finset κ :=
  Finset.univ.filter fun d => Relation.TransGen (Dep w) c d

noncomputable def rank (w : κ → κ → ℕ) (c : κ) : ℕ := (below w c).card

lemma rank_lt (hw : Acyclic w) {d c : κ} (h : 0 < w d c) : rank w c < rank w d := by
  classical
  apply Finset.card_lt_card
  rw [Finset.ssubset_iff_of_subset]
  · refine ⟨c,?_,?_⟩
    · simpa [below] using Relation.TransGen.single (show Dep w d c from h)
    · simpa [below] using hw c
  · intro e he
    simp only [below,Finset.mem_filter,Finset.mem_univ,true_and] at he ⊢
    exact Relation.TransGen.head h he

lemma rank_lt_card (hw : Acyclic w) (c : κ) : rank w c < Fintype.card κ := by
  classical
  apply Finset.card_lt_univ_of_notMem (x := c)
  simpa [below] using hw c

lemma top_induction (hw : Acyclic w) {P : κ → Prop}
  (h : ∀ c, (∀ d, 0 < w d c → P d) → P c) (c : κ) : P c := by
  suffices ∀ n c, Fintype.card κ - rank w c ≤ n → P c from this _ c le_rfl
  intro n
  induction n with
  | zero => intro c hc; have := rank_lt_card hw c; omega
  | succ n ih =>
    intro c hc
    refine h c fun d hd => ih d ?_
    have := rank_lt hw hd
    have := rank_lt_card hw d
    omega

end Graph

/-! ### Balanced counts -/

section Bump

variable [DecidableEq κ]

def bump (x : κ → ℕ) (c : κ) : κ → ℕ := fun e => x e + if e = c then 1 else 0

def drop (x : κ → ℕ) (c : κ) : κ → ℕ := fun e => x e - if e = c then 1 else 0

@[simp] lemma bump_self (x : κ → ℕ) (c : κ) : bump x c c = x c + 1 := by simp [bump]

lemma drop_bump (x : κ → ℕ) (c : κ) : drop (bump x c) c = x := by
  funext e; simp [drop,bump]

end Bump

section Balance

variable [Fintype κ] [DecidableEq κ] {w : κ → κ → ℕ} {A : Finset κ} {u v : κ → ℤ} {x y : κ → ℕ} {c : κ}

def held (w : κ → κ → ℕ) (A : Finset κ) (u : κ → ℤ) (c : κ) : ℤ :=
  ∑ d, if d ∉ A ∧ 0 < u d then (w d c : ℤ) else 0

def Balanced (w : κ → κ → ℕ) (A : Finset κ) (u : κ → ℤ) (x : κ → ℕ) : Prop :=
  ∀ c, u c = x c + held w A u c

lemma held_nonneg (w : κ → κ → ℕ) (A : Finset κ) (u : κ → ℤ) (c : κ) : 0 ≤ held w A u c := by
  refine Finset.sum_nonneg fun d _ => ?_
  split <;> simp

lemma held_congr (h : ∀ d, d ∉ A → 0 < w d c → (0 < u d ↔ 0 < v d)) : held w A u c = held w A v c := by
  refine Finset.sum_congr rfl fun d _ => ?_
  rcases Nat.eq_zero_or_pos (w d c) with h0 | h0
  · simp [h0]
  · by_cases hd : d ∈ A
    · simp [hd]
    · simp only [hd,not_false_eq_true,true_and,h d hd h0]

lemma held_mono (h : ∀ d, 0 < w d c → u d ≤ v d) : held w A u c ≤ held w A v c := by
  refine Finset.sum_le_sum fun d _ => ?_
  rcases Nat.eq_zero_or_pos (w d c) with h0 | h0
  · simp [h0]
  · have := h d h0
    by_cases hu : d ∉ A ∧ 0 < u d
    · rw [if_pos hu,if_pos ⟨hu.1,by omega⟩]
    · rw [if_neg hu]
      split <;> simp

lemma held_insert (hc : c ∉ A) (e : κ) :
  held w A u e = held w (insert c A) u e + if 0 < u c then (w c e : ℤ) else 0 := by
  unfold held
  rw [← Finset.add_sum_erase _ _ (Finset.mem_univ c),← Finset.add_sum_erase _ _ (Finset.mem_univ c)]
  have hrest : ∑ d ∈ Finset.univ.erase c, (if d ∉ A ∧ 0 < u d then (w d e : ℤ) else 0) =
      ∑ d ∈ Finset.univ.erase c, if d ∉ insert c A ∧ 0 < u d then (w d e : ℤ) else 0 := by
    refine Finset.sum_congr rfl fun d hd => ?_
    have : d ≠ c := (Finset.mem_erase.mp hd).1
    simp [Finset.mem_insert,this]
  rw [hrest]
  simp only [hc,not_false_eq_true,true_and,Finset.mem_insert_self,not_true_eq_false,false_and,
    ↓reduceIte]
  ring

lemma Balanced.nonneg (h : Balanced w A u x) (c : κ) : (x c : ℤ) ≤ u c := by
  have := held_nonneg w A u c
  rw [h c]; omega

lemma Balanced.unique (hw : Acyclic w) (hu : Balanced w A u x) (hv : Balanced w A v x) : u = v := by
  funext c
  induction c using top_induction hw with
  | h c ih =>
    rw [hu c,hv c,held_congr fun d _ hd => by rw [ih d hd]]

lemma Balanced.mono (hw : Acyclic w) (hu : Balanced w A u x) (hv : Balanced w A v y) (hxy : ∀ c, x c ≤ y c) (c : κ) : u c ≤ v c := by
  induction c using top_induction hw with
  | h c ih =>
    have h1 := held_mono (A := A) ih
    have h2 := hxy c
    rw [hu c,hv c]
    omega

lemma Balanced.insert_iff (hc : c ∉ A) (hu : 0 < u c) (hy : ∀ e, y e = x e + w c e) :
  Balanced w (insert c A) u y ↔ Balanced w A u x := by
  have key : ∀ e, (y e : ℤ) + held w (insert c A) u e = x e + held w A u e := by
    intro e
    rw [held_insert hc e,if_pos hu,hy e]
    push_cast; ring
  exact forall_congr' fun e => by rw [key e]

lemma Balanced.insert_idle_iff (hc : c ∉ A) (hu : ¬ 0 < u c) :
  Balanced w (insert c A) u x ↔ Balanced w A u x := by
  have key : ∀ e, held w (insert c A) u e = held w A u e := by
    intro e; rw [held_insert hc e,if_neg hu,add_zero]
  exact forall_congr' fun e => by rw [key e]

lemma Balanced.update {n : ℤ} (hc : c ∈ A) (h : Balanced w A u x) (hn : n - u c = y c - x c) (hy : ∀ e, e ≠ c → y e = x e) :
  Balanced w A (Function.update u c n) y := by
  have hheld : ∀ e, held w A (Function.update u c n) e = held w A u e := by
    intro e
    refine held_congr fun d hd _ => ?_
    have : d ≠ c := fun he => hd (he ▸ hc)
    simp [this]
  intro e
  rw [hheld e]
  by_cases he : e = c
  · subst he
    have := h e
    simp only [update_self]
    omega
  · simp only [ne_eq,he,not_false_eq_true,update_of_ne,hy e he]
    exact h e

lemma Balanced.bump (hc : c ∈ A) (h : Balanced w A u x) :
  Balanced w A (Function.update u c (u c + 1)) (bump x c) := by
  refine h.update hc ?_ fun e he => ?_
  · rw [bump_self]; push_cast; omega
  · simp [RefGraph.bump,he]

lemma Balanced.bump_used (hc : c ∉ A) (hu : 0 < u c) (h : Balanced w A u x) :
  Balanced w A (Function.update u c (u c + 1)) (RefGraph.bump x c) := by
  have hin := ((Balanced.insert_iff hc hu (y := fun e => x e + w c e) fun _ => rfl).mpr h).bump
    (Finset.mem_insert_self c A)
  refine (Balanced.insert_iff hc (by rw [update_self]; omega) fun e => ?_).mp hin
  simp only [RefGraph.bump]; omega

def Room (w : κ → κ → ℕ) (cap : ℤ) (A : Finset κ) (x : κ → ℕ) : Prop :=
  ∃ (y : κ → ℕ) (v : κ → ℤ), (∀ c, x c ≤ y c) ∧ Balanced w A v y ∧ ∀ c, v c ≤ cap

lemma Room.lt (hw : Acyclic w) {cap : ℤ} (hr : Room w cap A (bump x c)) (h : Balanced w A u x) : u c < cap := by
  obtain ⟨y,v,hy,hb,hv⟩ := hr
  have hxy : ∀ e, x e ≤ y e := fun e => by have := hy e; simp only [bump] at this; omega
  have hheld : held w A u c ≤ held w A v c := held_mono fun d _ => h.mono hw hb hxy d
  have h1 := hy c
  have h2 := hb c
  have h3 := hv c
  have h4 := h c
  simp only [bump_self] at h1
  omega

lemma Room.insert {cap : ℤ} (hc : c ∉ A) (hx : 0 < x c) (hr : Room w cap A x) (hy : ∀ e, y e ≤ x e + w c e) :
  Room w cap (insert c A) y := by
  obtain ⟨z,v,hz,hb,hv⟩ := hr
  have hpos : 0 < v c := by
    have := hb.nonneg c
    have := hz c
    omega
  refine ⟨fun e => z e + w c e,v,fun e => (hy e).trans (Nat.add_le_add_right (hz e) _),?_,hv⟩
  exact (Balanced.insert_iff hc hpos fun _ => rfl).mpr hb

end Balance

end RefGraph
