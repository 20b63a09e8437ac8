/-
# Coders with a state
-/
import Mathlib

namespace Coder

variable {σ α β : Type}

def code (f : σ → α → β × σ) : σ → List α → List β × σ
  | s, [] => ([], s)
  | s, a :: l => ((f s a).1 :: (code f (f s a).2 l).1, (code f (f s a).2 l).2)

lemma code_append (f : σ → α → β × σ) (l₂ : List α) : ∀ (s : σ) (l₁ : List α),
  code f s (l₁ ++ l₂) =
    ((code f s l₁).1 ++ (code f (code f s l₁).2 l₂).1, (code f (code f s l₁).2 l₂).2)
  | _, [] => rfl
  | s, a :: l₁ => by simp only [List.cons_append,code,code_append f l₂ (f s a).2 l₁]

lemma length_code (f : σ → α → β × σ) : ∀ (s : σ) (l : List α), (code f s l).1.length = l.length
  | _, [] => rfl
  | s, a :: l => by simp only [code,List.length_cons,length_code f (f s a).2 l]

lemma code_fst_congr {f : σ → α → β × σ} (h : ∀ s s' a, (f s a).1 = (f s' a).1) : ∀ (s s' : σ) (l : List α),
  (code f s l).1 = (code f s' l).1
  | _, _, [] => rfl
  | s, s', a :: l => by simp only [code,h s s' a,code_fst_congr h (f s a).2 (f s' a).2 l]

def Inverts (g : σ → β → α × σ) (f : σ → α → β × σ) : Prop := ∀ s a, g s (f s a).1 = (a, (f s a).2)

lemma Inverts.code {g : σ → β → α × σ} {f : σ → α → β × σ} (h : Inverts g f) : ∀ (s : σ) (l : List α),
  Coder.code g s (Coder.code f s l).1 = (l, (Coder.code f s l).2)
  | _, [] => rfl
  | s, a :: l => by
    have ih := Inverts.code h (f s a).2 l
    simp only [Coder.code,h s a,ih]

end Coder
