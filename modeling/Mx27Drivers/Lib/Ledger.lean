/-
# A ledger of resources

Resources are numbered in the order in which they are acquired.
-/
import Mathlib

structure Ledger where
  count : ℕ
  released : List ℕ

namespace Ledger

open List

def acquire (l : Ledger) : Ledger := { l with count := l.count + 1 }

def acquires (l : Ledger) (n : ℕ) : Ledger := { l with count := l.count + n }

def release (l : Ledger) (rs : List ℕ) : Ledger := { l with released := l.released ++ rs }

structure Owes (l l' : Ledger) (held : List ℕ) : Prop where
  le : l.count ≤ l'.count
  account : ∃ r, l'.released = l.released ++ r ∧ (range' l.count (l'.count - l.count)).Perm (r ++ held)

namespace Owes

variable {l l₁ l₂ : Ledger} {h h₁ h₂ k : List ℕ}

lemma refl (l : Ledger) : Owes l l [] := ⟨le_rfl, [], by simp⟩

lemma trans (e₁ : Owes l l₁ h₁) (e₂ : Owes l₁ l₂ h₂) : Owes l l₂ (h₁ ++ h₂) := by
  obtain ⟨r1,hr1,p1⟩ := e₁.account
  obtain ⟨r2,hr2,p2⟩ := e₂.account
  have hle := e₁.le
  have hle' := e₂.le
  refine ⟨hle.trans hle',r1 ++ r2,by rw [hr2,hr1,List.append_assoc],?_⟩
  have hsplit : range' l.count (l₂.count - l.count) =
      range' l.count (l₁.count - l.count) ++ range' l₁.count (l₂.count - l₁.count) := by
    have := range'_append_1 (s := l.count) (m := l₁.count - l.count) (n := l₂.count - l₁.count)
    rw [Nat.add_sub_of_le hle] at this
    rw [this]
    congr 1
    omega
  have hswap : ((r1 ++ h₁) ++ (r2 ++ h₂)).Perm (r1 ++ r2 ++ (h₁ ++ h₂)) := by
    rw [List.append_assoc,List.append_assoc,perm_append_left_iff,← List.append_assoc,← List.append_assoc]
    exact perm_append_comm.append_right h₂
  rw [hsplit]
  exact (p1.append p2).trans hswap

lemma acquires (l : Ledger) (n : ℕ) : Owes l (l.acquires n) (range' l.count n) :=
  ⟨Nat.le_add_right .., [], by simp [Ledger.acquires], by simp [Ledger.acquires]⟩

lemma acquire (l : Ledger) : Owes l l.acquire [l.count] := acquires l 1

lemma perm (e : Owes l l₁ h) (p : h.Perm k) : Owes l l₁ k := by
  obtain ⟨r,hr,q⟩ := e.account
  exact ⟨e.le,r,hr,q.trans (p.append_left r)⟩

lemma release (e : Owes l l₁ (k ++ h)) : Owes l (l₁.release k) h := by
  obtain ⟨r,hr,p⟩ := e.account
  refine ⟨e.le,r ++ k,by simp [Ledger.release,hr],?_⟩
  rwa [List.append_assoc]

end Owes

end Ledger
