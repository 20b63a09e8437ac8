/-
# Singly linked lists in memory

A memory gives each cell the pointer that is stored there, `next : α → Option α`.
-/
import Mathlib

namespace PtrList

open List Function

variable {α : Type} {next : α → Option α}

inductive Reach (next : α → Option α) : Option α → α → Prop
  | here (a : α) : Reach next (some a) a
  | there {a b : α} (h : Reach next (next a) b) : Reach next (some a) b

def Linked (next : α → Option α) : Option α → List α → Prop
  | p, [] => p = none
  | p, a :: l => p = some a ∧ Linked next (next a) l

lemma not_reach_none {b : α} : ¬Reach next none b := by
  intro h
  cases h

lemma Linked.reach_iff {b : α} : ∀ {l : List α} {p : Option α}, Linked next p l → (Reach next p b ↔ b ∈ l)
  | [], p, h => by
    obtain rfl : p = none := h
    exact iff_of_false not_reach_none not_mem_nil
  | a :: l, p, ⟨hp, h⟩ => by
    subst hp
    rw [mem_cons,← h.reach_iff]
    constructor
    · intro hr
      cases hr with
      | here => exact .inl rfl
      | there hr => exact .inr hr
    · rintro (rfl | hr)
      · exact .here b
      · exact .there hr

lemma Linked.congr {next' : α → Option α} : ∀ {l : List α} {p : Option α}, Linked next p l →
  (∀ a ∈ l, next' a = next a) → Linked next' p l
  | [], _, h, _ => h
  | a :: l, _, ⟨hp, h⟩, he => by
    refine ⟨hp,?_⟩
    rw [he a mem_cons_self]
    exact h.congr fun b hb => he b (mem_cons_of_mem a hb)

lemma Linked.snoc [DecidableEq α] {c d : α} (hd : next d = none) (hcd : c ≠ d) : ∀ {l : List α} {p : Option α},
  Linked next p (l ++ [c]) → c ∉ l → Linked (Function.update next c (some d)) p (l ++ [c] ++ [d])
  | [], p, ⟨hp, _⟩, _ => by
    refine ⟨hp,?_⟩
    rw [update_self]
    refine ⟨rfl,?_⟩
    rw [update_of_ne hcd.symm]
    exact hd
  | a :: l, p, ⟨hp, h⟩, hc => by
    have hac : a ≠ c := fun e => hc (e ▸ mem_cons_self)
    refine ⟨hp,?_⟩
    rw [update_of_ne hac]
    exact Linked.snoc hd hcd h fun hl => hc (mem_cons_of_mem a hl)

end PtrList
