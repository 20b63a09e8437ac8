/-
# Double buffering

Two slots that a device fills alternately, each only if it was armed since its last fill.
-/
import Mathlib

namespace DoubleBuffer

variable {α : Type}

structure Slots (α : Type) where
  slot : Bool → Option α
  next : Bool

namespace Slots

def arm (b : Slots α) (i : Bool) (a : α) : Slots α := { b with slot := Function.update b.slot i (some a) }

def fill (b : Slots α) : Option (α × Slots α) :=
  (b.slot b.next).map fun a => (a, ⟨Function.update b.slot b.next none, !b.next⟩)

def pending (b : Slots α) : List α := (b.slot b.next).toList ++ (b.slot (!b.next)).toList

end Slots

def Holds (b : Slots α) (i : Bool) : List α → Prop
  | [] => b.slot b.next = none ∧ b.slot (!b.next) = none ∧ i = b.next
  | [a] => b.slot b.next = some a ∧ b.slot (!b.next) = none ∧ i = !b.next
  | [a, a'] => b.slot b.next = some a ∧ b.slot (!b.next) = some a' ∧ i = b.next
  | _ => False

namespace Holds

variable {b : Slots α} {i : Bool} {a : α} {q : List α}

lemma pending : ∀ {q : List α}, Holds b i q → b.pending = q
  | [], h => by simp [Slots.pending,h.1,h.2.1]
  | [_], h => by simp [Slots.pending,h.1,h.2.1]
  | [_, _], h => by simp [Slots.pending,h.1,h.2.1]
  | _ :: _ :: _ :: _, h => h.elim

lemma length_le : ∀ {q : List α}, Holds b i q → q.length ≤ 2
  | [], _ => by simp
  | [_], _ => by simp
  | [_, _], _ => by simp
  | _ :: _ :: _ :: _, h => h.elim

lemma mem (h : Holds b i q) {j : Bool} (hj : b.slot j = some a) : a ∈ q := by
  rw [← h.pending,Slots.pending,List.mem_append]
  by_cases hn : j = b.next
  · subst hn
    simp [hj]
  · obtain rfl : j = !b.next := by
      cases j <;> cases hb : b.next <;> simp_all
    simp [hj]

lemma arm (a : α) : ∀ {q : List α}, Holds b i q → q.length < 2 → Holds (b.arm i a) (!i) (q ++ [a])
  | [], ⟨_, h1, hi⟩, _ => by
    subst hi
    simp [Holds,Slots.arm,h1]
  | [_], ⟨h0, _, hi⟩, _ => by
    subst hi
    simp [Holds,Slots.arm,h0]
  | [_, _], _, hlt => by simp at hlt

lemma fill : ∀ {q : List α}, Holds b i (a :: q) → ∃ b', b.fill = some (a, b') ∧ Holds b' i q
  | [], ⟨h0, h1, hi⟩ => by
    refine ⟨_,by rw [Slots.fill,h0]; rfl,?_⟩
    simp [Holds,h1,hi]
  | [_], ⟨h0, h1, hi⟩ => by
    refine ⟨_,by rw [Slots.fill,h0]; rfl,?_⟩
    simp [Holds,h1,hi]
  | _ :: _ :: _, h => h.elim

lemma rearm (b : Slots α) (a a' : α) : Holds ((b.arm b.next a).arm (!b.next) a') b.next [a, a'] := by
  simp [Holds,Slots.arm]

end Holds

end DoubleBuffer
