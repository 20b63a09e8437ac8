/-
# The log of a pool

A pool hands out objects.
-/
import Mathlib

namespace Pool

open List

variable {α : Type}

inductive Op (α : Type)
  | take (d : α)
  | touch (d : α)
  | give (d : α)
  deriving DecidableEq, Repr

def Out (l : List (Op α)) (d : α) : Prop := Op.take d ∈ l ∧ Op.give d ∉ l

instance [DecidableEq α] (l : List (Op α)) (d : α) : Decidable (Out l d) := inferInstanceAs (Decidable (_ ∧ _))

def Sound : List (Op α) → Prop
  | [] => True
  | .take d :: l => Op.take d ∉ l ∧ Sound l
  | .touch d :: l => Out l d ∧ Sound l
  | .give d :: l => Out l d ∧ Sound l

instance Sound.decidable [DecidableEq α] : ∀ l : List (Op α), Decidable (Sound l)
  | [] => isTrue trivial
  | .take d :: l =>
    have := Sound.decidable l
    inferInstanceAs (Decidable (Op.take d ∉ l ∧ Sound l))
  | .touch d :: l =>
    have := Sound.decidable l
    inferInstanceAs (Decidable (Out l d ∧ Sound l))
  | .give d :: l =>
    have := Sound.decidable l
    inferInstanceAs (Decidable (Out l d ∧ Sound l))

variable {l : List (Op α)} {c d : α}

@[simp] lemma out_touch : Out (.touch c :: l) d ↔ Out l d := by simp [Out]

@[simp] lemma out_give : Out (.give c :: l) d ↔ Out l d ∧ d ≠ c := by
  simp only [Out,mem_cons,reduceCtorEq,false_or,Op.give.injEq,not_or]
  tauto

lemma out_touches {ds : List α} : Out (ds.map .touch ++ l) d ↔ Out l d := by
  simp [Out]

lemma Sound.touches : ∀ {ds : List α}, Sound l → (∀ d ∈ ds, Out l d) → Sound (ds.map .touch ++ l)
  | [], h, _ => h
  | d :: _, h, hds =>
    ⟨out_touches.mpr (hds d mem_cons_self), Sound.touches h fun c hc => hds c (mem_cons_of_mem d hc)⟩

lemma Sound.of_cons {o : Op α} (h : Sound (o :: l)) : Sound l := by
  cases o with
  | take => exact h.2
  | touch => exact h.2
  | give => exact h.2

lemma Sound.take_of_give : ∀ {l : List (Op α)}, Sound l → ∀ {d : α}, Op.give d ∈ l → Op.take d ∈ l
  | o :: l, h, d, hd => by
    rcases mem_cons.mp hd with rfl | hd
    · exact mem_cons_of_mem _ h.1.1
    · exact mem_cons_of_mem _ (Sound.take_of_give h.of_cons hd)

lemma Sound.out_take (h : Sound l) (hc : Op.take c ∉ l) : Out (.take c :: l) d ↔ d = c ∨ Out l d := by
  simp only [Out,mem_cons,reduceCtorEq,false_or,Op.take.injEq]
  constructor
  · rintro ⟨rfl | hd,hg⟩
    · exact .inl rfl
    · exact .inr ⟨hd,hg⟩
  · rintro (rfl | ⟨hd,hg⟩)
    · exact ⟨.inl rfl,fun hg => hc (h.take_of_give hg)⟩
    · exact ⟨.inr hd,hg⟩

end Pool
