/-
# Circular buffers

`slots n ring rd k` is the list of the `k` slots of a ring of `n` from index `rd` on.
-/
import Mathlib

namespace Ring

open List Option Function

variable {α : Type} {n : ℕ}

def slots (n : ℕ) (ring : ℕ → α) (rd k : ℕ) : List α := (List.range k).map fun j => ring ((rd + j) % n)

@[simp] lemma slots_zero (ring : ℕ → α) (rd : ℕ) : slots n ring rd 0 = [] := rfl

@[simp] lemma length_slots (ring : ℕ → α) (rd k : ℕ) : (slots n ring rd k).length = k := by simp [slots]

lemma index_inj {rd j k : ℕ} (hj : j < n) (hk : k < n) (h : (rd + j) % n = (rd + k) % n) : j = k := by
  have := Nat.ModEq.add_left_cancel' rd h
  rwa [Nat.ModEq,Nat.mod_eq_of_lt hj,Nat.mod_eq_of_lt hk] at this

lemma slots_congr {ring ring' : ℕ → α} {rd k : ℕ} (h : ∀ j < k, ring' ((rd + j) % n) = ring ((rd + j) % n)) :
  slots n ring' rd k = slots n ring rd k := by
  unfold slots
  apply map_congr_left
  intro j hj
  exact h j (mem_range.mp hj)

lemma slots_cons (ring : ℕ → α) (rd k : ℕ) :
  slots n ring rd (k + 1) = ring (rd % n) :: slots n ring ((rd + 1) % n) k := by
  unfold slots
  rw [range_succ_eq_map,map_cons,List.map_map,Nat.add_zero]
  congr 1
  apply map_congr_left
  intro j _
  show ring ((rd + (j + 1)) % n) = ring (((rd + 1) % n + j) % n)
  rw [Nat.mod_add_mod,Nat.add_assoc,Nat.add_comm 1 j]

lemma slots_push (ring : ℕ → α) (rd : ℕ) {k : ℕ} (hk : k < n) (a : α) :
  slots n (Function.update ring ((rd + k) % n) a) rd (k + 1) = slots n ring rd k ++ [a] := by
  have hsame : slots n (Function.update ring ((rd + k) % n) a) rd k = slots n ring rd k := by
    apply slots_congr
    intro j hj
    rw [update_of_ne]
    intro he
    have := index_inj (by omega) hk he
    omega
  rw [← hsame,slots,slots,range_succ,map_append]
  simp

lemma slots_add (ring : ℕ → α) (rd j k : ℕ) :
  slots n ring rd (j + k) = slots n ring rd j ++ slots n ring ((rd + j) % n) k := by
  unfold slots
  rw [range_add,map_append,List.map_map]
  congr 1
  apply map_congr_left
  intro i _
  show ring ((rd + (j + i)) % n) = ring (((rd + j) % n + i) % n)
  rw [Nat.mod_add_mod,Nat.add_assoc]

lemma slots_of_le (ring : ℕ → α) {rd k : ℕ} (h : rd + k ≤ n) :
  slots n ring rd k = (List.range k).map fun j => ring (rd + j) := by
  unfold slots
  apply map_congr_left
  intro j hj
  rw [Nat.mod_eq_of_lt (by have := mem_range.mp hj; omega)]

lemma slots_perm (ring : ℕ → α) {rd : ℕ} (h : rd < n) : (slots n ring rd n).Perm ((List.range n).map ring) := by
  have hturn : slots n ring rd n = slots n ring rd (n - rd) ++ slots n ring 0 rd := by
    have hadd : slots n ring rd (n - rd + rd) = _ := slots_add ring rd (n - rd) rd
    rwa [show n - rd + rd = n by omega,show rd + (n - rd) = n by omega,Nat.mod_self] at hadd
  have hrange : (List.range n).map ring = slots n ring 0 rd ++ slots n ring rd (n - rd) := by
    rw [slots_of_le ring (show 0 + rd ≤ n by omega),slots_of_le ring (show rd + (n - rd) ≤ n by omega)]
    conv_lhs => rw [show n = rd + (n - rd) by omega,range_add,map_append,List.map_map]
    simp [comp_def]
  rw [hturn,hrange]
  exact perm_append_comm

def store (ring : ℕ → α) (off : ℕ) : List α → ℕ → α
  | [] => ring
  | x :: xs => store (Function.update ring off x) (off + 1) xs

lemma slots_store (rd : ℕ) : ∀ (xs : List α) (ring : ℕ → α) {off k : ℕ}, (xs ≠ [] → off = (rd + k) % n) →
  k + xs.length ≤ n → off + xs.length ≤ n →
    slots n (store ring off xs) rd (k + xs.length) = slots n ring rd k ++ xs
  | [], ring, off, k, _, _, _ => by simp [store]
  | x :: xs, ring, off, k, hoff, hk, hend => by
    rw [length_cons] at hk hend
    have hoff := hoff (by simp)
    have hpush := slots_push ring rd (show k < n by omega) x
    rw [← hoff] at hpush
    have hnext : xs ≠ [] → off + 1 = (rd + (k + 1)) % n := by
      intro hne
      have := length_pos_iff.mpr hne
      rw [← Nat.add_assoc,← Nat.mod_add_mod,← hoff,Nat.mod_eq_of_lt (by omega)]
    have hrest := slots_store rd xs (Function.update ring off x) hnext (by omega) (by omega)
    rw [hpush,List.append_assoc] at hrest
    rw [length_cons,show k + (xs.length + 1) = k + 1 + xs.length by omega]
    exact hrest

/-! ### Rings with empty slots -/

structure Holds {β : Type} (n : ℕ) (ring : ℕ → Option β) (rd : ℕ) (q : List β) : Prop where
  len : q.length ≤ n
  lt : rd < n
  slot : ∀ j < n, ring ((rd + j) % n) = q[j]?

section Holds

variable {β : Type} {ring ring' : ℕ → Option β} {rd : ℕ} {q : List β} {a : β}

lemma Holds.congr (h : Holds n ring rd q) (he : ∀ i < n, ring' i = ring i) : Holds n ring' rd q where
  len := h.len
  lt := h.lt
  slot j hj := (he _ (Nat.mod_lt _ (Nat.zero_lt_of_lt hj))).trans (h.slot j hj)

lemma Holds.exists_slot (h : Holds n ring rd q) {i : ℕ} (hi : i < n) : ∃ j < n, (rd + j) % n = i ∧ ring i = q[j]? := by
  have hlt := h.lt
  have hmod : ∃ j < n, (rd + j) % n = i := by
    rcases Nat.lt_or_ge i rd with hir | hir
    · exact ⟨i + n - rd,by omega,by rw [show rd + (i + n - rd) = i + n by omega,Nat.add_mod_right,
        Nat.mod_eq_of_lt hi]⟩
    · exact ⟨i - rd,by omega,by rw [Nat.add_sub_of_le hir,Nat.mod_eq_of_lt hi]⟩
  obtain ⟨j,hj,rfl⟩ := hmod
  exact ⟨j,hj,rfl,h.slot j hj⟩

lemma Holds.first (h : Holds n ring rd q) : ring rd = q[0]? := by
  have h0 := h.slot 0 (Nat.zero_lt_of_lt h.lt)
  rwa [Nat.add_zero,Nat.mod_eq_of_lt h.lt] at h0

lemma Holds.next (h : Holds n ring rd q) (hroom : q.length < n) : ring ((rd + q.length) % n) = none := by
  rw [h.slot q.length hroom,List.getElem?_eq_none le_rfl]

lemma holds_nil (hrd : rd < n) (h : ∀ i < n, ring i = none) : Holds n ring rd [] where
  len := Nat.zero_le n
  lt := hrd
  slot j hj := h _ (Nat.mod_lt _ (Nat.zero_lt_of_lt hj))

lemma Holds.push (h : Holds n ring rd q) (hroom : q.length < n) (a : β) :
  Holds n (Function.update ring ((rd + q.length) % n) (some a)) rd (q ++ [a]) where
  len := by rw [length_append,length_singleton]; exact hroom
  lt := h.lt
  slot j hj := by
    by_cases hjl : j = q.length
    · rw [hjl,update_self,getElem?_concat_length]
    · rw [update_of_ne (fun he => hjl (index_inj hj hroom he)),h.slot j hj]
      rcases Nat.lt_or_ge j q.length with hlt | hge
      · rw [getElem?_append_left hlt]
      · rw [List.getElem?_eq_none hge,List.getElem?_eq_none (by rw [length_append,length_singleton]; omega)]

lemma Holds.pop (h : Holds n ring rd (a :: q)) : Holds n (Function.update ring rd none) ((rd + 1) % n) q := by
  have hn := Nat.zero_lt_of_lt h.lt
  have hlen := h.len
  rw [length_cons] at hlen
  refine ⟨by omega,Nat.mod_lt _ hn,fun j hj => ?_⟩
  rw [Nat.mod_add_mod,Nat.add_assoc,Nat.add_comm 1 j]
  by_cases hjn : j + 1 = n
  · -- a turn later, the slot is the one that was emptied
    rw [hjn,Nat.add_mod_right,Nat.mod_eq_of_lt h.lt,update_self,List.getElem?_eq_none (by omega)]
  · rw [update_of_ne,h.slot (j + 1) (by omega),getElem?_cons_succ]
    intro he
    have he0 : (rd + (j + 1)) % n = (rd + 0) % n := he.trans (Nat.mod_eq_of_lt h.lt).symm
    exact absurd (index_inj (by omega) hn he0) (Nat.succ_ne_zero j)

lemma Holds.full_iff (h : Holds n ring rd q) : (∀ i < n, (ring i).isSome = true) ↔ q.length = n := by
  have hlen := h.len
  constructor
  · intro hall
    by_contra hne
    have hnone := h.next (by omega)
    have hsome := hall _ (Nat.mod_lt (rd + q.length) (Nat.zero_lt_of_lt h.lt))
    rw [hnone] at hsome
    cases hsome
  · intro hq i hi
    obtain ⟨j,hj,-,he⟩ := h.exists_slot hi
    rw [he,List.getElem?_eq_getElem (by omega)]
    rfl

lemma Holds.slots_eq (h : Holds n ring rd q) :
  slots n ring rd n = q.map some ++ List.replicate (n - q.length) none := by
  have hlen := h.len
  apply ext_getElem?
  intro j
  rw [slots,getElem?_map]
  rcases Nat.lt_or_ge j n with hj | hj
  · rw [getElem?_range hj,map_some,h.slot j hj]
    rcases Nat.lt_or_ge j q.length with hq | hq
    · rw [getElem?_append_left (by rwa [length_map]),getElem?_map,List.getElem?_eq_getElem hq]
      rfl
    · rw [getElem?_append_right (by rwa [length_map]),List.getElem?_eq_none hq,length_map,
        getElem?_replicate,if_pos (by omega)]
  · rw [List.getElem?_eq_none (by rwa [length_range]),List.getElem?_eq_none]
    · rfl
    · rw [length_append,length_map,length_replicate]
      omega

lemma Holds.perm (h : Holds n ring rd q) : (((List.range n).map ring).filter isSome).Perm (q.map some) := by
  have hsome : (q.map some).filter isSome = q.map some := by
    rw [filter_eq_self]
    simp
  have hturn := ((slots_perm ring h.lt).filter isSome).symm
  rw [h.slots_eq,filter_append,hsome] at hturn
  simpa using hturn

end Holds

end Ring
