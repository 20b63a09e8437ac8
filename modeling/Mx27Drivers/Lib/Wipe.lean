/-
# Buffers that are wiped before they are freed

Memory is made of separate blocks of bytes.
-/
import Mathlib

namespace Wipe

open List

def Mem (ι β : Type) : Type := ι → ℕ → β

inductive Call (ι β : Type)
  | memset (block : ι) (off n : ℕ)
  | free (block : ι) (off : ℕ)
  | change (f : Mem ι β → Mem ι β)

structure Buffer (ι : Type) where
  block : ι
  off : ℕ
  n : ℕ
  deriving DecidableEq

section
variable {ι β : Type}

def Call.run [DecidableEq ι] [Zero β] : Call ι β → Mem ι β → Mem ι β
  | .memset b off n, m => fun c i => if c = b ∧ off ≤ i ∧ i < off + n then 0 else m c i
  | .free _ _, m => m
  | .change f, m => f m

def Call.Frees (b : ι) : Call ι β → Prop
  | .free c _ => c = b
  | _ => False

def runAll [DecidableEq ι] [Zero β] (log : List (Call ι β)) (m : Mem ι β) : Mem ι β := log.foldl (fun m c => c.run m) m

lemma runAll_append [DecidableEq ι] [Zero β] (log log' : List (Call ι β)) (m : Mem ι β) :
  runAll (log ++ log') m = runAll log' (runAll log m) := foldl_append

def WipedOnce [DecidableEq ι] [Zero β] (log : List (Call ι β)) (x : Buffer ι) : Prop :=
  ∃ before after, log = before ++ .free x.block x.off :: after ∧ (∀ c ∈ before ++ after, ¬ c.Frees x.block) ∧
    ∀ m i, i < x.n → runAll before m x.block (x.off + i) = 0

def wipe (x : Buffer ι) : List (Call ι β) := [.memset x.block x.off x.n, .free x.block x.off]

inductive Wipes : List (Call ι β) → List (Buffer ι) → Prop
  | nil : Wipes [] []
  | wipe {log : List (Call ι β)} {gone : List (Buffer ι)} (x : Buffer ι) :
      Wipes log gone → Wipes (log ++ wipe x) (gone ++ [x])
  | change {log : List (Call ι β)} {gone : List (Buffer ι)} (f : Mem ι β → Mem ι β) :
      Wipes log gone → Wipes (log ++ [.change f]) gone

lemma Wipes.wipeAll : ∀ (xs : List (Buffer ι)) {log : List (Call ι β)} {gone : List (Buffer ι)}, Wipes log gone →
  Wipes (log ++ xs.flatMap Wipe.wipe) (gone ++ xs)
  | [], _, _, h => by simpa using h
  | x :: xs, log, gone, h => by
    have := Wipes.wipeAll xs (h.wipe x)
    rwa [List.append_assoc,List.append_assoc] at this

variable {log : List (Call ι β)} {gone : List (Buffer ι)}

lemma Wipes.frees (h : Wipes log gone) {b : ι} : ∀ c ∈ log, c.Frees b → ∃ x ∈ gone, x.block = b := by
  induction h with
  | nil => exact fun c hc => absurd hc not_mem_nil
  | @wipe log gone x h ih =>
    intro c hc hf
    rcases mem_append.mp hc with hc | hc
    · obtain ⟨y,hy,hb⟩ := ih c hc hf
      exact ⟨y,mem_append_left _ hy,hb⟩
    · refine ⟨x,mem_append_right _ mem_cons_self,?_⟩
      rcases mem_cons.mp hc with rfl | hc
      · exact hf.elim
      · rw [mem_singleton.mp hc] at hf
        exact hf
  | change f h ih =>
    intro c hc hf
    rcases mem_append.mp hc with hc | hc
    · exact ih c hc hf
    · rw [mem_singleton.mp hc] at hf
      exact hf.elim

variable [DecidableEq ι] [Zero β]

lemma WipedOnce.append {x : Buffer ι} (h : WipedOnce log x) {log' : List (Call ι β)}
  (hlog' : ∀ c ∈ log', ¬ c.Frees x.block) : WipedOnce (log ++ log') x := by
  obtain ⟨before,after,rfl,hfree,hzero⟩ := h
  refine ⟨before,after ++ log',by simp,fun c hc => ?_,hzero⟩
  rcases mem_append.mp hc with hc | hc
  · exact hfree c (mem_append_left _ hc)
  · rcases mem_append.mp hc with hc | hc
    · exact hfree c (mem_append_right _ hc)
    · exact hlog' c hc

lemma Wipes.wipedOnce (h : Wipes log gone) (hnodup : (gone.map Buffer.block).Nodup) {x : Buffer ι} (hx : x ∈ gone) :
  WipedOnce log x := by
  induction h with
  | nil => cases hx
  | @wipe log gone y h ih =>
    rw [map_append,nodup_append] at hnodup
    obtain ⟨hgone,-,hne⟩ := hnodup
    have hfresh : ∀ z ∈ gone, z.block ≠ y.block :=
      fun z hz => hne z.block (List.mem_map_of_mem hz) y.block mem_cons_self
    rcases mem_append.mp hx with hx | hx
    · refine (ih hgone hx).append fun c hc hf => ?_
      rcases mem_cons.mp hc with rfl | hc
      · exact hf
      · rw [mem_singleton.mp hc] at hf
        exact hfresh x hx hf.symm
    · obtain rfl := mem_singleton.mp hx
      refine ⟨log ++ [.memset x.block x.off x.n],[],by simp [Wipe.wipe],fun c hc hf => ?_,fun m i hi => ?_⟩
      · rw [append_nil] at hc
        rcases mem_append.mp hc with hc | hc
        · obtain ⟨z,hz,hb⟩ := h.frees c hc hf
          exact hfresh z hz hb
        · rw [mem_singleton.mp hc] at hf
          exact hf
      · rw [runAll_append]
        exact if_pos ⟨rfl,Nat.le_add_right _ _,by omega⟩
  | change f h ih =>
    refine (ih hnodup hx).append fun c hc hf => ?_
    rw [mem_singleton.mp hc] at hf
    exact hf

lemma runAll_untouched {b : ι} {i : ℕ} : ∀ {log : List (Call ι β)}, (∀ f, Call.change f ∉ log) →
  (∀ off n, Call.memset b off n ∈ log → ¬ (off ≤ i ∧ i < off + n)) → ∀ m, runAll log m b i = m b i
  | [], _, _, _ => rfl
  | c :: log, hchange, hset, m => by
    have ih := runAll_untouched (fun f hf => hchange f (mem_cons_of_mem c hf))
      (fun off n hn => hset off n (mem_cons_of_mem c hn)) (c.run m)
    rw [runAll,foldl_cons]
    refine ih.trans ?_
    cases c with
    | memset d off n =>
      refine if_neg fun h => ?_
      obtain ⟨rfl,h⟩ := h
      exact hset off n mem_cons_self h
    | free => rfl
    | change f => exact absurd mem_cons_self (hchange f)

end

end Wipe
