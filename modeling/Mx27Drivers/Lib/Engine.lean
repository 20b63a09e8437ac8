/-
# A transfer engine with one current and one pending transfer

The pending transfer becomes current as the current one completes.
-/
import Mathlib

namespace Transfer

open List

variable {X : Type}

structure Engine (X : Type) where
  current : Option X
  pending : Option X
  done : Bool
  written : List X
  completed : List X

namespace Engine

def complete (e : Engine X) : Engine X :=
  match e.current with
  | none => e
  | some x => { e with current := e.pending, pending := none, done := true, completed := e.completed ++ [x] }

def write (x : X) (e : Engine X) : Engine X := { e with written := e.written ++ [x] }

def stop (e : Engine X) : Engine X := { e with current := none, pending := none }

def start (x : X) (e : Engine X) : Engine X := { e with current := some x, pending := none }

def chain (x : X) (e : Engine X) : Engine X := { e with pending := some x }

def unchain (e : Engine X) : Engine X := { e with pending := none }

def ack (e : Engine X) : Engine X := { e with done := false }

end Engine

def unfinished (done : Bool) (flight : List X) : List X := if done then flight.tail else flight

structure Holds (e : Engine X) (served flight : List X) : Prop where
  length : flight.length ≤ 2
  written : e.written = served ++ flight
  completed : e.completed = served ++ if e.done then flight.take 1 else []
  current : e.current = (unfinished e.done flight)[0]?
  pending : e.pending = (unfinished e.done flight)[1]?
  nonempty : e.done → flight ≠ []

namespace Holds

variable {e : Engine X} {served flight : List X} {x y : X}

lemma completed_written (h : Holds e served flight) : e.completed <+: e.written := by
  rw [h.completed,h.written,prefix_append_right_inj]
  split
  · exact take_prefix 1 flight
  · exact nil_prefix

lemma length_completed (h : Holds e served flight) :
  e.completed.length = served.length + if e.done then 1 else 0 := by
  rw [h.completed,length_append]
  by_cases hd : e.done
  · rw [if_pos hd,if_pos hd,length_take]
    have := length_pos_iff.mpr (h.nonempty hd)
    omega
  · rw [if_neg hd,if_neg hd]
    rfl

lemma complete (h : Holds e served flight) (hd : e.done = false) : Holds e.complete served flight := by
  have hc := h.current
  have hp := h.pending
  rw [hd] at hc hp
  unfold Engine.complete
  match flight, h with
  | [], h =>
    rw [show e.current = none from hc]
    exact h
  | [x], h =>
    rw [show e.current = some x from hc]
    refine ⟨h.length,h.written,?_,hp,rfl,fun _ => cons_ne_nil x []⟩
    show e.completed ++ [x] = served ++ [x]
    rw [h.completed,hd,if_neg Bool.false_ne_true,append_nil]
  | [x,y], h =>
    rw [show e.current = some x from hc]
    refine ⟨h.length,h.written,?_,hp,rfl,fun _ => cons_ne_nil x [y]⟩
    show e.completed ++ [x] = served ++ [x]
    rw [h.completed,hd,if_neg Bool.false_ne_true,append_nil]
  | _ :: _ :: _ :: _, h => exact absurd h.length (by simp)

lemma ack (h : Holds e served (x :: flight)) (hd : e.done) : Holds e.ack (served ++ [x]) flight := by
  have hc := h.current
  have hp := h.pending
  have hf := h.completed
  rw [hd] at hc hp hf
  refine ⟨by have := h.length; rw [length_cons] at this; omega,?_,?_,hc,hp,fun h => absurd h Bool.false_ne_true⟩
  · rw [List.append_assoc]
    exact h.written
  · show e.completed = served ++ [x] ++ []
    rw [append_nil]
    exact hf

lemma start (h : Holds e served []) : Holds ((e.stop.write x).start x) served [x] := by
  have hd : e.done = false := Bool.eq_false_iff.mpr fun hd => h.nonempty hd rfl
  refine ⟨Nat.le_of_ble_eq_true rfl,?_,?_,?_,?_,fun _ => cons_ne_nil x []⟩
  · show e.written ++ [x] = served ++ [x]
    rw [h.written,append_nil]
  · show e.completed = served ++ if e.done then [x] else []
    rw [h.completed,hd]
    rfl
  · show some x = (unfinished e.done [x])[0]?
    rw [hd]
    rfl
  · show none = (unfinished e.done [x])[1]?
    rw [hd]
    rfl

lemma chain (h : Holds e served [x]) (hd : e.done = false) : Holds ((e.write y).chain y) served [x, y] := by
  have hc := h.current
  have hf := h.completed
  rw [hd] at hc hf
  refine ⟨le_refl 2,?_,?_,?_,?_,fun _ => cons_ne_nil x [y]⟩
  · show e.written ++ [y] = served ++ [x,y]
    rw [h.written,List.append_assoc]
    rfl
  · show e.completed = served ++ if e.done then [x] else []
    rw [hf,hd]
    rfl
  · show e.current = (unfinished e.done [x,y])[0]?
    rw [hc,hd]
    rfl
  · show some y = (unfinished e.done [x,y])[1]?
    rw [hd]
    rfl

lemma unchain (h : Holds e served [x]) : Holds e.unchain served [x] := by
  refine ⟨h.length,h.written,h.completed,h.current,?_,h.nonempty⟩
  show none = (unfinished e.done [x])[1]?
  cases e.done <;> rfl

end Holds

end Transfer
