/-
# The clock framework
-/
import Mathlib

namespace Mx27.Clk

def EINVAL : ℤ := 22

def ENODEV : ℤ := 19

structure ClkState (κ H : Type) where
  parent : κ → Option κ
  secondary : κ → Option κ
  rate : κ → BitVec 32
  usecount : κ → Int8
  hw : H

structure ClkOps (κ H : Type) where
  enable : Option (H → ℤ × H)
  disable : Option (H → H)
  recalc : Option (H → BitVec 32 → κ → BitVec 32 → BitVec 32)
  roundRate : Option (BitVec 32 → ClkState κ H → Option (BitVec 32))
  setRate : Option (BitVec 32 → ClkState κ H → Option (ℤ × ClkState κ H))
  setParent : Option (κ → ClkState κ H → ℤ × Option κ × H)

structure Platform (κ H : Type) where
  ops : κ → ClkOps κ H
  clocks : List κ

variable {κ H : Type} [DecidableEq κ]

namespace ClkState

def setUsecount (s : ClkState κ H) (c : κ) (u : Int8) : ClkState κ H :=
  { s with usecount := Function.update s.usecount c u }

def setRate (s : ClkState κ H) (c : κ) (r : BitVec 32) : ClkState κ H :=
  { s with rate := Function.update s.rate c r }

def setParent (s : ClkState κ H) (c : κ) (p : Option κ) : ClkState κ H :=
  { s with parent := Function.update s.parent c p }

lemma usecount_setUsecount_of_ne {c d : κ} (h : d ≠ c) (s : ClkState κ H) (u : Int8) :
  (s.setUsecount c u).usecount d = s.usecount d := Function.update_of_ne h ..

end ClkState

variable (P : Platform κ H)

def runDisable (c : κ) (s : ClkState κ H) : ClkState κ H :=
  match (P.ops c).disable with
  | some h => { s with hw := h s.hw }
  | none => s

def runEnable (c : κ) (s : ClkState κ H) : ℤ × ClkState κ H :=
  match (P.ops c).enable with
  | some h => ((h s.hw).1, { s with hw := (h s.hw).2 })
  | none => (0, s)

def onLink {α : Type} (link : Option κ) (z : α) (call : κ → Option α) : Option α :=
  match link with
  | some p => call p
  | none => some z

def clkDisableRec : ℕ → κ → ClkState κ H → Option (ClkState κ H)
  | 0, _, _ => none
  | f + 1, c, s =>
    if 0 < s.usecount c then
      let s := s.setUsecount c (s.usecount c - 1)
      if s.usecount c = 0 then do
        let s := runDisable P c s
        let s ← onLink (s.parent c) s fun p => clkDisableRec f p s
        onLink (s.secondary c) s fun q => clkDisableRec f q s
      else some s
    else some s

def clkEnableErr1 (c : κ) (ret : ℤ) (s : ClkState κ H) : Option (ℤ × ClkState κ H) :=
  some (ret, s.setUsecount c (s.usecount c - 1))

def clkEnableErr2 (f : ℕ) (c : κ) (ret : ℤ) (s : ClkState κ H) : Option (ℤ × ClkState κ H) := do
  let s ← onLink (s.parent c) s fun p => clkDisableRec P f p s
  clkEnableErr1 c ret s

def clkEnableErr3 (f : ℕ) (c : κ) (ret : ℤ) (s : ClkState κ H) : Option (ℤ × ClkState κ H) := do
  let s ← onLink (s.secondary c) s fun q => clkDisableRec P f q s
  clkEnableErr2 P f c ret s

def clkEnableRec : ℕ → κ → ClkState κ H → Option (ℤ × ClkState κ H)
  | 0, _, _ => none
  | f + 1, c, s =>
    let u := s.usecount c
    let s := s.setUsecount c (u + 1)
    if u = 0 then do
      let r ← onLink (s.parent c) (0, s) fun p => clkEnableRec f p s
      if r.1 ≠ 0 then clkEnableErr1 c r.1 r.2
      else do
        let r ← onLink (r.2.secondary c) (0, r.2) fun q => clkEnableRec f q r.2
        if r.1 ≠ 0 then clkEnableErr2 P f c r.1 r.2
        else
          let r := runEnable P c r.2
          if r.1 ≠ 0 then clkEnableErr3 P f c r.1 r.2
          else some (0, r.2)
    else some (0, s)

section Api

variable [Fintype κ]

def clkEnable (clk : Option κ) (s : ClkState κ H) : Option (ℤ × ClkState κ H) :=
  match clk with
  | none => some (-EINVAL, s)
  | some c => clkEnableRec P (Fintype.card κ) c s

def clkDisable (clk : Option κ) (s : ClkState κ H) : Option (ClkState κ H) :=
  match clk with
  | none => some s
  | some c => clkDisableRec P (Fintype.card κ) c s

end Api

def recalcRate (c t : κ) (s : ClkState κ H) : Option (BitVec 32) :=
  match (P.ops c).recalc with
  | some h => (s.parent c).map fun p => h s.hw (s.rate c) p (s.rate p)
  | none => some (s.rate t)

def propagateRate : ℕ → κ → ClkState κ H → Option (ClkState κ H)
  | 0, _, _ => none
  | f + 1, t, s =>
    P.clocks.foldlM (fun s c =>
      if s.parent c = some t then do
        let r ← recalcRate P c t s
        propagateRate f c (s.setRate c r)
      else some s) s

section Api

variable [Fintype κ]

def clkRoundRate (clk : Option κ) (rate : BitVec 32) (s : ClkState κ H) : Option (BitVec 32) :=
  match clk with
  | none => some 0
  | some c =>
    match (P.ops c).roundRate with
    | none => some 0
    | some h => h rate s

def clkSetRate (clk : Option κ) (rate : BitVec 32) (s : ClkState κ H) : Option (ℤ × ClkState κ H) :=
  match clk with
  | none => some (-EINVAL, s)
  | some c =>
    match (P.ops c).setRate with
    | none => some (-EINVAL, s)
    | some h =>
      if rate = 0 then some (-EINVAL, s)
      else do
        let (ret, s) ← h rate s
        if ret = 0 then
          let s ← propagateRate P (Fintype.card κ) c s
          some (ret, s)
        else some (ret, s)

def clkSetParent (clk parent : Option κ) (s : ClkState κ H) : Option (ℤ × ClkState κ H) :=
  match clk, parent with
  | some c, some p =>
    match (P.ops c).setParent with
    | none => some (-EINVAL, s)
    | some h =>
      let (ret, link, hw) := h p s
      let s := { s.setParent c link with hw := hw }
      if ret = 0 then do
        let s := s.setParent c (some p)
        let r ← recalcRate P c p s
        let s ← propagateRate P (Fintype.card κ) c (s.setRate c r)
        some (ret, s)
      else some (ret, s)
  | _, _ => some (-EINVAL, s)

end Api

end Mx27.Clk
