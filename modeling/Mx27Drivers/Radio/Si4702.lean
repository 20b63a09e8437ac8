/-
# The registers of the radio

The 16 registers are read as one block from register 0x0A on, and the writable ones are written as one block.
-/
import Mx27Drivers.Lib.Run

namespace Mx27.Radio

open Function

def SI4702_POWERCFG : ℕ := 0x02
def SI4702_STATUSRSSI : ℕ := 0x0A
def SI4702_REG_NUM : ℕ := 0x10
def SI4702_RW_OFFSET : ℕ := SI4702_REG_NUM - SI4702_STATUSRSSI + SI4702_POWERCFG

/-- `si4702_reg_buf`, and the registers of the device. -/
structure State where
  buf : ℕ → BitVec 8
  dev : ℕ → BitVec 16

def high (word : BitVec 16) : BitVec 8 := ((word &&& 0xFF00#16) >>> 8).setWidth 8

def low (word : BitVec 16) : BitVec 8 := (word &&& 0x00FF#16).setWidth 8

/-- The block that the device sends. -/
def block (dev : ℕ → BitVec 16) (i : ℕ) : BitVec 8 :=
  let word := dev ((SI4702_STATUSRSSI + i / 2) % SI4702_REG_NUM)
  if i % 2 = 0 then high word else low word

def wordAt (buf : ℕ → BitVec 8) (i : ℕ) : BitVec 16 := buf (i * 2) ++ buf (i * 2 + 1)

def Writable (reg : ℕ) : Prop := SI4702_POWERCFG ≤ reg ∧ reg < SI4702_STATUSRSSI

instance (reg : ℕ) : Decidable (Writable reg) := inferInstanceAs (Decidable (_ ∧ _))

/-- The place in the buffer of a writable register. -/
def place (reg : ℕ) : ℕ := SI4702_RW_OFFSET + (reg - SI4702_POWERCFG)

/-- `si4702_read_reg`, with the outcome of the transfer; the buffer is cleared before it. -/
def readReg (ok : Bool) (reg : BitVec 8) (s : State) : Option (BitVec 16) × State :=
  let register1 :=
    if SI4702_STATUSRSSI ≤ reg.toNat ∧ reg.toNat < SI4702_REG_NUM then some (reg.toNat - SI4702_STATUSRSSI)
    else if reg.toNat < SI4702_STATUSRSSI then some (reg.toNat + (SI4702_REG_NUM - SI4702_STATUSRSSI)) else none
  match register1 with
  | none => (none, s)
  | some i => if ok then (some (wordAt (block s.dev) i), { s with buf := block s.dev }) else (none, { s with buf := fun _ => 0 })

/-- `si4702_write_reg`. -/
def writeReg (ok : Bool) (reg : BitVec 8) (word : BitVec 16) (s : State) : Bool × State :=
  if Writable reg.toNat then
    let buf := update (update s.buf (place reg.toNat * 2) (high word)) (place reg.toNat * 2 + 1) (low word)
    (ok, { buf := buf, dev := if ok then fun r => if Writable r then wordAt buf (place r) else s.dev r else s.dev })
  else (false, s)

inductive Call
  | read (ok : Bool) (reg : BitVec 8)
  | write (ok : Bool) (reg : BitVec 8) (word : BitVec 16)

def step (s : State) : Call → Option State
  | .read ok reg => some (readReg ok reg s).2
  | .write ok reg word => some (writeReg ok reg word s).2

def Call.ok : Call → Bool
  | read ok _ => ok
  | write ok _ _ => ok

/-- A write that succeeds sets its register and no other writable one. -/
def TouchesOne (s : State) : Call → Prop
  | .read .. => True
  | .write ok reg word => (writeReg ok reg word s).1 = true → (writeReg ok reg word s).2.dev reg.toNat = word ∧
      ∀ r, Writable r → r ≠ reg.toNat → (writeReg ok reg word s).2.dev r = s.dev r

/-- At a write that succeeds the buffer has the other registers of the device. -/
def Current (s : State) : Call → Prop
  | .read .. => True
  | .write ok reg word => (writeReg ok reg word s).1 = true →
      ∀ r, Writable r → r ≠ reg.toNat → wordAt s.buf (place r) = s.dev r

lemma high_append_low (w : BitVec 16) : high w ++ low w = w := by
  apply BitVec.eq_of_getLsbD_eq
  intro i hi
  have hmask : ∀ i < 16, (0xFF00#16).getLsbD i = decide (8 ≤ i) ∧ (0x00FF#16).getLsbD i = decide (i < 8) := by decide
  simp only [high,low,BitVec.getLsbD_append,BitVec.getLsbD_setWidth,BitVec.getLsbD_ushiftRight,BitVec.getLsbD_and]
  grind

lemma wordAt_block (dev : ℕ → BitVec 16) {r : ℕ} (h : Writable r) : wordAt (block dev) (place r) = dev r := by
  obtain ⟨h1,h2⟩ := h
  simp only [SI4702_POWERCFG,SI4702_STATUSRSSI] at h1 h2
  have hindex : ∀ i, i / 2 = place r → (SI4702_STATUSRSSI + i / 2) % SI4702_REG_NUM = r := by
    simp only [place,SI4702_POWERCFG,SI4702_STATUSRSSI,SI4702_REG_NUM,SI4702_RW_OFFSET]
    omega
  rw [wordAt,block,block,hindex _ (by omega),hindex _ (by omega)]
  rw [if_pos (by omega),if_neg (by omega),high_append_low]

lemma writeReg_dev {reg : BitVec 8} {word : BitVec 16} {s : State} (h : Writable reg.toNat) {r : ℕ} (hr : Writable r) :
  (writeReg true reg word s).2.dev r = if r = reg.toNat then word else wordAt s.buf (place r) := by
  have hne : r ≠ reg.toNat → place r ≠ place reg.toNat := by
    have := h.1
    have := hr.1
    unfold place
    omega
  rw [writeReg,if_pos h]
  dsimp only
  rw [if_pos rfl,if_pos hr]
  split
  next he => rw [he,wordAt,update_self,update_of_ne (by omega),update_self,high_append_low]
  next he =>
    have := hne he
    rw [wordAt,wordAt,update_of_ne (by omega),update_of_ne (by omega),update_of_ne (by omega),update_of_ne (by omega)]

lemma touchesOne_iff (s : State) (c : Call) : TouchesOne s c ↔ Current s c := by
  cases c with
  | read => exact Iff.rfl
  | write ok reg word =>
    refine imp_congr_right fun hs => ?_
    by_cases h : Writable reg.toNat
    · rw [writeReg,if_pos h] at hs
      obtain rfl : ok = true := hs
      rw [writeReg_dev h h,if_pos rfl]
      refine (and_iff_right rfl).trans (forall₃_congr fun r hr hne => ?_)
      rw [writeReg_dev h hr,if_neg hne]
    · rw [writeReg,if_neg h] at hs
      cases hs

def Synced (s : State) : Prop := ∀ r, Writable r → wordAt s.buf (place r) = s.dev r

lemma synced_step {s s' : State} {c : Call} (h : Synced s) (hok : c.ok = true) (e : step s c = some s') : Synced s' := by
  cases c with
  | read ok reg =>
    obtain rfl : ok = true := hok
    obtain rfl := Option.some.inj e
    rw [readReg]
    split
    · exact h
    · exact fun r hr => wordAt_block s.dev hr
  | write ok reg word =>
    obtain rfl : ok = true := hok
    obtain rfl := Option.some.inj e
    rw [writeReg]
    split
    · exact fun r hr => (if_pos hr).symm
    · exact h

end Mx27.Radio
