/-
# Buffer descriptors of the fast Ethernet controller

The driver and the controller share two rings of 16 buffer descriptors.
-/
import Mx27Drivers.Lib.Bits
import Mx27Drivers.Lib.Ring

namespace Mx27.Fec

open Function

open Bits (hits)

def PAGE_SIZE : ℕ := 4096
def FEC_ENET_RX_PAGES : ℕ := 8
def FEC_ENET_RX_FRSIZE : ℕ := 2048
def FEC_ENET_RX_FRPPG : ℕ := PAGE_SIZE / FEC_ENET_RX_FRSIZE
def RX_RING_SIZE : ℕ := FEC_ENET_RX_FRPPG * FEC_ENET_RX_PAGES
def FEC_ENET_TX_FRSIZE : ℕ := 2048
def TX_RING_SIZE : ℕ := 16
def TX_RING_MOD_MASK : ℕ := 15

def BD_SC_WRAP : BitVec 16 := 0x2000

def nextBd (sc : BitVec 16) (bdp : ℕ) : ℕ := if hits sc BD_SC_WRAP then 0 else bdp + 1

def resetSc (n : ℕ) (v : BitVec 16) (i : ℕ) : BitVec 16 := if i + 1 = n then v ||| BD_SC_WRAP else v

def Wrapped (n : ℕ) (sc : ℕ → BitVec 16) : Prop := ∀ i < n, hits (sc i) BD_SC_WRAP = decide (i + 1 = n)

variable {n i : ℕ} {sc : ℕ → BitVec 16} {v : BitVec 16}

lemma Wrapped.next (h : Wrapped n sc) (hi : i < n) : nextBd (sc i) i = (i + 1) % n := by
  unfold nextBd
  rw [h i hi]
  by_cases hl : i + 1 = n
  · simp [hl]
  · rw [Nat.mod_eq_of_lt (by omega)]
    simp [hl]

lemma wrapped_reset (hv : hits v BD_SC_WRAP = false) : Wrapped n (resetSc n v) := by
  intro i _
  unfold resetSc
  split
  · rename_i hl
    rw [Bits.hits_or_self v (by decide)]
    simp [hl]
  · rename_i hl
    simp [hv,hl]

lemma Wrapped.write {β : Type} {f : β → BitVec 16} {bd : ℕ → β} {b : β} (h : Wrapped n fun j => f (bd j))
  (hv : hits (f b) BD_SC_WRAP = hits (f (bd i)) BD_SC_WRAP) : Wrapped n fun j => f (Function.update bd i b j) := by
  intro j hj
  show hits (f (Function.update bd i b j)) BD_SC_WRAP = _
  by_cases hji : j = i
  · subst hji
    rw [update_self,hv]
    exact h j hj
  · rw [update_of_ne hji]
    exact h j hj

end Mx27.Fec
