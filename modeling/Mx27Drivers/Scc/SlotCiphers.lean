/-
# Slot ciphers on failing hardware

`scc_encrypt_slot` and `scc_decrypt_slot` when the cipher or a copy ends with an error status.
-/
import Mx27Drivers.Scc.Slots
import Mx27Drivers.Scc.Stream

namespace Mx27.Scc

/-- What goes wrong: the BLACK memory after `copy_to_scc`, the SCM after the cipher, the bytes out of `copy_from_scc`. -/
structure Outcome where
  copied : Option Ram
  cipher : Option Scm
  read : Option (List Byte)

section
variable (hw : Hardware) (o : Outcome) (owner : BitVec 64) (slot length : ℕ) (blackData : List Byte) (s : State)

def Outcome.doCrypto (dec : Bool) (scm : Scm) : Bool × Scm :=
  match o.cipher with
  | some failed => (true, failed)
  | none => sccDoCrypto hw length true dec scm

/-- `scc_encrypt_slot`: the status is that of the verification, whatever happens after it. -/
def encryptSlot : Ret × List Byte :=
  if s.Verify owner slot length then
    let r := o.doCrypto hw length false (aimAt owner slot s.scm)
    (.ok, if r.1 then blackData else o.read.getD (copyFromScc (slotOffset slot) length r.2.black none).1)
  else (.fail, blackData)

/-- `scc_decrypt_slot`: the status of `copy_to_scc` is not looked at. -/
def decryptSlot : Ret × Scm :=
  if s.Verify owner slot length then
    let black := o.copied.getD (copyToScc blackData (slotOffset slot) s.scm.black none).1
    let r := o.doCrypto hw length true (aimAt owner slot { s.scm with black := black })
    (if r.1 then .fail else .ok, r.2)
  else (.fail, s.scm)

end

lemma slotOffset_blocks (slot : ℕ) : slotOffset slot / SCC_BLOCK_SIZE_BYTES = 4 * slot ∧ slotOffset slot = 8 * (4 * slot) := by
  simp only [slotOffset,SCC_KEY_SLOT_SIZE,SCC_BLOCK_SIZE_BYTES]
  omega

lemma doCrypto_slot {hw : Hardware} {owner : BitVec 64} {slot n : ℕ} {s : State} (hblocks : 4 * SCC_KEY_SLOTS ≤ hw.blocks)
  (hn : 0 < n) (hv : s.Verify owner slot (8 * n)) (dec : Bool) (scm : Scm) :
  sccDoCrypto hw (8 * n) true dec (aimAt owner slot scm) = (false, hw.cipher true dec n (aimAt owner slot scm)) := by
  obtain ⟨⟨hslot,-⟩,hlen⟩ := hv
  simp only [SCC_KEY_SLOTS,SCC_KEY_SLOT_SIZE] at hblocks hslot hlen
  have hstart := (slotOffset_blocks slot).1
  have h := sccDoCrypto_blocks hw (show 8 ≤ 8 * n by omega) (by omega) true dec (s := aimAt owner slot scm)
    (by simp only [aimAt,hstart]; omega) (by simp only [aimAt,hstart]; omega)
  rwa [Nat.mul_div_cancel_left n (by decide)] at h

/-- The slot, the owner and the hardware of the runs below. -/
def failing : Hardware × State :=
  (⟨80, id, id, fun _ _ s => s⟩, ⟨fun _ => ⟨7, 8, true⟩, ⟨fun _ => 1#32, fun _ => 0#32, (0#32, 0#32), 0, 0⟩⟩)

end Mx27.Scc
