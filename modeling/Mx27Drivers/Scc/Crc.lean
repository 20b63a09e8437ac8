/-
# The CRC of the SCC driver, and copies in pieces
-/
import Mx27Drivers.Lib.BitPoly
import Mx27Drivers.Scc.Decrypt

namespace Mx27.Scc

open List BitPoly

/-! ### The table computes a polynomial division -/

section

open Polynomial

noncomputable def ccitt : (ZMod 2)[X] := X ^ 16 + X ^ 12 + X ^ 5 + 1

/-- The bits of the bytes, the first one in front. -/
noncomputable def message : List Byte → (ZMod 2)[X]
  | [] => 0
  | b :: bs => toPoly b * X ^ (8 * bs.length) + message bs

lemma toPoly_polynomial : X ^ 16 + toPoly CRC_POLYNOMIAL = ccitt := by
  have hbits : toPoly CRC_POLYNOMIAL = ∑ i ∈ Finset.range 16, if i ∈ [0, 5, 12] then (X ^ i : (ZMod 2)[X]) else 0 := by
    refine Finset.sum_congr rfl fun i hi => if_congr ?_ rfl rfl
    exact (show ∀ i < 16, CRC_POLYNOMIAL.getLsbD i = true ↔ i ∈ [0,5,12] by decide) i (Finset.mem_range.mp hi)
  rw [hbits,ccitt]
  simp [Finset.sum_range_succ]
  ring

/-- A step multiplies by `X`. -/
lemma crcStep_dvd (r : Crc) : ccitt ∣ X * toPoly r - toPoly (crcStep r) := by
  have hshift := toPoly_shiftLeft (show 1 + 15 = 16 from rfl) r
  have htop : toPoly ((r >>> 15).setWidth 1) = if r.getLsbD 15 then 1 else 0 := by
    rw [toPoly,Finset.sum_range_one,BitVec.getLsbD_setWidth,BitVec.getLsbD_ushiftRight,pow_zero]
    rfl
  have hbit : r &&& 0x8000#16 = if r.getLsbD 15 then 0x8000#16 else 0#16 := BitVec.and_twoPow r 15
  rw [pow_one,htop] at hshift
  rw [hshift,crcStep,hbit]
  cases r.getLsbD 15 with
  | false => simp
  | true =>
    rw [if_pos rfl,if_pos rfl,if_pos (by decide),toPoly_xor,mul_one,add_sub_add_left_eq_sub,CharTwo.sub_eq_add,toPoly_polynomial]

lemma iterate_crcStep_dvd (r : Crc) : ∀ n, ccitt ∣ X ^ n * toPoly r - toPoly (crcStep^[n] r)
  | 0 => by simp
  | n + 1 => by
    rw [Function.iterate_succ_apply']
    have := ((iterate_crcStep_dvd r n).mul_left X).add (crcStep_dvd (crcStep^[n] r))
    convert this using 1
    ring

lemma calcCrc_dvd (c : Crc) (b : Byte) : ccitt ∣ toPoly c * X ^ 8 + toPoly b * X ^ 16 - toPoly (calcCrc c b) := by
  have hhigh := toPoly_shiftLeft (show 8 + 8 = 16 from rfl) c
  have htable := iterate_crcStep_dvd ((b ^^^ (c >>> 8).setWidth 8).setWidth 16 <<< 8) 8
  have hbyte := toPoly_shiftLeft (show 8 + 8 = 16 from rfl) ((b ^^^ (c >>> 8).setWidth 8).setWidth 16)
  have hzero : ((b ^^^ (c >>> 8).setWidth 8).setWidth 16 >>> 8).setWidth 8 = 0#8 := by
    apply BitVec.eq_of_getLsbD_eq
    intro i hi
    simp only [BitVec.getLsbD_setWidth,BitVec.getLsbD_ushiftRight]
    have := BitVec.getLsbD_of_ge (b ^^^ (c >>> 8).setWidth 8) (8 + i) (by omega)
    grind
  rw [hzero,toPoly_setWidth (by decide),toPoly_xor,show toPoly 0#8 = 0 by simp [toPoly],mul_zero,add_zero] at hbyte
  rw [← hbyte] at htable
  rw [calcCrc,toPoly_xor,sccCrcLookupTable]
  convert htable using 1
  linear_combination hhigh

lemma foldl_calcCrc_dvd : ∀ (bs : List Byte) (c : Crc),
  ccitt ∣ toPoly c * X ^ (8 * bs.length) + message bs * X ^ 16 - toPoly (bs.foldl calcCrc c)
  | [], c => by simp [message]
  | b :: bs, c => by
    have := ((calcCrc_dvd c b).mul_right (X ^ (8 * bs.length))).add (foldl_calcCrc_dvd bs (calcCrc c b))
    convert this using 1
    rw [message,length_cons,foldl_cons]
    ring

/-- **The CRC is the remainder by `x^16 + x^12 + x^5 + 1`**, and a message that ends with its own has remainder zero. -/
theorem crc_ccitt (bs : List Byte) :
  (toPoly CRC_CCITT_START * X ^ (8 * bs.length) + message bs * X ^ 16) %ₘ ccitt = toPoly (crcOf bs) ∧
    crcOf (bs ++ crcBytes (crcOf bs)) = 0 := by
  constructor
  · have hmonic : ccitt.Monic := by
      unfold ccitt
      monicity!
    have hdegree : ccitt.degree = 16 := by
      unfold ccitt
      compute_degree!
    obtain ⟨q,hq⟩ := foldl_calcCrc_dvd bs CRC_CCITT_START
    refine (div_modByMonic_unique q _ hmonic ⟨?_,?_⟩).2
    · rw [← hq,crcOf]
      ring
    · rw [hdegree]
      exact degree_toPoly_lt _
  · rw [crcOf_append]
    exact (calcCrc_self _ _ _).mpr rfl

/-- **A changed byte changes the CRC.** -/
theorem crc_detects (l m : List Byte) (a b : Byte) : crcOf (l ++ a :: m) = crcOf (l ++ b :: m) ↔ a = b := by
  refine ⟨fun h => ?_,fun h => h ▸ rfl⟩
  have hdvd := (foldl_calcCrc_dvd (a :: m) (crcOf l)).sub (foldl_calcCrc_dvd (b :: m) (crcOf l))
  rw [← crcOf_append,← crcOf_append,h] at hdvd
  have hprime : IsCoprime ccitt (X ^ (8 * m.length + 16)) := .pow_right ⟨1,-(X ^ 15 + X ^ 11 + X ^ 4),by rw [ccitt]; ring⟩
  have hzero : toPoly (a ^^^ b) = 0 := by
    refine eq_zero_of_dvd_of_degree_lt (hprime.dvd_of_dvd_mul_right ?_) ((degree_toPoly_lt _).trans ?_)
    · convert hdvd using 1
      rw [toPoly_xor,← CharTwo.sub_eq_add,message,message,length_cons,length_cons]
      ring
    · rw [show ccitt.degree = 16 by unfold ccitt; compute_degree!]
      decide
  exact BitVec.eq_of_getLsbD_eq fun i _ => by simpa [coeff_toPoly] using congrArg (coeff · i) hzero

end

/-! ### Consecutive copies -/

/-- Calls of `copy_to_scc` one after the other, with the running CRC. -/
def copyPieces : List (List Byte) → ℕ → Ram → Option Crc → Ram × Option Crc
  | [], _, ram, crc => (ram, crc)
  | p :: ps, place, ram, crc =>
    copyPieces ps (place + p.length) (copyToScc p place ram crc).1 (copyToScc p place ram crc).2

/-- Calls of `copy_from_scc` one after the other. -/
def readPieces (ram : Ram) : List ℕ → ℕ → Option Crc → List Byte × Option Crc
  | [], _, crc => ([], crc)
  | n :: ns, place, crc =>
    let r := readPieces ram ns (place + n) (copyFromScc place n ram crc).2
    ((copyFromScc place n ram crc).1 ++ r.1, r.2)

lemma copyPieces_holds {base : ℕ} (h4 : 4 ∣ base) : ∀ (ps : List (List Byte)) {bs : List Byte} {ram : Ram} (crc : Option Crc),
  Holds ram base bs → Holds (copyPieces ps (base + bs.length) ram crc).1 base (bs ++ ps.flatten)
  | [], bs, ram, crc, h => by simpa [copyPieces] using h
  | p :: ps, bs, ram, crc, h => by
    have ih := copyPieces_holds h4 ps (copyToScc p (base + bs.length) ram crc).2 (copyToScc_holds h4 h p crc)
    rwa [length_append,← Nat.add_assoc,List.append_assoc,← flatten_cons] at ih

lemma copyPieces_crc : ∀ (ps : List (List Byte)) (place : ℕ) (ram : Ram) (crc : Option Crc),
  (copyPieces ps place ram crc).2 = crc.map fun c => ps.flatten.foldl calcCrc c
  | [], _, _, crc => by simp [copyPieces]
  | p :: ps, place, ram, crc => by
    rw [copyPieces,copyPieces_crc ps,copyToScc_crc,Option.map_map,flatten_cons]
    simp only [Function.comp_def,foldl_append]

lemma bytesAt_add (ram : Ram) (n : ℕ) : ∀ m place : ℕ, bytesAt ram place (m + n) = bytesAt ram place m ++ bytesAt ram (place + m) n
  | 0, place => by rw [Nat.zero_add,Nat.add_zero]; rfl
  | m + 1, place => by
    rw [Nat.add_right_comm,bytesAt,bytesAt_add ram n m,bytesAt,cons_append,Nat.add_right_comm place,Nat.add_assoc place]

lemma readPieces_eq (ram : Ram) : ∀ (ns : List ℕ) (place : ℕ) (crc : Option Crc), readPieces ram ns place crc =
  (bytesAt ram place ns.sum, crc.map fun c => (bytesAt ram place ns.sum).foldl calcCrc c)
  | [], _, crc => by cases crc <;> rfl
  | n :: ns, place, crc => by
    simp only [readPieces,copyFromScc_eq,readPieces_eq ram ns,Option.map_map,Function.comp_def,sum_cons,bytesAt_add,foldl_append]

/-- **Copies in pieces are one copy**, into the memory and back. -/
theorem copies_compose {base : ℕ} (h4 : 4 ∣ base) (ps : List (List Byte)) (hlen : 4 ∣ ps.flatten.length) (ram : Ram)
  (crc : Option Crc) :
  bytesAt (copyPieces ps base ram crc).1 base ps.flatten.length = ps.flatten ∧
    (copyPieces ps base ram crc).2 = (copyToScc ps.flatten base ram crc).2 ∧
    ∀ ns : List ℕ, ns.sum = ps.flatten.length → readPieces (copyPieces ps base ram crc).1 ns base crc =
      (ps.flatten, (copyToScc ps.flatten base ram crc).2) := by
  have hholds := copyPieces_holds h4 ps crc (Holds.nil ram base)
  rw [length_nil,Nat.add_zero,nil_append] at hholds
  have hbytes := hholds.bytes hlen
  refine ⟨hbytes,?_,fun ns hns => ?_⟩
  · rw [copyPieces_crc,copyToScc_crc]
  · rw [readPieces_eq,hns,copyToScc_crc,hbytes]

theorem copies_compose_cut : readPieces (copyPieces [[1], [], [2, 3, 4, 5, 6], [7, 8]] 8 (fun _ => 0) (some CRC_CCITT_START)).1
    [3, 0, 5] 8 (some CRC_CCITT_START) = ([1, 2, 3, 4, 5, 6, 7, 8], some (crcOf [1, 2, 3, 4, 5, 6, 7, 8])) :=
  ((copies_compose (by decide) [[1], [], [2, 3, 4, 5, 6], [7, 8]] (by decide) _ _).2.2 [3, 0, 5] rfl).trans
    (by rw [copyToScc_crc]; rfl)

end Mx27.Scc
