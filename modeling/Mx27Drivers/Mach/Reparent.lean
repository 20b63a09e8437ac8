/-
# Use counts and a new parent
-/
import Mx27Drivers.Clock.UseCount
import Mx27Drivers.Clock.Propagate
import Mx27Drivers.Mach.ClockTable

namespace Mx27
namespace Clk

open Function

variable {κ H : Type} [DecidableEq κ] [Fintype κ] {P : Platform κ H}

lemma clkSetParent_links {c p : κ} {s s' : ClkState κ H}
  (e : clkSetParent P (some c) (some p) s = some (0, s')) :
  s'.parent = Function.update s.parent c (some p) ∧ s'.secondary = s.secondary ∧
    s'.usecount = s.usecount := by
  obtain ⟨hw,r,e'⟩ := clkSetParent_eq_zero e
  obtain ⟨h1,h2,h3,-⟩ := propagateRate_frame P _ _ _ _ e'
  exact ⟨h1,h2,h3⟩

lemma children_update (u : κ → ℤ) (par : κ → Option κ) (c p d : κ) :
  ((Finset.univ.filter fun e => 0 < u e ∧ Function.update par c (some p) e = some d).card : ℤ) =
    (Finset.univ.filter fun e => 0 < u e ∧ par e = some d).card -
      (if 0 < u c ∧ par c = some d then 1 else 0) + if 0 < u c ∧ p = d then 1 else 0 := by
  have hsplit : ∀ par' : κ → Option κ,
      ((Finset.univ.filter fun e => 0 < u e ∧ par' e = some d).card : ℤ) =
        (if 0 < u c ∧ par' c = some d then 1 else 0) +
          ∑ e ∈ Finset.univ.erase c, if 0 < u e ∧ par' e = some d then 1 else 0 := by
    intro par'
    rw [Finset.card_filter]
    push_cast
    rw [← Finset.add_sum_erase _ _ (Finset.mem_univ c)]
  have hrest : ∑ e ∈ Finset.univ.erase c,
      (if 0 < u e ∧ Function.update par c (some p) e = some d then (1 : ℤ) else 0) =
        ∑ e ∈ Finset.univ.erase c, if 0 < u e ∧ par e = some d then (1 : ℤ) else 0 := by
    refine Finset.sum_congr rfl fun e he => ?_
    rw [update_of_ne (Finset.ne_of_mem_erase he)]
  rw [hsplit,hsplit,hrest,update_self]
  simp only [Option.some.injEq]
  ring

/-- **A new parent and the use counts.** -/
theorem clkSetParent_useLaw_iff {c p : κ} {s s' : ClkState κ H} {x : κ → ℕ} (h : UseLaw s x)
  (e : clkSetParent P (some c) (some p) s = some (0, s')) :
  UseLaw s' x ↔ ¬ 0 < s.usecount c ∨ s.parent c = some p := by
  obtain ⟨hp,hq,hu⟩ := clkSetParent_links e
  have hcount : count s' = count s := by
    unfold count
    rw [hu]
  rw [pos_iff,show (s.usecount c).toInt = count s c from rfl]
  unfold UseLaw Owed
  rw [hp,hq,hcount]
  constructor
  · intro h'
    by_contra hn
    rw [not_or,not_not] at hn
    have h1 := h p
    have h2 := h' p
    rw [children_update,if_neg fun hc => hn.2 hc.2,if_pos ⟨hn.1,rfl⟩] at h2
    omega
  · intro hor d
    have hd := h d
    rw [children_update]
    rcases hor with hor | hor
    · rw [if_neg fun hc => hor hc.1,if_neg fun hc => hor hc.1]
      omega
    · rw [hor]
      simp only [Option.some.injEq]
      omega

end Clk

namespace Mach

open Clk RefGraph

/-- `clko_clk` enabled once, with parent `ckih_clk`. -/
def clkoInUse (hw : Ccm) : State :=
  { (initState hw).setParent .clkoClk (some .ckihClk) with
    usecount := fun c => if c = .clkoClk ∨ c = .ckihClk then 1 else 0 }

lemma clkoInUse_pos (hw : Ccm) (c : Mx27Clk) : 0 < count (clkoInUse hw) c ↔ c = .clkoClk ∨ c = .ckihClk := by
  unfold count clkoInUse
  by_cases h : c = .clkoClk ∨ c = .ckihClk
  · simp [h]
  · simp [h]

lemma clkoInUse_law (hw : Ccm) : UseLaw (clkoInUse hw) (bump (fun _ => 0) .clkoClk) := by
  have hpar : ∀ c d, 0 < count (clkoInUse hw) d ∧ (clkoInUse hw).parent d = some c ↔
      d = .clkoClk ∧ c = .ckihClk := by
    intro c d
    rw [clkoInUse_pos]
    constructor
    · rintro ⟨rfl | rfl,h⟩
      · exact ⟨rfl,(Option.some.inj h).symm⟩
      · cases h
    · rintro ⟨rfl,rfl⟩
      exact ⟨Or.inl rfl,rfl⟩
  have hsec : ∀ c d, ¬ (0 < count (clkoInUse hw) d ∧ (clkoInUse hw).secondary d = some c) := by
    intro c d
    rw [clkoInUse_pos]
    rintro ⟨rfl | rfl,h⟩ <;> cases h
  intro c
  simp only [hpar,hsec,Finset.filter_false,Finset.card_empty]
  rcases eq_or_ne c .ckihClk with rfl | hc
  · simp only [and_true,Finset.filter_eq',Finset.mem_univ,↓reduceIte,Finset.card_singleton]
    rfl
  · simp only [hc,and_false,Finset.filter_false,Finset.card_empty]
    by_cases hc' : c = .clkoClk
    · subst hc'
      rfl
    · simp [count,clkoInUse,bump,hc,hc']

lemma clkoInUse_setParent (hw : Ccm) {p : Mx27Clk} (hp : p = .ckihClk ∨ p = .ckilClk) :
  ∃ s', clkSetParent (mx27 CHIP_REV_2_0) (some .clkoClk) (some p) (clkoInUse hw) = some (0, s') := by
  obtain ⟨sel,hsel⟩ : ∃ sel, clkosel (clkoInUse hw) p = some sel := by
    rcases hp with rfl | rfl <;> exact ⟨_,rfl⟩
  obtain ⟨hw',hhook⟩ : ∃ hw', clkClkoSetParent .clkoClk p (clkoInUse hw) = (0, some .ckihClk, hw') := by
    unfold clkClkoSetParent
    rw [hsel]
    exact ⟨_,rfl⟩
  obtain ⟨r,-,e⟩ := clkSetParent_leaf (P := mx27 CHIP_REV_2_0) (c := .clkoClk) rfl hhook
    (by rcases hp with rfl | rfl <;> decide) (fun d _ => by cases d <;> exact fun h => by cases h)
  exact ⟨_,e⟩

/-- Giving `clko_clk` the parent it has, while it is in use. -/
theorem clkSetParent_useLaw_same : ∃ s', clkSetParent (mx27 CHIP_REV_2_0) (some .clkoClk) (some .ckihClk)
  (clkoInUse fun _ => 0) = some (0, s') ∧ UseLaw s' (bump (fun _ => 0) .clkoClk) := by
  obtain ⟨s',e⟩ := clkoInUse_setParent (fun _ => 0) (Or.inl rfl)
  exact ⟨s',e,(clkSetParent_useLaw_iff (clkoInUse_law _) e).mpr (Or.inr rfl)⟩

/-- `clko_clk` moves from `ckih_clk` to `ckil_clk` while it is in use. -/
theorem clko_reparent_in_use : ∃ s s' x, UseLaw s x ∧
  clkSetParent (mx27 CHIP_REV_2_0) (some .clkoClk) (some .ckilClk) s = some (0, s') ∧ ¬ UseLaw s' x := by
  obtain ⟨s',e⟩ := clkoInUse_setParent (fun _ => 0) (Or.inr rfl)
  have hlaw := clkoInUse_law fun _ => 0
  refine ⟨_,s',_,hlaw,e,fun h' => ?_⟩
  obtain ⟨hp,hq,hu⟩ := clkSetParent_links e
  have h1 := hlaw .ckihClk
  have h2 := h' .ckihClk
  rw [hp,hq,show count s' = count (clkoInUse fun _ => 0) by unfold count; rw [hu],children_update,
    if_pos ⟨(clkoInUse_pos _ _).mpr (Or.inl rfl),rfl⟩,if_neg (by decide)] at h2
  omega

end Mach
end Mx27
