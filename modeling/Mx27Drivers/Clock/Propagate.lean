/-
# Propagating a rate

`propagate_rate` changes rates and nothing else (`propagateRate_frame`).
-/
import Mx27Drivers.Lib.Run
import Mx27Drivers.Clock.Basic

namespace Mx27.Clk

open List Option Function

variable {κ H : Type}

def OnlyRates (s s' : ClkState κ H) : Prop :=
  s'.parent = s.parent ∧ s'.secondary = s.secondary ∧ s'.usecount = s.usecount ∧ s'.hw = s.hw

lemma OnlyRates.refl (s : ClkState κ H) : OnlyRates s s := ⟨rfl, rfl, rfl, rfl⟩

lemma OnlyRates.trans {s s' s'' : ClkState κ H} (h : OnlyRates s s') (h' : OnlyRates s' s'') :
  OnlyRates s s'' :=
  ⟨h'.1.trans h.1, h'.2.1.trans h.2.1, h'.2.2.1.trans h.2.2.1, h'.2.2.2.trans h.2.2.2⟩

section Ok

variable (P : Platform κ H)

def RateOk (s : ClkState κ H) (c : κ) : Prop :=
  ∀ p, s.parent c = some p → recalcRate P c p s = some (s.rate c)

def RecalcStable : Prop :=
  ∀ c h, (P.ops c).recalc = some h → ∀ hw o p r, h hw (h hw o p r) p r = h hw o p r

variable {P}

lemma recalcRate_isSome {s : ClkState κ H} {c t : κ} (h : s.parent c = some t) :
  ∃ r, recalcRate P c t s = some r := by
  unfold recalcRate
  split
  · exact ⟨_,by rw [h]; rfl⟩
  · exact ⟨_,rfl⟩

lemma RateOk.congr {s s' : ClkState κ H} {c : κ} (h : RateOk P s c) (hp : s'.parent c = s.parent c)
  (hh : ∀ g, (P.ops c).recalc = some g → g s'.hw = g s.hw) (hr : s'.rate c = s.rate c)
  (hrp : ∀ p, s.parent c = some p → s'.rate p = s.rate p) : RateOk P s' c := by
  intro p hp'
  rw [hp] at hp'
  have := h p hp'
  unfold recalcRate at this ⊢
  cases hg : (P.ops c).recalc with
  | none => simpa only [hg,hr,hrp p hp'] using this
  | some g =>
    simp only [hg,hp,hp',map_some] at this ⊢
    rw [hh g hg,hr,hrp p hp']
    exact this

end Ok

def Below (par : κ → Option κ) (d t : κ) : Prop := Relation.TransGen (fun d e => par d = some e) d t

lemma Below.child {par : κ → Option κ} {l : List κ} (hreg : ∀ d e, d ∈ l → par d = some e → e ∈ l)
  {d t : κ} (h : Below par d t) (hd : d ∈ l) : ∃ c ∈ l, par c = some t ∧ (d = c ∨ Below par d c) := by
  induction h using Relation.TransGen.head_induction_on with
  | single h => exact ⟨_,hd,h,Or.inl rfl⟩
  | head h h' ih =>
    obtain ⟨c,hc,hct,hec⟩ := ih (hreg _ _ hd h)
    refine ⟨c,hc,hct,Or.inr ?_⟩
    rcases hec with rfl | hec
    · exact Relation.TransGen.single h
    · exact Relation.TransGen.head h hec

variable [DecidableEq κ]

lemma onlyRates_setRate (s : ClkState κ H) (c : κ) (r : BitVec 32) : OnlyRates s (s.setRate c r) :=
  ⟨rfl, rfl, rfl, rfl⟩

variable (P : Platform κ H)

lemma propagateRate_frame : ∀ (f : ℕ) (t : κ) (s s' : ClkState κ H),
  propagateRate P f t s = some s' → OnlyRates s s'
  | 0, _, _, _, h => by simp [propagateRate] at h
  | f + 1, t, s, s', h => by
    rw [propagateRate] at h
    refine Run.foldlM_inv (I := OnlyRates s) (fun c s1 s2 h1 h2 => ?_) _ _ _ (OnlyRates.refl s) h
    split at h2
    · simp only [bind_eq_bind,bind_eq_some_iff] at h2
      obtain ⟨r,-,h2⟩ := h2
      exact (h1.trans (onlyRates_setRate s1 c r)).trans (propagateRate_frame f c _ _ h2)
    · cases h2
      exact h1

lemma propagateRate_root {d : κ} : ∀ (f : ℕ) (t : κ) (s s' : ClkState κ H), s.parent d = none →
  propagateRate P f t s = some s' → s'.rate d = s.rate d
  | 0, _, _, _, _, h => by simp [propagateRate] at h
  | f + 1, t, s, s', hd, h => by
    rw [propagateRate] at h
    refine (Run.foldlM_inv (I := fun s1 => s1.parent d = none ∧ s1.rate d = s.rate d) (fun c s1 s2 h1 h2 => ?_)
      _ _ _ ⟨hd, rfl⟩ h).2
    split at h2
    · rename_i hc
      simp only [bind_eq_bind,bind_eq_some_iff] at h2
      obtain ⟨r,-,h2⟩ := h2
      have hdc : d ≠ c := fun he => by rw [← he,h1.1] at hc; cases hc
      refine ⟨by rw [(propagateRate_frame P f c _ _ h2).1]; exact h1.1,?_⟩
      rw [propagateRate_root f c (s1.setRate c r) s2 h1.1 h2,← h1.2]
      exact update_of_ne hdc ..
    · cases h2
      exact h1

variable {P}

variable {s : ClkState κ H}

lemma RateOk.setRate_ne {c d : κ} (r : BitVec 32) (hd : d ≠ c)
  (hp : s.parent d ≠ some c) (h : RateOk P s d) : RateOk P (s.setRate c r) d := by
  refine h.congr rfl (fun _ _ => rfl) ?_ fun p hp' => ?_
  · simp [ClkState.setRate,hd]
  · have : p ≠ c := fun he => hp (he ▸ hp')
    simp [ClkState.setRate,this]

lemma RateOk.setRate_self (hst : RecalcStable P) {c t : κ} {r : BitVec 32}
  (hp : s.parent c = some t) (hne : t ≠ c) (h : recalcRate P c t s = some r) :
  RateOk P (s.setRate c r) c := by
  intro p hp'
  obtain rfl : t = p := Option.some.inj (hp.symm.trans hp')
  unfold recalcRate at h ⊢
  cases hh : (P.ops c).recalc with
  | none => simpa [hh,ClkState.setRate,hne] using h
  | some g =>
    simp only [hh,hp,map_some,Option.some.injEq] at h
    simp only [ClkState.setRate,hp,map_some,update_self,ne_eq,hne,not_false_eq_true,
      update_of_ne,Option.some.injEq]
    rw [← h,hst c g hh]

lemma propagateRate_ok (hst : RecalcStable P) {par : κ → Option κ} {N : ℕ} (ρ : κ → ℕ)
  (hρ : ∀ d e, par d = some e → ρ e < ρ d) (hN : ∀ c, ρ c < N)
  (hreg : ∀ d e, d ∈ P.clocks → par d = some e → e ∈ P.clocks) :
  ∀ (f : ℕ) (t : κ) (s : ClkState κ H) (D : Set κ), s.parent = par → N ≤ f + ρ t →
    (∀ d ∈ P.clocks, d ∉ D → ¬ Below par d t → RateOk P s d) →
    ∃ s', propagateRate P f t s = some s' ∧ ∀ d ∈ P.clocks, d ∉ D → RateOk P s' d := by
  intro f
  induction f with
  | zero => intro t s D _ hf; have := hN t; omega
  | succ f ih =>
    intro t s D hpar hf hok
    -- the clocks that wait for their rate: the children of `t` in the rest of
    -- the list, and what is below them
    let Waits (l : List κ) (d : κ) : Prop := ∃ c ∈ l, par c = some t ∧ (d = c ∨ Below par d c)
    suffices H : ∃ s', propagateRate P (f + 1) t s = some s' ∧
        s'.parent = par ∧ ∀ d ∈ P.clocks, d ∉ D → ¬ Waits [] d → RateOk P s' d by
      obtain ⟨s',e,-,h⟩ := H
      exact ⟨s',e,fun d hd hD => h d hd hD fun ⟨c,hc,_⟩ => by simp at hc⟩
    rw [propagateRate]
    refine Run.foldlM_total
      (fun l s => s.parent = par ∧ ∀ d ∈ P.clocks, d ∉ D → ¬ Waits l d → RateOk P s d)
      (fun c l s ⟨hpar,hok⟩ => ?_) P.clocks s
      ⟨hpar,fun d hd hD hn => hok d hd hD fun hb => hn (hb.child hreg hd)⟩
    by_cases hc : s.parent c = some t
    · obtain ⟨r,hr⟩ := recalcRate_isSome (P := P) hc
      have hct : par c = some t := hpar ▸ hc
      have hlt := hρ c t hct
      have hne : t ≠ c := fun he => by rw [he] at hlt; omega
      have hpre : ∀ d ∈ P.clocks, d ∉ {d | d ∈ D ∨ Waits l d} → ¬ Below par d c →
          RateOk P (s.setRate c r) d := by
        intro d hd hD hb
        by_cases hdc : d = c
        · subst hdc
          exact RateOk.setRate_self hst hc hne hr
        · refine (hok d hd (fun h => hD (Or.inl h)) ?_).setRate_ne r hdc fun hp =>
            hb (Relation.TransGen.single (hpar ▸ hp))
          rintro ⟨e,he,het,hde⟩
          rcases mem_cons.mp he with rfl | he
          · exact hde.elim hdc hb
          · exact hD (Or.inr ⟨e,he,het,hde⟩)
      obtain ⟨s2,e2,h2⟩ := ih c (s.setRate c r) _ hpar (by omega) hpre
      refine ⟨s2,?_,(propagateRate_frame P f c _ _ e2).1.trans hpar,fun d hd hD hn => h2 d hd ?_⟩
      · simp only [hc,↓reduceIte,bind_eq_bind,hr,bind_some]
        exact e2
      · exact fun hd' => hd'.elim hD hn
    · refine ⟨s,by simp [hc],hpar,fun d hd hD hn => hok d hd hD ?_⟩
      rintro ⟨e,he,het,hde⟩
      rcases mem_cons.mp he with rfl | he
      · exact hc (hpar ▸ het)
      · exact hn ⟨e,he,het,hde⟩

lemma propagateRate_leaf {f : ℕ} {t : κ} (h : ∀ c ∈ P.clocks, s.parent c ≠ some t) :
  propagateRate P (f + 1) t s = some s := by
  rw [propagateRate]
  suffices ∀ l ⊆ P.clocks, l.foldlM (fun s c =>
      if s.parent c = some t then do
        let r ← recalcRate P c t s
        propagateRate P f c (s.setRate c r)
      else some s) s = some s from this _ (List.Subset.refl _)
  intro l hl
  induction l with
  | nil => rfl
  | cons c l ih =>
    rw [foldlM_cons,if_neg (h c (hl (mem_cons_self ..)))]
    exact ih fun d hd => hl (mem_cons_of_mem _ hd)

/-! ### What the calls do -/

variable [Fintype κ]

variable {s : ClkState κ H} {c p : κ} {h : κ → ClkState κ H → ℤ × Option κ × H}

lemma propagateRate_leaf_card {t : κ} (h : ∀ c ∈ P.clocks, s.parent c ≠ some t) :
  propagateRate P (Fintype.card κ) t s = some s := by
  obtain ⟨f,hf⟩ := Nat.exists_eq_succ_of_ne_zero (Fintype.card_pos_iff.mpr ⟨t⟩).ne'
  rw [hf]
  exact propagateRate_leaf h

lemma clkSetRate_refused {r : BitVec 32} (h : r = 0 ∨ (P.ops c).setRate = none) (s : ClkState κ H) :
  clkSetRate P (some c) r s = some (-EINVAL, s) := by
  unfold clkSetRate
  simp only
  rcases h with rfl | h
  · split <;> rfl
  · rw [h]

lemma clkSetRate_of_hook {r : BitVec 32} {s₁ : ClkState κ H} {ret : ℤ}
  {h : BitVec 32 → ClkState κ H → Option (ℤ × ClkState κ H)} (hh : (P.ops c).setRate = some h) (hr : r ≠ 0)
  (e : h r s = some (ret, s₁)) : clkSetRate P (some c) r s =
    if ret = 0 then (propagateRate P (Fintype.card κ) c s₁).map (fun s' => (ret, s')) else some (ret, s₁) := by
  unfold clkSetRate
  simp only [hh,hr,↓reduceIte,e,bind_eq_bind,bind_some]
  split
  · exact map_eq_bind.symm
  · rfl

lemma clkSetParent_of_hook
  (hh : (P.ops c).setParent = some h) : clkSetParent P (some c) (some p) s =
    if (h p s).1 = 0 then (recalcRate P c p { s.setParent c (some p) with hw := (h p s).2.2 }).bind fun r =>
      (propagateRate P (Fintype.card κ) c ({ s.setParent c (some p) with hw := (h p s).2.2 }.setRate c r)).map
        fun s' => (0, s')
    else some ((h p s).1, { s.setParent c (h p s).2.1 with hw := (h p s).2.2 }) := by
  have hlink : ({ s.setParent c (h p s).2.1 with hw := (h p s).2.2 } : ClkState κ H).setParent c (some p) =
      { s.setParent c (some p) with hw := (h p s).2.2 } := by
    simp [ClkState.setParent]
  unfold clkSetParent
  simp only [hh,hlink,bind_eq_bind]
  split
  · rename_i h0
    simp only [map_eq_bind,h0]
    rfl
  · rfl

lemma clkSetParent_eq_zero {s' : ClkState κ H}
  (e : clkSetParent P (some c) (some p) s = some (0, s')) :
  ∃ hw r, propagateRate P (Fintype.card κ) c ({ s.setParent c (some p) with hw := hw }.setRate c r) = some s' := by
  cases hh : (P.ops c).setParent with
  | none =>
    simp only [clkSetParent,hh,Option.some.injEq,Prod.mk.injEq] at e
    exact absurd e.1 (by decide)
  | some h =>
    rw [clkSetParent_of_hook hh] at e
    split at e
    · obtain ⟨r,-,e⟩ := bind_eq_some_iff.mp e
      obtain ⟨t,e',he⟩ := map_eq_some_iff.mp e
      cases he
      exact ⟨_,r,e'⟩
    · rename_i h0
      exact absurd (Prod.mk.inj (Option.some.inj e)).1 h0

lemma clkSetParent_leaf
  {link : Option κ} {hw : H} (hh : (P.ops c).setParent = some h) (hr : h p s = (0, link, hw)) (hpc : p ≠ c)
  (hleaf : ∀ d ∈ P.clocks, s.parent d ≠ some c) :
  ∃ r, recalcRate P c p { s.setParent c (some p) with hw := hw } = some r ∧
    clkSetParent P (some c) (some p) s =
      some (0, { s.setParent c (some p) with hw := hw }.setRate c r) := by
  obtain ⟨r,e⟩ := recalcRate_isSome (P := P) (s := { s.setParent c (some p) with hw := hw }) (c := c) (t := p)
    (show Function.update s.parent c (some p) c = some p from update_self ..)
  have hleaf' : ∀ d ∈ P.clocks,
      ({ s.setParent c (some p) with hw := hw }.setRate c r).parent d ≠ some c := by
    intro d hd
    show Function.update s.parent c (some p) d ≠ some c
    by_cases hdc : d = c
    · subst hdc
      simpa using hpc
    · rw [update_of_ne hdc]
      exact hleaf d hd
  refine ⟨r,e,?_⟩
  rw [clkSetParent_of_hook hh,hr,if_pos rfl,e,bind_some,propagateRate_leaf_card hleaf',map_some]

end Mx27.Clk
