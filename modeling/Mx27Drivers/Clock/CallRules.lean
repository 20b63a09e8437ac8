/-
# Invariants of enable and disable

What `__clk_enable` and `__clk_disable` do to one clock is a handful of small steps.
-/
import Mx27Drivers.Clock.Basic

namespace Mx27.Clk

open Option Function

variable {κ H : Type} {P : Platform κ H}

def NeverFails (P : Platform κ H) : Prop :=
  ∀ c h, (P.ops c).enable = some h → ∀ hw, (h hw).1 = 0

lemma NeverFails.runEnable (hnf : NeverFails P) (c : κ) (s : ClkState κ H) : (runEnable P c s).1 = 0 := by
  unfold Clk.runEnable
  split
  · exact hnf c _ ‹_› s.hw
  · rfl

lemma runEnable_frame (c : κ) (s : ClkState κ H) : (runEnable P c s).2.parent = s.parent ∧
  (runEnable P c s).2.secondary = s.secondary ∧ (runEnable P c s).2.usecount = s.usecount ∧
  (runEnable P c s).2.rate = s.rate := by
  unfold runEnable
  split <;> exact ⟨rfl,rfl,rfl,rfl⟩

lemma runDisable_frame (c : κ) (s : ClkState κ H) : (runDisable P c s).parent = s.parent ∧
  (runDisable P c s).secondary = s.secondary ∧ (runDisable P c s).usecount = s.usecount ∧
  (runDisable P c s).rate = s.rate := by
  unfold runDisable
  split <;> exact ⟨rfl,rfl,rfl,rfl⟩

lemma onLink_eq_some {α : Type} {o : Option κ} {z a : α} {call : κ → Option α}
  (h : onLink o z call = some a) : o = none ∧ a = z ∨ ∃ p, o = some p ∧ call p = some a := by
  cases o with
  | none => exact Or.inl ⟨rfl,(Option.some.inj h).symm⟩
  | some p => exact Or.inr ⟨p,rfl,h⟩

def LinksIn (R : κ → Prop) (s : ClkState κ H) : Prop :=
  ∀ c d, R c → s.parent c = some d ∨ s.secondary c = some d → R d

def NoDependents (s : ClkState κ H) (d : κ) : Prop := ∀ c, s.parent c ≠ some d ∧ s.secondary c ≠ some d

lemma NoDependents.linksIn {s t : ClkState κ H} {d : κ} (h : NoDependents s d) (hp : t.parent = s.parent)
  (hq : t.secondary = s.secondary) : LinksIn (· ≠ d) t := by
  rintro c e - hl rfl
  rw [hp,hq] at hl
  exact hl.elim (h c).1 (h c).2

variable [DecidableEq κ]

variable {f : ℕ} {c : κ} {s s' : ClkState κ H} {o : Option κ} {r : ℤ} {R : κ → Prop} {I : ClkState κ H → Prop} {ρ : κ → ℕ}

lemma clkDisableRec_cases (h : clkDisableRec P (f + 1) c s = some s') :
  (¬ 0 < s.usecount c ∧ s' = s) ∨
  (0 < s.usecount c ∧ s.usecount c - 1 ≠ 0 ∧ s' = s.setUsecount c (s.usecount c - 1)) ∨
  (0 < s.usecount c ∧ s.usecount c - 1 = 0 ∧ ∃ t s₁, t = runDisable P c (s.setUsecount c (s.usecount c - 1)) ∧
    onLink (t.parent c) t (fun p => clkDisableRec P f p t) = some s₁ ∧
    onLink (s₁.secondary c) s₁ (fun q => clkDisableRec P f q s₁) = some s') := by
  rw [clkDisableRec] at h
  split at h
  · rename_i hpos
    simp only [ClkState.setUsecount,update_self] at h
    split at h
    · rename_i hz
      simp only [bind_eq_bind,bind_eq_some_iff] at h
      obtain ⟨s₁,h1,h⟩ := h
      exact Or.inr (Or.inr ⟨hpos,hz,_,s₁,rfl,h1,h⟩)
    · rename_i hz
      exact Or.inr (Or.inl ⟨hpos,hz,(Option.some.inj h).symm⟩)
  · rename_i hpos
    exact Or.inl ⟨hpos,(Option.some.inj h).symm⟩

lemma onLink_zero (hz : ∀ c s s' r, clkEnableRec P f c s = some (r, s') → r = 0)
  {t u : ClkState κ H} (h : onLink o (0, t) (fun p => clkEnableRec P f p t) = some (r, u)) : r = 0 := by
  rcases onLink_eq_some h with ⟨-,he⟩ | ⟨p,-,h⟩
  · exact (Prod.mk.inj he).1
  · exact hz p t u r h

lemma clkEnableRec_zero (hnf : NeverFails P) : ∀ (f : ℕ) (c : κ) (s s' : ClkState κ H) (r : ℤ),
  clkEnableRec P f c s = some (r, s') → r = 0
  | 0, _, _, _, _, h => by simp [clkEnableRec] at h
  | f + 1, c, s, s', r, h => by
    have hz := clkEnableRec_zero hnf f
    rw [clkEnableRec] at h
    simp only at h
    split at h
    · simp only [bind_eq_bind,bind_eq_some_iff] at h
      obtain ⟨⟨r1,s1⟩,h1,h⟩ := h
      rw [if_neg (not_not.mpr (onLink_zero hz h1))] at h
      simp only [bind_eq_some_iff] at h
      obtain ⟨⟨r2,s2⟩,h2,h⟩ := h
      rw [if_neg (not_not.mpr (onLink_zero hz h2)),if_neg (not_not.mpr (hnf.runEnable c s2))] at h
      exact (Prod.mk.inj (Option.some.inj h)).1.symm
    · exact (Prod.mk.inj (Option.some.inj h)).1.symm

lemma clkEnableRec_cases (hnf : NeverFails P)
  (h : clkEnableRec P (f + 1) c s = some (r, s')) :
  (s.usecount c ≠ 0 ∧ s' = s.setUsecount c (s.usecount c + 1)) ∨
  (s.usecount c = 0 ∧ ∃ t s₁ s₂, t = s.setUsecount c (s.usecount c + 1) ∧
    onLink (t.parent c) (0, t) (fun p => clkEnableRec P f p t) = some (0, s₁) ∧
    onLink (s₁.secondary c) (0, s₁) (fun q => clkEnableRec P f q s₁) = some (0, s₂) ∧
    s' = (runEnable P c s₂).2) := by
  have hzero := clkEnableRec_zero hnf f
  rw [clkEnableRec] at h
  simp only at h
  split at h
  · rename_i hz
    simp only [bind_eq_bind,bind_eq_some_iff] at h
    obtain ⟨⟨r1,s₁⟩,h1,h⟩ := h
    obtain rfl := onLink_zero hzero h1
    rw [if_neg (by simp)] at h
    simp only [bind_eq_some_iff] at h
    obtain ⟨⟨r2,s₂⟩,h2,h⟩ := h
    obtain rfl := onLink_zero hzero h2
    rw [if_neg (by simp),if_neg (not_not.mpr (hnf.runEnable c s₂))] at h
    exact Or.inr ⟨hz,_,s₁,s₂,rfl,h1,h2,(Prod.mk.inj (Option.some.inj h)).2.symm⟩
  · rename_i hz
    exact Or.inl ⟨hz,(Prod.mk.inj (Option.some.inj h)).2.symm⟩

/-! ### The rules -/

structure DisableInv (P : Platform κ H) (R : κ → Prop) (I : ClkState κ H → Prop) : Prop where
  links : ∀ s, I s → LinksIn R s
  lower : ∀ s c, I s → R c → 0 < s.usecount c → s.usecount c - 1 ≠ 0 →
    I (s.setUsecount c (s.usecount c - 1))
  stop : ∀ s c, I s → R c → 0 < s.usecount c → s.usecount c - 1 = 0 →
    I (runDisable P c (s.setUsecount c (s.usecount c - 1)))

structure EnableInv (P : Platform κ H) (R : κ → Prop) (I : Set κ → ClkState κ H → Prop) : Prop where
  links : ∀ A s, I A s → LinksIn R s
  raise : ∀ A s c, I A s → R c → s.usecount c ≠ 0 → I A (s.setUsecount c (s.usecount c + 1))
  start : ∀ A s c, I A s → R c → s.usecount c = 0 → I (insert c A) (s.setUsecount c (s.usecount c + 1))
  finish : ∀ A s c, I (insert c A) s → R c → I A (runEnable P c s).2

lemma clkDisableRec_inv (hI : DisableInv P R I) :
  ∀ (f : ℕ) (c : κ) (s s' : ClkState κ H), R c → I s → clkDisableRec P f c s = some s' → I s'
  | 0, _, _, _, _, _, h => by simp [clkDisableRec] at h
  | f + 1, c, s, s', hc, hs, h => by
    have hlink : ∀ {o : Option κ} {t u : ClkState κ H}, (∀ p, o = some p → R p) → I t →
        onLink o t (fun p => clkDisableRec P f p t) = some u → I u := by
      intro o t u ho ht h
      rcases onLink_eq_some h with ⟨-,rfl⟩ | ⟨p,hp,h⟩
      · exact ht
      · exact clkDisableRec_inv hI f p t u (ho p hp) ht h
    rcases clkDisableRec_cases h with ⟨-,rfl⟩ | ⟨hpos,hz,rfl⟩ | ⟨hpos,hz,t,s1,rfl,h1,h2⟩
    · exact hs
    · exact hI.lower s c hs hc hpos hz
    · have ht := hI.stop s c hs hc hpos hz
      have hs1 := hlink (fun p hp => hI.links _ ht c p hc (Or.inl hp)) ht h1
      exact hlink (fun q hq => hI.links _ hs1 c q hc (Or.inr hq)) hs1 h2

lemma onLink_disable_inv (hI : DisableInv P R I)
  (ho : ∀ p, o = some p → R p) (hs : I s)
  (h : onLink o s (fun p => clkDisableRec P f p s) = some s') : I s' := by
  rcases onLink_eq_some h with ⟨-,rfl⟩ | ⟨p,hp,h⟩
  · exact hs
  · exact clkDisableRec_inv hI f p s s' (ho p hp) hs h

lemma clkEnableRec_inv (hnf : NeverFails P) {I : Set κ → ClkState κ H → Prop}
  (hI : EnableInv P R I) : ∀ (f : ℕ) (c : κ) (A : Set κ) (s s' : ClkState κ H) (r : ℤ),
    R c → I A s → clkEnableRec P f c s = some (r, s') → I A s'
  | 0, _, _, _, _, _, _, _, h => by simp [clkEnableRec] at h
  | f + 1, c, A, s, s', r, hc, hs, h => by
    have hlink : ∀ {o : Option κ} {t u : ClkState κ H}, (∀ p, o = some p → R p) → I (insert c A) t →
        onLink o (0, t) (fun p => clkEnableRec P f p t) = some (0, u) → I (insert c A) u := by
      intro o t u ho ht h
      rcases onLink_eq_some h with ⟨-,he⟩ | ⟨p,hp,h⟩
      · cases he
        exact ht
      · exact clkEnableRec_inv hnf hI f p _ t u 0 (ho p hp) ht h
    rcases clkEnableRec_cases hnf h with ⟨hz,rfl⟩ | ⟨hz,t,s1,s2,rfl,h1,h2,rfl⟩
    · exact hI.raise A s c hs hc hz
    · have ht := hI.start A s c hs hc hz
      have hs1 := hlink (fun p hp => hI.links _ _ ht c p hc (Or.inl hp)) ht h1
      have hs2 := hlink (fun q hq => hI.links _ _ hs1 c q hc (Or.inr hq)) hs1 h2
      exact hI.finish A s2 c hs2 hc

lemma clkEnableRec_links (hnf : NeverFails P)
  (h : clkEnableRec P f c s = some (r, s')) :
  s'.parent = s.parent ∧ s'.secondary = s.secondary ∧ s'.rate = s.rate := by
  refine clkEnableRec_inv hnf (R := fun _ => True)
    (I := fun _ t => t.parent = s.parent ∧ t.secondary = s.secondary ∧ t.rate = s.rate)
    ⟨fun _ _ _ _ _ _ _ => trivial,fun _ _ _ h _ _ => h,fun _ _ _ h _ _ => h,fun _ t c h _ => ?_⟩
    f c ∅ s s' r trivial ⟨rfl,rfl,rfl⟩ h
  obtain ⟨h1,h2,-,h4⟩ := runEnable_frame (P := P) c t
  rwa [h1,h2,h4]

lemma clkDisableRec_links (h : clkDisableRec P f c s = some s') :
  s'.parent = s.parent ∧ s'.secondary = s.secondary ∧ s'.rate = s.rate := by
  refine clkDisableRec_inv (R := fun _ => True)
    (I := fun t => t.parent = s.parent ∧ t.secondary = s.secondary ∧ t.rate = s.rate)
    ⟨fun _ _ _ _ _ _ => trivial,fun _ _ h _ _ _ => h,fun t c h _ _ _ => ?_⟩ f c s s' trivial ⟨rfl,rfl,rfl⟩ h
  obtain ⟨h1,h2,-,h4⟩ := runDisable_frame (P := P) c (t.setUsecount c (t.usecount c - 1))
  rwa [h1,h2,h4]

lemma clkEnableRec_count_other (hnf : NeverFails P) {d : κ}
  (hd : NoDependents s d) (hc : c ≠ d) (e : clkEnableRec P f c s = some (r, s')) :
  s'.usecount d = s.usecount d := by
  have hinv : EnableInv P (· ≠ d) fun _ t =>
      t.parent = s.parent ∧ t.secondary = s.secondary ∧ t.usecount d = s.usecount d := by
    refine ⟨fun _ t ht => hd.linksIn ht.1 ht.2.1,fun _ t c ht hc _ => ⟨ht.1,ht.2.1,?_⟩,
      fun _ t c ht hc _ => ⟨ht.1,ht.2.1,?_⟩,fun _ t c ht _ => ?_⟩
    · exact (update_of_ne hc.symm ..).trans ht.2.2
    · exact (update_of_ne hc.symm ..).trans ht.2.2
    · obtain ⟨h1,h2,h3,-⟩ := runEnable_frame (P := P) c t
      rwa [h1,h2,h3]
  exact (clkEnableRec_inv hnf hinv f c ∅ s s' r hc ⟨rfl,rfl,rfl⟩ e).2.2

lemma clkEnableRec_count_self (hnf : NeverFails P)
  (hc : NoDependents s c) (e : clkEnableRec P f c s = some (r, s')) :
  s'.usecount c = s.usecount c + 1 := by
  cases f with
  | zero => simp [clkEnableRec] at e
  | succ f =>
    have hlink : ∀ {o : Option κ} {t u : ClkState κ H}, (o = t.parent c ∨ o = t.secondary c) → NoDependents t c →
        onLink o (0, t) (fun p => clkEnableRec P f p t) = some (0, u) →
        u.usecount c = t.usecount c ∧ NoDependents u c := by
      intro o t u ho ht h
      rcases onLink_eq_some h with ⟨-,he⟩ | ⟨p,hp,h⟩
      · cases he
        exact ⟨rfl,ht⟩
      · have hpc : p ≠ c := by
          rintro rfl
          rcases ho with rfl | rfl
          · exact (ht p).1 hp
          · exact (ht p).2 hp
        obtain ⟨h1,h2,-⟩ := clkEnableRec_links hnf h
        refine ⟨clkEnableRec_count_other hnf ht hpc h,?_⟩
        unfold NoDependents
        rwa [h1,h2]
    rcases clkEnableRec_cases hnf e with ⟨-,rfl⟩ | ⟨-,t,s1,s2,rfl,h₁,h₂,rfl⟩
    · exact update_self ..
    · obtain ⟨hu1,hd1⟩ := hlink (t := s.setUsecount c (s.usecount c + 1)) (Or.inl rfl) hc h₁
      obtain ⟨hu2,-⟩ := hlink (Or.inr rfl) hd1 h₂
      rw [(runEnable_frame c s2).2.2.1,hu2,hu1]
      exact update_self ..

def RankedLinks (ρ : κ → ℕ) (par sec : κ → Option κ) : Prop :=
  ∀ c d, par c = some d ∨ sec c = some d → ρ d < ρ c

lemma disable_onLink
  (hret : ∀ p, ρ p < f → ∃ s', clkDisableRec P f p s = some s') (ho : ∀ p, o = some p → ρ p < f) :
  ∃ s', onLink o s (fun p => clkDisableRec P f p s) = some s' ∧ s'.parent = s.parent ∧
    s'.secondary = s.secondary := by
  cases o with
  | none => exact ⟨s,rfl,rfl,rfl⟩
  | some p =>
    obtain ⟨s',e⟩ := hret p (ho p rfl)
    obtain ⟨h1,h2,-⟩ := clkDisableRec_links e
    exact ⟨s',e,h1,h2⟩

lemma clkDisableRec_returns : ∀ (f : ℕ) (c : κ) (s : ClkState κ H),
  RankedLinks ρ s.parent s.secondary → ρ c < f → ∃ s', clkDisableRec P f c s = some s'
  | 0, _, _, _, h => by omega
  | f + 1, c, s, hρ, hf => by
    rw [clkDisableRec]
    simp only
    split
    · split
      · generalize ht : runDisable P c (s.setUsecount c (s.usecount c - 1)) = t
        have hl : t.parent = s.parent ∧ t.secondary = s.secondary := by
          rw [← ht,(runDisable_frame c _).1,(runDisable_frame c _).2.1]
          exact ⟨rfl,rfl⟩
        obtain ⟨s1,e1,hp1,hq1⟩ := disable_onLink (o := t.parent c)
          (fun p hp => clkDisableRec_returns f p t (by rw [hl.1,hl.2]; exact hρ) hp)
          (fun p hp => by have := hρ c p (Or.inl (hl.1 ▸ hp)); omega)
        obtain ⟨s2,e2,-⟩ := disable_onLink (o := s1.secondary c)
          (fun p hp => clkDisableRec_returns f p s1 (by rw [hp1,hq1,hl.1,hl.2]; exact hρ) hp)
          (fun p hp => by have := hρ c p (Or.inr (hl.2 ▸ hq1 ▸ hp)); omega)
        refine ⟨s2,?_⟩
        rw [e1]
        exact e2
      · exact ⟨_,rfl⟩
    · exact ⟨_,rfl⟩

lemma enable_onLink (hnf : NeverFails P)
  (hret : ∀ p, ρ p < f → ∃ r s', clkEnableRec P f p s = some (r, s'))
  (ho : ∀ p, o = some p → ρ p < f) :
  ∃ s', onLink o (0, s) (fun p => clkEnableRec P f p s) = some (0, s') ∧ s'.parent = s.parent ∧
    s'.secondary = s.secondary := by
  cases o with
  | none => exact ⟨s,rfl,rfl,rfl⟩
  | some p =>
    obtain ⟨r,s',e⟩ := hret p (ho p rfl)
    obtain rfl := clkEnableRec_zero hnf f p s s' r e
    obtain ⟨h1,h2,-⟩ := clkEnableRec_links hnf e
    exact ⟨s',e,h1,h2⟩

lemma clkEnableRec_returns (hnf : NeverFails P) : ∀ (f : ℕ) (c : κ) (s : ClkState κ H),
  RankedLinks ρ s.parent s.secondary → ρ c < f → ∃ r s', clkEnableRec P f c s = some (r, s')
  | 0, _, _, _, h => by omega
  | f + 1, c, s, hρ, hf => by
    rw [clkEnableRec]
    simp only
    split
    · generalize ht : s.setUsecount c (s.usecount c + 1) = t
      have hl : t.parent = s.parent ∧ t.secondary = s.secondary := by
        rw [← ht]
        exact ⟨rfl,rfl⟩
      obtain ⟨s1,e1,hp1,hq1⟩ := enable_onLink hnf (o := t.parent c)
        (fun p hp => clkEnableRec_returns hnf f p t (by rw [hl.1,hl.2]; exact hρ) hp)
        (fun p hp => by have := hρ c p (Or.inl (hl.1 ▸ hp)); omega)
      obtain ⟨s2,e2,-⟩ := enable_onLink hnf (o := s1.secondary c)
        (fun p hp => clkEnableRec_returns hnf f p s1 (by rw [hp1,hq1,hl.1,hl.2]; exact hρ) hp)
        (fun p hp => by have := hρ c p (Or.inr (hl.2 ▸ hq1 ▸ hp)); omega)
      refine ⟨0,(runEnable P c s2).2,?_⟩
      simp [e1,e2,hnf.runEnable]
    · exact ⟨_,_,rfl⟩

end Mx27.Clk
