/-
# Use counts balance
-/
import Mx27Drivers.Lib.RefGraph
import Mx27Drivers.Clock.Basic

namespace Mx27.Clk

open Option Function

open RefGraph

variable {κ H : Type}

def count (s : ClkState κ H) (c : κ) : ℤ := (s.usecount c).toInt

def SameLinks (s s' : ClkState κ H) : Prop := s'.parent = s.parent ∧ s'.secondary = s.secondary

lemma SameLinks.refl (s : ClkState κ H) : SameLinks s s := ⟨rfl, rfl⟩

lemma SameLinks.trans {s s' s'' : ClkState κ H} (h : SameLinks s s') (h' : SameLinks s' s'') :
  SameLinks s s'' := ⟨h'.1.trans h.1, h'.2.trans h.2⟩

def AcyclicLinks (s : ClkState κ H) : Prop :=
  ∀ c, ¬ Relation.TransGen (fun d e => s.parent d = some e ∨ s.secondary d = some e) c c

lemma acyclicLinks_of_rank {s : ClkState κ H} (ρ : κ → ℕ)
  (h : ∀ d e, s.parent d = some e ∨ s.secondary d = some e → ρ e < ρ d) : AcyclicLinks s := by
  intro c hc
  have hlt : ∀ {a b : κ}, Relation.TransGen (fun d e => s.parent d = some e ∨ s.secondary d = some e) a b →
      ρ b < ρ a := by
    intro a b hab
    induction hab with
    | single hab => exact h _ _ hab
    | tail _ hbc ih => exact (h _ _ hbc).trans ih
  exact lt_irrefl _ (hlt hc)

section Hooks

variable (P : Platform κ H)

lemma sameLinks_runDisable (c : κ) (s : ClkState κ H) : SameLinks s (runDisable P c s) := by
  unfold runDisable; split <;> exact ⟨rfl,rfl⟩

lemma sameLinks_runEnable (c : κ) (s : ClkState κ H) : SameLinks s (runEnable P c s).2 := by
  unfold runEnable; split <;> exact ⟨rfl,rfl⟩

lemma count_runDisable (c : κ) (s : ClkState κ H) : count (runDisable P c s) = count s := by
  unfold runDisable; split <;> rfl

lemma count_runEnable (c : κ) (s : ClkState κ H) : count (runEnable P c s).2 = count s := by
  unfold runEnable; split <;> rfl

end Hooks

section Links

variable [DecidableEq κ]

def links (s : ClkState κ H) (d c : κ) : ℕ :=
  (if s.parent d = some c then 1 else 0) + if s.secondary d = some c then 1 else 0

lemma SameLinks.links {s s' : ClkState κ H} (h : SameLinks s s') : links s' = links s := by
  funext d c; simp only [Clk.links,h.1,h.2]

lemma sameLinks_setUsecount (s : ClkState κ H) (c : κ) (u : Int8) : SameLinks s (s.setUsecount c u) :=
  ⟨rfl, rfl⟩

lemma acyclic_of_links {s : ClkState κ H} (h : AcyclicLinks s) : Acyclic (links s) := by
  intro c hc
  refine h c (Relation.TransGen.mono (fun d e hde => ?_) c c hc)
  unfold Dep links at hde
  by_contra hn
  push Not at hn
  simp [hn.1,hn.2] at hde

def bumpLink (x : κ → ℕ) : Option κ → κ → ℕ
  | some p => bump x p
  | none => x

lemma bumpLink_apply (x : κ → ℕ) (o : Option κ) (e : κ) :
  bumpLink x o e = x e + if o = some e then 1 else 0 := by
  cases o with
  | none => simp [bumpLink]
  | some p => simp only [bumpLink,bump,Option.some.injEq,eq_comm]

lemma bumpLinks_eq (s : ClkState κ H) (x : κ → ℕ) (c : κ) :
  bumpLink (bumpLink x (s.parent c)) (s.secondary c) = fun e => x e + links s c e := by
  funext e; rw [bumpLink_apply,bumpLink_apply,links]; omega

lemma bumpLink_comm (x : κ → ℕ) (o o' : Option κ) :
  bumpLink (bumpLink x o) o' = bumpLink (bumpLink x o') o := by
  funext e; simp only [bumpLink_apply]; omega

/-! ### The counters -/

lemma toInt_add_one {u : Int8} (h : u.toInt < 127) : (u + 1).toInt = u.toInt + 1 := by
  have := u.le_toInt
  rw [Int8.toInt_add,Int8.toInt_one,Int.bmod_eq_of_le] <;> omega

lemma toInt_sub_one {u : Int8} (h : 0 < u.toInt) : (u - 1).toInt = u.toInt - 1 := by
  have := u.toInt_lt
  rw [Int8.toInt_sub,Int8.toInt_one,Int.bmod_eq_of_le] <;> omega

lemma pos_iff (u : Int8) : 0 < u ↔ 0 < u.toInt := by
  rw [Int8.lt_iff_toInt_lt,Int8.toInt_zero]

lemma eq_zero_iff (u : Int8) : u = 0 ↔ u.toInt = 0 := by
  rw [← Int8.toInt_inj,Int8.toInt_zero]

lemma count_setUsecount (s : ClkState κ H) (c : κ) (u : Int8) :
  count (s.setUsecount c u) = Function.update (count s) c u.toInt := by
  funext e
  by_cases he : e = c
  · subst he; simp [count,ClkState.setUsecount]
  · simp [count,ClkState.setUsecount,he]

variable (P : Platform κ H)

/-! ### One call

The clocks of `A` are in use and wait for the call: they are of higher rank
than its clock, so the call does not come back to them. -/

section Calls

variable [Fintype κ] {w : κ → κ → ℕ} {J : Finset κ → ClkState κ H → Prop} {A : Finset κ} {s t : ClkState κ H}
  {x y : κ → ℕ} {c : κ} {f : ℕ}

structure CallInv (J : Finset κ → ClkState κ H → Prop) : Prop where
  raise : ∀ {A s c}, J A s → 0 < count s c → count s c < 127 → J A (s.setUsecount c (s.usecount c + 1))
  start : ∀ {A s c}, J A s → c ∉ A → count s c = 0 → J (insert c A) (s.setUsecount c (s.usecount c + 1))
  hook : ∀ {A s c}, J (insert c A) s → c ∉ A → 0 < count s c →
    if (runEnable P c s).1 = 0 then J A (runEnable P c s).2 else J (insert c A) (runEnable P c s).2
  giveUp : ∀ {A s c}, J (insert c A) s → c ∉ A → count s c = 1 → J A (s.setUsecount c (s.usecount c - 1))
  lower : ∀ {A s c}, J A s → 1 < count s c → J A (s.setUsecount c (s.usecount c - 1))
  stop : ∀ {A s c}, J A s → count s c = 1 → J A (runDisable P c (s.setUsecount c (s.usecount c - 1)))

lemma rank_link (hw : Acyclic w) {p : κ} (hs : links s = w)
  (hp : s.parent c = some p ∨ s.secondary c = some p) : rank w p < rank w c := by
  refine rank_lt hw ?_
  rw [← hs,links]
  rcases hp with hp | hp <;> simp [hp]

structure Settled (w : κ → κ → ℕ) (J : Finset κ → ClkState κ H → Prop) (A : Finset κ) (s t : ClkState κ H) (x : κ → ℕ) :
    Prop where
  same : SameLinks s t
  balanced : Balanced w A (count t) x
  inv : J A t

def DisableSpec (w : κ → κ → ℕ) (J : Finset κ → ClkState κ H → Prop) (f : ℕ) : Prop :=
  ∀ (c : κ) (s : ClkState κ H) (x : κ → ℕ) (A : Finset κ), links s = w → rank w c < f →
    (∀ a ∈ A, rank w c < rank w a) → Balanced w A (count s) x → J A s → 0 < x c →
    ∃ s', clkDisableRec P f c s = some s' ∧ Settled w J A s s' (drop x c)

def EnableSpec (w : κ → κ → ℕ) (J : Finset κ → ClkState κ H → Prop) (f : ℕ) : Prop :=
  ∀ (c : κ) (s : ClkState κ H) (x : κ → ℕ) (A : Finset κ), links s = w → rank w c < f →
    (∀ a ∈ A, rank w c < rank w a) → Balanced w A (count s) x → J A s → Room w 127 A (bump x c) →
    ∃ r s', clkEnableRec P f c s = some (r, s') ∧ Settled w J A s s' (if r = 0 then bump x c else x)

variable {P} {o : Option κ}

lemma DisableSpec.link (h : DisableSpec P w J f) (hw : Acyclic w) (hs : links s = w) (hf : rank w c < f + 1)
  (hA : ∀ a ∈ A, rank w c ≤ rank w a) (ho : s.parent c = o ∨ s.secondary c = o)
  (ht : Settled w J A s t (bumpLink y o)) :
  ∃ t', (onLink o t fun p => clkDisableRec P f p t) = some t' ∧ Settled w J A s t' y := by
  cases o with
  | none => exact ⟨t,rfl,ht⟩
  | some p =>
    have hp := rank_link hw hs ho
    obtain ⟨t',e,l,b,j⟩ := h p t (bump y p) A (ht.same.links.trans hs) (by omega)
      (fun a ha => hp.trans_le (hA a ha)) ht.balanced ht.inv (by simp)
    exact ⟨t',e,ht.same.trans l,by rwa [drop_bump] at b,j⟩

lemma EnableSpec.link (h : EnableSpec P w J f) (hw : Acyclic w) (hs : links s = w) (hf : rank w c < f + 1)
  (hA : ∀ a ∈ A, rank w c ≤ rank w a) (ho : s.parent c = o ∨ s.secondary c = o) (ht : Settled w J A s t y)
  (hr : Room w 127 A (bumpLink y o)) :
  ∃ r t', (onLink o (0, t) fun p => clkEnableRec P f p t) = some (r, t') ∧
    Settled w J A s t' (if r = 0 then bumpLink y o else y) := by
  cases o with
  | none => exact ⟨0,t,rfl,by rwa [if_pos rfl]⟩
  | some p =>
    have hp := rank_link hw hs ho
    obtain ⟨r,t',e,l,b,j⟩ := h p t y A (ht.same.links.trans hs) (by omega) (fun a ha => hp.trans_le (hA a ha))
      ht.balanced ht.inv hr
    exact ⟨r,t',e,ht.same.trans l,b,j⟩

variable (P)

lemma disableRec_spec (hw : Acyclic w) (hJ : CallInv P J) : ∀ f, DisableSpec P w J f := by
  intro f
  induction f with
  | zero => intro c s x A _ h; omega
  | succ f ih =>
    intro c s x A hs hf hA hb hj hx
    have hc : c ∉ A := fun h => (lt_irrefl _ (hA c h)).elim
    have hA' := fun a ha => (hA a ha).le
    have hpos : 0 < count s c := by have := hb.nonneg c; omega
    -- with `c` left out of the sum its count falls with its outside references
    set s1 := s.setUsecount c (s.usecount c - 1) with hs1
    have hcount : count s1 = Function.update (count s) c (count s c - 1) := by
      rw [hs1,count_setUsecount,toInt_sub_one hpos]; rfl
    have hcount1 : count s1 c = count s c - 1 := by rw [hcount,update_self]
    have hb' : Balanced w (insert c A) (count s1) (fun e => drop x c e + w c e) := by
      rw [hcount]
      refine ((Balanced.insert_iff hc hpos (y := fun e => x e + w c e) fun _ => rfl).mpr hb).update
        (Finset.mem_insert_self c A) ?_ ?_
      · simp only [drop,↓reduceIte]; omega
      · intro e he; simp [drop,he]
    have hlinks1 : SameLinks s s1 := sameLinks_setUsecount s c _
    rw [clkDisableRec,if_pos ((pos_iff _).mpr hpos)]
    simp only [← hs1]
    by_cases h0 : s1.usecount c = 0
    · rw [if_pos h0]
      have hidle : ¬ 0 < count s1 c := by
        rw [count,(eq_zero_iff _).mp h0]; omega
      have h2 : Settled w J A s (runDisable P c s1) (bumpLink (bumpLink (drop x c) (s.secondary c)) (s.parent c)) := by
        refine ⟨hlinks1.trans (sameLinks_runDisable P c s1),?_,hJ.stop hj (by have := hb'.nonneg c; omega)⟩
        rw [count_runDisable,bumpLink_comm,bumpLinks_eq,hs]
        exact (Balanced.insert_idle_iff hc hidle).mp hb'
      obtain ⟨s3,e3,h3⟩ := ih.link hw hs hf hA' (Or.inl rfl) h2
      obtain ⟨s4,e4,h4⟩ := ih.link hw hs hf hA' (Or.inr rfl) h3
      exact ⟨s4,by rw [h2.same.1,e3,bind_eq_bind,bind_some,h3.same.2,e4],h4⟩
    · rw [if_neg h0]
      have hne : count s1 c ≠ 0 := fun h => h0 ((eq_zero_iff _).mpr h)
      exact ⟨s1,rfl,hlinks1,(Balanced.insert_iff hc (by omega) fun _ => rfl).mp hb',hJ.lower hj (by omega)⟩

lemma enableErr1_spec (hw : Acyclic w) (hJ : CallInv P J) (hc : c ∉ A) (hidle : count s c = 0) (hb : Balanced w A (count s) x) (r : ℤ)
  (t : ClkState κ H) (ht : Settled w J (insert c A) s t (bump x c)) :
  ∃ t', clkEnableErr1 c r t = some (r, t') ∧ Settled w J A s t' x := by
  have hcount : count t = Function.update (count s) c 1 := by
    have hb1 := ((Balanced.insert_idle_iff hc (by omega)).mpr hb).bump (Finset.mem_insert_self c A)
    rw [hidle] at hb1
    exact ht.balanced.unique hw hb1
  have h1 : (t.usecount c).toInt = 1 := by
    have := congrFun hcount c
    rwa [update_self] at this
  refine ⟨_,rfl,ht.same.trans (sameLinks_setUsecount t c _),?_,hJ.giveUp ht.inv hc h1⟩
  rw [count_setUsecount,toInt_sub_one (by omega),h1,hcount,update_idem,sub_self,← hidle,
    update_eq_self]
  exact hb

lemma enableRec_spec (hw : Acyclic w) (hJ : CallInv P J) : ∀ f, EnableSpec P w J f := by
  intro f
  induction f with
  | zero => intro c s x A _ h; omega
  | succ f ih =>
    intro c s x A hs hf hA hb hj hr
    have hc : c ∉ A := fun h => (lt_irrefl _ (hA c h)).elim
    have hnn := hb.nonneg c
    have hcount : count (s.setUsecount c (s.usecount c + 1)) = Function.update (count s) c (count s c + 1) := by
      rw [count_setUsecount,toInt_add_one (hr.lt hw hb)]; rfl
    rw [clkEnableRec]
    by_cases h0 : s.usecount c = 0
    swap
    · -- already in use: the count rises, nothing else happens
      have hne : count s c ≠ 0 := fun h => h0 ((eq_zero_iff _).mpr h)
      refine ⟨0,_,if_neg h0,sameLinks_setUsecount s c _,?_,hJ.raise hj (by omega) (hr.lt hw hb)⟩
      rw [if_pos rfl,hcount]
      exact hb.bump_used hc (by omega)
    rw [if_pos h0]
    have hidle : count s c = 0 := (eq_zero_iff _).mp h0
    have hA' : ∀ a ∈ insert c A, rank w c ≤ rank w a :=
      (Finset.forall_mem_insert ..).mpr ⟨le_rfl,fun a ha => (hA a ha).le⟩
    have herr1 := enableErr1_spec P hw hJ hc hidle hb
    have herr2 : ∀ (r : ℤ) (t : ClkState κ H), Settled w J (insert c A) s t (bumpLink (bump x c) (s.parent c)) →
        ∃ t', clkEnableErr2 P f c r t = some (r, t') ∧ Settled w J A s t' x := by
      intro r t ht
      obtain ⟨t1,e1,h1⟩ := (disableRec_spec P hw hJ f).link hw hs hf hA' (Or.inl rfl) ht
      obtain ⟨t2,e2,h2⟩ := herr1 r t1 h1
      exact ⟨t2,by rw [clkEnableErr2,ht.same.1,e1]; exact e2,h2⟩
    have h1 : Settled w J (insert c A) s (s.setUsecount c (s.usecount c + 1)) (bump x c) := by
      refine ⟨sameLinks_setUsecount s c _,?_,hJ.start hj hc hidle⟩
      rw [hcount]
      exact ((Balanced.insert_idle_iff hc (by omega)).mpr hb).bump (Finset.mem_insert_self c A)
    -- the parent
    obtain ⟨r2,s2,e2,h2⟩ := ih.link hw hs hf hA' (Or.inl rfl) h1
      (hr.insert hc (by simp) fun e => by rw [← hs,links,bumpLink_apply]; omega)
    rw [h1.same.1,e2,bind_eq_bind,bind_some]
    by_cases hr2 : r2 = 0
    swap
    · rw [if_neg hr2] at h2
      obtain ⟨s3,e3,h3⟩ := herr1 r2 s2 h2
      exact ⟨r2,s3,(if_pos hr2).trans e3,by rwa [if_neg hr2]⟩
    rw [if_neg (not_not.mpr hr2)]
    rw [if_pos hr2] at h2
    -- the secondary
    obtain ⟨r3,s3,e3,h3⟩ := ih.link hw hs hf hA' (Or.inr rfl) h2
      (hr.insert hc (by simp) fun e => by rw [bumpLinks_eq,hs])
    rw [h2.same.2,e3,bind_some]
    by_cases hr3 : r3 = 0
    swap
    · rw [if_neg hr3] at h3
      obtain ⟨s4,e4,h4⟩ := herr2 r3 s3 h3
      exact ⟨r3,s4,(if_pos hr3).trans e4,by rwa [if_neg hr3]⟩
    rw [if_neg (not_not.mpr hr3)]
    rw [if_pos hr3] at h3
    -- the hook
    have hlinks4 := h3.same.trans (sameLinks_runEnable P c s3)
    have hb4 := h3.balanced
    rw [← count_runEnable P c s3] at hb4
    have hpos : 0 < count (runEnable P c s3).2 c := by
      have hle := hb4.nonneg c
      rw [bumpLinks_eq] at hle
      simp only [bump_self] at hle
      omega
    have hj4 := hJ.hook h3.inv hc (by rwa [count_runEnable] at hpos)
    by_cases hret : (runEnable P c s3).1 = 0
    swap
    · have h4 : Settled w J (insert c A) s (runEnable P c s3).2
          (bumpLink (bumpLink (bump x c) (s.parent c)) (s.secondary c)) := ⟨hlinks4,hb4,by rwa [if_neg hret] at hj4⟩
      obtain ⟨s5,e5,h5⟩ := (disableRec_spec P hw hJ f).link hw hs hf hA' (Or.inr rfl) h4
      obtain ⟨s6,e6,h6⟩ := herr2 _ s5 h5
      refine ⟨_,s6,(if_pos hret).trans ?_,by rwa [if_neg hret]⟩
      rw [clkEnableErr3,h4.same.2,e5]
      exact e6
    · refine ⟨0,_,if_neg (not_not.mpr hret),hlinks4,?_,by rwa [if_pos hret] at hj4⟩
      rw [bumpLinks_eq,hs] at hb4
      exact (Balanced.insert_iff hc hpos fun _ => rfl).mp hb4

end Calls

/-! ### The law -/

section Law

variable [Fintype κ] {s s' s₀ : ClkState κ H} {x : κ → ℕ} {c : κ}

def Owed (s : ClkState κ H) (v : κ → ℤ) (x : κ → ℕ) : Prop :=
  ∀ c, v c = x c + (Finset.univ.filter fun d => 0 < v d ∧ s.parent d = some c).card +
    (Finset.univ.filter fun d => 0 < v d ∧ s.secondary d = some c).card

def UseLaw (s : ClkState κ H) (x : κ → ℕ) : Prop := Owed s (count s) x

def HasRoom (s : ClkState κ H) (x : κ → ℕ) : Prop := ∃ v, Owed s v x ∧ ∀ c, v c ≤ 127

lemma held_links (s : ClkState κ H) (v : κ → ℤ) (c : κ) :
  held (links s) ∅ v c = (Finset.univ.filter fun d => 0 < v d ∧ s.parent d = some c).card +
    (Finset.univ.filter fun d => 0 < v d ∧ s.secondary d = some c).card := by
  rw [Finset.card_filter,Finset.card_filter,held]
  push_cast
  rw [← Finset.sum_add_distrib]
  refine Finset.sum_congr rfl fun d _ => ?_
  by_cases hd : 0 < v d
  · simp [hd,links]
  · simp [hd]

lemma owed_iff (s : ClkState κ H) (v : κ → ℤ) (x : κ → ℕ) : Owed s v x ↔ Balanced (links s) ∅ v x := by
  refine forall_congr' fun c => ?_
  rw [held_links]
  constructor <;> intro h <;> omega

lemma HasRoom.room (h : HasRoom s x) : Room (links s) 127 ∅ x := by
  obtain ⟨v,hv,hle⟩ := h
  exact ⟨x,v,fun _ => le_rfl,(owed_iff s v x).mp hv,hle⟩

lemma UseLaw.dep (h : UseLaw s x) {d : κ} (hd : 0 < s.usecount d)
  (hdc : s.parent d = some c ∨ s.secondary d = some c) : 0 < s.usecount c := by
  have hd' : 0 < count s d := (pos_iff _).mp hd
  have hc : count s c = _ := h c
  refine (pos_iff _).mpr ?_
  change 0 < count s c
  rcases hdc with hdc | hdc
  · have : 0 < (Finset.univ.filter fun d => 0 < count s d ∧ s.parent d = some c).card :=
      Finset.card_pos.mpr ⟨d,by simp [hd',hdc]⟩
    omega
  · have : 0 < (Finset.univ.filter fun d => 0 < count s d ∧ s.secondary d = some c).card :=
      Finset.card_pos.mpr ⟨d,by simp [hd',hdc]⟩
    omega

lemma UseLaw.unique (hac : AcyclicLinks s) (hl : SameLinks s s') (h : UseLaw s x) (h' : UseLaw s' x) :
  s'.usecount = s.usecount := by
  have hb := (owed_iff s _ x).mp h
  have hb' := (owed_iff s' _ x).mp h'
  rw [hl.links] at hb'
  have hcount := hb'.unique (acyclic_of_links hac) hb
  funext c
  exact Int8.toInt_inj.mp (congrFun hcount c)

lemma clkEnable_inv {J : Finset κ → ClkState κ H → Prop} (hJ : CallInv P J) (hac : AcyclicLinks s) (h : UseLaw s x)
  (hj : J ∅ s) (hr : HasRoom s (bump x c)) :
  ∃ r s', clkEnable P (some c) s = some (r, s') ∧ SameLinks s s' ∧
    UseLaw s' (if r = 0 then bump x c else x) ∧ J ∅ s' := by
  have hw := acyclic_of_links hac
  obtain ⟨r,s',e,l,b,j⟩ := enableRec_spec P hw hJ (Fintype.card κ) c s x ∅ rfl (rank_lt_card hw c) (by simp)
    ((owed_iff s _ x).mp h) hj hr.room
  exact ⟨r,s',e,l,(owed_iff s' _ _).mpr (by rwa [l.links]),j⟩

lemma callInv_true : CallInv P fun _ _ => True where
  raise _ _ _ := trivial
  start _ _ _ := trivial
  hook _ _ _ := by split <;> trivial
  giveUp _ _ _ := trivial
  lower _ _ := trivial
  stop _ _ := trivial

lemma clkEnable_law (hac : AcyclicLinks s) (h : UseLaw s x) (hr : HasRoom s (bump x c)) :
  ∃ r s', clkEnable P (some c) s = some (r, s') ∧ SameLinks s s' ∧
    UseLaw s' (if r = 0 then bump x c else x) := by
  obtain ⟨r,s',e,l,b,-⟩ := clkEnable_inv P (callInv_true P) hac h trivial hr
  exact ⟨r,s',e,l,b⟩

lemma clkDisable_law (hac : AcyclicLinks s) (h : UseLaw s x) (hx : 0 < x c) :
  ∃ s', clkDisable P (some c) s = some s' ∧ SameLinks s s' ∧ UseLaw s' (drop x c) := by
  have hw := acyclic_of_links hac
  obtain ⟨s',e,l,b,-⟩ := disableRec_spec P hw (callInv_true P) (Fintype.card κ) c s x ∅ rfl (rank_lt_card hw c) (by simp)
    ((owed_iff s _ x).mp h) trivial hx
  exact ⟨s',e,l,(owed_iff s' _ _).mpr (by rwa [l.links])⟩

/-! ### A call that fails -/

structure Gates (gate : H → κ → Bool) : Prop where
  enable : ∀ c h hw, (P.ops c).enable = some h → gate (h hw).2 = Function.update (gate hw) c (decide ((h hw).1 = 0))
  disable : ∀ c h hw, (P.ops c).disable = some h → gate (h hw) = Function.update (gate hw) c false

def GatesOn (gate : H → κ → Bool) (A : Finset κ) (s : ClkState κ H) : Prop :=
  ∀ c, (P.ops c).enable ≠ none → (gate s.hw c = true ↔ c ∉ A ∧ 0 < count s c)

variable {P} {gate : H → κ → Bool} {A B : Finset κ}

lemma GatesOn.at (h : GatesOn P gate A s) {t : ClkState κ H} (c : κ)
  (hother : ∀ d, d ≠ c → (d ∈ B ↔ d ∈ A) ∧ count t d = count s d ∧ gate t.hw d = gate s.hw d)
  (hself : (P.ops c).enable ≠ none → (gate t.hw c = true ↔ c ∉ B ∧ 0 < count t c)) : GatesOn P gate B t := by
  intro d hd
  by_cases hdc : d = c
  · rw [hdc] at hd ⊢
    exact hself hd
  · obtain ⟨h1,h2,h3⟩ := hother d hdc
    rw [h1,h2,h3]
    exact h d hd

lemma count_setUsecount_of_ne {d : κ} (h : d ≠ c) (s : ClkState κ H) (u : Int8) : count (s.setUsecount c u) d = count s d := by
  rw [count_setUsecount,update_of_ne h]

lemma callInv_gatesOn (hg : Gates P gate) (hpair : ∀ c, (P.ops c).enable ≠ none → (P.ops c).disable ≠ none) :
  CallInv P (GatesOn P gate) where
  raise {A s c} h hpos hlt := by
    refine h.at c (fun d hd => ⟨Iff.rfl,count_setUsecount_of_ne hd s _,rfl⟩) fun hc => ?_
    rw [count_setUsecount,update_self,toInt_add_one hlt]
    show gate s.hw c = true ↔ c ∉ A ∧ 0 < count s c + 1
    rw [h c hc]
    exact and_congr_right fun _ => by omega
  start {A s c} h hA h0 := by
    refine h.at c (fun d hd => ⟨by simp [hd],count_setUsecount_of_ne hd s _,rfl⟩) fun hc => ?_
    show gate s.hw c = true ↔ _
    rw [h c hc,h0]
    simp
  hook {A s c} h hA hpos := by
    cases hen : (P.ops c).enable with
    | none =>
      simp only [runEnable,hen,↓reduceIte]
      exact h.at c (fun d hd => ⟨by simp [hd],rfl,rfl⟩) fun hc => absurd hen hc
    | some f =>
      have hgate := hg.enable c f s.hw hen
      have hother : ∀ d, d ≠ c → gate (f s.hw).2 d = gate s.hw d := fun d hd => by rw [hgate,update_of_ne hd]
      have hself : gate (f s.hw).2 c = decide ((f s.hw).1 = 0) := by rw [hgate,update_self]
      simp only [runEnable,hen]
      split
      · next h0 =>
        refine h.at c (fun d hd => ⟨by simp [hd],rfl,hother d hd⟩) fun _ => ?_
        exact iff_of_true (hself.trans (decide_eq_true h0)) ⟨hA,hpos⟩
      · next h0 =>
        refine h.at c (fun d hd => ⟨Iff.rfl,rfl,hother d hd⟩) fun _ => ?_
        show gate (f s.hw).2 c = true ↔ _
        rw [hself,decide_eq_false h0]
        simp
  giveUp {A s c} h hA h1 := by
    have h1' : (s.usecount c).toInt = 1 := h1
    refine h.at c (fun d hd => ⟨by simp [hd],count_setUsecount_of_ne hd s _,rfl⟩) fun hc => ?_
    rw [count_setUsecount,update_self,toInt_sub_one (by omega),h1']
    show gate s.hw c = true ↔ _
    rw [h c hc]
    simp
  lower {A s c} h h1 := by
    have h1' : 1 < (s.usecount c).toInt := h1
    refine h.at c (fun d hd => ⟨Iff.rfl,count_setUsecount_of_ne hd s _,rfl⟩) fun hc => ?_
    rw [count_setUsecount,update_self,toInt_sub_one (by omega)]
    show gate s.hw c = true ↔ c ∉ A ∧ 0 < count s c - 1
    rw [h c hc]
    exact and_congr_right fun _ => by omega
  stop {A s c} h h1 := by
    have h1' : (s.usecount c).toInt = 1 := h1
    have hcount : ∀ d, count (runDisable P c (s.setUsecount c (s.usecount c - 1))) d =
        count (s.setUsecount c (s.usecount c - 1)) d := fun d => by rw [count_runDisable]
    have hoff : (P.ops c).enable ≠ none → gate (runDisable P c (s.setUsecount c (s.usecount c - 1))).hw =
        Function.update (gate s.hw) c false := by
      intro hc
      obtain ⟨f,hf⟩ := ne_none_iff_exists'.mp (hpair c hc)
      rw [runDisable,hf]
      exact hg.disable c f s.hw hf
    refine h.at c (fun d hd => ⟨Iff.rfl,(hcount d).trans (count_setUsecount_of_ne hd s _),?_⟩) fun hc => ?_
    · rw [runDisable]
      split
      · next f hf =>
        show gate (f s.hw) d = _
        rw [hg.disable c f s.hw hf,update_of_ne hd]
      · rfl
    · rw [hoff hc,update_self,hcount,count_setUsecount,update_self,toInt_sub_one (by omega),h1']
      simp

variable (P)

inductive UseRun (ok : (κ → ℕ) → κ → Prop) (s₀ : ClkState κ H) : ClkState κ H → (κ → ℕ) → Prop
  | start : UseRun ok s₀ s₀ fun _ => 0
  | enable {s s' : ClkState κ H} {x : κ → ℕ} {c : κ} : UseRun ok s₀ s x → ok x c →
      clkEnable P (some c) s = some (0, s') → UseRun ok s₀ s' (bump x c)
  | enableFail {s s' : ClkState κ H} {x : κ → ℕ} {c : κ} {r : ℤ} : UseRun ok s₀ s x → ok x c →
      clkEnable P (some c) s = some (r, s') → r ≠ 0 → UseRun ok s₀ s' x
  | disable {s s' : ClkState κ H} {x : κ → ℕ} {c : κ} : UseRun ok s₀ s x → 0 < x c →
      clkDisable P (some c) s = some s' → UseRun ok s₀ s' (drop x c)

lemma SameLinks.start (hl : SameLinks s₀ s) (hac : AcyclicLinks s₀) :
  AcyclicLinks s ∧ ∀ x, HasRoom s₀ x → HasRoom s x := by
  unfold AcyclicLinks HasRoom Owed
  rw [hl.1,hl.2]
  exact ⟨hac,fun _ h => h⟩

lemma UseRun.law (hac : AcyclicLinks s₀) (h0 : ∀ c, s₀.usecount c = 0)
  (h : UseRun P (fun x c => HasRoom s₀ (bump x c)) s₀ s x) : SameLinks s₀ s ∧ UseLaw s x := by
  have henable : ∀ {s s' : ClkState κ H} {x : κ → ℕ} {c : κ} {r : ℤ}, SameLinks s₀ s ∧ UseLaw s x →
      HasRoom s₀ (bump x c) → clkEnable P (some c) s = some (r, s') →
      SameLinks s₀ s' ∧ UseLaw s' (if r = 0 then bump x c else x) := by
    intro s s' x c r ih hok e
    obtain ⟨r',s'',e',l,b⟩ := clkEnable_law P (ih.1.start hac).1 ih.2 ((ih.1.start hac).2 _ hok)
    obtain ⟨rfl,rfl⟩ := Prod.mk.inj (Option.some.inj (e.symm.trans e'))
    exact ⟨ih.1.trans l,b⟩
  induction h with
  | start =>
    refine ⟨SameLinks.refl s₀,fun c => ?_⟩
    simp [count,h0]
  | enable _ hok e ih => simpa using henable ih hok e
  | enableFail _ hok e hne ih => simpa [hne] using henable ih hok e
  | disable _ hx e ih =>
    obtain ⟨s',e',l,b⟩ := clkDisable_law P (ih.1.start hac).1 ih.2 hx
    obtain rfl := Option.some.inj (e.symm.trans e')
    exact ⟨ih.1.trans l,b⟩

/-- **Use counts balance.** -/
theorem useRun_balance {s₀ : ClkState κ H} (hac : AcyclicLinks s₀) (h0 : ∀ c, s₀.usecount c = 0)
  {s : ClkState κ H} {x : κ → ℕ} (h : UseRun P (fun x c => HasRoom s₀ (bump x c)) s₀ s x) :
  UseLaw s x ∧
  (∀ d c, 0 < s.usecount d → s.parent d = some c ∨ s.secondary d = some c → 0 < s.usecount c) ∧
  (∀ s', UseRun P (fun x c => HasRoom s₀ (bump x c)) s₀ s' x → s'.usecount = s.usecount) ∧
  (∀ c, HasRoom s₀ (bump x c) → ∃ r s', clkEnable P (some c) s = some (r, s')) ∧
  (∀ c, 0 < x c → ∃ s', clkDisable P (some c) s = some s') := by
  obtain ⟨hl,hlaw⟩ := h.law P hac h0
  obtain ⟨hac',hroom⟩ := hl.start hac
  refine ⟨hlaw,fun d c hd hdc => hlaw.dep hd hdc,fun s' h' => ?_,fun c hr => ?_,fun c hx => ?_⟩
  · obtain ⟨hl',hlaw'⟩ := h'.law P hac h0
    exact hlaw.unique hac' ⟨hl'.1.trans hl.1.symm,hl'.2.trans hl.2.symm⟩ hlaw'
  · obtain ⟨r,s',e,-⟩ := clkEnable_law P hac' hlaw (hroom _ hr)
    exact ⟨r,s',e⟩
  · obtain ⟨s',e,-⟩ := clkDisable_law P hac' hlaw hx
    exact ⟨s',e⟩

end Law

end Links

/-! ### A diamond, and a count that wraps -/

def diamond : Platform (Fin 5) Unit := ⟨fun _ => ⟨none, none, none, none, none, none⟩, [4, 3, 2, 1, 0]⟩

def diamondStart : ClkState (Fin 5) Unit :=
  ⟨![none, some 0, some 0, some 2, some 3], ![none, none, none, some 1, none], fun _ => 0, fun _ => 0, ()⟩

/-- Enabling clock 4 of the diamond puts two references on clock 0. -/
theorem useRun_balance_diamond : ∃ s, UseRun diamond (fun x c => HasRoom diamondStart (bump x c)) diamondStart s
  (bump (fun _ => 0) 4) ∧ UseLaw s (bump (fun _ => 0) 4) ∧ s.usecount 0 = 2 := by
  have hac : AcyclicLinks diamondStart := acyclicLinks_of_rank (fun c => c.val) (by decide)
  have hroom : HasRoom diamondStart (bump (fun _ => 0) 4) := ⟨![2,1,1,1,1],by unfold Owed; decide,by decide⟩
  obtain ⟨s,e,hs⟩ : ∃ s, clkEnable diamond (some 4) diamondStart = some (0, s) ∧ s.usecount 0 = 2 :=
    ⟨_,rfl,rfl⟩
  have hrun : UseRun diamond (fun x c => HasRoom diamondStart (bump x c)) diamondStart s (bump (fun _ => 0) 4) :=
    UseRun.enable UseRun.start hroom e
  exact ⟨s,hrun,(useRun_balance diamond hac (fun _ => rfl) hrun).1,hs⟩

def stubborn : Platform (Fin 2) (Fin 2 → Bool) :=
  ⟨fun c => ⟨some fun g => if c = 0 then (0, Function.update g 0 true) else (-1, Function.update g 1 false),
    some fun g => Function.update g c false, none, none, none, none⟩, [1, 0]⟩

def stubbornState (u : Int8) : ClkState (Fin 2) (Fin 2 → Bool) :=
  ⟨![none, some 0], fun _ => none, fun _ => 0, ![u, 0], ![true, false]⟩

lemma stubborn_gates : Gates stubborn (fun g => g) where
  enable c h hw e := by
    cases e
    by_cases hc : c = 0
    · subst hc; rfl
    · obtain rfl : c = 1 := by omega
      rfl
  disable c h hw e := by
    cases e
    rfl

def bare : Platform Unit Unit := ⟨fun _ => ⟨none, none, none, none, none, none⟩, [()]⟩

def bareState (u : Int8) : ClkState Unit Unit := ⟨fun _ => none, fun _ => none, fun _ => 0, fun _ => u, ()⟩

lemma bare_enable (u : Int8) : clkEnable bare (some ()) (bareState u) = some (0, bareState (u + 1)) := by
  have hset : (bareState u).setUsecount () (u + 1) = bareState (u + 1) := by
    simp only [bareState,ClkState.setUsecount,ClkState.mk.injEq,true_and,and_true]
    funext e
    simp
  simp only [clkEnable,Fintype.card_unit,clkEnableRec]
  rw [show (bareState u).usecount () = u from rfl,hset]
  split <;> rfl

lemma bare_run : ∀ n : ℕ, UseRun bare (fun _ _ => True) (bareState 0) (bareState (Int8.ofNat n)) fun _ => n
  | 0 => UseRun.start
  | n + 1 => by
    have h := UseRun.enable (bare_run n) trivial (bare_enable (Int8.ofNat n))
    rw [show Int8.ofNat n + 1 = Int8.ofNat (n + 1) from (Int8.ofNat_add n 1).symm] at h
    exact h

/-- 128 enables of one clock: the count reads -128. -/
theorem useRun_wraps : ∃ s x, UseRun bare (fun _ _ => True) (bareState 0) s x ∧
  (∀ c, (bareState 0).usecount c = 0) ∧ AcyclicLinks (bareState 0) ∧ ¬ UseLaw s x := by
  refine ⟨_,_,bare_run 128,fun _ => rfl,acyclicLinks_of_rank (fun _ => 0) (by simp [bareState]),fun h => ?_⟩
  have := h ()
  simp [count,bareState] at this

end Mx27.Clk
