/-
# Rates after set_rate and set_parent

Runs of `clk_set_rate` and `clk_set_parent` on the mx27 from the state boot leaves.
-/
import Mx27Drivers.Mach.Boot

namespace Mx27.Mach

open List Option Function BitVec

open Clk

lemma exactDiv_some {min max base rate div : BitVec 32} (h : exactDiv min max base rate = some div) :
  min.toNat ≤ div.toNat ∧ div.toNat ≤ max.toNat ∧ base / div = rate := by
  unfold exactDiv at h
  simp only at h
  split at h
  · cases h
  · rename_i hn
    obtain rfl := Option.some.inj h
    push Not at hn
    exact ⟨le_def.mp (BitVec.not_lt.mp hn.2.1),le_def.mp (BitVec.not_lt.mp hn.1),hn.2.2⟩

lemma exactDiv_eq {min max base rate div : BitVec 32} (h : exactDiv min max base rate = some div) : base / rate = div := by
  unfold exactDiv at h
  simp only at h
  split at h
  · cases h
  · exact Option.some.inj h

lemma div_field {div k : BitVec 32} (len : ℕ) (h1 : k.toNat ≤ div.toNat) (h2 : div.toNat < k.toNat + 2 ^ len) :
  (div - k).toNat < 2 ^ len ∧ div - k + k = div := by
  refine ⟨?_,BitVec.sub_add_cancel div k⟩
  rw [toNat_sub_of_le (le_def.mpr h1)]
  omega

def NewRate (rev : ℕ) (c : Mx27Clk) (r : BitVec 32) (s s₁ : State) : Prop :=
  ∃ hw', s₁ = { s.setRate c r with hw := hw' } ∧ (∀ d, d ≠ c → SameFields rev d s.hw hw') ∧
    ∀ p g, s.parent c = some p → (ops rev c).recalc = some g → g hw' r p (s.rate p) = r

section NewRate

variable {rev : ℕ} {c : Mx27Clk} {r : BitVec 32} {s s₁ : State}

lemma NewRate.parent (h : NewRate rev c r s s₁) : s₁.parent = s.parent := by
  obtain ⟨hw',rfl,-⟩ := h
  rfl

lemma NewRate.self (h : NewRate rev c r s s₁) (hpar : ParentsOk rev s.parent)
  (hk : ((ops rev c).recalc).isSome) : RateOk (mx27 rev) s₁ c := by
  obtain ⟨hw',rfl,-,hown⟩ := h
  obtain ⟨g,hg⟩ := isSome_iff_exists.mp hk
  intro p hp
  have hne : p ≠ c := fun he => by
    have := hpar.depth_lt hp
    rw [he] at this
    omega
  have hp' : s.parent c = some p := hp
  simp only [recalcRate,mx27,hg,ClkState.setRate,hp',map_some,update_self,ne_eq,hne,
    not_false_eq_true,update_of_ne,hown p g hp' hg]

lemma NewRate.other (h : NewRate rev c r s s₁) {d : Mx27Clk} (hd : d ≠ c) (hp : s.parent d ≠ some c)
  (hok : RateOk (mx27 rev) s d) : RateOk (mx27 rev) s₁ d := by
  obtain ⟨hw',rfl,hf,-⟩ := h
  refine rateOk_of_fields hok rfl (hf d hd) (update_of_ne hd ..) fun p hp' => ?_
  have hne : p ≠ c := fun he => hp (he ▸ hp')
  exact update_of_ne hne ..

lemma NewRate.propagate (h : NewRate rev c r s s₁) (hpar : ParentsOk rev s.parent) (hok : RatesOk rev s)
  (hk : ((ops rev c).recalc).isSome) :
  ∃ s', propagateRate (mx27 rev) (Fintype.card Mx27Clk) c s₁ = some s' ∧ ParentsOk rev s'.parent ∧
    RatesOk rev s' := by
  have hpar1 : ParentsOk rev s₁.parent := h.parent ▸ hpar
  obtain ⟨s',e,h'⟩ := propagate_ratesOk hpar1 c ∅ fun d hd _ hb => by
    by_cases hdc : d = c
    · exact hdc ▸ h.self hpar hk
    · exact h.other hdc (fun hp => hb (Relation.TransGen.single (h.parent ▸ hp))) (hok d hd)
  exact ⟨s',e,(propagateRate_frame _ _ _ _ _ e).1 ▸ hpar1,fun d hd => h' d hd (Set.notMem_empty d)⟩

lemma NewRate.clko (h : NewRate rev c r s s₁) (hc : .clkoClk ≠ c) (hp : s.parent .clkoClk = some c)
  (hrate : clkClkoRecalc s.hw r = s.rate .clkoClk) : RateOk (mx27 rev) s₁ .clkoClk := by
  obtain ⟨hw',rfl,hf,-⟩ := h
  have hrec : (ops rev .clkoClk).recalc = some (RecalcHook.run rev .clkoClk 0 .clko) := rfl
  intro p hp'
  obtain rfl : c = p := Option.some.inj (hp.symm.trans hp')
  simp only [recalcRate,mx27,hrec,ClkState.setRate,hp,map_some,recalc_congr (hf .clkoClk hc) _ hrec,
    update_self,update_of_ne hc]
  exact congrArg some hrate

end NewRate

variable {rev : ℕ} {s : State} (r : BitVec 32) {p : Mx27Clk}

lemma sameFields_put {f : Field} {x : BitVec 32} (hx : x.toNat < 2 ^ f.len) (hw : Ccm) {d : Mx27Clk}
  (hd : (readFields (decide (isTo2 rev)) d).all (fun g => decide (f.Disjoint g)) = true) :
  SameFields rev d hw (rawWritel (f.put x hw) f.reg.addr hw) := fun g hg =>
  Field.read_write_disjoint (of_decide_eq_true (List.all_eq_true.mp hd g hg)) hx hw

def Harmless (a : BitVec 32) : Prop := ∀ r : CcmReg, r ≠ .pccr0 → r ≠ .pccr1 → r ≠ .ccsr → r.addr ≠ a

lemma Harmless.fields {a : BitVec 32} (h : Harmless a) (rev : ℕ) (v : BitVec 32) (hw : Ccm) :
  AllFields rev hw (rawWritel v a hw) := by
  intro c f hf
  have hreg := List.all_eq_true.mp (readFields_reg _ c) f hf
  simp only [Bool.and_eq_true,bne_iff_ne] at hreg
  exact f.read_congr (rawWritel_of_ne (h _ hreg.1.1.1 hreg.1.1.2 hreg.1.2) hw)

/-! ### The set_rate hooks -/

section
variable {i : Fin 4} {c p : Mx27Clk} {s : State} {r div : BitVec 32}

lemma clkPerclkxSetRate_none (hp : s.parent c = some p) (hdiv : exactDiv 1 64 (s.rate p) r = none) :
  clkPerclkxSetRate i c r s = some (-EINVAL, s) := by
  have hi : ¬ ((i : ℤ) < 0 ∨ 3 < (i : ℤ)) := by omega
  rw [clkPerclkxSetRate,if_neg hi,hp]
  simp only [bind_eq_bind,bind_some,hdiv]

lemma clkPerclkxSetRate_some (hp : s.parent c = some p) (hdiv : exactDiv 1 64 (s.rate p) r = some div) :
  clkPerclkxSetRate i c r s = some (0, { s.setRate c r with
    hw := rawWritel ((perdiv i).put (div - 1) s.hw) (perdiv i).reg.addr s.hw }) := by
  have hi : ¬ ((i : ℤ) < 0 ∨ 3 < (i : ℤ)) := by omega
  rw [clkPerclkxSetRate,if_neg hi,hp]
  simp only [bind_eq_bind,bind_some,hdiv,Int.toNat_natCast,Nat.shiftLeft_eq,Field.put,Field.mask,perdiv]
  rw [show (i : ℕ) * 2 ^ 3 = 8 * i by omega]
  rfl

end

lemma clkPerclkxSetRate_spec {i : Fin 4} {c : Mx27Clk}
  (hp : s.parent c = some p) (hrec : (ops rev c).recalc = some (RecalcHook.run rev c i .perclkx))
  (hdis : ∀ d, d ≠ c → (readFields (decide (isTo2 rev)) d).all (fun g => decide ((perdiv i).Disjoint g)) = true) :
  (exactDiv 1 64 (s.rate p) r = none ∧ clkPerclkxSetRate i c r s = some (-EINVAL, s)) ∨
    ∃ div s₁, exactDiv 1 64 (s.rate p) r = some div ∧ clkPerclkxSetRate i c r s = some (0, s₁) ∧
      NewRate rev c r s s₁ := by
  cases hdiv : exactDiv 1 64 (s.rate p) r with
  | none => exact Or.inl ⟨rfl,clkPerclkxSetRate_none hp hdiv⟩
  | some div =>
    obtain ⟨h1,h2,h3⟩ := exactDiv_some hdiv
    obtain ⟨hx,hadd⟩ := div_field 6 h1 (by simp at h2 ⊢; omega)
    refine Or.inr ⟨div,_,rfl,clkPerclkxSetRate_some hp hdiv,_,rfl,fun d hd => ?_,fun p' g hp' hg => ?_⟩
    · exact sameFields_put (f := perdiv i) hx s.hw (hdis d hd)
    · obtain rfl : p = p' := Option.some.inj (hp.symm.trans hp')
      obtain rfl := Option.some.inj (hrec.symm.trans hg)
      simp only [RecalcHook.run,clkPerclkxRecalc_eq]
      rw [Field.read_write_self _ hx,hadd,h3]

lemma clkVpuSetRate_spec
  (hp : s.parent .vpuClk = some p) (hto : (exactDiv 4 67 (s.rate p * 2) r).isSome → isTo2 rev) :
  clkVpuSetRate .vpuClk r s = some (-EINVAL, s) ∨
    ∃ s₁, clkVpuSetRate .vpuClk r s = some (0, s₁) ∧ NewRate rev .vpuClk r s s₁ := by
  unfold clkVpuSetRate
  rw [hp]
  simp only [bind_eq_bind,bind_some]
  cases hdiv : exactDiv 4 67 (s.rate p * 2) r with
  | none => exact Or.inl rfl
  | some div =>
    have hto := hto (by rw [hdiv]; rfl)
    obtain ⟨h1,h2,h3⟩ := exactDiv_some hdiv
    obtain ⟨hx,hadd⟩ := div_field 6 h1 (by simp at h2 ⊢; omega)
    have hput : (s.hw .pcdr0 &&& ~~~(0x0000FC00 : BitVec 32)) ||| ((div - 4) <<< 10) = pcdr0Vpudiv2.put (div - 4) s.hw := rfl
    refine Or.inr ⟨_,rfl,_,rfl,fun d hd => ?_,fun p' g hp' hg => ?_⟩
    · rw [hput]
      refine sameFields_put (f := pcdr0Vpudiv2) hx s.hw ?_
      rw [decide_eq_true hto]
      cases d <;> first | rfl | exact absurd rfl hd
    · obtain rfl : p = p' := Option.some.inj (hp.symm.trans hp')
      obtain rfl : RecalcHook.run rev .vpuClk 0 .vpu = g := Option.some.inj hg
      rw [hput]
      simp only [RecalcHook.run,clkVpuRecalc,baudDiv,if_pos hto]
      rw [show CcmReg.pcdr0.addr = pcdr0Vpudiv2.reg.addr from rfl,Field.read_write_self _ hx,hadd,
        BitVec.mul_comm,h3]

lemma clkClkoSetRate_spec (hp : s.parent .clkoClk = some p)
  (hr : (exactDiv 1 8 (s.rate p) r).isSome → clkClkoRecalc s.hw (s.rate p) = r) :
  clkClkoSetRate .clkoClk r s = some (-EINVAL, s) ∨
    ∃ s₁, clkClkoSetRate .clkoClk r s = some (0, s₁) ∧ NewRate rev .clkoClk r s s₁ := by
  unfold clkClkoSetRate
  rw [hp]
  simp only [bind_eq_bind,bind_some]
  cases hdiv : exactDiv 1 8 (s.rate p) r with
  | none => exact Or.inl rfl
  | some div =>
    obtain ⟨h1,h2,h3⟩ := exactDiv_some hdiv
    obtain ⟨hx,-⟩ := div_field 3 h1 (by simp at h2 ⊢; omega)
    refine Or.inr ⟨_,rfl,_,rfl,fun d hd => ?_,fun p' g hp' hg => ?_⟩
    · refine sameFields_put (f := pcdr0Clkodiv) hx s.hw ?_
      cases decide (isTo2 rev) <;> cases d <;> rfl
    · obtain rfl : p = p' := Option.some.inj (hp.symm.trans hp')
      obtain rfl : RecalcHook.run rev .clkoClk 0 .clko = g := Option.some.inj hg
      have := hr (by rw [hdiv]; rfl)
      rw [clkClkoRecalc_eq] at this
      simp only [RecalcHook.run,clkClkoRecalc_eq]
      rw [show CcmReg.pcdr0.addr = pcdr0Clkodiv.reg.addr from rfl,
        Field.read_write_disjoint (g := clkoRead) (by decide) hx,this]

lemma clkCpuSetRate_spec (hp : s.parent .cpuClk = some p) (hr : ∀ div, exactDiv 1 4 (s.rate p) r = some div →
    clkCpuRecalc rev s.hw (s.rate p) = r ∧ Harmless (cscrArm.put (div - 1) s.hw)) :
  clkCpuSetRate .cpuClk r s = some (-EINVAL, s) ∨
    ∃ s₁, clkCpuSetRate .cpuClk r s = some (0, s₁) ∧ NewRate rev .cpuClk r s s₁ := by
  unfold clkCpuSetRate
  rw [hp]
  simp only [bind_eq_bind,bind_some]
  cases hdiv : exactDiv 1 4 (s.rate p) r with
  | none => exact Or.inl rfl
  | some div =>
    obtain ⟨hrec,hstray⟩ := hr div hdiv
    have hf := hstray.fields rev CcmReg.cscr.addr s.hw
    refine Or.inr ⟨_,rfl,_,rfl,fun d _ => hf d,fun p' g hp' hg => ?_⟩
    obtain rfl : p = p' := Option.some.inj (hp.symm.trans hp')
    have hg' : (ops rev .cpuClk).recalc = some (RecalcHook.run rev .cpuClk 0 .cpu) := ops_recalc rev .cpuClk
    obtain rfl : RecalcHook.run rev .cpuClk 0 .cpu = g := Option.some.inj (hg'.symm.trans hg)
    rw [recalc_congr (hf .cpuClk) _ hg']
    exact hrec

structure Forwards (c per : Mx27Clk) (i : Fin 4) : Prop where
  hook : ∀ rev, (ops rev c).setRate = some (clkParentSetRate (ownSetRate rev) c)
  own : ∀ rev, ownSetRate rev per = some (clkPerclkxSetRate i per)
  recalc : ∀ rev, (ops rev c).recalc = none ∧ (ops rev per).recalc = some (RecalcHook.run rev per i .perclkx)
  parent : ∀ to2, parentChoices to2 c = [some per]
  linked : ∀ to2, none ∉ parentChoices to2 per
  children : ∀ to2 d, some per ∈ parentChoices to2 d → d = c ∨ d = .clkoClk
  leaf : ∀ to2 d, some c ∉ parentChoices to2 d
  fields : ∀ to2 d, d ≠ per → (readFields to2 d).all (fun g => decide ((perdiv i).Disjoint g)) = true

lemma forwards : Forwards .lcdcClk0 .perClk2 2 ∧ Forwards .csiClk0 .perClk3 3 := by
  constructor
  all_goals
    refine ⟨fun _ => rfl,fun _ => rfl,fun _ => ⟨rfl,rfl⟩,fun _ => rfl,fun to2 => ?_,fun to2 d => ?_,fun to2 d => ?_,fun to2 d hd => ?_⟩
    · cases to2 <;> decide
    · cases to2 <;> cases d <;> decide
    · cases to2 <;> cases d <;> decide
    · cases to2 <;> cases d <;> first | rfl | exact absurd rfl hd

def ClkoFits (s : State) (per : Mx27Clk) (r : BitVec 32) : Prop :=
  s.parent .clkoClk = some per → clkClkoRecalc s.hw r = s.rate .clkoClk

namespace Forwards

variable {c per : Mx27Clk} {i : Fin 4} {rev : ℕ} {s : State}

lemma parent_eq (h : Forwards c per i) (hpar : ParentsOk rev s.parent) : s.parent c = some per := by
  have := hpar c
  rw [h.parent] at this
  exact mem_singleton.mp this

lemma ratesOk (h : Forwards c per i) {s₁ : State} {r : BitVec 32} (hpar : ParentsOk rev s.parent)
  (hok : RatesOk rev s) (hnew : NewRate rev per r s s₁) (hclko : ClkoFits s per r) :
  RatesOk rev (s₁.setRate c r) := by
  have hne : per ≠ c := fun he => by
    have := hpar.depth_lt (h.parent_eq hpar)
    rw [he] at this
    omega
  have hrate : s₁.rate per = r := by
    obtain ⟨hw',rfl,-⟩ := hnew
    exact update_self ..
  intro d hd
  have hleaf : s₁.parent d ≠ some c := fun hp => by
    rw [hnew.parent] at hp
    exact h.leaf _ d (hp ▸ hpar d)
  by_cases hdc : d = c
  · subst hdc
    intro p hp
    obtain rfl : per = p := by
      have hp' : s₁.parent d = some p := hp
      rw [hnew.parent,h.parent_eq hpar] at hp'
      exact Option.some.inj hp'
    simp [recalcRate,mx27,(h.recalc rev).1,ClkState.setRate,hne,hrate]
  · refine RateOk.setRate_ne r hdc hleaf ?_
    by_cases hdp : d = per
    · exact hdp ▸ hnew.self hpar (by rw [(h.recalc rev).2]; rfl)
    · by_cases hp : s.parent d = some per
      · obtain rfl := (h.children _ d (hp ▸ hpar d)).resolve_left hdc
        exact hnew.clko hdp hp (hclko hp)
      · exact hnew.other hdp hp (hok d hd)

end Forwards

/-! ### Calls -/

inductive RateCall
  | setRate (clk : Option Mx27Clk) (rate : BitVec 32)
  | setParent (clk parent : Option Mx27Clk)

def RateCall.step (rev : ℕ) (s : State) : RateCall → Option State
  | .setRate clk rate => (clkSetRate (mx27 rev) clk rate s).map (·.2)
  | .setParent clk parent => (clkSetParent (mx27 rev) clk parent s).map (·.2)

lemma step_setRate {clk : Option Mx27Clk} {r : BitVec 32} {s' : State} {ret : ℤ}
  (e : clkSetRate (mx27 rev) clk r s = some (ret, s')) : (RateCall.setRate clk r).step rev s = some s' := by
  rw [RateCall.step,e,map_some]

lemma step_setParent {clk parent : Option Mx27Clk} {s' : State} {ret : ℤ}
  (e : clkSetParent (mx27 rev) clk parent s = some (ret, s')) :
  (RateCall.setParent clk parent).step rev s = some s' := by
  rw [RateCall.step,e,map_some]

def RateCall.Ok (rev : ℕ) (s : State) : RateCall → Prop
  | .setRate (some .cpuClk) r => isTo2 rev → ∀ p div, s.parent .cpuClk = some p →
      exactDiv 1 4 (s.rate p) r = some div →
      clkCpuRecalc rev s.hw (s.rate p) = r ∧ Harmless (cscrArm.put (div - 1) s.hw)
  | .setRate (some .vpuClk) r => ∀ p, s.parent .vpuClk = some p →
      (exactDiv 4 67 (s.rate p * 2) r).isSome → isTo2 rev
  | .setRate (some .clkoClk) r => r = 0 ∨ ∃ p, s.parent .clkoClk = some p ∧
      ((exactDiv 1 8 (s.rate p) r).isSome → clkClkoRecalc s.hw (s.rate p) = r)
  | .setRate (some .lcdcClk0) r => ∀ p, s.parent .perClk2 = some p →
      (exactDiv 1 64 (s.rate p) r).isSome → ClkoFits s .perClk2 r
  | .setRate (some .csiClk0) r => ∀ p, s.parent .perClk3 = some p →
      (exactDiv 1 64 (s.rate p) r).isSome → ClkoFits s .perClk3 r
  | .setParent (some .cpuClk) (some p) => isTo2 rev → s.parent .cpuClk ≠ some p →
      (p = .mpllMainClk0 → Harmless (s.hw .cscr ||| cscrArmSrc)) ∧
      (p = .mpllMainClk1 → Harmless (s.hw .cscr &&& ~~~cscrArmSrc))
  | _ => True

section Steps

variable {rev : ℕ} {s : State}

variable {h : Mx27Clk → State → ℤ × Option Mx27Clk × Ccm} {c p : Mx27Clk} {r : BitVec 32}

lemma setRate_of_newRate (hpar : ParentsOk rev s.parent) (hok : RatesOk rev s)
  {h : BitVec 32 → State → Option (ℤ × State)} (hh : (ops rev c).setRate = some h) (hr : r ≠ 0)
  (hk : ((ops rev c).recalc).isSome)
  (hspec : h r s = some (-EINVAL, s) ∨ ∃ s₁, h r s = some (0, s₁) ∧ NewRate rev c r s s₁) :
  ∃ ret s', clkSetRate (mx27 rev) (some c) r s = some (ret, s') ∧ ParentsOk rev s'.parent ∧ RatesOk rev s' := by
  rcases hspec with e | ⟨s₁,e,hnew⟩
  · refine ⟨-EINVAL,s,?_,hpar,hok⟩
    rw [clkSetRate_of_hook (P := mx27 rev) hh hr e,if_neg (by decide)]
  · obtain ⟨s',e',h1,h2⟩ := hnew.propagate hpar hok hk
    refine ⟨0,s',?_,h1,h2⟩
    rw [clkSetRate_of_hook (P := mx27 rev) hh hr e,if_pos rfl,e',map_some]

lemma ParentsOk.exists_parent (hpar : ParentsOk rev s.parent)
  (hc : ∀ to2, none ∉ parentChoices to2 c) : ∃ p, s.parent c = some p := by
  cases hp : s.parent c with
  | none => exact absurd (hp ▸ hpar c) (hc _)
  | some p => exact ⟨p,rfl⟩

lemma Forwards.setRate {per : Mx27Clk} {i : Fin 4} (h : Forwards c per i) (hpar : ParentsOk rev s.parent)
  (hok : RatesOk rev s) (hr : r ≠ 0)
  (hfit : ∀ p, s.parent per = some p → (exactDiv 1 64 (s.rate p) r).isSome → ClkoFits s per r) :
  ∃ ret s', clkSetRate (mx27 rev) (some c) r s = some (ret, s') ∧ ParentsOk rev s'.parent ∧ RatesOk rev s' := by
  obtain ⟨p,hp⟩ := hpar.exists_parent h.linked
  have hhook : ∀ {ret : ℤ} {s₁ : State}, clkPerclkxSetRate i per r s = some (ret, s₁) →
      clkParentSetRate (ownSetRate rev) c r s =
        if ret = 0 then some (ret, s₁.setRate c r) else some (ret, s₁) := by
    intro ret s₁ e
    simp only [clkParentSetRate,h.parent_eq hpar,h.own,bind_eq_bind,bind_some,e]
  rcases clkPerclkxSetRate_spec (i := i) r hp (h.recalc rev).2 (h.fields _) with ⟨-,e⟩ | ⟨div,s₁,hdiv,e,hnew⟩
  · refine ⟨-EINVAL,s,?_,hpar,hok⟩
    rw [clkSetRate_of_hook (P := mx27 rev) (h.hook rev) hr (hhook e),if_neg (by decide)]
  · have hrates := h.ratesOk hpar hok hnew (hfit p hp (by rw [hdiv]; rfl))
    have hpar1 : ParentsOk rev (s₁.setRate c r).parent := hnew.parent ▸ hpar
    refine ⟨0,s₁.setRate c r,?_,hpar1,hrates⟩
    rw [clkSetRate_of_hook (P := mx27 rev) (h.hook rev) hr (hhook e),if_pos rfl,
      propagateRate_leaf_card fun d _ hd => h.leaf _ d (hd ▸ hpar1 d),map_some]

lemma setRate_hook (rev : ℕ) (c : Mx27Clk) : (ops rev c).setRate = none ∨
  c ∈ [Mx27Clk.cpuClk, .perClk2, .perClk3, .vpuClk, .clkoClk, .lcdcClk0, .csiClk0] := by
  cases c <;> first | exact Or.inl rfl | exact Or.inr (by decide)

lemma setRate_step (hpar : ParentsOk rev s.parent) (hok : RatesOk rev s)
  (h : (RateCall.setRate (some c) r).Ok rev s) :
  ∃ ret s', clkSetRate (mx27 rev) (some c) r s = some (ret, s') ∧ ParentsOk rev s'.parent ∧ RatesOk rev s' := by
  by_cases hr : r = 0
  · exact ⟨-EINVAL,s,clkSetRate_refused (Or.inl hr) s,hpar,hok⟩
  rcases setRate_hook rev c with hnone | hc
  · exact ⟨-EINVAL,s,clkSetRate_refused (P := mx27 rev) (Or.inr hnone) s,hpar,hok⟩
  simp only [mem_cons,not_mem_nil,or_false] at hc
  rcases hc with rfl | rfl | rfl | rfl | rfl | rfl | rfl
  · -- `cpu_clk`
    by_cases hto : isTo2 rev
    · obtain ⟨p,hp⟩ := hpar.exists_parent (c := .cpuClk) (by decide)
      have hh : (ops rev .cpuClk).setRate = some (clkCpuSetRate .cpuClk) := by
        simp [ops,ownSetRate,probedDef,hto,mx27ClkDef]
      exact setRate_of_newRate hpar hok hh hr (by rw [ops_recalc]; rfl) (clkCpuSetRate_spec r hp (h hto p · hp))
    · have hh : (ops rev .cpuClk).setRate = none := by simp [ops,ownSetRate,probedDef,hto]
      exact ⟨-EINVAL,s,clkSetRate_refused (P := mx27 rev) (Or.inr hh) s,hpar,hok⟩
  · obtain ⟨p,hp⟩ := hpar.exists_parent (c := .perClk2) (by decide)
    refine setRate_of_newRate hpar hok rfl hr rfl ?_
    rcases clkPerclkxSetRate_spec (i := 2) r hp rfl (forwards.1.fields _) with hn | ⟨_,s₁,_,e,hn⟩
    · exact Or.inl hn.2
    · exact Or.inr ⟨s₁,e,hn⟩
  · obtain ⟨p,hp⟩ := hpar.exists_parent (c := .perClk3) (by decide)
    refine setRate_of_newRate hpar hok rfl hr rfl ?_
    rcases clkPerclkxSetRate_spec (i := 3) r hp rfl (forwards.2.fields _) with hn | ⟨_,s₁,_,e,hn⟩
    · exact Or.inl hn.2
    · exact Or.inr ⟨s₁,e,hn⟩
  · obtain ⟨p,hp⟩ := hpar.exists_parent (c := .vpuClk) (by decide)
    exact setRate_of_newRate hpar hok rfl hr rfl (clkVpuSetRate_spec r hp (h p hp))
  · obtain ⟨p,hp,hfit⟩ := h.resolve_left hr
    exact setRate_of_newRate hpar hok rfl hr rfl (clkClkoSetRate_spec r hp hfit)
  · exact forwards.1.setRate hpar hok hr h
  · exact forwards.2.setRate hpar hok hr h

lemma setParent_of_fields (hpar : ParentsOk rev s.parent) (hok : RatesOk rev s)
  (hh : (ops rev c).setParent = some h) (e : (h p s).1 = 0)
  (hp : some p ∈ parentChoices (decide (isTo2 rev)) c) (hf : AllFields rev s.hw (h p s).2.2) :
  ∃ ret s', clkSetParent (mx27 rev) (some c) (some p) s = some (ret, s') ∧ ParentsOk rev s'.parent ∧
    RatesOk rev s' := by
  have hpar1 : ParentsOk rev (Function.update s.parent c (some p)) := by
    intro d
    by_cases hd : d = c
    · subst hd
      rwa [update_self]
    · rw [update_of_ne hd]
      exact hpar d
  have hpc : Function.update s.parent c (some p) c = some p := update_self ..
  have hne : p ≠ c := fun he => by
    have := hpar1.depth_lt hpc
    rw [he] at this
    omega
  obtain ⟨r,hr⟩ := recalcRate_isSome (P := mx27 rev) (t := p)
    (s := { s.setParent c (some p) with hw := (h p s).2.2 }) hpc
  obtain ⟨s',e',h'⟩ := propagate_ratesOk
      (s := { s.setParent c (some p) with hw := (h p s).2.2 }.setRate c r) hpar1 c ∅ fun d hd _ hb => by
    by_cases hdc : d = c
    · subst hdc
      exact RateOk.setRate_self (recalcStable_mx27 rev) hpc hne hr
    · have hdp : Function.update s.parent c (some p) d ≠ some c := fun h => hb (Relation.TransGen.single h)
      refine RateOk.setRate_ne r hdc hdp (rateOk_of_fields (hok d hd) ?_ (hf d) rfl fun _ _ => rfl)
      exact update_of_ne hdc ..
  refine ⟨0,s',?_,(propagateRate_frame _ _ _ _ _ e').1 ▸ hpar1,fun d hd => h' d hd (Set.notMem_empty d)⟩
  rw [clkSetParent_of_hook (P := mx27 rev) hh,if_pos e,hr,bind_some,e',map_some]

lemma setParent_refused {ret : ℤ}
  (hh : (ops rev c).setParent = some h) (e : h p s = (ret, s.parent c, s.hw)) (hret : ret ≠ 0) :
  clkSetParent (mx27 rev) (some c) (some p) s = some (ret, s) := by
  rw [clkSetParent_of_hook (P := mx27 rev) hh,e,if_neg hret]
  simp [ClkState.setParent]

lemma setParent_hook (rev : ℕ) (c : Mx27Clk) : (ops rev c).setParent = none ∨
  (c = .cpuClk ∧ isTo2 rev ∧ (ops rev c).setParent = some (clkCpuSetParent rev c)) ∨
    (c = .clkoClk ∧ (ops rev c).setParent = some (clkClkoSetParent c)) := by
  by_cases hc : c = .cpuClk
  · subst hc
    by_cases hto : isTo2 rev
    · exact Or.inr (Or.inl ⟨rfl,hto,by simp [ops,probedDef,hto,mx27ClkDef]⟩)
    · exact Or.inl (by simp [ops,probedDef,hto])
  · cases c <;> first | exact Or.inl rfl | exact Or.inr (Or.inr ⟨rfl,rfl⟩) | exact absurd rfl hc

lemma clkosel_source (hpar : ParentsOk rev s.parent) {sel : BitVec 32}
  (h : clkosel s p = some sel) : p ∈ clkoSources := by
  have hosc : ∀ c, parentChoices (decide (isTo2 rev)) c = [some .ckihClk,some .ckilClk] → some p = s.parent c →
      p ∈ clkoSources := by
    intro c hc hp
    have hmem := hpar c
    rw [hc,← hp] at hmem
    simp only [mem_cons,Option.some.injEq,not_mem_nil,or_false] at hmem
    rcases hmem with rfl | rfl <;> decide
  unfold clkosel at h
  split_ifs at h with h1 h2 h3 h4
  · subst h1
    decide
  · subst h2
    decide
  · exact hosc .mpllClk rfl h3
  · exact hosc .spllClk rfl h4
  · cases p <;> first | decide | cases h

lemma setParent_step (hpar : ParentsOk rev s.parent) (hok : RatesOk rev s)
  (h : (RateCall.setParent (some c) (some p)).Ok rev s) :
  ∃ ret s', clkSetParent (mx27 rev) (some c) (some p) s = some (ret, s') ∧ ParentsOk rev s'.parent ∧
    RatesOk rev s' := by
  rcases setParent_hook rev c with hnone | ⟨rfl,hto,hh⟩ | ⟨rfl,hh⟩
  · refine ⟨-EINVAL,s,?_,hpar,hok⟩
    simp only [clkSetParent,mx27,hnone]
  · -- `cpu_clk`
    have hch : ∀ q, q = .mpllMainClk0 ∨ q = .mpllMainClk1 → some q ∈ parentChoices (decide (isTo2 rev)) .cpuClk := by
      rw [decide_eq_true hto]
      rintro q (rfl | rfl) <;> decide
    by_cases hsame : s.parent .cpuClk = some p
    · have e : clkCpuSetParent rev .cpuClk p s = (0, s.parent .cpuClk, s.hw) := by
        simp only [clkCpuSetParent,if_pos hsame]
      exact setParent_of_fields hpar hok hh (by rw [e]) (hsame ▸ hpar .cpuClk) (by rw [e]; exact AllFields.refl rev s.hw)
    · obtain ⟨h0,h1⟩ := h hto hsame
      by_cases hp0 : p = .mpllMainClk0
      · have e : clkCpuSetParent rev .cpuClk p s =
            (0, some p, rawWritel CcmReg.cscr.addr (s.hw .cscr ||| cscrArmSrc) s.hw) := by
          simp only [clkCpuSetParent,if_neg hsame,if_pos hto,if_pos hp0]
        exact setParent_of_fields hpar hok hh (by rw [e]) (hch p (Or.inl hp0)) (by rw [e]; exact (h0 hp0).fields rev _ _)
      · by_cases hp1 : p = .mpllMainClk1
        · have e : clkCpuSetParent rev .cpuClk p s =
              (0, some p, rawWritel CcmReg.cscr.addr (s.hw .cscr &&& ~~~cscrArmSrc) s.hw) := by
            simp only [clkCpuSetParent,if_neg hsame,if_pos hto,if_neg hp0,if_pos hp1]
          exact setParent_of_fields hpar hok hh (by rw [e]) (hch p (Or.inr hp1)) (by rw [e]; exact (h1 hp1).fields rev _ _)
        · refine ⟨-EINVAL,s,setParent_refused hh ?_ (by decide),hpar,hok⟩
          simp only [clkCpuSetParent,if_neg hsame,if_pos hto,if_neg hp0,if_neg hp1]
  · -- `clko_clk`
    cases hsel : clkosel s p with
    | none =>
      refine ⟨-EINVAL,s,setParent_refused hh ?_ (by decide),hpar,hok⟩
      simp only [clkClkoSetParent,hsel]
    | some sel =>
      have e : clkClkoSetParent .clkoClk p s = (0, s.parent .clkoClk,
          rawWritel ((s.hw .ccsr &&& ~~~ccsrClkoselMask) ||| sel) CcmReg.ccsr.addr s.hw) := by
        simp only [clkClkoSetParent,hsel]
      exact setParent_of_fields hpar hok hh (by rw [e])
        (mem_cons_of_mem _ (List.mem_map_of_mem (clkosel_source hpar hsel)))
        (by rw [e]; exact AllFields.write (Or.inr (Or.inr rfl)) _ _)

lemma rateCall_step (hpar : ParentsOk rev s.parent) (hok : RatesOk rev s) {call : RateCall} (h : call.Ok rev s) :
  ∃ s', call.step rev s = some s' ∧ ParentsOk rev s'.parent ∧ RatesOk rev s' := by
  cases call with
  | setRate clk r =>
    cases clk with
    | none => exact ⟨s,rfl,hpar,hok⟩
    | some c =>
      obtain ⟨ret,s',e,h'⟩ := setRate_step hpar hok h
      exact ⟨s',step_setRate e,h'⟩
  | setParent clk parent =>
    cases clk with
    | none => exact ⟨s,rfl,hpar,hok⟩
    | some c =>
      cases parent with
      | none => exact ⟨s,rfl,hpar,hok⟩
      | some p =>
        obtain ⟨ret,s',e,h'⟩ := setParent_step hpar hok h
        exact ⟨s',step_setParent e,h'⟩

end Steps

/-! ### Runs -/

/-- **Rates stay consistent.** -/
theorem rates_run (b : Board) (hw : Ccm) : ∃ s₀, boot b hw = some s₀ ∧ RatesOk b.rev s₀ ∧
  ∀ calls, Run.AllSteps (RateCall.step b.rev) (fun s call => call.Ok b.rev s) s₀ calls →
    ∃ s, calls.foldlM (RateCall.step b.rev) s₀ = some s ∧ RatesOk b.rev s := by
  obtain ⟨s₀,e,hwired,hok,-⟩ := boot_spec b hw
  refine ⟨s₀,e,hok,fun calls hcalls => ?_⟩
  obtain ⟨s,e',-,h⟩ := hcalls.total (I := fun s => ParentsOk b.rev s.parent ∧ RatesOk b.rev s)
    (fun call s hs h => rateCall_step hs.1 hs.2 h) ⟨hwired.parents,hok⟩
  exact ⟨s,e',h⟩

/-- `clko_clk` gets `per_clk[2]` as its parent, and `per_clk[2]` a rate. -/
theorem rates_run_per : ∃ s₀ s, boot ⟨CHIP_REV_2_0, false⟩ (fun _ => 0) = some s₀ ∧
  [RateCall.setParent (some .clkoClk) (some .perClk2), .setRate (some .perClk2) 43333333].foldlM
    (RateCall.step CHIP_REV_2_0) s₀ = some s ∧ RatesOk CHIP_REV_2_0 s := by
  obtain ⟨s₀,e,-,h⟩ := rates_run ⟨CHIP_REV_2_0,false⟩ fun _ => 0
  obtain ⟨s,e',h'⟩ := h [RateCall.setParent (some .clkoClk) (some .perClk2),.setRate (some .perClk2) 43333333]
    ⟨trivial,fun _ _ => ⟨trivial,fun _ _ => trivial⟩⟩
  exact ⟨s₀,s,e,e',h'⟩

lemma clko_rate (h : RateOk (mx27 rev) s .clkoClk)
  (hp : s.parent .clkoClk = some p) : s.rate p / (clkoRead.read s.hw + 1) = s.rate .clkoClk := by
  have := h p hp
  simp only [recalcRate,mx27,show (ops rev .clkoClk).recalc = some (RecalcHook.run rev .clkoClk 0 .clko) from rfl,
    hp,map_some,Option.some.injEq,RecalcHook.run,clkClkoRecalc_eq] at this
  exact this

lemma clko_halved (hleaf : ∀ d, s.parent d ≠ some .clkoClk)
  (hp : s.parent .clkoClk = some .ckihClk) (hrate : s.rate .ckihClk = 26000000) (hlow : clkoRead.read s.hw = 0) :
  ∃ s', (RateCall.setRate (some .clkoClk) 13000000).step CHIP_REV_2_0 s = some s' ∧
    ¬ RateOk (mx27 CHIP_REV_2_0) s' .clkoClk := by
  obtain ⟨s',hs',hhook⟩ : ∃ s', s' = { s.setRate .clkoClk 13000000 with
      hw := rawWritel (pcdr0Clkodiv.put 1 s.hw) CcmReg.pcdr0.addr s.hw } ∧
      clkClkoSetRate .clkoClk 13000000 s = some (0, s') := by
    refine ⟨_,rfl,?_⟩
    simp only [clkClkoSetRate,hp,hrate,bind_eq_bind,bind_some]
    rfl
  have hread : clkoRead.read s'.hw = 0 := by
    rw [hs',← hlow]
    exact Field.read_write_disjoint (f := pcdr0Clkodiv) (by decide) (by decide) s.hw
  have hrates : s'.rate .ckihClk = 26000000 ∧ s'.rate .clkoClk = 13000000 := by
    rw [hs']
    exact ⟨hrate,rfl⟩
  refine ⟨s',?_,fun h => ?_⟩
  · apply step_setRate
    rw [clkSetRate_of_hook (P := mx27 CHIP_REV_2_0) (c := .clkoClk) rfl (by decide) hhook,if_pos rfl,
      propagateRate_leaf_card fun d _ => by rw [hs']; exact hleaf d,map_some]
  · have := clko_rate h (p := .ckihClk) (by rw [hs']; exact hp)
    rw [hread,hrates.1,hrates.2] at this
    exact absurd this (by decide)

/-- `clko_clk` is put on the 26 MHz oscillator and its rate halved. -/
theorem clko_rate_off : ∃ s₀ s, boot ⟨CHIP_REV_2_0, false⟩ (fun _ => 0) = some s₀ ∧
  [RateCall.setParent (some .clkoClk) (some .ckihClk), .setRate (some .clkoClk) 13000000].foldlM
    (RateCall.step CHIP_REV_2_0) s₀ = some s ∧ ¬ RatesOk CHIP_REV_2_0 s := by
  obtain ⟨s₀,e0,hwired,-,-,hf,hrate⟩ := boot_spec ⟨CHIP_REV_2_0,false⟩ fun _ => 0
  obtain ⟨s₁,e1,hp,hleaf,hr,hlow⟩ : ∃ s₁,
      (RateCall.setParent (some .clkoClk) (some .ckihClk)).step CHIP_REV_2_0 s₀ = some s₁ ∧
      s₁.parent .clkoClk = some .ckihClk ∧ (∀ d, s₁.parent d ≠ some .clkoClk) ∧ s₁.rate .ckihClk = 26000000 ∧
      clkoRead.read s₁.hw = 0 := by
    obtain ⟨r,-,e1⟩ := clkSetParent_leaf (P := mx27 CHIP_REV_2_0) (c := .clkoClk) (p := .ckihClk) (s := s₀) rfl
      (show clkClkoSetParent .clkoClk .ckihClk s₀ = _ from rfl) (by decide) fun d _ => hwired.not_clko.1
    refine ⟨_,step_setParent e1,rfl,fun d => ?_,hrate,?_⟩
    · show Function.update s₀.parent .clkoClk (some .ckihClk) d ≠ some .clkoClk
      by_cases hd : d = .clkoClk
      · subst hd
        simp
      · rw [update_of_ne hd]
        exact hwired.not_clko.1
    · calc clkoRead.read (rawWritel _ CcmReg.ccsr.addr s₀.hw) = clkoRead.read s₀.hw :=
            clkoRead.read_congr (rawWritel_of_ne (by decide) s₀.hw)
        _ = clkoRead.read fun _ => 0 := hf .clkoClk clkoRead (mem_singleton_self _)
        _ = 0 := by decide
  obtain ⟨s2,e2,hoff⟩ := clko_halved hleaf hp hr hlow
  refine ⟨s₀,s2,e0,?_,fun h => hoff (h .clkoClk (mem_clocks.mpr (by decide)))⟩
  simp only [foldlM_cons,foldlM_nil,e1,e2,bind_eq_bind,bind_some,Option.pure_def]

end Mx27.Mach
