/-
# The clocks after boot

`clk_early_get_timer_rate` and `mxc_clocks_init` return, whatever the registers hold.
-/
import Mx27Drivers.Mach.GateBits
import Mx27Drivers.Mach.RateFields

namespace Mx27.Mach

open List Option Function BitVec

open Clk Bits

lemma readFields_reg (to2 : Bool) (c : Mx27Clk) : (readFields to2 c).all (fun f =>
  f.reg != .pccr0 && f.reg != .pccr1 && f.reg != .ccsr && (f.reg != .cscr || decide (2 ≤ f.off))) = true := by
  cases to2 <;> cases c <;> rfl

lemma spen_mask {f : Field} (h : 2 ≤ f.off) : cscrSpen &&& f.mask = 0 := by
  have hlow : ∀ i, cscrSpen.getLsbD i = true → i < 2 := by
    intro i hi
    by_contra hn
    rw [getLsbD_of_lt_two_pow (show cscrSpen.toNat < 2 ^ 2 by decide) (by omega)] at hi
    cases hi
  apply eq_of_getLsbD_eq
  intro i _
  rw [getLsbD_and]
  cases hs : cscrSpen.getLsbD i
  · simp
  · have := hlow i hs
    simp [Field.mask,show i < f.off by omega]

variable {rev : ℕ} {c d : Mx27Clk} {s : State} {par : Mx27Clk → Option Mx27Clk}

lemma gate_fields (hc : c ≠ .clkoClk) {f : Field}
  (hf : f ∈ readFields (decide (isTo2 rev)) d) : gateBits c f.reg &&& f.mask = 0 := by
  have hreg := List.all_eq_true.mp (readFields_reg _ d) f hf
  simp only [Bool.and_eq_true,bne_iff_ne,Bool.or_eq_true,decide_eq_true_eq] at hreg
  obtain ⟨⟨⟨h0,h1⟩,-⟩,h2⟩ := hreg
  by_cases hs : c = .spllClk
  · rw [hs,gateBits_spll]
    unfold onReg
    split
    · rename_i hr
      exact spen_mask (h2.resolve_left fun hn => hn hr)
    · exact zero_and
  · rw [gateBits_pccr hc hs h0 h1]
    exact zero_and

def AllFields (rev : ℕ) (hw hw' : Ccm) : Prop := ∀ c, SameFields rev c hw hw'

lemma AllFields.refl (rev : ℕ) (hw : Ccm) : AllFields rev hw hw := fun _ _ _ => rfl

lemma AllFields.trans {hw hw' hw'' : Ccm} (h : AllFields rev hw hw') (h' : AllFields rev hw' hw'') :
  AllFields rev hw hw'' := fun c f hf => (h' c f hf).trans (h c f hf)

lemma AllFields.gateOn (hc : c ≠ .clkoClk) (hw : Ccm) :
  AllFields rev hw fun q => hw q ||| gateBits c q := fun _ _ hf => Field.read_or (gate_fields hc hf) hw

lemma AllFields.gateOff (hc : c ≠ .clkoClk) (hw : Ccm) :
  AllFields rev hw fun q => hw q &&& ~~~gateBits c q := fun _ _ hf => Field.read_clear (gate_fields hc hf) hw

lemma AllFields.write {r : CcmReg} (hr : r = .pccr0 ∨ r = .pccr1 ∨ r = .ccsr) (v : BitVec 32)
  (hw : Ccm) : AllFields rev hw (rawWritel v r.addr hw) := by
  intro c f hf
  have hreg := List.all_eq_true.mp (readFields_reg _ c) f hf
  simp only [Bool.and_eq_true,bne_iff_ne] at hreg
  refine f.read_congr (rawWritel_of_ne (fun he => ?_) hw)
  have := CcmReg.addr_injective _ _ he
  rcases hr with rfl | rfl | rfl
  · exact hreg.1.1.1 this
  · exact hreg.1.1.2 this
  · exact hreg.1.2 this

lemma Wired.ranked (h : Wired rev s) : RankedLinks depth s.parent s.secondary :=
  fun _ _ hd => hd.elim h.parents.depth_lt h.depth_secondary_lt

lemma Wired.not_clko (h : Wired rev s) :
  s.parent c ≠ some .clkoClk ∧ s.secondary c ≠ some .clkoClk := by
  have hmax : ∀ c : Mx27Clk, depth c ≤ depth .clkoClk := fun c => by
    have := depth_lt c
    exact Nat.le_of_lt_succ this
  have := hmax c
  exact ⟨fun hp => absurd (h.parents.depth_lt hp) (by omega),
    fun hp => absurd (h.depth_secondary_lt hp) (by omega)⟩

lemma clkEnable_wired (h : Wired rev s) (c : Mx27Clk) :
  ∃ s', Clk.clkEnable (mx27 rev) (some c) s = some (0, s') ∧ s'.parent = s.parent ∧
    s'.secondary = s.secondary ∧ s'.rate = s.rate ∧ (c ≠ .clkoClk → AllFields rev s.hw s'.hw) := by
  obtain ⟨r,s',e⟩ := clkEnableRec_returns (mx27_neverFails rev) (Fintype.card Mx27Clk) c s h.ranked
    (by rw [card_mx27Clk]; have := depth_lt c; omega)
  obtain rfl := clkEnableRec_zero (mx27_neverFails rev) _ _ _ _ _ e
  obtain ⟨h1,h2,h3⟩ := clkEnableRec_links (mx27_neverFails rev) e
  refine ⟨s',e,h1,h2,h3,fun hc => ?_⟩
  have hinv : EnableInv (mx27 rev) (· ≠ .clkoClk) fun _ t =>
      (t.parent = s.parent ∧ t.secondary = s.secondary) ∧ AllFields rev s.hw t.hw := by
    refine ⟨fun _ t ht c d _ hd => ?_,fun _ _ _ h _ _ => h,fun _ _ _ h _ _ => h,fun _ t c ht hc => ?_⟩
    · rw [ht.1.1,ht.1.2] at hd
      rintro rfl
      exact hd.elim h.not_clko.1 h.not_clko.2
    · rw [runEnable_hw]
      exact ⟨ht.1,ht.2.trans (AllFields.gateOn hc t.hw)⟩
  exact (clkEnableRec_inv (mx27_neverFails rev) hinv _ c ∅ s s' 0 hc ⟨⟨rfl,rfl⟩,AllFields.refl rev s.hw⟩ e).2

def Linking (rev : ℕ) (X : List Mx27Clk) (par : Mx27Clk → Option Mx27Clk) : Prop :=
  par .clkoClk = none ∧ ∀ c, c ∈ X ∨ par c ∈ parentChoices (decide (isTo2 rev)) c

lemma Linking.set {X Y : List Mx27Clk} (h : Linking rev X par)
  {o : Option Mx27Clk} (ho : o ∈ parentChoices (decide (isTo2 rev)) d) (hd : d ≠ .clkoClk)
  (hXY : ∀ c ∈ X, c = d ∨ c ∈ Y) : Linking rev Y (Function.update par d o) := by
  refine ⟨by rw [update_of_ne hd.symm]; exact h.1,fun c => ?_⟩
  by_cases hc : c = d
  · subst hc
    rw [update_self]
    exact Or.inr ho
  · rw [update_of_ne hc]
    exact (h.2 c).imp_left fun hX => (hXY c hX).resolve_left hc

lemma Linking.parentsOk (h : Linking rev [] par) :
  ParentsOk rev par := fun c => (h.2 c).resolve_left (by simp)

lemma linking_init_to2 (hto : isTo2 rev) (hw : Ccm) : Linking rev [] (initState hw).parent := by
  refine ⟨rfl,fun c => Or.inr ?_⟩
  rw [decide_eq_true hto]
  change (mx27ClkDef c).parent ∈ parentChoices true c
  cases c <;> decide

def to1Clks : List Mx27Clk :=
  [.cpuClk, .ahbClk, .perClk0, .perClk1, .perClk2, .perClk3, .ssi1Clk0, .ssi2Clk0, .vpuClk]

lemma linking_init_to1 (hto : ¬ isTo2 rev) (hw : Ccm) : Linking rev to1Clks (initState hw).parent := by
  refine ⟨rfl,fun c => ?_⟩
  rw [decide_eq_false hto]
  change c ∈ to1Clks ∨ (mx27ClkDef c).parent ∈ parentChoices false c
  cases c <;> decide

lemma Linking.setIf (h : Linking rev [] s.parent) {o : Option Mx27Clk}
  (ho : o ∈ parentChoices (decide (isTo2 rev)) d) (hd : d ≠ .clkoClk) (q : Prop) [Decidable q] :
  Linking rev [] (if q then s.setParent d o else s).parent := by
  split
  · exact h.set ho hd (by simp)
  · exact h

lemma linking_probe (h : Linking rev (if isTo2 rev then [] else to1Clks) s.parent) :
  Linking rev [] (probeMxcClocks rev s).parent := by
  unfold probeMxcClocks
  by_cases hto : isTo2 rev
  · rw [if_pos hto] at h ⊢
    have hch : ∀ {d : Mx27Clk} {o : Option Mx27Clk}, o ∈ parentChoices true d →
        o ∈ parentChoices (decide (isTo2 rev)) d := fun ho => by rwa [decide_eq_true hto]
    exact (((h.setIf (hch (by decide)) (by decide) _).setIf (hch (by decide)) (by decide) _).setIf
      (hch (by decide)) (by decide) _).setIf (hch (by decide)) (by decide) _
  · rw [if_neg hto] at h ⊢
    have hch : ∀ {d : Mx27Clk}, some .mpllClk ∈ parentChoices false d →
        some .mpllClk ∈ parentChoices (decide (isTo2 rev)) d := fun ho => by rwa [decide_eq_false hto]
    -- from the last link back to the first, each takes its clock off the list
    refine Linking.set (X := to1Clks.drop 8) ?_ (hch (by decide)) (by decide) (by decide)
    refine Linking.set (X := to1Clks.drop 7) ?_ (hch (by decide)) (by decide) (by decide)
    refine Linking.set (X := to1Clks.drop 6) ?_ (hch (by decide)) (by decide) (by decide)
    refine Linking.set (X := to1Clks.drop 5) ?_ (hch (by decide)) (by decide) (by decide)
    refine Linking.set (X := to1Clks.drop 4) ?_ (hch (by decide)) (by decide) (by decide)
    refine Linking.set (X := to1Clks.drop 3) ?_ (hch (by decide)) (by decide) (by decide)
    refine Linking.set (X := to1Clks.drop 2) ?_ (hch (by decide)) (by decide) (by decide)
    refine Linking.set (X := to1Clks.drop 1) ?_ (hch (by decide)) (by decide) (by decide)
    exact Linking.set h (hch (by decide)) (by decide) (by decide)

/-! ### Booting -/

structure Booting (rev : ℕ) (hw : Ccm) (s : State) : Prop where
  links : Linking rev [] s.parent
  secondary : ∀ c, s.secondary c = (mx27ClkDef c).secondary
  unused : ∀ c, s.usecount c = 0
  fields : AllFields rev hw s.hw

namespace Booting

variable {rev : ℕ} {hw : Ccm} {s s' : State}

lemma wired (h : Booting rev hw s) : Wired rev s := ⟨h.links.parentsOk, h.secondary⟩

lemma onlyRates (h : Booting rev hw s) (hs : OnlyRates s s') : Booting rev hw s' := by
  obtain ⟨h1,h2,h3,h4⟩ := hs
  exact ⟨h1 ▸ h.links,h2 ▸ h.secondary,h3 ▸ h.unused,h4 ▸ h.fields⟩

lemma write (h : Booting rev hw s) {hw' : Ccm} (hf : AllFields rev s.hw hw') :
  Booting rev hw { s with hw := hw' } := ⟨h.links, h.secondary, h.unused, h.fields.trans hf⟩

lemma setParent (h : Booting rev hw s) {d : Mx27Clk} {o : Option Mx27Clk}
  (ho : o ∈ parentChoices (decide (isTo2 rev)) d) (hd : d ≠ .clkoClk) : Booting rev hw (s.setParent d o) :=
  ⟨h.links.set ho hd (by simp), h.secondary, h.unused, h.fields⟩

lemma callRecalc (h : Booting rev hw s) {c : Mx27Clk} (hk : (mx27ClkDef c).recalc.isSome)
  (hc : none ∉ parentChoices (decide (isTo2 rev)) c) :
  ∃ s', Mach.callRecalc rev c s = some s' ∧ Booting rev hw s' := by
  obtain ⟨k,hk⟩ := isSome_iff_exists.mp hk
  cases hp : s.parent c with
  | none => exact absurd (hp ▸ h.links.parentsOk c) hc
  | some p =>
    unfold Mach.callRecalc
    rw [ops_recalc,hk,hp]
    exact ⟨_,rfl,h.onlyRates (onlyRates_setRate s c _)⟩

end Booting

lemma mpllSource_choice (to2 : Bool) (s : State) : some (mpllSource s) ∈ parentChoices to2 .mpllClk := by
  unfold mpllSource
  split <;> simp [parentChoices]

lemma probe_frame (rev : ℕ) (s : State) : (probeMxcClocks rev s).secondary = s.secondary ∧
  (probeMxcClocks rev s).usecount = s.usecount ∧ (probeMxcClocks rev s).hw = s.hw := by
  unfold probeMxcClocks
  simp only [foldl_cons,foldl_nil]
  split_ifs <;> exact ⟨rfl,rfl,rfl⟩

lemma booting_probe (b : Board) (hw : Ccm) : Booting b.rev hw (probeMxcClocks b.rev
  (((initState hw).setParent .mpllClk (some (mpllSource (initState hw)))).setRate .ckihClk (ckihRate b))) := by
  obtain ⟨h2,h3,h4⟩ := probe_frame b.rev
    (((initState hw).setParent .mpllClk (some (mpllSource (initState hw)))).setRate .ckihClk (ckihRate b))
  refine ⟨linking_probe ?_,fun c => by rw [h2]; rfl,fun c => by rw [h3]; rfl,by rw [h4]; exact AllFields.refl _ _⟩
  split
  · exact (linking_init_to2 ‹_› hw).set (mpllSource_choice _ _) (by decide) (by simp)
  · exact (linking_init_to1 ‹_› hw).set (mpllSource_choice _ _) (by decide) (fun _ h => Or.inr h)

lemma early_booting (b : Board) (hw : Ccm) :
  ∃ r s, clkEarlyGetTimerRate b (initState hw) = some (r, s) ∧ Booting b.rev hw s := by
  have hno : ∀ c ∈ [Mx27Clk.mpllClk,.mpllMainClk0,.mpllMainClk1,.perClk0],
      none ∉ parentChoices (decide (isTo2 b.rev)) c := by
    cases decide (isTo2 b.rev) <;> decide
  obtain ⟨s1,e1,h1⟩ := (booting_probe b hw).callRecalc (c := .mpllClk) rfl (hno _ (by decide))
  obtain ⟨s2,e2,h2⟩ : ∃ s2, recalcMpllMain b.rev s1 = some s2 ∧ Booting b.rev hw s2 := by
    unfold recalcMpllMain
    split
    · obtain ⟨t,et,ht⟩ := h1.callRecalc (c := .mpllMainClk0) rfl (hno _ (by decide))
      obtain ⟨u,eu,hu⟩ := ht.callRecalc (c := .mpllMainClk1) rfl (hno _ (by decide))
      exact ⟨u,by simp only [et,bind_eq_bind,bind_some,eu],hu⟩
    · exact ⟨s1,rfl,h1⟩
  obtain ⟨s3,e3,h3⟩ := h2.callRecalc (c := .perClk0) rfl (hno _ (by decide))
  have h4 : Booting b.rev hw (runEnable (mx27 b.rev) .gpt1Clk1 (runEnable (mx27 b.rev) .perClk0 s3).2).2 := by
    rw [runEnable_hw,runEnable_hw]
    exact (h3.write (AllFields.gateOn (by decide) _)).write (AllFields.gateOn (by decide) _)
  generalize ht : (runEnable (mx27 b.rev) .gpt1Clk1 (runEnable (mx27 b.rev) .perClk0 s3).2).2 = t at h4
  refine ⟨t.rate .perClk0,t,?_,h4⟩
  simp only [clkEarlyGetTimerRate,e1,e2,e3,ht,bind_eq_bind,bind_some]

lemma link_booting {b : Board} {hw : Ccm} {s : State} (h : Booting b.rev hw s) :
  Booting b.rev hw (mxcClocksLink b s) := by
  have h0 := h.write (AllFields.write (r := .pccr0) (Or.inl rfl) Pccr0.gpt1.mask s.hw)
  have h1 := h0.write (AllFields.write (r := .pccr1) (Or.inr (Or.inl rfl)) (Pccr1.perclk1.mask ||| Pccr1.hclkEmi.mask)
    (rawWritel Pccr0.gpt1.mask CcmReg.pccr0.addr s.hw))
  have h2 := h1.write (AllFields.gateOff (c := .spllClk) (by decide) _)
  unfold mxcClocksLink
  simp only [runDisable_hw]
  refine Booting.onlyRates ?_ (onlyRates_setRate _ _ _)
  refine (h2.setParent (mpllSource_choice _ _) (by decide)).setParent ?_ (by decide)
  split <;> simp [parentChoices]

lemma below_oscillator {rev : ℕ} {par : Mx27Clk → Option Mx27Clk} (h : ParentsOk rev par) :
  ∀ c : Mx27Clk, par c = none ∨ Below par c .ckihClk ∨ Below par c .ckilClk := by
  have hroot : ∀ (to2 : Bool) (c : Mx27Clk), none ∈ parentChoices to2 c →
      c = .ckihClk ∨ c = .ckilClk ∨ c = .clkoClk := by
    intro to2 c
    cases to2 <;> cases c <;> decide
  suffices ∀ n c, depth c < n → par c = none ∨ Below par c .ckihClk ∨ Below par c .ckilClk from
    fun c => this 9 c (depth_lt c)
  intro n
  induction n with
  | zero => intro c hc; omega
  | succ n ih =>
    intro c hc
    cases hp : par c with
    | none => exact Or.inl rfl
    | some p =>
      have hlt := h.depth_lt hp
      have hone : Below par c p := Relation.TransGen.single hp
      rcases ih p (by omega) with h0 | h0 | h0
      · rcases hroot _ p (h0 ▸ h p) with rfl | rfl | rfl
        · exact Or.inr (Or.inl hone)
        · exact Or.inr (Or.inr hone)
        · have := depth_lt c
          exact absurd hlt (by rw [show depth .clkoClk = 8 from rfl]; omega)
      · exact Or.inr (Or.inl (hone.trans h0))
      · exact Or.inr (Or.inr (hone.trans h0))

lemma propagate_oscillators {rev : ℕ} {s : State} (hpar : ParentsOk rev s.parent) :
  ∃ s₁ s₂, propagateRate (mx27 rev) (Fintype.card Mx27Clk) .ckihClk s = some s₁ ∧
    propagateRate (mx27 rev) (Fintype.card Mx27Clk) .ckilClk s₁ = some s₂ ∧ RatesOk rev s₂ := by
  obtain ⟨s₁,e1,h1⟩ := propagate_ratesOk hpar .ckihClk
    {c | ¬ Below s.parent c .ckihClk ∧ s.parent c ≠ none} fun c _ hD hb p hp => by
      exact absurd ⟨hb,fun h0 => by rw [h0] at hp; cases hp⟩ hD
  have hpar1 := (propagateRate_frame (mx27 rev) _ _ _ _ e1).1
  obtain ⟨s₂,e2,h2⟩ := propagate_ratesOk (hpar1 ▸ hpar) .ckilClk ∅ fun c hc _ hb => by
    refine h1 c hc fun ⟨hn,hp⟩ => ?_
    rw [hpar1] at hb
    rcases below_oscillator hpar c with h0 | h0 | h0
    · exact hp h0
    · exact hn h0
    · exact hb h0
  exact ⟨s₁,s₂,e1,e2,fun c hc => h2 c hc (Set.notMem_empty c)⟩

lemma boot_linked (b : Board) (hw : Ccm) : ∃ s, boot b hw = bootEnables.foldlM
  (fun s c => (Clk.clkEnable (mx27 b.rev) (some c) s).map (·.2)) s ∧
  Booting b.rev hw s ∧ RatesOk b.rev s ∧ s.rate .ckihClk = ckihRate b := by
  obtain ⟨r,s,e,h⟩ := early_booting b hw
  have hlink := link_booting h
  obtain ⟨s1,s2,e1,e2,hok⟩ := propagate_oscillators hlink.wired.parents
  have hf1 := propagateRate_frame (mx27 b.rev) _ _ _ _ e1
  have hf2 := propagateRate_frame (mx27 b.rev) _ _ _ _ e2
  have hroot : (mxcClocksLink b s).parent .ckihClk = none := by
    have := hlink.wired.parents .ckihClk
    simpa [parentChoices,mx27ClkDef] using this
  refine ⟨s2,?_,hlink.onlyRates (hf1.trans hf2),hok,?_⟩
  · simp only [boot,e,mxcClocksInit,e1,e2,bind_eq_bind,bind_some,bind_assoc]
    exact bind_fun_some _
  · rw [propagateRate_root _ _ _ _ _ (hf1.1 ▸ hroot) e2,propagateRate_root _ _ _ _ _ hroot e1]
    rfl

lemma boot_spec (b : Board) (hw : Ccm) : ∃ s, boot b hw = some s ∧ Wired b.rev s ∧ RatesOk b.rev s ∧
  s.parent .clkoClk = none ∧ AllFields b.rev hw s.hw ∧ s.rate .ckihClk = ckihRate b := by
  obtain ⟨s0,e,h,hok,hrate⟩ := boot_linked b hw
  rw [e]
  refine Run.foldlM_total (fun l s => (∀ c ∈ l, c ≠ .clkoClk) ∧ Wired b.rev s ∧ RatesOk b.rev s ∧
      s.parent .clkoClk = none ∧ AllFields b.rev hw s.hw ∧ s.rate .ckihClk = ckihRate b)
    (fun c l s ⟨hl,hw,hr,hp,hf,hk⟩ => ?_) bootEnables s0
    ⟨by decide,h.wired,hok,h.links.1,h.fields,hrate⟩ |>.imp fun s hs => ⟨hs.1,hs.2.2⟩
  obtain ⟨s',e',h1,h2,h3,h4⟩ := clkEnable_wired hw c
  have hsame := h4 (hl c (mem_cons_self ..))
  refine ⟨s',by rw [e']; rfl,fun d hd => hl d (mem_cons_of_mem _ hd),⟨h1 ▸ hw.parents,h2 ▸ hw.secondary⟩,
    fun d hd => rateOk_of_fields (hr d hd) (by rw [h1]) (hsame d) (by rw [h3]) (fun _ _ => by rw [h3]),h1 ▸ hp,
    hf.trans hsame,h3 ▸ hk⟩

end Mx27.Mach
