/-
# Gates of clocks in use

Runs of `clk_enable` and `clk_disable` on the mx27 from the state boot leaves.
-/
import Mx27Drivers.Clock.UseCount
import Mx27Drivers.Mach.Boot

namespace Mx27.Mach

open List

open Clk Bits

def GatesOn (s : State) : Prop := ∀ c, 0 < s.usecount c → ∀ r, Covers (s.hw r) (gateBits c r)

def GatesOnBut (A : Set Mx27Clk) (s : State) : Prop :=
  ∀ c, c ∉ A → 0 < s.usecount c → ∀ r, Covers (s.hw r) (gateBits c r)

lemma raise_pos {u : Int8} (hu : u ≠ 0) (h : 0 < u + 1) : 0 < u := by
  rw [pos_iff] at h ⊢
  have h0 : u.toInt ≠ 0 := fun h0 => hu ((eq_zero_iff u).mpr h0)
  by_contra hn
  rw [toInt_add_one (by omega)] at h
  omega

variable {rev f : ℕ} {c d : Mx27Clk} {s s' : State}

lemma gatesOn_enable {r : ℤ} (h : GatesOn s)
  (e : clkEnableRec (mx27 rev) f c s = some (r, s')) : GatesOn s' := by
  have hinv : EnableInv (mx27 rev) (fun _ => True) GatesOnBut := by
    refine ⟨fun _ _ _ _ _ _ _ => trivial,fun A t c ht _ hz d hd hpos r => ?_,
      fun A t c ht _ hz d hd hpos r => ?_,fun A t c ht _ d hd hpos r => ?_⟩
    · refine ht d hd ?_ r
      by_cases hdc : d = c
      · subst hdc
        exact raise_pos hz (by simpa [ClkState.setUsecount] using hpos)
      · simpa [ClkState.setUsecount,hdc] using hpos
    · rw [Set.mem_insert_iff,not_or] at hd
      refine ht d hd.2 ?_ r
      simpa [ClkState.setUsecount,hd.1] using hpos
    · rw [runEnable_hw] at hpos ⊢
      by_cases hdc : d = c
      · subst hdc
        exact covers_or_self _ _
      · exact (ht d (by simp [hdc,hd]) hpos r).or _
  have := clkEnableRec_inv (mx27_neverFails rev) hinv f c ∅ s s' r trivial (fun d _ => h d) e
  exact fun d => this d (Set.notMem_empty d)

lemma noDependents_conflict (h : Wired rev s) (hclko : s.parent .clkoClk = none)
  (hcd : Conflict c d) : NoDependents s c := by
  have hpar : ∀ (to2 : Bool) (e : Mx27Clk), e ≠ .clkoClk →
      some .usbClk0 ∉ parentChoices to2 e ∧ some .gpioClk ∉ parentChoices to2 e := by
    intro to2 e
    cases to2 <;> cases e <;> decide
  have hsec : ∀ e : Mx27Clk, (mx27ClkDef e).secondary ≠ some .usbClk0 ∧
      (mx27ClkDef e).secondary ≠ some .gpioClk := by
    intro e
    cases e <;> decide
  intro e
  rw [h.secondary e]
  have hpe : s.parent e ≠ some .usbClk0 ∧ s.parent e ≠ some .gpioClk := by
    by_cases he : e = .clkoClk
    · rw [he,hclko]
      decide
    · have := hpar (decide (isTo2 rev)) e he
      exact ⟨fun hp => this.1 (hp ▸ h.parents e),fun hp => this.2 (hp ▸ h.parents e)⟩
  rcases hcd with ⟨rfl,-⟩ | ⟨rfl,-⟩
  · exact ⟨hpe.1,(hsec e).1⟩
  · exact ⟨hpe.2,(hsec e).2⟩

lemma eq_one_of_sub_one {u : Int8} (h : u - 1 = 0) : u = 1 := by
  calc u = u - 1 + 1 := (Int8.sub_add_cancel u 1).symm
    _ = 1 := by rw [h]; rfl

lemma Conflict.symm (h : Conflict c d) : Conflict d c :=
  h.elim (fun h => Or.inr h.symm) fun h => Or.inl h.symm

lemma lowered_pos {u : Int8} (hpos : 0 < s.usecount c)
  (h : 0 < (s.setUsecount c u).usecount d) : 0 < s.usecount d := by
  by_cases hdc : d = c
  · exact hdc ▸ hpos
  · rwa [ClkState.usecount_setUsecount_of_ne hdc] at h

lemma gatesOn_disable (hw : Wired rev s)
  (hclko : s.parent .clkoClk = none) (h : GatesOn s)
  (hok : s.usecount c = 1 → ∀ d, Conflict c d → ¬ 0 < s.usecount d)
  (e : clkDisableRec (mx27 rev) f c s = some s') : GatesOn s' := by
  by_cases hR : ∀ d, Conflict c d → ¬ 0 < s.usecount d
  · -- nothing depends on the two clocks, so the clocks given back on the way conflict with none
    have hinv : DisableInv (mx27 rev) (fun c => ∀ d, Conflict c d → ¬ 0 < s.usecount d) fun t =>
        (t.parent = s.parent ∧ t.secondary = s.secondary) ∧ GatesOn t ∧
          ∀ d, 0 < t.usecount d → 0 < s.usecount d := by
      refine ⟨fun t ht a b _ hab d hbd => ?_,fun t c ht _ hpos _ => ⟨ht.1,fun d hd => ?_,fun d hd => ?_⟩,
        fun t c ht hc hpos hz => ?_⟩
      · rw [ht.1.1,ht.1.2] at hab
        exact absurd hab (not_or.mpr (noDependents_conflict hw hclko hbd a))
      · exact ht.2.1 d (lowered_pos hpos hd)
      · exact ht.2.2 d (lowered_pos hpos hd)
      · rw [runDisable_hw,hz]
        refine ⟨ht.1,fun d hd r => ?_,fun d hd => ht.2.2 d (lowered_pos hpos hd)⟩
        have hdc : d ≠ c := by
          rintro rfl
          simp [ClkState.setUsecount] at hd
        have hd' := lowered_pos hpos hd
        exact (ht.2.1 d hd' r).clear
          (gateBits_disjoint hdc (fun hdc => hc d hdc.symm (ht.2.2 d hd')) r)
    exact (clkDisableRec_inv hinv f c s s' hR ⟨⟨rfl,rfl⟩,h,fun _ => id⟩ e).2.1
  · cases f with
    | zero => simp [clkDisableRec] at e
    | succ f =>
      rcases clkDisableRec_cases e with ⟨-,rfl⟩ | ⟨hpos,-,rfl⟩ | ⟨-,hz,-⟩
      · exact h
      · exact fun d hd => h d (lowered_pos hpos hd)
      · exact absurd (hok (eq_one_of_sub_one hz)) hR

lemma gate_lost (hw : Wired rev s)
  (hclko : s.parent .clkoClk = none) (hcd : Conflict c d) (hc : s.usecount c = 1) (hd : 0 < s.usecount d)
  (e : clkDisableRec (mx27 rev) f c s = some s') :
  0 < s'.usecount d ∧ ¬ Covers (s'.hw .pccr1) (gateBits d .pccr1) := by
  have hbits : gateBits c = gateBits d ∧ gateBits d .pccr1 ≠ 0 ∧ c ≠ d := by
    rcases hcd with ⟨rfl,rfl⟩ | ⟨rfl,rfl⟩ <;> exact ⟨rfl,by decide,by decide⟩
  have hno : NoDependents s d := noDependents_conflict hw hclko hcd.symm
  -- what is true once the hook of `c` ran stays true while its links are given back
  have hinv : DisableInv (mx27 rev) (· ≠ d) fun t => (t.parent = s.parent ∧ t.secondary = s.secondary) ∧
      0 < t.usecount d ∧ ¬ Covers (t.hw .pccr1) (gateBits d .pccr1) := by
    refine ⟨fun t ht => hno.linksIn ht.1.1 ht.1.2,fun t a ht ha _ _ => ⟨ht.1,?_,ht.2.2⟩,
      fun t a ht ha _ _ => ?_⟩
    · rw [ClkState.usecount_setUsecount_of_ne ha.symm]
      exact ht.2.1
    · rw [runDisable_hw]
      refine ⟨ht.1,?_,fun hcov => ht.2.2 hcov.of_clear⟩
      exact (ClkState.usecount_setUsecount_of_ne ha.symm t _) ▸ ht.2.1
  cases f with
  | zero => simp [clkDisableRec] at e
  | succ f =>
    rcases clkDisableRec_cases e with ⟨hn,-⟩ | ⟨-,hz,-⟩ | ⟨-,-,t,s1,ht,e1,e2⟩
    · rw [hc] at hn
      exact absurd (by decide) hn
    · rw [hc] at hz
      exact absurd rfl hz
    · have hI : (t.parent = s.parent ∧ t.secondary = s.secondary) ∧ 0 < t.usecount d ∧
          ¬ Covers (t.hw .pccr1) (gateBits d .pccr1) := by
        rw [ht,runDisable_hw,hbits.1]
        refine ⟨⟨rfl,rfl⟩,?_,not_covers_clear hbits.2.1⟩
        exact (ClkState.usecount_setUsecount_of_ne hbits.2.2.symm s _) ▸ hd
      have hI1 := onLink_disable_inv hinv (fun p hp he => (hno c).1 (by rw [← hI.1.1,hp,he])) hI e1
      exact (onLink_disable_inv hinv (fun q hq he => (hno c).2 (by rw [← hI1.1.2,hq,he])) hI1 e2).2

/-! ### Runs -/

inductive GateCall
  | enable (clk : Option Mx27Clk)
  | disable (clk : Option Mx27Clk)

def GateCall.step (rev : ℕ) (s : State) : GateCall → Option State
  | .enable clk => (Clk.clkEnable (mx27 rev) clk s).map (·.2)
  | .disable clk => Clk.clkDisable (mx27 rev) clk s

def GateCall.Ok (s : State) : GateCall → Prop
  | .enable _ => True
  | .disable none => True
  | .disable (some c) => s.usecount c = 1 → ∀ d, Conflict c d → ¬ 0 < s.usecount d

def BootLinks (rev : ℕ) (s : State) : Prop := Wired rev s ∧ s.parent .clkoClk = none

lemma BootLinks.congr (h : BootLinks rev s) (hp : s'.parent = s.parent)
  (hq : s'.secondary = s.secondary) : BootLinks rev s' :=
  ⟨⟨hp ▸ h.1.parents, hq ▸ h.1.secondary⟩, hp ▸ h.2⟩

lemma enable_step (h : BootLinks rev s) (c : Mx27Clk) :
  ∃ s', Clk.clkEnable (mx27 rev) (some c) s = some (0, s') ∧ BootLinks rev s' ∧ (GatesOn s → GatesOn s') := by
  obtain ⟨s',e,hp,hq,-⟩ := clkEnable_wired h.1 c
  exact ⟨s',e,h.congr hp hq,fun hg => gatesOn_enable hg e⟩

lemma disable_step (h : BootLinks rev s) (c : Mx27Clk) :
  ∃ s', Clk.clkDisable (mx27 rev) (some c) s = some s' ∧ BootLinks rev s' ∧
    (GatesOn s → (GatesOn s' ↔ GateCall.Ok s (.disable (some c)))) := by
  obtain ⟨s',e⟩ := clkDisableRec_returns (P := mx27 rev) (Fintype.card Mx27Clk) c s h.1.ranked
    (by rw [card_mx27Clk]; have := depth_lt c; omega)
  obtain ⟨hp,hq,-⟩ := clkDisableRec_links e
  refine ⟨s',e,h.congr hp hq,fun hg => ⟨fun hg' hone d hcd hd => ?_,fun hok => ?_⟩⟩
  · obtain ⟨hd',hlost⟩ := gate_lost h.1 h.2 hcd hone hd e
    exact hlost (hg' d hd' .pccr1)
  · exact gatesOn_disable h.1 h.2 hg hok e

lemma gate_step (call : GateCall) (h : BootLinks rev s) :
  ∃ s', call.step rev s = some s' ∧ BootLinks rev s' ∧ (GatesOn s → (GatesOn s' ↔ call.Ok s)) := by
  match call with
  | .enable none => exact ⟨s,rfl,h,fun hg => iff_of_true hg trivial⟩
  | .disable none => exact ⟨s,rfl,h,fun hg => iff_of_true hg trivial⟩
  | .enable (some c) =>
    obtain ⟨s',e,hl,hg'⟩ := enable_step h c
    exact ⟨s',by simp [GateCall.step,e],hl,fun hg => iff_of_true (hg' hg) trivial⟩
  | .disable (some c) => exact disable_step h c

lemma boot_gates (b : Board) (hw : Ccm) : ∃ s, boot b hw = some s ∧ BootLinks b.rev s ∧ GatesOn s ∧
  s.usecount .gpioClk = 1 ∧ s.usecount .usbClk0 = 0 := by
  obtain ⟨s0,e,h,-⟩ := boot_linked b hw
  rw [e]
  have hgpio : Conflict .gpioClk .usbClk0 := Or.inr ⟨rfl,rfl⟩
  refine Run.foldlM_total (fun (l : List Mx27Clk) s => (.usbClk0 ∉ l ∧ l.count .gpioClk ≤ 1) ∧ BootLinks b.rev s ∧ GatesOn s ∧
      s.usecount .gpioClk = (if Mx27Clk.gpioClk ∈ l then 0 else 1) ∧ s.usecount .usbClk0 = 0)
    (fun c l s ⟨hl,hb,hg,hu,hz⟩ => ?_) bootEnables s0
    ⟨by decide,⟨h.wired,h.links.1⟩,fun c hc => absurd hc (by simp [h.unused c]),h.unused _,h.unused _⟩
    |>.imp fun s hs => ⟨hs.1,hs.2.2⟩
  obtain ⟨s',e',hb',hg'⟩ := enable_step hb c
  refine ⟨s',by rw [e']; rfl,⟨fun hm => hl.1 (mem_cons_of_mem _ hm),?_⟩,hb',hg' hg,?_,?_⟩
  · have := count_le_count_cons (a := Mx27Clk.gpioClk) (b := c) (l := l)
    omega
  · by_cases hc : c = .gpioClk
    · subst hc
      have hnot : Mx27Clk.gpioClk ∉ l := by
        rw [← count_eq_zero]
        have := count_cons_self (a := Mx27Clk.gpioClk) (l := l)
        omega
      rw [clkEnableRec_count_self (mx27_neverFails b.rev) (noDependents_conflict hb.1 hb.2 hgpio) e',hu,
        if_pos (mem_cons_self ..),if_neg hnot]
      rfl
    · rw [clkEnableRec_count_other (mx27_neverFails b.rev) (noDependents_conflict hb.1 hb.2 hgpio) hc e',hu]
      simp [mem_cons,Ne.symm hc]
  · have hc : c ≠ .usbClk0 := fun hc => hl.1 (hc ▸ mem_cons_self ..)
    rw [clkEnableRec_count_other (mx27_neverFails b.rev) (noDependents_conflict hb.1 hb.2 hgpio.symm) hc e',hz]

/-- **When the gates stay open.** -/
theorem gates_run (b : Board) (hw : Ccm) : ∃ s₀, boot b hw = some s₀ ∧ ∀ calls : List GateCall,
  (∃ s, calls.foldlM (GateCall.step b.rev) s₀ = some s) ∧
  (Run.AllStates (GateCall.step b.rev) GatesOn s₀ calls ↔
    Run.AllSteps (GateCall.step b.rev) GateCall.Ok s₀ calls) := by
  obtain ⟨s₀,e,hb,hg,-⟩ := boot_gates b hw
  refine ⟨s₀,e,fun calls => ⟨?_,Run.allStates_iff (fun call s hb hg => ?_) hb hg⟩⟩
  · obtain ⟨s,e,-⟩ := Run.foldlM_total (fun _ s => BootLinks b.rev s)
      (fun call _ s h => (gate_step call h).imp fun _ h => ⟨h.1,h.2.1⟩) calls s₀ hb
    exact ⟨s,e⟩
  · exact (gate_step call hb).imp fun _ h => ⟨h.1,h.2.1,h.2.2 hg⟩

/-- A user of the USB clock that comes and goes. -/
theorem usb_closes_gpio : ∃ s₀ s, boot ⟨CHIP_REV_2_0, false⟩ (fun _ => 0) = some s₀ ∧
  [GateCall.enable (some .usbClk0), .disable (some .usbClk0)].foldlM (GateCall.step CHIP_REV_2_0) s₀ = some s ∧
  0 < s.usecount .gpioClk ∧ ¬ Covers (s.hw .pccr1) (gateBits .gpioClk .pccr1) := by
  obtain ⟨s₀,e0,hb0,-,hgpio,husb⟩ := boot_gates ⟨CHIP_REV_2_0,false⟩ fun _ => 0
  obtain ⟨s1,e1,hb1,-⟩ := enable_step hb0 .usbClk0
  obtain ⟨s2,e2,-⟩ := disable_step hb1 .usbClk0
  have hcd : Conflict .usbClk0 .gpioClk := Or.inl ⟨rfl,rfl⟩
  have husb1 : s1.usecount .usbClk0 = 1 := by
    rw [clkEnableRec_count_self (mx27_neverFails _) (noDependents_conflict hb0.1 hb0.2 hcd) e1,husb]
    rfl
  have hgpio1 : 0 < s1.usecount .gpioClk := by
    rw [clkEnableRec_count_other (mx27_neverFails _) (noDependents_conflict hb0.1 hb0.2 hcd.symm)
      (by decide) e1,hgpio]
    decide
  refine ⟨s₀,s2,e0,?_,gate_lost hb1.1 hb1.2 hcd husb1 hgpio1 e2⟩
  simp [foldlM_cons,GateCall.step,e1,e2]

end Mx27.Mach
