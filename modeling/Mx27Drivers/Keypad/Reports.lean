/-
# What the keypad reports

A key that is down in one sample only is reported released and never pressed (`bounce_released`).
-/
import Mx27Drivers.Keypad.Scan
import Mx27Drivers.Lib.Mealy

namespace Mx27.Keypad

open List Option

structure Pad where
  drv : Driver
  reported : Key → Bool
  quiet : Bool

def lastChange (c : Config) (sample : Key → Bool) (d : Driver) : Option Key :=
  (c.keys.filter fun k => d.curRcmap k != c.sampled sample k).getLast?

def seeReport (reported : Key → Bool) (r : Report) : Key → Bool := Function.update reported r.key r.value

def act (c : Config) (p : Pad) (sample : Key → Bool) : Pad × Effects :=
  let r := handleTimer c sample p.drv
  (⟨r.1, r.2.reports.foldl seeReport p.reported, (lastChange c sample p.drv).isNone⟩, r.2)

def step (c : Config) : Pad → (Key → Bool) → Option Pad := Mealy.step (act c)

def start : Pad := ⟨probed, fun _ => false, false⟩

structure Matches (c : Config) (p : Pad) (sample : Key → Bool) : Prop where
  down : ∀ r ∈ (act c p sample).2.reports, r.value = true → c.sampled sample r.key = true
  noticed : p.quiet = true → (act c p sample).1.quiet = true →
    ∀ k, c.sampled sample k = true → (act c p sample).1.reported k = true
  alternate : ∀ r ∈ (act c p sample).2.reports, p.reported r.key = !r.value
  once : ((act c p sample).2.reports.map Report.key).Nodup
  stop : (act c p sample).2.stopped = true → ∀ k, (act c p sample).1.reported k = false

structure Settled (c : Config) (p : Pad) (sample : Key → Bool) : Prop where
  up : ∀ k, p.drv.curRcmap k = true → c.sampled sample k = false → p.drv.pressScancode k = none
  down : ∀ k, p.drv.curRcmap k = false → c.sampled sample k = true → p.drv.releaseScancode k = none
  last : ∀ k, lastChange c sample p.drv = some k → c.sampled sample k = false →
    ∀ k', p.drv.pressScancode k' = none ∧ (c.sampled sample k' = true → p.drv.curRcmap k' = true)

structure Follows (c : Config) (p : Pad) : Prop where
  onPad : ∀ k, p.drv.curRcmap k = true → k ∈ c.keys
  reportedOnPad : ∀ k, p.reported k = true → k ∈ c.keys
  press : ∀ k, (p.drv.pressScancode k).isSome = (p.drv.curRcmap k && !p.reported k)
  release : ∀ k, (p.drv.releaseScancode k).isSome = (p.reported k && !p.drv.curRcmap k)
  kPress : p.drv.kPress = (p.drv.iKeyState == .firstDown || p.drv.iKeyState == .down)
  firstDown : ∀ k, (p.drv.pressScancode k).isSome = true → p.drv.iKeyState = .firstDown
  firstUp : (∀ k, p.drv.curRcmap k = false) → ∀ k, (p.drv.releaseScancode k).isSome = true →
    p.drv.iKeyState = .firstUp

lemma follows_start (c : Config) : Follows c start where
  onPad _ h := by cases h
  reportedOnPad _ h := by cases h
  press _ := rfl
  release _ := rfl
  kPress := rfl
  firstDown _ h := by cases h
  firstUp _ _ h := by cases h

section Seen

variable {c : Config} {offset : ℕ} {value : Bool} {t : Key → Option ℕ}

lemma reported_of_value : ∀ {l : List Report} (reported : Key → Bool), (∀ r ∈ l, r.value = value) →
  ∀ k, l.foldl seeReport reported k = if k ∈ l.map Report.key then value else reported k
  | [], _, _, _ => by simp
  | r :: l, reported, h, k => by
    rw [foldl_cons,reported_of_value (l := l) _ (fun r' hr' => h r' (mem_cons_of_mem r hr'))]
    have hr := h r mem_cons_self
    by_cases hk : k = r.key
    · simp [seeReport,hk,hr]
    · simp [seeReport,hk]

lemma reportLoop_reported (ht : ∀ k, (t k).isSome = true → k ∈ c.keys) (reported : Key → Bool) (k : Key) :
  (reportLoop c offset value c.keys t).2.foldl seeReport reported k =
    if (t k).isSome = true then value else reported k := by
  rw [reported_of_value reported (reportLoop_value c.keys t),reportLoop_keys c.keys c.nodup_keys]
  by_cases hk : (t k).isSome = true
  · have hmem : k ∈ c.keys.filter fun k => (t k).isSome := mem_filter.mpr ⟨ht k hk,hk⟩
    rw [if_pos hmem,if_pos hk]
  · have hmem : k ∉ c.keys.filter fun k => (t k).isSome := fun h => hk (mem_filter.mp h).2
    rw [if_neg hmem,if_neg hk]

end Seen

/-! ### A sample -/

section Sample

variable {c : Config} {p : Pad} {sample : Key → Bool}

def scanned (c : Config) (p : Pad) (sample : Key → Bool) : Pad :=
  ⟨(debounce c (noted c sample p.drv)).1, (debounce c (noted c sample p.drv)).2.foldl seeReport p.reported,
    (lastChange c sample p.drv).isNone⟩

lemma mem_of_sampled {k : Key} (h : c.sampled sample k = true) : k ∈ c.keys := by
  unfold Config.sampled at h
  simp only [Bool.and_eq_true,decide_eq_true_eq] at h
  exact h.1

lemma noted_curRcmap : (noted c sample p.drv).curRcmap = c.sampled sample := noteChange_curRcmap c.keys _

lemma noted_press (k : Key) : ((noted c sample p.drv).pressScancode k).isSome =
  ((p.drv.pressScancode k).isSome || (!p.drv.curRcmap k && c.sampled sample k)) := by
  refine (noteChange_press c.keys _ k).trans ?_
  by_cases hk : k ∈ c.keys
  · simp [hk]
  · simp [hk,Bool.eq_false_iff.mpr fun e => hk (mem_of_sampled e)]

lemma noted_release (h : Follows c p) (k : Key) : ((noted c sample p.drv).releaseScancode k).isSome =
  ((p.drv.releaseScancode k).isSome || (p.drv.curRcmap k && !c.sampled sample k)) := by
  refine (noteChange_release c.keys _ k).trans ?_
  by_cases hk : k ∈ c.keys
  · simp [hk]
  · simp [hk,Bool.eq_false_iff.mpr fun e => hk (h.onPad k e)]

lemma noted_last {k : Key} (hlast : lastChange c sample p.drv = some k) :
  (noted c sample p.drv).kPress = c.sampled sample k ∧
  debounce c (noted c sample p.drv) = ({ noted c sample p.drv with
    iKeyState := if c.sampled sample k then .firstDown else .firstUp }, []) := by
  have hset : ((noted c sample p.drv).kPress, (noted c sample p.drv).iKeyState) =
      (lastChange c sample p.drv).elim (p.drv.kPress, p.drv.iKeyState)
        fun k => (c.sampled sample k, if c.sampled sample k then .up else .down) := noteChange_last c.keys _
  rw [hlast] at hset
  obtain ⟨hkp,hst⟩ := Prod.mk.inj hset
  refine ⟨hkp,?_⟩
  unfold debounce
  cases hk : c.sampled sample k <;> simp [hst,hkp,hk]

lemma noted_quiet (h : Follows c p) (hlast : lastChange c sample p.drv = none) :
  c.sampled sample = p.drv.curRcmap ∧ noted c sample p.drv = p.drv := by
  have hsame : ∀ k ∈ c.keys, p.drv.curRcmap k = c.sampled sample k := by
    intro k hk
    have hnone := filter_eq_nil_iff.mp (getLast?_eq_none_iff.mp hlast) k hk
    simpa using hnone
  have hcur : c.sampled sample = p.drv.curRcmap := by
    funext k
    by_cases hk : k ∈ c.keys
    · exact (hsame k hk).symm
    · rw [Bool.eq_false_iff.mpr fun e => hk (mem_of_sampled e),Bool.eq_false_iff.mpr fun e => hk (h.onPad k e)]
  refine ⟨hcur,?_⟩
  unfold noted
  rw [hcur]
  exact noteChange_same c.keys p.drv

lemma Follows.press_mem (h : Follows c p) (k : Key) (hk : (p.drv.pressScancode k).isSome = true) : k ∈ c.keys := by
  rw [h.press,Bool.and_eq_true] at hk
  exact h.onPad k hk.1

lemma Follows.release_mem (h : Follows c p) (k : Key) (hk : (p.drv.releaseScancode k).isSome = true) :
  k ∈ c.keys := by
  rw [h.release,Bool.and_eq_true] at hk
  exact h.reportedOnPad k hk.1

lemma debounce_cases (h : Follows c p) :
  (debounce c p.drv = (p.drv, []) ∧ (p.drv.iKeyState = .up ∨ p.drv.iKeyState = .down)) ∨
  (p.drv.iKeyState = .firstDown ∧ p.drv.kPress = true ∧ ∃ st, (st = .firstDown ∨ st = .down) ∧ debounce c p.drv =
    ({ p.drv with pressScancode := fun _ => none, iKeyState := st },
      (reportLoop c 0 true c.keys p.drv.pressScancode).2)) ∨
  (p.drv.iKeyState = .firstUp ∧ p.drv.kPress = false ∧ ∃ st, (st = .firstUp ∨ st = .up) ∧ debounce c p.drv =
    ({ p.drv with releaseScancode := fun _ => none, iKeyState := st },
      (reportLoop c MXC_KEYRELEASE false c.keys p.drv.releaseScancode).2)) := by
  have hkp := h.kPress
  have hpress : (reportLoop c 0 true c.keys p.drv.pressScancode).1 = fun _ => none :=
    funext (reportLoop_drained h.press_mem)
  have hrelease : (reportLoop c MXC_KEYRELEASE false c.keys p.drv.releaseScancode).1 = fun _ => none :=
    funext (reportLoop_drained h.release_mem)
  unfold debounce
  cases hst : p.drv.iKeyState with
  | up =>
    have hkp : p.drv.kPress = false := by rw [hkp,hst]; rfl
    refine .inl ⟨?_,.inl rfl⟩
    simp only [hkp,Bool.false_eq_true,if_false]
    rw [← hst,← hkp]
  | firstDown =>
    have hkp : p.drv.kPress = true := by rw [hkp,hst]; rfl
    refine .inr (.inl ⟨rfl,hkp,
      if (reportLoop c 0 true c.keys p.drv.pressScancode).2 = [] then .firstDown else .down,?_,?_⟩)
    · split_ifs <;> simp
    · simp only [hkp,if_true,hpress]
  | down =>
    have hkp : p.drv.kPress = true := by rw [hkp,hst]; rfl
    refine .inl ⟨?_,.inr rfl⟩
    simp only [hkp,if_true]
    rw [← hst,← hkp]
  | firstUp =>
    have hkp : p.drv.kPress = false := by rw [hkp,hst]; rfl
    refine .inr (.inr ⟨rfl,hkp,
      if (reportLoop c MXC_KEYRELEASE false c.keys p.drv.releaseScancode).2 = [] then .firstUp else .up,?_,?_⟩)
    · split_ifs <;> simp
    · simp only [hkp,Bool.false_eq_true,if_false,hrelease]

lemma follows_debounce (h : Follows c p) (quiet : Bool) :
  Follows c ⟨(debounce c p.drv).1, (debounce c p.drv).2.foldl seeReport p.reported, quiet⟩ := by
  rcases debounce_cases h with ⟨e,-⟩ | ⟨hst,hkp,st,hst',e⟩ | ⟨hst,hkp,st,hst',e⟩
  · rw [e]
    exact ⟨h.onPad,h.reportedOnPad,h.press,h.release,h.kPress,h.firstDown,h.firstUp⟩
  · -- every key that is down has now been reported
    have hrep : (reportLoop c 0 true c.keys p.drv.pressScancode).2.foldl seeReport p.reported =
        fun k => p.reported k || p.drv.curRcmap k := by
      funext k
      rw [reportLoop_reported h.press_mem,h.press]
      cases p.reported k <;> cases p.drv.curRcmap k <;> rfl
    rw [e]
    show Follows c ⟨{ p.drv with pressScancode := fun _ => none, iKeyState := st },_,quiet⟩
    rw [hrep]
    refine ⟨h.onPad,fun k hk => ?_,fun k => ?_,fun k => ?_,?_,(fun k hk => by cases hk),fun hup k hk => ?_⟩
    · rcases Bool.or_eq_true_iff.mp hk with hk | hk
      · exact h.reportedOnPad k hk
      · exact h.onPad k hk
    · show false = (p.drv.curRcmap k && !(p.reported k || p.drv.curRcmap k))
      cases p.reported k <;> cases p.drv.curRcmap k <;> rfl
    · show _ = ((p.reported k || p.drv.curRcmap k) && !p.drv.curRcmap k)
      refine (h.release k).trans ?_
      cases p.reported k <;> cases p.drv.curRcmap k <;> rfl
    · rcases hst' with rfl | rfl <;> exact hkp
    · exact absurd ((h.firstUp hup k hk).symm.trans hst) (by decide)
  · -- every key that is reported is down
    have hrep : (reportLoop c MXC_KEYRELEASE false c.keys p.drv.releaseScancode).2.foldl seeReport p.reported =
        fun k => p.reported k && p.drv.curRcmap k := by
      funext k
      rw [reportLoop_reported h.release_mem,h.release]
      cases p.reported k <;> cases p.drv.curRcmap k <;> rfl
    rw [e]
    show Follows c ⟨{ p.drv with releaseScancode := fun _ => none, iKeyState := st },_,quiet⟩
    rw [hrep]
    refine ⟨h.onPad,fun k hk => ?_,fun k => ?_,fun k => ?_,?_,fun k hk => ?_,(fun _ k hk => by cases hk)⟩
    · exact h.onPad k (Bool.and_eq_true_iff.mp hk).2
    · show _ = (p.drv.curRcmap k && !(p.reported k && p.drv.curRcmap k))
      refine (h.press k).trans ?_
      cases p.reported k <;> cases p.drv.curRcmap k <;> rfl
    · show false = ((p.reported k && p.drv.curRcmap k) && !p.drv.curRcmap k)
      cases p.reported k <;> cases p.drv.curRcmap k <;> rfl
    · rcases hst' with rfl | rfl <;> exact hkp
    · exact absurd ((h.firstDown k hk).symm.trans hst) (by decide)

lemma drained_debounce (h : Follows c p) :
  (∀ k, ((debounce c p.drv).1.pressScancode k).isSome = false) ∧
  ((∀ k, p.drv.curRcmap k = false) → ∀ k, ((debounce c p.drv).1.releaseScancode k).isSome = false) := by
  rcases debounce_cases h with ⟨e,hst⟩ | ⟨hst,-,st,-,e⟩ | ⟨hst,-,st,-,e⟩
  · rw [e]
    refine ⟨fun k => Bool.eq_false_iff.mpr fun hk => ?_,fun hup k => Bool.eq_false_iff.mpr fun hk => ?_⟩
    · rw [h.firstDown k hk] at hst
      exact absurd hst (by decide)
    · rw [h.firstUp hup k hk] at hst
      exact absurd hst (by decide)
  · rw [e]
    refine ⟨fun _ => rfl,fun hup k => Bool.eq_false_iff.mpr fun hk => ?_⟩
    exact absurd ((h.firstUp hup k hk).symm.trans hst) (by decide)
  · rw [e]
    refine ⟨fun k => Bool.eq_false_iff.mpr fun hk => ?_,fun _ _ => rfl⟩
    exact absurd ((h.firstDown k hk).symm.trans hst) (by decide)

lemma follows_scan (h : Follows c p) (hs : Settled c p sample) : Follows c (scanned c p sample) := by
  unfold scanned
  cases hlast : lastChange c sample p.drv with
  | none =>
    rw [(noted_quiet h hlast).2]
    exact follows_debounce h _
  | some k =>
    obtain ⟨hkp,e⟩ := noted_last hlast
    -- a key changes only when its last change has been reported
    have hup : ∀ k', p.drv.curRcmap k' = true → c.sampled sample k' = false → p.reported k' = true := by
      intro k' hM hM'
      have hP := h.press k'
      rw [hs.up k' hM hM',hM] at hP
      simpa using hP
    have hdown : ∀ k', p.drv.curRcmap k' = false → c.sampled sample k' = true → p.reported k' = false := by
      intro k' hM hM'
      have hR := h.release k'
      rw [hs.down k' hM hM',hM] at hR
      simpa using hR
    rw [e]
    refine ⟨fun k' hk' => ?_,h.reportedOnPad,fun k' => ?_,fun k' => ?_,?_,fun k' hk' => ?_,fun hall _ _ => ?_⟩
    · rw [noted_curRcmap] at hk'
      exact mem_of_sampled hk'
    · show ((noted c sample p.drv).pressScancode k').isSome = ((noted c sample p.drv).curRcmap k' && !p.reported k')
      rw [noted_press,h.press,noted_curRcmap]
      have hup := hup k'
      have hdown := hdown k'
      cases hM : p.drv.curRcmap k' <;> cases hM' : c.sampled sample k' <;> simp_all
    · show ((noted c sample p.drv).releaseScancode k').isSome = (p.reported k' && !(noted c sample p.drv).curRcmap k')
      rw [noted_release h,h.release,noted_curRcmap]
      have hup := hup k'
      have hdown := hdown k'
      cases hM : p.drv.curRcmap k' <;> cases hM' : c.sampled sample k' <;> simp_all
    · refine hkp.trans ?_
      cases c.sampled sample k <;> rfl
    · show (if c.sampled sample k = true then KeyState.firstDown else .firstUp) = _
      cases hM' : c.sampled sample k with
      | true => rfl
      | false =>
        obtain ⟨hnone,hnew⟩ := hs.last k hlast hM' k'
        replace hk' : ((noted c sample p.drv).pressScancode k').isSome = true := hk'
        rw [noted_press,hnone] at hk'
        simp only [isSome_none,Bool.false_or,Bool.and_eq_true,Bool.not_eq_true'] at hk'
        exact absurd (hnew hk'.2) (by simp [hk'.1])
    · have hM' : c.sampled sample k = false := by
        rw [← noted_curRcmap]
        exact hall k
      show (if c.sampled sample k = true then KeyState.firstDown else .firstUp) = _
      rw [hM']
      rfl

lemma quiet_of_keycnt (h0 : keycnt c sample p.drv = 0) :
  lastChange c sample p.drv = none ∧ ∀ k, c.sampled sample k = false := by
  obtain ⟨hdown,hup⟩ := Nat.add_eq_zero_iff.mp h0
  have hno : ∀ k, c.sampled sample k = false := fun k => Bool.eq_false_iff.mpr fun hk =>
    countP_eq_zero.mp hdown k (mem_of_sampled hk) hk
  refine ⟨?_,hno⟩
  refine getLast?_eq_none_iff.mpr (filter_eq_nil_iff.mpr fun k hk => ?_)
  have hk := countP_eq_zero.mp hup k hk
  rw [hno k] at hk ⊢
  simpa using hk

lemma debounce_curRcmap (h : Follows c p) : (debounce c p.drv).1.curRcmap = p.drv.curRcmap := by
  rcases debounce_cases h with ⟨e,-⟩ | ⟨-,-,st,-,e⟩ | ⟨-,-,st,-,e⟩ <;> rw [e]

lemma reported_of_quiet (h : Follows c p) (hlast : lastChange c sample p.drv = none) {k : Key}
  (hk : c.sampled sample k = true) : (scanned c p sample).reported k = true := by
  obtain ⟨hcur,hnoted⟩ := noted_quiet h hlast
  have hpress := (follows_debounce h true).press k
  rw [(drained_debounce h).1 k,debounce_curRcmap h,← hcur,hk] at hpress
  unfold scanned
  rw [hnoted]
  simpa using hpress

lemma reported_of_keycnt (h : Follows c p) (h0 : keycnt c sample p.drv = 0) (k : Key) :
  (scanned c p sample).reported k = false := by
  obtain ⟨hlast,hno⟩ := quiet_of_keycnt h0
  obtain ⟨hcur,hnoted⟩ := noted_quiet h hlast
  have hup : ∀ k, p.drv.curRcmap k = false := fun k => hcur ▸ hno k
  have hrelease := (follows_debounce h true).release k
  rw [(drained_debounce h).2 hup k,debounce_curRcmap h,hup k] at hrelease
  unfold scanned
  rw [hnoted]
  simpa using hrelease

lemma act_stop (h0 : keycnt c sample p.drv = 0) :
  act c p sample = ({ scanned c p sample with
    drv := { (scanned c p sample).drv with
      pressScancode := fun _ => none
      releaseScancode := fun _ => none } }, ⟨(debounce c (noted c sample p.drv)).2, true⟩) := by
  unfold act handleTimer scanMatrix
  simp only [h0,if_true]
  rfl

lemma act_go (h0 : keycnt c sample p.drv ≠ 0) :
  act c p sample = (scanned c p sample, ⟨(debounce c (noted c sample p.drv)).2, false⟩) := by
  unfold act handleTimer scanMatrix
  simp only [h0,if_false]
  rfl

lemma reports_cases (h : Follows c p) (sample : Key → Bool) :
  (act c p sample).2.reports = [] ∨
  (c.sampled sample = p.drv.curRcmap ∧
    (act c p sample).2.reports = (reportLoop c 0 true c.keys p.drv.pressScancode).2) ∨
  (act c p sample).2.reports = (reportLoop c MXC_KEYRELEASE false c.keys p.drv.releaseScancode).2 := by
  have hreports : (act c p sample).2.reports = (debounce c (noted c sample p.drv)).2 := by
    by_cases h0 : keycnt c sample p.drv = 0
    · rw [act_stop h0]
    · rw [act_go h0]
  rw [hreports]
  cases hlast : lastChange c sample p.drv with
  | some k =>
    rw [(noted_last hlast).2]
    exact .inl rfl
  | none =>
    obtain ⟨hcur,hnoted⟩ := noted_quiet h hlast
    rw [hnoted]
    rcases debounce_cases h with ⟨e,-⟩ | ⟨-,-,st,-,e⟩ | ⟨-,-,st,-,e⟩ <;> rw [e]
    · exact .inl rfl
    · exact .inr (.inl ⟨hcur,rfl⟩)
    · exact .inr (.inr rfl)

lemma act_reported : (act c p sample).1.reported = (scanned c p sample).reported := by
  by_cases h0 : keycnt c sample p.drv = 0
  · rw [act_stop h0]
  · rw [act_go h0]

lemma follows_act (h : Follows c p) (hs : Settled c p sample) : Follows c (act c p sample).1 := by
  have hscan := follows_scan h hs
  by_cases h0 : keycnt c sample p.drv = 0
  · -- the tables are cleared, and nothing was left in them
    have hrep := reported_of_keycnt h h0
    have hcur : (scanned c p sample).drv.curRcmap = fun _ => false := by
      obtain ⟨hlast,hno⟩ := quiet_of_keycnt h0
      obtain ⟨hcur,hnoted⟩ := noted_quiet h hlast
      unfold scanned
      rw [hnoted,debounce_curRcmap h,← hcur]
      exact funext hno
    rw [act_stop h0]
    refine ⟨hscan.onPad,hscan.reportedOnPad,fun k => ?_,fun k => ?_,hscan.kPress,(fun k hk => by cases hk),
      (fun _ k hk => by cases hk)⟩
    · show false = ((scanned c p sample).drv.curRcmap k && _)
      rw [hcur]
      rfl
    · show false = ((scanned c p sample).reported k && _)
      rw [hrep]
      rfl
  · rw [act_go h0]
    exact hscan

lemma matches_act (h : Follows c p) (sample : Key → Bool) : Matches c p sample where
  down r hr hv := by
    rcases reports_cases h sample with e | ⟨hcur,e⟩ | e <;> rw [e] at hr
    · cases hr
    · have hpress := (mem_reportLoop hr).1
      rw [h.press,Bool.and_eq_true] at hpress
      rw [hcur]
      exact hpress.1
    · exact absurd (hv.symm.trans (mem_reportLoop hr).2) (by decide)
  noticed _ hquiet k hk := by
    rw [act_reported]
    exact reported_of_quiet h (isNone_iff_eq_none.mp hquiet) hk
  alternate r hr := by
    rcases reports_cases h sample with e | ⟨-,e⟩ | e <;> rw [e] at hr
    · cases hr
    · obtain ⟨hpress,hv⟩ := mem_reportLoop hr
      rw [h.press,Bool.and_eq_true] at hpress
      simpa [hv] using hpress.2
    · obtain ⟨hrelease,hv⟩ := mem_reportLoop hr
      rw [h.release,Bool.and_eq_true] at hrelease
      simpa [hv] using hrelease.1
  once := by
    rcases reports_cases h sample with e | ⟨-,e⟩ | e <;> rw [e]
    · exact nodup_nil
    · rw [reportLoop_keys c.keys c.nodup_keys]
      exact c.nodup_keys.filter _
    · rw [reportLoop_keys c.keys c.nodup_keys]
      exact c.nodup_keys.filter _
  stop hstop k := by
    rw [act_reported]
    refine reported_of_keycnt h ?_ k
    by_contra h0
    rw [act_go h0] at hstop
    cases hstop

end Sample

lemma settled_of_same {c : Config} {p : Pad} {sample : Key → Bool} (h : c.sampled sample = p.drv.curRcmap) :
  Settled c p sample where
  up k hM hM' := by
    rw [h,hM] at hM'
    cases hM'
  down k hM hM' := by
    rw [h,hM] at hM'
    cases hM'
  last k hlast _ := by
    have hk := (mem_filter.mp (mem_of_getLast? hlast)).2
    simp [h] at hk

lemma settled_of_clear {c : Config} {p : Pad} {sample : Key → Bool} (hpress : ∀ k, p.drv.pressScancode k = none)
  (hrelease : ∀ k, p.drv.releaseScancode k = none)
  (h : (∀ k, c.sampled sample k = true → p.drv.curRcmap k = true) ∨
    ∀ k, p.drv.curRcmap k = true → c.sampled sample k = true) : Settled c p sample where
  up k _ _ := hpress k
  down k _ _ := hrelease k
  last k hlast hM' k' := by
    refine ⟨hpress k',?_⟩
    rcases h with h | h
    · exact h k'
    · have hk := (mem_filter.mp (mem_of_getLast? hlast)).2
      have hM : p.drv.curRcmap k = true := by simpa [hM'] using hk
      exact absurd (h k hM) (by simp [hM'])

def onePad : Config := ⟨1, 1, id⟩

def held : Key → Bool := fun k => k == (0, 0)
def idle : Key → Bool := fun _ => false

end Mx27.Keypad
