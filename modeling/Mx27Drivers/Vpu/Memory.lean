/-
# The memory and the open count of the VPU driver

One process at a time may have the VPU open.
-/
import Mx27Drivers.Lib.Mealy

namespace Mx27.Vpu

open List

/-- `vpu_mem_desc`; the driver does not look at `virt_uaddr`. -/
structure VpuMemDesc where
  size : ℕ
  phyAddr : ℕ
  cpuAddr : ℕ
  deriving DecidableEq, Repr

structure Region where
  size : ℕ
  cpuAddr : ℕ
  phyAddr : ℕ
  deriving DecidableEq, Repr

structure State where
  openCount : ℕ
  head : List VpuMemDesc
  regions : List Region
  clkUsers : ℕ
  files : ℕ
  deriving DecidableEq, Repr

inductive Errno
  | EACCES
  | ENOMEM
  | EFAULT
  deriving DecidableEq, Repr

structure Effects where
  err : Option Errno := none
  obtained : Option Region := none
  freed : List Region := []
  deriving DecidableEq, Repr

def pageAlign (x : ℕ) : ℕ := (x + 4095) % 2 ^ 32 / 4096 * 4096

def VpuMemDesc.region (mem : VpuMemDesc) : Region := ⟨pageAlign mem.size, mem.cpuAddr, mem.phyAddr⟩

def vpuOpen (s : State) : State × Effects :=
  let s₁ := { s with openCount := (s.openCount + 1) % 256 }
  if s.openCount = 0 then ({ s₁ with clkUsers := s.clkUsers + 1, files := s.files + 1 }, {})
  else (s₁, { err := some .EACCES })

structure Answers where
  kzalloc : Bool
  copyFromUser : Bool
  dma : ℕ × ℕ
  copyToUser : Bool
  deriving DecidableEq, Repr

def phymemAlloc (desc : VpuMemDesc) (a : Answers) (s : State) : State × Effects :=
  if a.kzalloc = false then (s, { err := some .ENOMEM })
  else if a.copyFromUser = false then (s, { err := some .EFAULT })
  else if a.dma.1 = 0 then (s, { err := some .ENOMEM })
  else
    let mem : VpuMemDesc := ⟨desc.size, a.dma.2, a.dma.1⟩
    let s₁ := { s with regions := mem.region :: s.regions }
    if a.copyToUser = false then (s₁, { err := some .EFAULT, obtained := some mem.region })
    else ({ s₁ with head := mem :: s.head }, { obtained := some mem.region })

def sameCpuAddr (desc mem : VpuMemDesc) : Bool := mem.cpuAddr == desc.cpuAddr

def phymemFree (desc : VpuMemDesc) (copyFromUser : Bool) (s : State) : State × Effects :=
  if copyFromUser = false then (s, { err := some .EFAULT })
  else
    match s.head.find? (sameCpuAddr desc) with
    | none => (s, {})
    | some _ =>
      ({ s with head := s.head.eraseP (sameCpuAddr desc), regions := s.regions.erase desc.region },
        { freed := [desc.region] })

def vpuFreeBuffers (s : State) : State × Effects :=
  let freed := (s.head.filter fun mem => mem.cpuAddr ≠ 0).map VpuMemDesc.region
  ({ s with head := s.head.filter fun mem => mem.cpuAddr = 0, regions := s.regions.diff freed }, { freed := freed })

def vpuRelease (s : State) : State × Effects :=
  let s₁ := { s with openCount := (s.openCount + 255) % 256, files := s.files - 1 }
  if s₁.openCount = 0 then
    let r := vpuFreeBuffers s₁
    ({ r.1 with clkUsers := s.clkUsers - 1 }, r.2)
  else (s₁, {})

inductive Event
  | open
  | alloc (desc : VpuMemDesc) (a : Answers)
  | free (desc : VpuMemDesc) (copyFromUser : Bool)
  | release
  deriving DecidableEq, Repr

def act (s : State) : Event → State × Effects
  | .open => vpuOpen s
  | .alloc desc a => if s.files = 0 then (s, {}) else phymemAlloc desc a s
  | .free desc copyFromUser => if s.files = 0 then (s, {}) else phymemFree desc copyFromUser s
  | .release => if s.files = 0 then (s, {}) else vpuRelease s

def step : State → Event → Option State := Mealy.step act

def init : State := ⟨0, [], [], 0, 0⟩

def Reopenable (s : State) : Prop :=
  s.files = 0 → s.regions = [] ∧ s.clkUsers = 0 ∧ (vpuOpen s).2.err = none

def obtainedIn (s : State) (l : List Event) : List Region := Mealy.seen act (fun o => o.obtained.toList) s l

def freedIn (s : State) (l : List Event) : List Region := Mealy.seen act Effects.freed s l

def Careful (s : State) : Event → Prop
  | .open => s.openCount = 0
  | .alloc _ a => s.files ≠ 0 → a.kzalloc = true → a.copyFromUser = true → a.dma.1 ≠ 0 → a.copyToUser = true
  | .free desc copyFromUser =>
    s.files ≠ 0 → copyFromUser = true → ∀ mem ∈ s.head.find? (sameCpuAddr desc), desc.region = mem.region
  | .release => True

instance (s : State) : DecidablePred (Careful s)
  | .open => inferInstanceAs (Decidable (s.openCount = 0))
  | .alloc _ a => inferInstanceAs (Decidable
      (s.files ≠ 0 → a.kzalloc = true → a.copyFromUser = true → a.dma.1 ≠ 0 → a.copyToUser = true))
  | .free desc copyFromUser => inferInstanceAs (Decidable
      (s.files ≠ 0 → copyFromUser = true → ∀ mem ∈ s.head.find? (sameCpuAddr desc), desc.region = mem.region))
  | .release => isTrue trivial

/-! ### One call -/

structure Kept (s : State) : Prop where
  files : s.files ≤ 1
  count : s.openCount = s.files
  clock : s.clkUsers = s.files
  records : s.regions = s.head.map VpuMemDesc.region
  mapped : ∀ mem ∈ s.head, mem.cpuAddr ≠ 0
  empty : s.files = 0 → s.head = []

section Step

variable {s : State}

lemma Kept.reopenable (h : Kept s) : Reopenable s := by
  intro hfiles
  refine ⟨by rw [h.records,h.empty hfiles]; rfl,h.clock.trans hfiles,?_⟩
  unfold vpuOpen
  rw [if_pos (h.count.trans hfiles)]

lemma erase_region {desc mem : VpuMemDesc} (hregion : desc.region = mem.region) {l : List VpuMemDesc}
  (hfind : l.find? (sameCpuAddr desc) = some mem) :
  (l.map VpuMemDesc.region).erase desc.region = (l.eraseP (sameCpuAddr desc)).map VpuMemDesc.region ∧
    desc.region ∈ l.map VpuMemDesc.region := by
  induction l with
  | nil => cases hfind
  | cons first l ih =>
    by_cases hfirst : sameCpuAddr desc first = true
    · rw [find?_cons_of_pos hfirst] at hfind
      obtain rfl := Option.some.inj hfind
      rw [map_cons,hregion,eraseP_cons_of_pos hfirst]
      exact ⟨erase_cons_head _ _,mem_cons_self⟩
    · rw [find?_cons_of_neg hfirst] at hfind
      obtain ⟨herase,hmem⟩ := ih hfind
      have hne : first.region ≠ desc.region := by
        intro he
        have hcpu : first.cpuAddr = desc.cpuAddr := congrArg Region.cpuAddr he
        exact hfirst (by simp [sameCpuAddr,hcpu])
      rw [map_cons,eraseP_cons_of_neg hfirst,erase_cons_tail (by simpa using hne),herase,
        map_cons]
      exact ⟨rfl,mem_cons_of_mem _ hmem⟩

structure Accounts (s : State) (r : State × Effects) : Prop where
  kept : Kept r.1
  regions : (s.regions ++ r.2.obtained.toList).Perm (r.2.freed ++ r.1.regions)

lemma Kept.stays (h : Kept s) {err : Option Errno} : Accounts s (s, { err := err }) := ⟨h, by simp⟩

lemma accounts_open (h : Kept s) (hok : Careful s .open) : Accounts s (vpuOpen s) := by
  have hfiles : s.files = 0 := h.count.symm.trans hok
  unfold vpuOpen
  rw [if_pos (show s.openCount = 0 from hok)]
  refine ⟨⟨by simp [hfiles],?_,by simp [h.clock],h.records,h.mapped,fun hz => by simp at hz⟩,by simp⟩
  show (s.openCount + 1) % 256 = s.files + 1
  rw [show s.openCount = 0 from hok,hfiles]

lemma accounts_alloc (h : Kept s) (hfiles : s.files ≠ 0) (desc : VpuMemDesc) (a : Answers)
  (hok : Careful s (.alloc desc a)) : Accounts s (phymemAlloc desc a s) := by
  unfold phymemAlloc
  split
  · exact h.stays
  · rename_i hrec
    split
    · exact h.stays
    · rename_i hfrom
      split
      · exact h.stays
      · rename_i hdma
        have hto := hok hfiles (by simpa using hrec) (by simpa using hfrom) hdma
        rw [if_neg (by simp [hto])]
        refine ⟨⟨h.files,h.count,h.clock,by simp [h.records],fun mem hmem => ?_,fun hz => absurd hz hfiles⟩,?_⟩
        · rcases mem_cons.mp hmem with rfl | hmem
          · exact hdma
          · exact h.mapped mem hmem
        · exact perm_append_singleton _ _

lemma accounts_free (h : Kept s) (hfiles : s.files ≠ 0) (desc : VpuMemDesc) (copyFromUser : Bool)
  (hok : Careful s (.free desc copyFromUser)) : Accounts s (phymemFree desc copyFromUser s) := by
  unfold phymemFree
  split
  · exact h.stays
  · rename_i hfrom
    cases hfind : s.head.find? (sameCpuAddr desc) with
    | none => exact h.stays
    | some mem =>
      have hregion := hok hfiles (by simpa using hfrom) mem hfind
      obtain ⟨herase,hmem⟩ := erase_region hregion hfind
      rw [← h.records] at herase hmem
      refine ⟨⟨h.files,h.count,h.clock,herase,fun m hm => h.mapped m (mem_of_mem_eraseP hm),
        fun hz => absurd hz hfiles⟩,?_⟩
      simpa using perm_cons_erase hmem

lemma diff_self (l : List Region) : l.diff l = [] := by
  induction l with
  | nil => rfl
  | cons r l ih => simpa [cons_diff] using ih

lemma accounts_release (h : Kept s) (hfiles : s.files ≠ 0) : Accounts s (vpuRelease s) := by
  have hone : s.files = 1 := by
    have := h.files
    omega
  have hall : (s.head.filter fun mem => mem.cpuAddr ≠ 0) = s.head :=
    filter_eq_self.mpr fun mem hmem => by simpa using h.mapped mem hmem
  have hnone : (s.head.filter fun mem => mem.cpuAddr = 0) = [] :=
    filter_eq_nil_iff.mpr fun mem hmem => by simpa using h.mapped mem hmem
  have hdiff : s.regions.diff (s.head.map VpuMemDesc.region) = [] := by
    rw [h.records]
    exact diff_self _
  simp only [vpuRelease,vpuFreeBuffers,h.count,hone,hall,hnone,hdiff,h.clock]
  exact ⟨⟨by simp,rfl,rfl,rfl,fun mem hmem => by simp at hmem,fun _ => rfl⟩,by simp [h.records]⟩

lemma accounts_act (h : Kept s) (e : Event) (hok : Careful s e) : Accounts s (act s e) := by
  cases e with
  | «open» => exact accounts_open h hok
  | alloc desc a =>
    simp only [act]
    split
    · exact h.stays
    · exact accounts_alloc h ‹_› desc a hok
  | free desc copyFromUser =>
    simp only [act]
    split
    · exact h.stays
    · exact accounts_free h ‹_› desc copyFromUser hok
  | release =>
    simp only [act]
    split
    · exact h.stays
    · exact accounts_release h ‹_›

end Step

/-! ### Whole runs -/

/-- **Every region is released once and as it was obtained, and the device can be opened again**. -/
theorem vpu_run {l : List Event} (h : Run.AllSteps step Careful init l) :
  Run.AllStates step Reopenable init l ∧
  ∀ l₁ l₂, l = l₁ ++ l₂ →
    (obtainedIn init l₁).Perm (freedIn init l₁ ++ (Mealy.after act init l₁).regions) := by
  have hinit : Kept init := ⟨by decide,rfl,rfl,rfl,by simp [init],fun _ => rfl⟩
  refine ⟨h.keeps (J := Kept) (fun e s s' hs hok hs' => ?_) (fun s hs => hs.reopenable) hinit,?_⟩
  · obtain rfl := Option.some.inj hs'
    exact (accounts_act hs e hok).kept
  · rintro l₁ l₂ rfl
    exact Mealy.seen_perm (f := State.regions) (fun o => o.obtained.toList) Effects.freed
      (fun s e hs hok => (accounts_act hs e hok).kept) (fun s e hs hok => (accounts_act hs e hok).regions) l₁
      (Mealy.allSteps_append l₁ h).1 hinit

def session : List Event :=
  [.open, .alloc ⟨5000, 0, 0⟩ ⟨true, true, (0xC1000000, 0xA1000000), true⟩,
    .alloc ⟨100, 0, 0⟩ ⟨true, true, (0xC1002000, 0xA1002000), true⟩,
    .free ⟨5000, 0xA1000000, 0xC1000000⟩ true, .release, .open, .release]

theorem vpu_session : Run.AllStates step Reopenable init session ∧
  (obtainedIn init session).Perm (freedIn init session ++ (Mealy.after act init session).regions) :=
  have h := vpu_run (l := session) (by decide)
  ⟨h.1, h.2 session [] rfl⟩

/-- **A refused open locks the device**. -/
theorem refused_open : ¬ Run.AllStates step Reopenable init
  [.open, .alloc ⟨5000, 0, 0⟩ ⟨true, true, (0xC1000000, 0xA1000000), true⟩, .open, .release] := by
  intro h
  have h := (h.2 _ rfl).2 _ rfl
  have h := ((h.2 _ rfl).2 _ rfl) rfl
  exact absurd h.1 (by decide)

end Mx27.Vpu
