/-
# The deinterlace tasklet falls behind

A frame of the interlaced camera (minor 1) waits in `undi_q` for the tasklet that combines its
fields.
-/
import Mx27Drivers.Capture.Stream

namespace Mx27.Capture

open Option

def Prompt (s : State) : Prop := s.scheduled = false → s.undiQ = []

instance (s : State) : Decidable (Prompt s) := inferInstanceAs (Decidable (_ → _))

def Interlacing : Event → Prop
  | .frame | .tasklet | .qbuf _ | .dqbuf => True
  | _ => False

def Paced (s : State) : Event → Prop
  | .frame => s.undiQ = []
  | _ => True

instance : DecidablePred Interlacing
  | .frame | .tasklet | .qbuf _ | .dqbuf => isTrue trivial
  | .open _ _ | .sFmt _ | .reqbufs _ _ | .streamon _ | .streamoff | .close _ => isFalse id

instance (s : State) : DecidablePred (Paced s)
  | .frame => inferInstanceAs (Decidable (s.undiQ = []))
  | .tasklet | .qbuf _ | .dqbuf | .open _ _ | .sFmt _ | .reqbufs _ _ | .streamon _ | .streamoff | .close _ => isTrue trivial

def lag (s : State) : ℕ := s.undiQ.length - s.scheduled.toNat

lemma Prompt.of_lag {s : State} (h : lag s = 0) : Prompt s := by
  intro hs
  simpa [lag,hs] using h

/-! ### One step -/

section Steps

variable {s s' : State}

lemma encUpdateEba_undi {i : ℕ} (h : encUpdateEba s i = some s') :
  s'.undiQ = s.undiQ ∧ s'.scheduled = s.scheduled ∧ s'.devMinor = s.devMinor := by
  unfold encUpdateEba at h
  split at h
  · cases h
    exact ⟨rfl,rfl,rfl⟩
  · cases h

lemma refill_undi (h : refill s = some s') :
  s'.undiQ = s.undiQ ∧ s'.scheduled = s.scheduled ∧ s'.devMinor = s.devMinor := by
  unfold refill at h
  split at h
  · cases h
    exact ⟨rfl,rfl,rfl⟩
  · rename_i i q hq
    simp only [armReady,hq] at h
    have hkeep := encUpdateEba_undi h
    exact hkeep

lemma frameInterrupt_undi (hminor : s.devMinor = true) (h : frameInterrupt s = some s') :
  s'.devMinor = true ∧
    ((s'.undiQ = s.undiQ ∧ s'.scheduled = s.scheduled) ∨ ∃ i, s'.undiQ = s.undiQ ++ [i] ∧ s'.scheduled = true) := by
  unfold frameInterrupt at h
  split at h
  · cases h
    exact ⟨hminor,Or.inl ⟨rfl,rfl⟩⟩
  · rename_i prp hfill
    split at h
    · unfold cameraCallback at h
      split at h
      · obtain ⟨hu,hs,hm⟩ := refill_undi h
        exact ⟨hm.trans hminor,Or.inl ⟨hu,hs⟩⟩
      · rename_i i w hw
        split at h
        · obtain ⟨s1,hr,h⟩ := bind_eq_some_iff.mp h
          obtain ⟨hu,hs,hm⟩ := refill_undi hr
          rw [if_pos (hm.trans hminor)] at h
          cases h
          exact ⟨hm.trans hminor,Or.inr ⟨i,congrArg (· ++ [i]) hu,rfl⟩⟩
        · cases h
          exact ⟨hminor,Or.inl ⟨rfl,rfl⟩⟩
    · cases h
      exact ⟨hminor,Or.inl ⟨rfl,rfl⟩⟩

lemma qbuf_undi {i : ℕ} (h : qbuf i s = some s') :
  s'.undiQ = s.undiQ ∧ s'.scheduled = s.scheduled ∧ s'.devMinor = s.devMinor := by
  unfold qbuf at h
  split at h
  · split at h
    · split at h
      · obtain ⟨s1,hr,h⟩ := bind_eq_some_iff.mp h
        cases h
        have hkeep := encUpdateEba_undi hr
        exact hkeep
      · cases h
        exact ⟨rfl,rfl,rfl⟩
    · split at h
      · cases h
        exact ⟨rfl,rfl,rfl⟩
      · split at h <;> cases h <;> exact ⟨rfl,rfl,rfl⟩
  · cases h

lemma mxcV4lDqueue_undi (h : mxcV4lDqueue s = some s') :
  s'.undiQ = s.undiQ ∧ s'.scheduled = s.scheduled ∧ s'.devMinor = s.devMinor := by
  unfold mxcV4lDqueue at h
  split at h
  · cases h
    exact ⟨rfl,rfl,rfl⟩
  · split at h
    · cases h
    · split at h
      · cases h
        exact ⟨rfl,rfl,rfl⟩
      · split at h <;> cases h <;> exact ⟨rfl,rfl,rfl⟩

lemma runTasklet_undi (s : State) : (runTasklet s).devMinor = s.devMinor ∧
  (runTasklet s = s ∨ s.scheduled = true ∧ (runTasklet s).scheduled = false ∧ (runTasklet s).undiQ = s.undiQ.tail) := by
  obtain ⟨-,e⟩ | ⟨hs,hu,e⟩ | ⟨i,q,hs,hu,e⟩ := runTasklet_cases s
  · exact ⟨by rw [e],Or.inl e⟩
  · rw [e]
    exact ⟨rfl,Or.inr ⟨hs,rfl,by simp [hu]⟩⟩
  · rw [e]
    exact ⟨rfl,Or.inr ⟨hs,rfl,by simp [hu]⟩⟩

lemma step_undi {e : Event} (hminor : s.devMinor = true) (he : Interlacing e) (h : step s e = some s') :
  s'.devMinor = true ∧
    ((s'.undiQ = s.undiQ ∧ s'.scheduled = s.scheduled) ∨
      (e = .frame ∧ ∃ i, s'.undiQ = s.undiQ ++ [i] ∧ s'.scheduled = true) ∨
      s.scheduled = true ∧ s'.scheduled = false ∧ s'.undiQ = s.undiQ.tail) := by
  cases e with
  | frame =>
    obtain ⟨hm,h | h⟩ := frameInterrupt_undi hminor h
    · exact ⟨hm,Or.inl h⟩
    · exact ⟨hm,Or.inr (Or.inl ⟨rfl,h⟩)⟩
  | tasklet =>
    obtain rfl := Option.some.inj h
    obtain ⟨hm,h | h⟩ := runTasklet_undi s
    · exact ⟨hm.trans hminor,Or.inl (by rw [h]; exact ⟨rfl,rfl⟩)⟩
    · exact ⟨hm.trans hminor,Or.inr (Or.inr h)⟩
  | qbuf i =>
    obtain ⟨hu,hs,hm⟩ := qbuf_undi h
    exact ⟨hm.trans hminor,Or.inl ⟨hu,hs⟩⟩
  | dqbuf =>
    obtain ⟨hu,hs,hm⟩ := mxcV4lDqueue_undi h
    exact ⟨hm.trans hminor,Or.inl ⟨hu,hs⟩⟩
  | «open» | sFmt | reqbufs | streamon | streamoff | close => exact he.elim

end Steps

/-- **No frame is left behind** in a run of a stream whose interrupts all find `undi_q`
empty. -/
theorem prompt_run {s : State} (hminor : s.devMinor = true) (hundi : s.undiQ = []) {l : List Event}
  (hok : Run.AllSteps step (fun s e => Interlacing e ∧ Paced s e) s l) :
  Run.AllStates step Prompt s l := by
  refine hok.keeps (J := fun s => s.devMinor = true ∧ lag s = 0) (fun e s s' hJ hok h => ?_)
    (fun s hJ => Prompt.of_lag hJ.2) ⟨hminor,by simp [lag,hundi]⟩
  obtain ⟨hm,hcases⟩ := step_undi hJ.1 hok.1 h
  refine ⟨hm,?_⟩
  have hlag := hJ.2
  unfold lag at hlag ⊢
  obtain ⟨hu,hs⟩ | ⟨rfl,i,hu,hs⟩ | ⟨hs,hs',hu⟩ := hcases
  · rw [hu,hs]
    exact hlag
  · rw [hu,hs,show s.undiQ = [] from hok.2]
    rfl
  · rw [hs',hu]
    rw [hs] at hlag
    simpa using hlag

def ccdCalls : List Event :=
  [.open true .opened, .sFmt ⟨.yuv420, 720, 576, 0⟩, .reqbufs 3 (fun i => some (0xa0100000 + 0x200000 * i)), .qbuf 0,
    .qbuf 1, .qbuf 2, .streamon ⟨true, true⟩]

def ccdStream : State := (ccdCalls.foldlM step initCameraStruct).getD initCameraStruct

theorem prompt_ccdStream : ccdCalls.foldlM step initCameraStruct = some ccdStream ∧
  Run.AllStates step Prompt ccdStream [.frame, .tasklet, .frame, .tasklet, .dqbuf, .qbuf 0, .frame] :=
  ⟨rfl, prompt_run rfl rfl (by decide)⟩

/-- Two frames come before the tasklet runs, and the second stays. -/
theorem frame_left_behind : ccdCalls.foldlM step initCameraStruct = some ccdStream ∧ ccdStream.undiQ = [] ∧
  ∃ s, [Event.frame, .frame, .tasklet].foldlM step ccdStream = some s ∧ s.scheduled = false ∧ s.undiQ = [1] ∧
    ¬ Prompt s := by
  refine ⟨rfl,rfl,_,rfl,rfl,rfl,?_⟩
  decide

end Mx27.Capture
