/-
# Alarms of the real time clock

`mxc_rtc_set_alarm` writes the alarm registers.
-/
import Mx27Drivers.Rtc.Calendar
import Mx27Drivers.Lib.Mealy

namespace Mx27.Rtc

structure Clock where
  day : ℕ
  hourMin : ℕ
  sec : ℕ
  deriving DecidableEq, Repr

def Clock.ofTime (time : ℕ) : Clock :=
  let day := time / 86400
  let left := time - day * 86400
  let hr := left / 3600
  let left₁ := left - hr * 3600
  let min := left₁ / 60
  ⟨day, hr * 256 + min, left₁ - min * 60⟩

def Clock.toTime (c : Clock) : ℕ := (((c.day * 24 + c.hourMin / 256) * 60 + c.hourMin % 256) * 60 + c.sec) % 2 ^ 32

def RTC_ALM_BIT : BitVec 32 := 0x4#32
def RTC_1HZ_BIT : BitVec 32 := 0x10#32
def PIT_ALL_ON : BitVec 32 := 0xFF80#32

def RTC_IRQF : BitVec 32 := 0x80#32
def RTC_PF : BitVec 32 := 0x40#32
def RTC_AF : BitVec 32 := 0x20#32
def RTC_UF : BitVec 32 := 0x10#32

structure State where
  time : Clock
  alarm : Clock
  isr : BitVec 32
  ienr : BitVec 32
  gRtcAlarm : RtcTime
  deriving DecidableEq, Repr

def rtcUpdateAlarm (alrm : RtcTime) (s : State) : State :=
  { s with
    isr := s.isr &&& ~~~s.isr
    alarm := Clock.ofTime (rtcTmToTime (rtcNextAlarmTime (rtcTimeToTm s.time.toTime) alrm)) }

def eventsOf (status : BitVec 32) : BitVec 32 :=
  (if status &&& RTC_ALM_BIT ≠ 0 then RTC_AF ||| RTC_IRQF else 0) |||
    (if status &&& RTC_1HZ_BIT ≠ 0 then RTC_UF ||| RTC_IRQF else 0) |||
    if status &&& PIT_ALL_ON ≠ 0 then RTC_PF ||| RTC_IRQF else 0

def acknowledged (s : State) : BitVec 32 :=
  let status := s.isr &&& s.ienr
  if status &&& RTC_ALM_BIT ≠ 0 then status &&& ~~~RTC_ALM_BIT else status

/-- `mxc_rtc_interrupt`; returns what is passed to `rtc_update`. -/
def mxcRtcInterrupt (s : State) : State × BitVec 32 :=
  let s₁ := { s with isr := s.isr &&& ~~~(s.isr &&& s.ienr) }
  let status := acknowledged s
  (if status &&& RTC_ALM_BIT ≠ 0 ∧ rtcPeriodicAlarm s.gRtcAlarm = true then rtcUpdateAlarm s.gRtcAlarm s₁ else s₁,
    eventsOf status)

def enableAlarm (alrm : RtcTime) (enabled : Bool) (s : State) : State :=
  { s with gRtcAlarm := alrm, ienr := if enabled then s.ienr ||| RTC_ALM_BIT else s.ienr &&& ~~~RTC_ALM_BIT }

/-- `mxc_rtc_set_alarm`; an alarm that is not valid (`-EINVAL`) changes nothing. -/
def mxcRtcSetAlarm (alrm : RtcTime) (enabled : Bool) (s : State) : State :=
  if rtcPeriodicAlarm alrm then
    if 59 < alrm.tmSec ∨ 23 < alrm.tmHour ∨ 59 < alrm.tmMin then s
    else
      let atm := rtcNextAlarmTime (rtcTimeToTm s.time.toTime) alrm
      enableAlarm alrm enabled (rtcUpdateAlarm atm s)
  else if rtcValidTm alrm then enableAlarm alrm enabled (rtcUpdateAlarm alrm s)
  else s

def tick (pit : BitVec 32) (s : State) : State :=
  let time := Clock.ofTime ((s.time.toTime + 1) % 2 ^ 32)
  { s with
    time := time
    isr := s.isr ||| RTC_1HZ_BIT ||| (pit &&& PIT_ALL_ON) ||| if time = s.alarm then RTC_ALM_BIT else 0 }

inductive Event
  | setAlarm (alrm : RtcTime) (enabled : Bool)
  | tick (pit : BitVec 32)
  | irq
  deriving DecidableEq, Repr

def act (s : State) : Event → State × BitVec 32
  | .setAlarm alrm enabled => (mxcRtcSetAlarm alrm enabled s, 0)
  | .tick pit => (tick pit s, 0)
  | .irq => mxcRtcInterrupt s

def step : State → Event → Option State := Mealy.step act

def AlarmFires (s : State) : Prop := s.isr &&& s.ienr &&& RTC_ALM_BIT ≠ 0

instance : DecidablePred AlarmFires := fun s => inferInstanceAs (Decidable (s.isr &&& s.ienr &&& RTC_ALM_BIT ≠ 0))

def Reports (s : State) (e : Event) : Prop := e = .irq → AlarmFires s → (act s e).2 &&& RTC_AF ≠ 0

def Rearms (s : State) (e : Event) : Prop :=
  e = .irq → AlarmFires s → rtcPeriodicAlarm s.gRtcAlarm = true →
    FirstFrom ((act s e).1.time.toTime + 1) s.gRtcAlarm.ofDay (act s e).1.alarm.toTime

lemma acknowledged_alarm (s : State) : acknowledged s &&& RTC_ALM_BIT = 0 := by
  unfold acknowledged
  simp only
  split
  · rw [BitVec.and_assoc,BitVec.not_and_self]
    exact BitVec.and_zero
  · rename_i h
    rwa [not_not] at h

lemma interrupt_events (s : State) : (mxcRtcInterrupt s).2 &&& RTC_AF = 0 := by
  show eventsOf (acknowledged s) &&& RTC_AF = 0
  unfold eventsOf
  rw [acknowledged_alarm,if_neg (not_not.mpr rfl)]
  split <;> split <;> decide

/-- **Alarms reach the user exactly in the runs that take no interrupt for one.** -/
theorem alarm_run (s : State) (l : List Event) :
  Run.AllSteps step (fun s e => Reports s e ∧ Rearms s e) s l ↔
    Run.AllSteps step (fun s e => e = .irq → ¬ AlarmFires s) s l := by
  refine Run.allSteps_iff (J := fun _ => True) (Q := fun _ => True) (fun e s _ _ => ?_) (fun _ _ _ _ _ _ _ => trivial)
    (fun _ _ => trivial) trivial
  constructor
  · rintro ⟨hreports,-⟩ rfl hfires
    exact hreports rfl hfires (interrupt_events s)
  · intro hsilent
    exact ⟨fun he hfires => absurd hfires (hsilent he),fun he hfires => absurd hfires (hsilent he)⟩

def epoch : State := ⟨⟨0, 0, 0⟩, ⟨0, 0, 0⟩, 0, 0, ⟨0, 0, 0, 0, 0, 0⟩⟩

/-- **An alarm that is not reported**. -/
theorem alarm_unreported : ¬ Run.AllSteps step (fun s e => Reports s e ∧ Rearms s e) epoch
  [.setAlarm ⟨1, 0, 0, -1, -1, -1⟩ true, .tick 0, .irq] := by
  intro h
  have h := ((h.2 _ rfl).2 _ rfl).1.1 rfl
  exact h (by decide) (interrupt_events _)

end Mx27.Rtc
