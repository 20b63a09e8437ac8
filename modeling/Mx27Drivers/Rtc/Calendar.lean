/-
# The calendar of the real time clock

Seconds since 1970 and Gregorian dates, as `rtc_time_to_tm` and `mktime` convert them.
-/
import Mathlib

namespace Mx27.Rtc

/-- `rtc_time`; `tm_wday`, `tm_yday` and `tm_isdst` are not used. -/
structure RtcTime where
  tmSec : ℤ
  tmMin : ℤ
  tmHour : ℤ
  tmMday : ℤ
  tmMon : ℤ
  tmYear : ℤ
  deriving DecidableEq, Repr

def u32 (x : ℤ) : ℕ := (x % 2 ^ 32).toNat

def leapsThruEndOf (y : ℤ) : ℤ := y / 4 - y / 100 + y / 400

def leapYear (year : ℤ) : ℤ := if (year % 4 = 0 ∧ year % 100 ≠ 0) ∨ year % 400 = 0 then 1 else 0

def rtcDaysInMonth : ℕ → ℤ
  | 1 => 28
  | 3 | 5 | 8 | 10 => 30
  | _ => 31

def rtcMonthDays (month : ℕ) (year : ℤ) : ℤ := rtcDaysInMonth month + if month = 1 then leapYear year else 0

def monthLoop (year : ℤ) : ℕ → ℕ → ℤ → ℕ × ℤ
  | 0, month, days => (month, days)
  | n + 1, month, days =>
    let newdays := days - rtcMonthDays month year
    if newdays < 0 then (month, days) else monthLoop year n (month + 1) newdays

def yearAndDays (days : ℤ) : ℤ × ℤ :=
  let year := 1970 + days / 365
  let rest := days - ((year - 1970) * 365 + leapsThruEndOf (year - 1) - leapsThruEndOf (1970 - 1))
  if rest < 0 then (year - 1, rest + (365 + leapYear (year - 1))) else (year, rest)

def rtcTimeToTm (time : ℕ) : RtcTime :=
  let days : ℤ := (time / 86400 : ℕ)
  let left : ℤ := time - days * 86400
  let y := yearAndDays days
  let m := monthLoop y.1 11 0 y.2
  let hour := left / 3600
  let left₁ := left - hour * 3600
  let min := left₁ / 60
  ⟨left₁ - min * 60, min, hour, m.2 + 1, m.1, y.1 - 1900⟩

def dayNumber (year mon day : ℤ) : ℤ := leapsThruEndOf year + 367 * mon / 12 + day + year * 365 - 719499

def mktime (year0 mon0 day hour min sec : ℤ) : ℕ :=
  let days := if mon0 - 2 ≤ 0 then dayNumber (year0 - 1) (mon0 - 2 + 12) day else dayNumber year0 (mon0 - 2) day
  u32 (((days * 24 + hour) * 60 + min) * 60 + sec)

def rtcTmToTime (tm : RtcTime) : ℕ :=
  mktime (tm.tmYear + 1900) (tm.tmMon + 1) tm.tmMday tm.tmHour tm.tmMin tm.tmSec

def RtcTime.atTimeOf (date alrm : RtcTime) : RtcTime :=
  { date with tmHour := alrm.tmHour, tmMin := alrm.tmMin, tmSec := alrm.tmSec }

def rtcNextAlarmTime (now alrm : RtcTime) : RtcTime :=
  let next := now.atTimeOf alrm
  if rtcTmToTime next < rtcTmToTime now then rtcTimeToTm ((rtcTmToTime next + 60 * 60 * 24) % 2 ^ 32) else next

def rtcPeriodicAlarm (tm : RtcTime) : Bool :=
  tm.tmYear == -1 || decide (12 ≤ u32 tm.tmMon) || decide (31 ≤ u32 (tm.tmMday - 1)) || decide (23 < u32 tm.tmHour) ||
    decide (59 < u32 tm.tmMin) || decide (59 < u32 tm.tmSec)

def rtcValidTm (tm : RtcTime) : Bool :=
  decide (70 ≤ tm.tmYear) && decide (u32 tm.tmMon < 12) && decide (1 ≤ tm.tmMday) &&
    decide (tm.tmMday ≤ rtcMonthDays (u32 tm.tmMon) (tm.tmYear + 1900)) && decide (u32 tm.tmHour < 24) &&
    decide (u32 tm.tmMin < 60) && decide (u32 tm.tmSec < 60)

def RtcTime.ofDay (tm : RtcTime) : ℕ := (tm.tmHour * 3600 + tm.tmMin * 60 + tm.tmSec).toNat

structure FirstFrom (now tod t : ℕ) : Prop where
  le : now ≤ t
  ofDay : t % 86400 = tod
  first : ∀ t', now ≤ t' → t' % 86400 = tod → t ≤ t'

end Mx27.Rtc
