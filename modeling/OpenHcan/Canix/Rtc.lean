import Mathlib.Logic.Function.Iterate
import OpenHcan.Devices.Timeservice
import OpenHcan.Lib.Gregorian

/-!
# Rtc — the board's clock

`canix_update_datetime` of `canix/canix.c`, called once a second by the timer
interrupt, against the calendar. A day of calls is followed through the time of
day; what midnight does to the date is the successor in a calendar without leap
years.
-/

namespace OpenHcan.Rtc

open Lib Timeservice

/-- `canix_rtc_clock`, without the uptime. -/
structure CanixRtcClock extends RtcClock where
  lastDateUpdate : UInt8
deriving DecidableEq, Repr

/-- `ndays` -/
def ndays (monthOfYear : UInt8) : UInt8 :=
  match monthOfYear with
  | 1 => 31
  | 2 => 28
  | 3 => 31
  | 4 => 30
  | 5 => 31
  | 6 => 30
  | 7 => 31
  | 8 => 31
  | 9 => 30
  | 10 => 31
  | 11 => 30
  | 12 => 31
  | _ => 0

/-- A new day: what `canix_update_datetime` does at midnight. -/
def newDay (c : CanixRtcClock) : CanixRtcClock :=
  let c := { c with dayOfWeek := if c.dayOfWeek + 1 = 8 then 1 else c.dayOfWeek + 1 }
  let c := { c with dayOfMonth := c.dayOfMonth + 1 }
  if c.dayOfMonth > ndays c.monthOfYear then
    let c := { c with dayOfMonth := 1 }
    if c.monthOfYear + 1 > 12 then { c with monthOfYear := 1, year := c.year + 1 }
    else { c with monthOfYear := c.monthOfYear + 1 }
  else c

/-- `canix_update_datetime` -/
def canixUpdateDatetime (c : CanixRtcClock) : CanixRtcClock :=
  let c := { c with second := c.second + 1 }
  if c.second = 60 then
    let c := { c with second := 0, minute := c.minute + 1 }
    if c.minute = 60 then
      let c := { c with
        minute := 0
        lastDateUpdate := if c.lastDateUpdate < 255 then c.lastDateUpdate + 1 else c.lastDateUpdate
        hour := c.hour + 1 }
      if c.hour = 24 then newDay { c with hour := 0 } else c
    else c
  else c

/-! ## Reading the clock -/

/-- The date; the year byte counts from 2000. -/
def CanixRtcClock.date (c : CanixRtcClock) : Date :=
  ⟨2000 + c.year.toNat, c.monthOfYear.toNat, c.dayOfMonth.toNat⟩

def CanixRtcClock.secondsOfDay (c : CanixRtcClock) : Nat :=
  c.second.toNat + c.minute.toNat * 60 + c.hour.toNat * 3600

/-- The time of day is one. -/
structure CanixRtcClock.TimeInRange (c : CanixRtcClock) : Prop where
  second : c.second < 60
  minute : c.minute < 60
  hour : c.hour < 24

/-- Every field is in its range, the day in that of its month. -/
structure CanixRtcClock.InRange (c : CanixRtcClock) : Prop extends c.TimeInRange where
  dayOfWeek_pos : 1 ≤ c.dayOfWeek
  dayOfWeek_le : c.dayOfWeek ≤ 7
  date : c.date.Valid

/-- The fields are in range and the day of the week is that of the date. -/
structure CanixRtcClock.Valid (c : CanixRtcClock) : Prop extends c.InRange where
  weekday : c.dayOfWeek.toNat = c.date.weekday

variable {c : CanixRtcClock} {d : Date} {w t : Nat}

theorem toNat_add_one {x : UInt8} (hx : x.toNat < 255) : (x + 1).toNat = x.toNat + 1 := by
  rw [UInt8.toNat_add]
  exact Nat.mod_eq_of_lt (Nat.add_lt_of_lt_sub hx)

theorem add_one_eq_iff {x k : UInt8} (hx : x.toNat < 255) : x + 1 = k ↔ x.toNat + 1 = k.toNat := by
  rw [← UInt8.toNat_inj, toNat_add_one hx]

theorem ndays_eq (year : Nat) {m : UInt8} (h1 : 1 ≤ m.toNat) (h12 : m.toNat ≤ 12) :
    (ndays m).toNat = if m.toNat = 2 then 28 else Date.daysInMonth year m.toNat := by
  obtain ⟨n, hn⟩ : ∃ n, n = m.toNat := ⟨_, rfl⟩
  have hm : m = UInt8.ofNat n := by rw [hn, UInt8.ofNat_toNat]
  rw [← hn] at h1 h12 ⊢
  subst hm
  interval_cases n <;> rfl

/-! ## Midnight -/

/-- The day after `d` as the clock counts: February has 28 days. -/
def boardNext (d : Date) : Date :=
  if d.month = 2 ∧ d.day = 28 then ⟨d.year, 3, 1⟩ else d.succ

/-- The same, as the clock decides it: by the number of days of the month. -/
theorem boardNext_eq (hd : d.Valid) :
    boardNext d
      = if (if d.month = 2 then 28 else Date.daysInMonth d.year d.month) < d.day + 1 then
          if d.month < 12 then ⟨d.year, d.month + 1, 1⟩ else ⟨d.year + 1, 1, 1⟩
        else ⟨d.year, d.month, d.day + 1⟩ := by
  have hle := hd.day_le
  have hdays := Date.daysInMonth_pos d.year hd.month_pos hd.month_le
  rw [boardNext, Date.succ]
  by_cases hfeb : d.month = 2
  · -- in February the clock turns after day 28, and after day 29 if it was set to it
    rw [hfeb] at hle hdays ⊢
    have hfeb' : Date.daysInMonth d.year 2 ≤ 29 := by
      rw [Date.daysInMonth]
      split <;> decide
    by_cases h28 : d.day = 28
    · simp [h28]
    · by_cases hlt : d.day < 28
      · simp [h28, show d.day < Date.daysInMonth d.year 2 by omega, show ¬ 28 < d.day + 1 by omega]
      · simp [h28, show ¬ d.day < Date.daysInMonth d.year 2 by omega,
          show 28 < d.day + 1 by omega]
  · rw [if_neg fun h => hfeb h.1, if_neg hfeb]
    by_cases hlt : d.day < Date.daysInMonth d.year d.month
    · rw [if_pos hlt, if_neg (Nat.not_lt.mpr hlt)]
    · rw [if_neg hlt, if_pos (Nat.lt_succ_of_le (Nat.not_lt.mp hlt))]

/-- **Midnight**: the clock goes on to the next day of its own calendar. -/
theorem newDay_date (hd : c.date.Valid) (hyear : c.year ≤ 254) :
    (newDay c).date = boardNext c.date := by
  have hmonth : c.monthOfYear.toNat ≤ 12 := hd.month_le
  have hday : c.dayOfMonth.toNat ≤ 31 := hd.day_le.trans (Date.daysInMonth_le _ _)
  have hnextDay : (c.dayOfMonth + 1).toNat = c.dayOfMonth.toNat + 1 := toNat_add_one (by omega)
  have hnextMonth : (c.monthOfYear + 1).toNat = c.monthOfYear.toNat + 1 :=
    toNat_add_one (by omega)
  have hnextYear : (c.year + 1).toNat = c.year.toNat + 1 :=
    toNat_add_one (Nat.lt_of_le_of_lt hyear (by decide))
  have hover : c.dayOfMonth + 1 > ndays c.monthOfYear ↔
      (if c.date.month = 2 then 28 else Date.daysInMonth c.date.year c.date.month)
        < c.date.day + 1 := by
    rw [gt_iff_lt, UInt8.lt_iff_toNat_lt, hnextDay, ndays_eq c.date.year hd.month_pos hmonth]
    rfl
  have hlast : c.monthOfYear + 1 > 12 ↔ ¬ c.date.month < 12 := by
    rw [gt_iff_lt, UInt8.lt_iff_toNat_lt, hnextMonth, Nat.not_lt]
    exact Nat.lt_succ_iff
  rw [boardNext_eq hd]
  unfold newDay
  dsimp only
  by_cases h : c.dayOfMonth + 1 > ndays c.monthOfYear
  · rw [if_pos h, if_pos (hover.mp h)]
    by_cases h' : c.monthOfYear + 1 > 12
    · rw [if_pos h', if_neg (hlast.mp h')]
      exact congrArg (Date.mk · 1 1) (congrArg (2000 + ·) hnextYear)
    · rw [if_neg h', if_pos (not_not.mp (mt hlast.mpr h'))]
      exact congrArg (Date.mk _ · 1) hnextMonth
  · rw [if_neg h, if_neg (mt hover.mpr h)]
    exact congrArg (Date.mk _ _) hnextDay

/-- The day of the week goes on by one, from 7 to 1. -/
theorem newDay_dayOfWeek (h7 : c.dayOfWeek ≤ 7) :
    (newDay c).dayOfWeek.toNat = c.dayOfWeek.toNat % 7 + 1 := by
  have hle : c.dayOfWeek.toNat ≤ 7 := h7
  have hstep : (newDay c).dayOfWeek = if c.dayOfWeek + 1 = 8 then 1 else c.dayOfWeek + 1 := by
    unfold newDay
    dsimp only
    split
    · split <;> rfl
    · rfl
  have height : c.dayOfWeek + 1 = 8 ↔ c.dayOfWeek.toNat + 1 = 8 := add_one_eq_iff (by omega)
  rw [hstep]
  by_cases h : c.dayOfWeek + 1 = 8
  · rw [if_pos h]
    rw [height] at h
    show 1 = _
    omega
  · rw [if_neg h, toNat_add_one (by omega)]
    rw [height] at h
    omega

/-- The time of day is left to the caller. -/
theorem newDay_time (c : CanixRtcClock) :
    (newDay c).second = c.second ∧ (newDay c).minute = c.minute ∧ (newDay c).hour = c.hour := by
  unfold newDay
  dsimp only
  split
  · split <;> exact ⟨rfl, rfl, rfl⟩
  · exact ⟨rfl, rfl, rfl⟩

theorem valid_boardNext (hd : d.Valid) : (boardNext d).Valid := by
  rw [boardNext]
  split
  · exact ⟨(by decide : 1 ≤ 3), (by decide : 3 ≤ 12), Nat.le_refl 1, (by decide : 1 ≤ 31)⟩
  · exact Date.valid_succ hd

/-- The two calendars part on the 28th of February of a leap year. -/
theorem boardNext_eq_succ_iff (d : Date) :
    boardNext d = d.succ ↔ ¬ (d.month = 2 ∧ d.day = 28 ∧ Date.IsLeap d.year) := by
  rw [boardNext]
  by_cases h : d.month = 2 ∧ d.day = 28
  · rw [if_pos h, Date.succ, h.1, h.2, Date.daysInMonth]
    by_cases hleap : Date.IsLeap d.year <;> simp [hleap]
  · rw [if_neg h]
    exact iff_of_true rfl fun hall => h ⟨hall.1, hall.2.1⟩

/-! ## The time of day -/

/-- The clock shows the time `t`, in seconds, of the day `d` with the day of the
week `w`. -/
structure Shows (c : CanixRtcClock) (d : Date) (w t : Nat) : Prop extends c.TimeInRange where
  time : c.secondsOfDay = t
  date : c.date = d
  dayOfWeek : c.dayOfWeek.toNat = w

theorem CanixRtcClock.InRange.shows (hc : c.InRange) :
    Shows c c.date c.dayOfWeek.toNat c.secondsOfDay :=
  ⟨hc.toTimeInRange, rfl, rfl, rfl⟩

theorem Shows.lt (h : Shows c d w t) : t < 86400 := by
  have hs : c.second.toNat < 60 := h.second
  have hm : c.minute.toNat < 60 := h.minute
  have hh : c.hour.toNat < 24 := h.hour
  rw [← h.time, CanixRtcClock.secondsOfDay]
  omega

/-- **One call within the day**: the carries make up the next second. -/
theorem Shows.tick (h : Shows c d w t) (ht : t + 1 < 86400) :
    Shows (canixUpdateDatetime c) d w (t + 1) := by
  obtain ⟨⟨hs, hm, hh⟩, rfl, rfl, rfl⟩ := h
  have hs' : c.second.toNat < 60 := hs
  have hm' : c.minute.toNat < 60 := hm
  have hh' : c.hour.toNat < 24 := hh
  have hsecond : c.second + 1 = 60 ↔ c.second.toNat + 1 = 60 := add_one_eq_iff (by omega)
  have hminute : c.minute + 1 = 60 ↔ c.minute.toNat + 1 = 60 := add_one_eq_iff (by omega)
  have hhour : c.hour + 1 = 24 ↔ c.hour.toNat + 1 = 24 := add_one_eq_iff (by omega)
  have hs1 : (c.second + 1).toNat = c.second.toNat + 1 := toNat_add_one (by omega)
  have hm1 : (c.minute + 1).toNat = c.minute.toNat + 1 := toNat_add_one (by omega)
  have hh1 : (c.hour + 1).toNat = c.hour.toNat + 1 := toNat_add_one (by omega)
  have h060 : (0 : UInt8) < 60 := by decide
  unfold CanixRtcClock.secondsOfDay at ht ⊢
  unfold canixUpdateDatetime
  dsimp only
  by_cases h1 : c.second + 1 = 60
  · have h1' := hsecond.mp h1
    rw [if_pos h1]
    by_cases h2 : c.minute + 1 = 60
    · have h2' := hminute.mp h2
      have h3 : ¬ c.hour + 1 = 24 := mt hhour.mp (by omega)
      rw [if_pos h2, if_neg h3]
      refine ⟨⟨h060, h060, ?_⟩, ?_, rfl, rfl⟩
      · show (c.hour + 1).toNat < 24
        rw [hhour] at h3
        omega
      · show 0 + 0 * 60 + (c.hour + 1).toNat * 3600 = _
        omega
    · have h2' := mt hminute.mpr h2
      rw [if_neg h2]
      refine ⟨⟨h060, ?_, hh⟩, ?_, rfl, rfl⟩
      · show (c.minute + 1).toNat < 60
        omega
      · show 0 + (c.minute + 1).toNat * 60 + c.hour.toNat * 3600 = _
        omega
  · have h1' := mt hsecond.mpr h1
    rw [if_neg h1]
    refine ⟨⟨?_, hm, hh⟩, ?_, rfl, rfl⟩
    · show (c.second + 1).toNat < 60
      omega
    · show (c.second + 1).toNat + c.minute.toNat * 60 + c.hour.toNat * 3600 = _
      omega

/-- **The last second of the day** is followed by the first one of the next. -/
theorem Shows.midnight (h : Shows c d w 86399) (hd : d.Valid) (hyear : d.year ≤ 2254)
    (hw : w ≤ 7) : Shows (canixUpdateDatetime c) (boardNext d) (w % 7 + 1) 0 := by
  obtain ⟨⟨hs, hm, hh⟩, htime, rfl, rfl⟩ := h
  have hs' : c.second.toNat < 60 := hs
  have hm' : c.minute.toNat < 60 := hm
  have hh' : c.hour.toNat < 24 := hh
  rw [CanixRtcClock.secondsOfDay] at htime
  have h1 : c.second + 1 = 60 := (add_one_eq_iff (by omega)).mpr (by show _ = 60; omega)
  have h2 : c.minute + 1 = 60 := (add_one_eq_iff (by omega)).mpr (by show _ = 60; omega)
  have h3 : c.hour + 1 = 24 := (add_one_eq_iff (by omega)).mpr (by show _ = 24; omega)
  have hyear' : c.year ≤ 254 := Nat.le_of_add_le_add_left (a := 2000) hyear
  have h060 : (0 : UInt8) < 60 := by decide
  unfold canixUpdateDatetime
  dsimp only
  rw [if_pos h1, if_pos h2, if_pos h3]
  -- the counter of the last update is no part of what the clock shows
  generalize hlast : (if c.lastDateUpdate < 255 then c.lastDateUpdate + 1 else _) = last
  obtain ⟨hsecond, hminute, hhour⟩ := newDay_time
    ⟨⟨c.dayOfWeek, 0, 0, 0, c.dayOfMonth, c.monthOfYear, c.year⟩, last⟩
  refine ⟨⟨?_, ?_, ?_⟩, ?_, ?_, ?_⟩
  · rw [hsecond]
    exact h060
  · rw [hminute]
    exact h060
  · rw [hhour]
    exact (by decide : (0 : UInt8) < 24)
  · simp [CanixRtcClock.secondsOfDay, hsecond, hminute, hhour]
  · exact newDay_date hd hyear'
  · exact newDay_dayOfWeek hw

/-- The rest of the day. -/
theorem Shows.ticks (h : Shows c d w t) : ∀ k, t + k < 86400 →
    Shows (canixUpdateDatetime^[k] c) d w (t + k) := by
  intro k
  induction k with
  | zero => exact fun _ => h
  | succ k ih =>
      intro hk
      rw [Function.iterate_succ_apply']
      exact (ih (by omega)).tick hk

/-- The next day, up to the time of day it began with. -/
theorem Shows.nextDay (h : Shows c d w t) (hd : d.Valid) (hyear : d.year ≤ 2254) (hw : w ≤ 7)
    {k : Nat} (hk : k < 86400) :
    Shows (canixUpdateDatetime^[86400 - t + k] c) (boardNext d) (w % 7 + 1) k := by
  have ht := h.lt
  have hlast := h.ticks (86399 - t) (by omega)
  rw [show t + (86399 - t) = 86399 by omega] at hlast
  have hfirst := (hlast.midnight hd hyear hw).ticks k (by omega)
  rw [← Function.iterate_succ_apply' canixUpdateDatetime, ← Function.iterate_add_apply,
    show k + Nat.succ (86399 - t) = 86400 - t + k by omega, Nat.zero_add] at hfirst
  exact hfirst

/-! ## A day of calls -/

/-- 86400 calls lead to the same time of the next day, with its day of the week,
and every field is in its range after each of them. -/
structure Advances (c : CanixRtcClock) : Prop where
  inRange : ∀ k ≤ 86400, (canixUpdateDatetime^[k] c).InRange
  time : (canixUpdateDatetime^[86400] c).hour = c.hour ∧
    (canixUpdateDatetime^[86400] c).minute = c.minute ∧
    (canixUpdateDatetime^[86400] c).second = c.second
  date : (canixUpdateDatetime^[86400] c).date = c.date.succ
  weekday : (canixUpdateDatetime^[86400] c).dayOfWeek.toNat = c.date.succ.weekday

theorem Shows.inRange (h : Shows c d w t) (hd : d.Valid) (h1 : 1 ≤ w) (h7 : w ≤ 7) :
    c.InRange :=
  ⟨h.toTimeInRange, by rw [UInt8.le_iff_toNat_le, h.dayOfWeek]; exact h1,
    by rw [UInt8.le_iff_toNat_le, h.dayOfWeek]; exact h7, by rw [h.date]; exact hd⟩

/-- The time of day has one reading in hours, minutes and seconds. -/
theorem Shows.time_eq {c' : CanixRtcClock} {d' : Date} {w' : Nat} (h : Shows c d w t)
    (h' : Shows c' d' w' t) : c'.hour = c.hour ∧ c'.minute = c.minute ∧ c'.second = c.second := by
  have hs : c.second.toNat < 60 := h.second
  have hm : c.minute.toNat < 60 := h.minute
  have hs' : c'.second.toNat < 60 := h'.second
  have hm' : c'.minute.toNat < 60 := h'.minute
  have htime := h'.time.trans h.time.symm
  rw [CanixRtcClock.secondsOfDay, CanixRtcClock.secondsOfDay] at htime
  refine ⟨UInt8.toNat_inj.mp ?_, UInt8.toNat_inj.mp ?_, UInt8.toNat_inj.mp ?_⟩ <;> omega

/-- What the clock shows a day later. -/
theorem CanixRtcClock.Valid.nextDay (hc : c.Valid) (hyear : c.year ≤ 254) :
    Shows (canixUpdateDatetime^[86400] c) (boardNext c.date) c.date.succ.weekday
      c.secondsOfDay := by
  have hshows := hc.toInRange.shows
  have hlt := hshows.lt
  have hnext := hshows.nextDay hc.date (Nat.add_le_add_left hyear 2000) hc.dayOfWeek_le hlt
  rw [show 86400 - c.secondsOfDay + c.secondsOfDay = 86400 by omega, hc.weekday,
    ← Date.weekday_succ hc.date] at hnext
  exact hnext

/-- **When a day of calls is a day of the calendar**: on every date but the 28th of
February of a leap year, which the clock takes for the last day of the month. -/
theorem advances_iff (hc : c.Valid) (hyear : c.year ≤ 254) :
    Advances c ↔ ¬ (c.monthOfYear = 2 ∧ c.dayOfMonth = 28 ∧ Date.IsLeap (2000 + c.year.toNat)) := by
  have hshows := hc.toInRange.shows
  have hlt := hshows.lt
  have hnext := hc.nextDay hyear
  have hdate : boardNext c.date = c.date.succ ↔
      ¬ (c.monthOfYear = 2 ∧ c.dayOfMonth = 28 ∧ Date.IsLeap (2000 + c.year.toNat)) := by
    rw [boardNext_eq_succ_iff, ← UInt8.toNat_inj, ← UInt8.toNat_inj]
    rfl
  rw [← hdate]
  refine ⟨fun h => hnext.date.symm.trans h.date, fun hsucc => ⟨fun k hk => ?_, ?_, ?_, ?_⟩⟩
  · by_cases hday : c.secondsOfDay + k < 86400
    · exact (hshows.ticks k hday).inRange hc.date hc.dayOfWeek_pos hc.dayOfWeek_le
    · have hlater := hshows.nextDay hc.date (Nat.add_le_add_left hyear 2000) hc.dayOfWeek_le
        (show c.secondsOfDay + k - 86400 < 86400 by omega)
      rw [show 86400 - c.secondsOfDay + (c.secondsOfDay + k - 86400) = k by omega] at hlater
      exact hlater.inRange (valid_boardNext hc.date) (by omega) (by omega)
  · exact hshows.time_eq hnext
  · exact hnext.date.trans hsucc
  · exact hnext.dayOfWeek

/-- Noon of the 1st of January 2020. -/
def newYear : CanixRtcClock := ⟨⟨3, 12, 0, 0, 1, 1, 20⟩, 0⟩

theorem newYear_valid : newYear.Valid :=
  ⟨⟨⟨by decide, by decide, by decide⟩, by decide, by decide,
    ⟨by decide, by decide, by decide, by decide⟩⟩, by decide⟩

theorem advances_newYear : Advances newYear :=
  (advances_iff newYear_valid (by decide)).mpr (by decide)

/-- Noon of the 28th of February 2020, a Friday. -/
def leapFebruary : CanixRtcClock := ⟨⟨5, 12, 0, 0, 28, 2, 20⟩, 0⟩

theorem leapFebruary_valid : leapFebruary.Valid :=
  ⟨⟨⟨by decide, by decide, by decide⟩, by decide, by decide,
    ⟨by decide, by decide, by decide, by decide⟩⟩, by decide⟩

/-- A day later the clock shows Saturday, the 1st of March. -/
theorem leapFebruary_skipsDay :
    leapFebruary.Valid ∧ (canixUpdateDatetime^[86400] leapFebruary).date = ⟨2020, 3, 1⟩ ∧
      leapFebruary.date.succ = ⟨2020, 2, 29⟩ ∧ ¬ Advances leapFebruary := by
  have hnext := (leapFebruary_valid.nextDay (by decide)).date
  refine ⟨leapFebruary_valid, hnext, by decide, fun h => ?_⟩
  have hdate := hnext.symm.trans h.date
  exact absurd hdate (by decide)

end OpenHcan.Rtc
