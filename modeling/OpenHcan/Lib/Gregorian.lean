import Mathlib.Tactic.IntervalCases

/-!
# Gregorian — the calendar

Dates with their successor, the number of a day counted from the first day of
the year 0, and the day of the week. The day after a date has the next number,
so its day of the week is the next one.
-/

namespace OpenHcan.Lib

/-- A date of the Gregorian calendar; months and days count from 1. -/
structure Date where
  year : Nat
  month : Nat
  day : Nat
deriving DecidableEq, Repr

namespace Date

def IsLeap (year : Nat) : Prop := year % 4 = 0 ∧ (year % 100 ≠ 0 ∨ year % 400 = 0)

instance (year : Nat) : Decidable (IsLeap year) := inferInstanceAs (Decidable (_ ∧ _))

def daysInMonth (year : Nat) : Nat → Nat
  | 1 | 3 | 5 | 7 | 8 | 10 | 12 => 31
  | 4 | 6 | 9 | 11 => 30
  | 2 => if IsLeap year then 29 else 28
  | _ => 0

structure Valid (d : Date) : Prop where
  month_pos : 1 ≤ d.month
  month_le : d.month ≤ 12
  day_pos : 1 ≤ d.day
  day_le : d.day ≤ daysInMonth d.year d.month

/-- The day after `d`. -/
def succ (d : Date) : Date :=
  if d.day < daysInMonth d.year d.month then ⟨d.year, d.month, d.day + 1⟩
  else if d.month < 12 then ⟨d.year, d.month + 1, 1⟩
  else ⟨d.year + 1, 1, 1⟩

/-- The days of the year in front of the month. -/
def daysBeforeMonth (year : Nat) : Nat → Nat
  | 0 => 0
  | month + 1 => daysBeforeMonth year month + daysInMonth year month

/-- The days in front of the year: 365 for each year, and one for each leap year. -/
def daysBeforeYear (year : Nat) : Nat :=
  365 * year + (year + 3) / 4 - (year + 99) / 100 + (year + 399) / 400

/-- The number of the day. -/
def dayNumber (d : Date) : Nat :=
  daysBeforeYear d.year + daysBeforeMonth d.year d.month + d.day

/-- The day of the week, 1 for Monday up to 7 for Sunday. -/
def weekday (d : Date) : Nat := (d.dayNumber + 4) % 7 + 1

example : weekday ⟨2000, 1, 1⟩ = 6 := by decide

theorem daysInMonth_pos (year : Nat) {month : Nat} (h1 : 1 ≤ month) (h12 : month ≤ 12) :
    28 ≤ daysInMonth year month := by
  have hfeb : 28 ≤ daysInMonth year 2 := by
    rw [daysInMonth]
    split <;> decide
  interval_cases month <;> first | exact hfeb | exact of_decide_eq_true rfl

theorem daysInMonth_le (year month : Nat) : daysInMonth year month ≤ 31 := by
  have hfeb : daysInMonth year 2 ≤ 31 := by
    rw [daysInMonth]
    split <;> decide
  unfold daysInMonth at hfeb ⊢
  split <;> first | exact hfeb | decide

theorem daysBeforeMonth_succ (year month : Nat) :
    daysBeforeMonth year (month + 1) = daysBeforeMonth year month + daysInMonth year month := rfl

/-- The days of a whole year. -/
theorem daysBeforeMonth_thirteen (year : Nat) :
    daysBeforeMonth year 13 = if IsLeap year then 366 else 365 := by
  simp only [daysBeforeMonth, daysInMonth]
  split <;> rfl

theorem daysBeforeYear_succ (year : Nat) :
    daysBeforeYear (year + 1) = daysBeforeYear year + if IsLeap year then 366 else 365 := by
  have h4 : (year + 1 + 3) / 4 = (year + 3) / 4 + if year % 4 = 0 then 1 else 0 := by
    split <;> omega
  have h100 : (year + 1 + 99) / 100 = (year + 99) / 100 + if year % 100 = 0 then 1 else 0 := by
    split <;> omega
  have h400 : (year + 1 + 399) / 400 = (year + 399) / 400 + if year % 400 = 0 then 1 else 0 := by
    split <;> omega
  have hle : (year + 99) / 100 ≤ 365 * year + (year + 3) / 4 := by omega
  have h4of : year % 400 = 0 → year % 100 = 0 := by omega
  have h4of' : year % 100 = 0 → year % 4 = 0 := by omega
  unfold daysBeforeYear IsLeap
  rw [h4, h100, h400]
  generalize (year + 3) / 4 = a at *
  generalize (year + 99) / 100 = b at *
  generalize (year + 399) / 400 = c at *
  by_cases h : year % 4 = 0 <;> by_cases h' : year % 100 = 0 <;> by_cases h'' : year % 400 = 0 <;>
    simp [h, h', h''] at * <;> omega

/-- **The day after has the next number.** -/
theorem dayNumber_succ {d : Date} (hd : d.Valid) : d.succ.dayNumber = d.dayNumber + 1 := by
  have hle := hd.day_le
  rw [succ]
  split
  · simp only [dayNumber]
    omega
  · next hday =>
      split
      · simp only [dayNumber, daysBeforeMonth_succ]
        omega
      · have hmonth : d.month = 12 := Nat.le_antisymm hd.month_le (by omega)
        have hjan : daysBeforeMonth (d.year + 1) 1 = 0 := rfl
        have hyear := daysBeforeMonth_thirteen d.year
        rw [daysBeforeMonth_succ] at hyear
        rw [hmonth] at hle hday
        simp only [dayNumber, daysBeforeYear_succ, hjan, hmonth]
        omega

theorem weekday_succ {d : Date} (hd : d.Valid) : d.succ.weekday = d.weekday % 7 + 1 := by
  rw [weekday, weekday, dayNumber_succ hd]
  omega

theorem valid_succ {d : Date} (hd : d.Valid) : d.succ.Valid := by
  have hle := hd.month_le
  rw [succ]
  split
  · next hday => exact ⟨hd.month_pos, hle, Nat.le_add_left 1 d.day, hday⟩
  · split
    · next hmonth =>
        have hdays := daysInMonth_pos d.year (show 1 ≤ d.month + 1 by omega) (by omega)
        exact ⟨Nat.le_add_left 1 d.month, hmonth, Nat.le_refl 1,
          Nat.le_trans (show 1 ≤ 28 by decide) hdays⟩
    · exact ⟨Nat.le_refl 1, (by decide : 1 ≤ 12), Nat.le_refl 1, (by decide : 1 ≤ 31)⟩

end Date

end OpenHcan.Lib
