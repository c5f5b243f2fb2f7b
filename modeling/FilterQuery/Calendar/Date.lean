namespace FilterQuery.Calendar

/-! Days of the Gregorian calendar, extended without end in both directions. -/

def isLeapYear (year : Int) : Bool :=
  year % 4 == 0 && (year % 100 != 0 || year % 400 == 0)

def daysInMonth (year : Int) (month : Nat) : Nat :=
  if month = 2 then (if isLeapYear year then 29 else 28)
  else if month = 4 || month = 6 || month = 9 || month = 11 then 30
  else 31

theorem daysInMonth_pos (year : Int) (month : Nat) : 1 ≤ daysInMonth year month := by
  unfold daysInMonth
  split
  · split <;> decide
  · split <;> decide

structure Date where
  year : Int
  month : Nat
  day : Nat
  month_valid : 1 ≤ month ∧ month ≤ 12
  day_valid : 1 ≤ day ∧ day ≤ daysInMonth year month
deriving DecidableEq, Repr

namespace Date

/-- The day with the given numbers, if the calendar has one. -/
def of? (year : Int) (month day : Nat) : Option Date :=
  if valid : (1 ≤ month ∧ month ≤ 12) ∧ 1 ≤ day ∧ day ≤ daysInMonth year month then
    some ⟨year, month, day, valid.1, valid.2⟩
  else
    none

def next (date : Date) : Date :=
  if within : date.day < daysInMonth date.year date.month then
    { date with
      day := date.day + 1
      day_valid := ⟨Nat.le_add_left 1 date.day, within⟩ }
  else if december : date.month < 12 then
    { year := date.year
      month := date.month + 1
      day := 1
      month_valid := ⟨Nat.le_add_left 1 date.month, december⟩
      day_valid := ⟨Nat.le_refl 1, daysInMonth_pos _ _⟩ }
  else
    { year := date.year + 1
      month := 1
      day := 1
      month_valid := by decide
      day_valid := ⟨Nat.le_refl 1, daysInMonth_pos _ _⟩ }

def previous (date : Date) : Date :=
  if within : 1 < date.day then
    { date with
      day := date.day - 1
      day_valid := ⟨Nat.le_sub_one_of_lt within,
        Nat.le_trans (Nat.sub_le date.day 1) date.day_valid.2⟩ }
  else if january : 1 < date.month then
    { year := date.year
      month := date.month - 1
      day := daysInMonth date.year (date.month - 1)
      month_valid := ⟨Nat.le_sub_one_of_lt january,
        Nat.le_trans (Nat.sub_le date.month 1) date.month_valid.2⟩
      day_valid := ⟨daysInMonth_pos _ _, Nat.le_refl _⟩ }
  else
    { year := date.year - 1
      month := 12
      day := 31
      month_valid := by decide
      day_valid := by simp [daysInMonth] }

end Date

end FilterQuery.Calendar
