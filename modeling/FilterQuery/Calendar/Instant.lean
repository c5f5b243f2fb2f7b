import FilterQuery.Calendar.Date

namespace FilterQuery.Calendar

/-! Instants in universal time, to the nanosecond.  Second 60 of a minute is a
leap second and differs from the first second of the next minute. -/

structure TimeOfDay where
  hour : Nat
  minute : Nat
  second : Nat
  nanosecond : Nat
  hour_valid : hour < 24
  minute_valid : minute < 60
  second_valid : second ≤ 60
  nanosecond_valid : nanosecond < 1000000000
deriving DecidableEq, Repr

/-- The time with the given numbers, if a day has one. -/
def TimeOfDay.of? (hour minute second nanosecond : Nat) : Option TimeOfDay :=
  if valid : hour < 24 ∧ minute < 60 ∧ second ≤ 60 ∧ nanosecond < 1000000000 then
    some ⟨hour, minute, second, nanosecond, valid.1, valid.2.1, valid.2.2.1, valid.2.2.2⟩
  else
    none

structure Instant where
  date : Date
  time : TimeOfDay
deriving DecidableEq, Repr

/-- Distances from universal time, in minutes: less than a day. -/
abbrev Offset := { minutes : Int // -1440 < minutes ∧ minutes < 1440 }

/-- The same time of day with another minute of the day. -/
def TimeOfDay.atMinute (time : TimeOfDay) (minute : Nat) (valid : minute < 1440) : TimeOfDay :=
  { time with
    hour := minute / 60
    minute := minute % 60
    hour_valid := by omega
    minute_valid := by omega }

/-- The instant at which clocks ahead of universal time by `offset` show the
given date and time.  Seconds are not affected, leap seconds included. -/
def Instant.ofLocal (date : Date) (time : TimeOfDay) (offset : Offset) : Instant :=
  let shown := time.hour * 60 + time.minute
  let minute : Int := shown - offset.val
  have bound : shown < 1440 := by
    have hour := time.hour_valid
    have minute := time.minute_valid
    omega
  if before : minute < 0 then
    ⟨date.previous, time.atMinute (minute + 1440).toNat (by omega)⟩
  else if after : 1440 ≤ minute then
    ⟨date.next, time.atMinute (minute - 1440).toNat (by
      have range := offset.property
      omega)⟩
  else
    ⟨date, time.atMinute minute.toNat (by omega)⟩

end FilterQuery.Calendar
