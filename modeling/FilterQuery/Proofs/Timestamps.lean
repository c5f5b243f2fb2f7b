import FilterQuery.Proofs.Numerals

namespace FilterQuery.Calendar

/-! What is written for an instant reads as the instant again, whatever its year. -/

theorem Date.of?_self (date : Date) : Date.of? date.year date.month date.day = some date := by
  rw [Date.of?, dif_pos ⟨date.month_valid, date.day_valid⟩]

theorem TimeOfDay.of?_self (time : TimeOfDay) :
    TimeOfDay.of? time.hour time.minute time.second time.nanosecond = some time := by
  rw [TimeOfDay.of?, dif_pos ⟨time.hour_valid, time.minute_valid, time.second_valid,
    time.nanosecond_valid⟩]

theorem Instant.ofLocal_zero (date : Date) (time : TimeOfDay) (valid : -1440 < 0 ∧ 0 < 1440) :
    Instant.ofLocal date time ⟨0, valid⟩ = ⟨date, time⟩ := by
  obtain ⟨hour, minute, second, nanosecond, hourValid, minuteValid, secondValid, fractionValid⟩ :=
    time
  have notBefore : ¬ ((hour * 60 + minute : Nat) : Int) - 0 < 0 := by omega
  have notAfter : ¬ 1440 ≤ ((hour * 60 + minute : Nat) : Int) - 0 := by omega
  simp only [Instant.ofLocal, dif_neg notBefore, dif_neg notAfter, TimeOfDay.atMinute]
  congr 2 <;> omega

theorem fraction?_padded {width value : Nat} (positive : 0 < width) (short : width ≤ 9)
    (bound : value < 10 ^ width) :
    fraction? ('.' :: padded width value ++ ['Z']) = some (value * 10 ^ (9 - width), ['Z']) := by
  have length := length_padded positive bound
  obtain ⟨digits, rest⟩ := span_padded width value ['Z'] (by simp)
  have taken : (padded width value).take 9 = padded width value :=
    List.take_of_length_le (by omega)
  simp [fraction?, digits, rest, taken, padded_ne_nil, ofDigitChars_padded, length]

theorem fraction?_fractionChars {nanosecond : Nat} (bound : nanosecond < 1000000000) :
    fraction? (fractionChars nanosecond ++ ['Z']) = some (nanosecond, ['Z']) := by
  unfold fractionChars
  split
  · subst nanosecond
    rfl
  · split
    · rw [fraction?_padded (by decide) (by decide) (by omega)]
      congr 2
      omega
    · split
      · rw [fraction?_padded (by decide) (by decide) (by omega)]
        congr 2
        omega
      · rw [fraction?_padded (by decide) (by decide) (by omega)]
        congr 2
        omega

/-- What is written behind the year. -/
def Instant.charsAfterYear (instant : Instant) : List Char :=
  '-' :: padded 2 instant.date.month ++
    '-' :: padded 2 instant.date.day ++ 'T' :: padded 2 instant.time.hour ++
    ':' :: padded 2 instant.time.minute ++ ':' :: padded 2 instant.time.second ++
    fractionChars instant.time.nanosecond ++ ['Z']

theorem Instant.toChars_eq (instant : Instant) :
    instant.toChars = yearChars instant.date.year ++ instant.charsAfterYear := by
  simp [toChars, charsAfterYear]

theorem Instant.afterYear?_charsAfterYear (instant : Instant) :
    afterYear? instant.date.year instant.charsAfterYear = some instant := by
  obtain ⟨date, time⟩ := instant
  have month : date.month < 10 ^ 2 := by have := date.month_valid; omega
  have day : date.day < 10 ^ 2 := by
    have within := date.day_valid.2
    unfold daysInMonth at within
    split at within <;> split at within <;> omega
  have hour : time.hour < 10 ^ 2 := by have := time.hour_valid; omega
  have minute : time.minute < 10 ^ 2 := by have := time.minute_valid; omega
  have second : time.second < 10 ^ 2 := by have := time.second_valid; omega
  simp only [charsAfterYear, List.append_assoc, List.cons_append]
  simp only [afterYear?, oneOf?, List.mem_cons, true_or, ↓reduceIte, Option.bind_eq_bind,
    Option.bind_some, digits?_padded (by decide : 0 < 2), month, day, hour, minute, second,
    fraction?_fractionChars time.nanosecond_valid, offset?, Date.of?_self, TimeOfDay.of?_self,
    Instant.ofLocal_zero]

/-- Reads what is written for instants: years may have a sign and any number of digits. -/
def Instant.ofWritten? (text : List Char) : Option Instant := do
  let (negative, unsigned) := Decimal.splitSign text
  let year ← Text.natural? (unsigned.takeWhile Char.isDigit)
  afterYear? (if negative then -year else year) (unsigned.dropWhile Char.isDigit)

theorem splitSign_padded (width value : Nat) (rest : List Char) :
    Decimal.splitSign (padded width value ++ rest) = (false, padded width value ++ rest) := by
  obtain ⟨c, digits, text⟩ := List.exists_cons_of_ne_nil (padded_ne_nil width value)
  have digit : c.isDigit = true := isDigit_of_mem_padded (text ▸ List.mem_cons_self)
  rw [text, List.cons_append]
  exact Decimal.splitSign_digit digit _

theorem splitSign_yearChars (year : Int) (rest : List Char) :
    Decimal.splitSign (yearChars year ++ rest) =
      (decide (year < 0), padded 4 year.natAbs ++ rest) := by
  unfold yearChars
  split
  · rename_i negative
    simp [Decimal.splitSign, negative]
  · rename_i positive
    split
    · simp [Decimal.splitSign, positive]
    · rw [splitSign_padded, decide_eq_false positive]

/-- No two instants are written alike: each is read again from its text. -/
theorem Instant.ofWritten?_toChars (instant : Instant) :
    ofWritten? instant.toChars = some instant := by
  obtain ⟨digits, rest⟩ := span_padded 4 instant.date.year.natAbs
    instant.charsAfterYear (by simp [charsAfterYear])
  have year : (if decide (instant.date.year < 0) then -(instant.date.year.natAbs : Int)
      else instant.date.year.natAbs) = instant.date.year := by
    simp only [decide_eq_true_eq]
    split <;> omega
  rw [toChars_eq, ofWritten?, splitSign_yearChars]
  simp only [digits, rest, natural?_padded, year, Option.bind_eq_bind, Option.bind_some,
    afterYear?_charsAfterYear]

end FilterQuery.Calendar
