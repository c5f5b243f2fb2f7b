import FilterQuery.Document
import FilterQuery.Proofs.Comparisons
import FilterQuery.Proofs.Timestamps

namespace FilterQuery

/-! Literals of timestamps beside the texts that their instants are written as.  Literals
have years of four digits; written years have a sign outside of those.  The offset of a
literal can move its instant there, by one year at most. -/

namespace Calendar

variable {year : Int} {text : List Char}

theorem digits?_eq_some {count value : Nat} {rest : List Char}
    (read : digits? count text = some (value, rest)) :
    value < 10 ^ count ∧ ∀ c ∈ text.take count, c.isDigit = true := by
  simp only [digits?] at read
  split at read
  · rename_i digits
    obtain ⟨length, each⟩ := Bool.and_eq_true_iff.mp digits
    simp only [Option.some.injEq, Prod.mk.injEq] at read
    have below := Text.ofDigitChars_lt (List.all_eq_true.mp each)
    rw [read.1, of_decide_eq_true length] at below
    exact ⟨below, List.all_eq_true.mp each⟩
  · contradiction

theorem Date.year_of?_eq {month day : Nat} {date : Date}
    (known : Date.of? year month day = some date) : date.year = year := by
  unfold Date.of? at known
  split at known
  · cases known
    rfl
  · contradiction

theorem Date.year_previous (date : Date) :
    date.previous.year = date.year ∨ date.previous.year = date.year - 1 := by
  unfold previous
  split
  · exact .inl rfl
  · split
    · exact .inl rfl
    · exact .inr rfl

theorem Date.year_next (date : Date) :
    date.next.year = date.year ∨ date.next.year = date.year + 1 := by
  unfold next
  split
  · exact .inl rfl
  · split
    · exact .inl rfl
    · exact .inr rfl

/-- Offsets are less than a day. -/
theorem Instant.year_ofLocal (date : Date) (time : TimeOfDay) (offset : Offset) :
    date.year - 1 ≤ (ofLocal date time offset).date.year ∧
      (ofLocal date time offset).date.year ≤ date.year + 1 := by
  have earlier := date.year_previous
  have later := date.year_next
  simp only [ofLocal]
  split
  · simp only
    omega
  · split <;> simp only <;> omega

theorem Instant.year_afterYear? {instant : Instant}
    (read : afterYear? year text = some instant) :
    year - 1 ≤ instant.date.year ∧ instant.date.year ≤ year + 1 := by
  simp only [afterYear?, Option.bind_eq_bind, Option.bind_eq_some_iff, Option.some.injEq] at read
  obtain ⟨_, _, _, _, _, _, _, _, _, _, _, _, _, _, _, _, _, _, _, _, _, _, offset, _, date, known,
    time, _, rfl⟩ := read
  rw [← Date.year_of?_eq known]
  exact year_ofLocal date time offset

theorem Instant.writtenYear_exists {instant : Instant} (read : ofChars? text = some instant) :
    ∃ year < 10000, (digits? 4 text).map Prod.fst = some year ∧
      year - 1 ≤ instant.date.year ∧ instant.date.year ≤ year + 1 := by
  obtain ⟨⟨year, rest⟩, written, after⟩ := Option.bind_eq_some_iff.mp read
  exact ⟨year, (digits?_eq_some written).1, by rw [written, Option.map_some],
    year_afterYear? after⟩

theorem digits?_of_sign {count : Nat} {c : Char} (positive : 0 < count)
    (sign : c.isDigit = false) (rest : List Char) : digits? count (c :: rest) = none := by
  cases read : digits? count (c :: rest) with
  | none => rfl
  | some result =>
      have digit := (digits?_eq_some read).2 c (by
        rw [List.take_cons positive]
        exact List.mem_cons_self)
      rw [sign] at digit
      contradiction

/-- The text of an instant is a literal of it, as long as its year is written without a
sign.  With a sign it is no literal at all. -/
theorem Instant.ofChars?_toChars (instant : Instant) :
    ofChars? instant.toChars =
      if 0 ≤ instant.date.year ∧ instant.date.year ≤ 9999 then some instant else none := by
  rw [toChars_eq, ofChars?, yearChars]
  by_cases before : instant.date.year < 0
  · rw [if_pos before, if_neg (by omega), List.cons_append,
      digits?_of_sign (by decide) (by decide)]
    rfl
  · rw [if_neg before]
    by_cases after : 9999 < instant.date.year
    · rw [if_pos after, if_neg (by omega), List.cons_append,
        digits?_of_sign (by decide) (by decide)]
      rfl
    · have four : instant.date.year.natAbs < 10 ^ 4 := by omega
      have same : (instant.date.year.natAbs : Int) = instant.date.year := by omega
      rw [if_neg after, if_pos (by omega), digits?_padded (by decide) four,
        Option.bind_eq_bind, Option.bind_some]
      simp only [same]
      exact instant.afterYear?_charsAfterYear

theorem Instant.text_inj {first second : Instant} (written : first.text = second.text) :
    first = second := by
  have same : first.toChars = second.toChars := String.ofList_injective written
  have read := first.ofWritten?_toChars
  rw [same, second.ofWritten?_toChars] at read
  exact (Option.some.inj read).symm

end Calendar

namespace Field

open Calendar

variable {field : Field} {unknown : UnknownMembers} {literal : String} {cast : Option Value}

theorem castArgument_dateTime (timestamps : field.kind = .dateTime) (literal : String) :
    field.castArgument unknown literal =
      match Instant.parse? literal with
      | some instant => .ok (some (.dateTime instant))
      | none => .error (.invalidArgument field.name literal field.kind) := by
  simp only [castArgument, timestamps, reduceCtorEq, ↓reduceIte, readLiteral?]
  cases Instant.parse? literal <;> rfl

theorem instant_exists (timestamps : field.kind = .dateTime)
    (accepted : field.castArgument unknown literal = .ok cast) :
    ∃ instant, cast = some (.dateTime instant) ∧ Instant.parse? literal = some instant := by
  rw [castArgument_dateTime timestamps] at accepted
  cases read : Instant.parse? literal with
  | none => simp [read] at accepted
  | some instant =>
      simp only [read, Except.ok.injEq] at accepted
      exact ⟨instant, accepted.symm, rfl⟩

theorem castArgument_text (timestamps : field.kind = .dateTime) (instant : Instant) :
    field.castArgument unknown instant.text =
      if 0 ≤ instant.date.year ∧ instant.date.year ≤ 9999 then .ok (some (.dateTime instant))
      else .error (.invalidArgument field.name instant.text field.kind) := by
  rw [castArgument_dateTime timestamps, Instant.parse?, Instant.text, String.toList_ofList,
    Instant.ofChars?_toChars]
  by_cases unsigned : 0 ≤ instant.date.year ∧ instant.date.year ≤ 9999
  · rw [if_pos unsigned, if_pos unsigned]
  · rw [if_neg unsigned, if_neg unsigned]

/-- The value of a timestamp literal is an instant whose year is at most one off the year
that the literal begins with.  One text is written for it by all targets, which is a literal
of the same value just if its year is from 0 to 9999, and is refused otherwise.  In any case
two literals have one value just if one text is written for both. -/
theorem timestamp_texts_read_again (timestamps : field.kind = .dateTime)
    (accepted : field.castArgument unknown literal = .ok cast) :
    ∃ instant, cast = some (.dateTime instant) ∧
      (∃ year < 10000, (digits? 4 literal.toList).map Prod.fst = some year ∧
        year - 1 ≤ instant.date.year ∧ instant.date.year ≤ year + 1) ∧
      (Value.dateTime instant).text = instant.text ∧
      (Value.dateTime instant).toJson = .string instant.text ∧
      Document.operand (.dateTime instant) = .object [("$date", .string instant.text)] ∧
      field.castArgument unknown instant.text =
        (if 0 ≤ instant.date.year ∧ instant.date.year ≤ 9999 then .ok (some (.dateTime instant))
        else .error (.invalidArgument field.name instant.text field.kind)) ∧
      ∀ other otherCast, field.castArgument unknown other = .ok otherCast →
        ∃ otherInstant, otherCast = some (.dateTime otherInstant) ∧
          (otherCast = cast ↔ otherInstant.text = instant.text) := by
  obtain ⟨instant, rfl, read⟩ := instant_exists timestamps accepted
  refine ⟨instant, rfl, Instant.writtenYear_exists read, rfl, rfl, rfl,
    castArgument_text timestamps instant, ?_⟩
  intro other otherCast otherAccepted
  obtain ⟨otherInstant, rfl, _⟩ := instant_exists timestamps otherAccepted
  refine ⟨otherInstant, rfl, ?_⟩
  simp only [Option.some.injEq, Value.dateTime.injEq]
  constructor
  · intro same
    rw [same]
  · intro written
    exact Instant.text_inj written

def bookPublished : Field where
  name := "published"
  key := "published"
  kind := .dateTime
  operators := ValueKind.dateTime.operators
  groups := []
  description := ""
  labels := none
  members := []

theorem shifted_newYear_reads_again :
    ∃ instant, bookPublished.castArgument .reject "2024-12-31t23:30:60.5-01:00" =
        .ok (some (.dateTime instant)) ∧
      instant.text = "2025-01-01T00:30:60.500Z" ∧
      bookPublished.castArgument .reject instant.text = .ok (some (.dateTime instant)) := by
  have accepted : bookPublished.castArgument .reject "2024-12-31t23:30:60.5-01:00" =
      .ok (some (.dateTime ⟨⟨2025, 1, 1, by decide, by decide⟩,
        ⟨0, 30, 60, 500000000, by decide, by decide, by decide, by decide⟩⟩)) := by decide
  obtain ⟨_, ⟨⟩, _, _, _, _, again, _⟩ := timestamp_texts_read_again rfl accepted
  exact ⟨_, accepted, by decide, by rw [again, if_pos (by decide)]⟩

/-- An offset can take a literal past the last year of four digits. -/
theorem shifted_last_year_refused :
    ∃ instant, bookPublished.castArgument .reject "9999-12-31T23:59:59-01:00" =
        .ok (some (.dateTime instant)) ∧
      instant.text = "+10000-01-01T00:59:59Z" ∧
      bookPublished.castArgument .reject instant.text =
        .error (.invalidArgument "published" "+10000-01-01T00:59:59Z" .dateTime) := by
  refine ⟨⟨⟨10000, 1, 1, by decide, by decide⟩,
    ⟨0, 59, 59, 0, by decide, by decide, by decide, by decide⟩⟩, ?_, ?_, ?_⟩ <;> decide

end Field

end FilterQuery
