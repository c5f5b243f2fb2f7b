import FilterQuery.Proofs.Decimals.Grammar

namespace FilterQuery.Decimal

/-! What the errors of decimal literals tell.  An exponent is looked at before the digits in
front of it, and one that words do not hold is not taken for an exponent at all. -/

/-- The integers that words of 64 bits hold. -/
def InWord (value : Int) : Prop :=
  Int64.minValue.toInt ≤ value ∧ value ≤ Int64.maxValue.toInt

instance (value : Int) : Decidable (InWord value) :=
  inferInstanceAs (Decidable (_ ∧ _))

/-- The exponent behind the first mark, whatever stands in front; it is zero without a mark. -/
def HasExponent (text : List Char) (exponent : Int) : Prop :=
  ∃ front part, text = front ++ part ∧ Unmarked front ∧ ExponentPart part exponent

def IsNumeral (text : List Char) : Prop :=
  ∃ numeral : Numeral, numeral.WrittenAs text

def ExponentTooLarge (text : List Char) : Prop :=
  ∃ exponent, HasExponent text exponent ∧ InWord exponent ∧ maxExponent < exponent.natAbs

/-- Whether an exponent, if it is beyond the bound, fits a word and ends a numeral. -/
def Ordinary (text : List Char) : Prop :=
  ∀ exponent, HasExponent text exponent → maxExponent < exponent.natAbs →
    InWord exponent ∧ IsNumeral text

variable {text front rest : List Char} {mark : Char} {exponent : Int} {numeral : Numeral}
  {error : DecimalError} {quoted : String}

theorem inWord_iff {value : Int} : InWord value ↔ ∃ word : Int64, word.toInt = value := by
  constructor
  · intro within
    exact ⟨.ofInt value, Int64.toInt_ofInt_of_le within.1 (Int.lt_add_one_iff.mpr within.2)⟩
  · intro held
    obtain ⟨word, rfl⟩ := held
    exact ⟨Int64.le_toInt word, Int64.toInt_le word⟩

theorem integer64?_eq_none (read : Text.integer? text = some exponent)
    (beyond : ¬InWord exponent) : Text.integer64? text = none := by
  rw [Option.eq_none_iff_forall_not_mem]
  intro word held
  have same : some exponent = some word.toInt := read.symm.trans (integer64?_eq_some_iff.mp held)
  exact beyond (inWord_iff.mpr ⟨word, (Option.some.inj same).symm⟩)

theorem hasExponent_unmarked (unmarked : Unmarked text) :
    HasExponent text exponent ↔ exponent = 0 := by
  constructor
  · intro has
    obtain ⟨front, part, rfl, _, exponentWritten⟩ := has
    cases part with
    | nil => exact exponentPart_nil_iff.mp exponentWritten
    | cons mark rest =>
        have absent := unmarked mark (List.mem_append_right front List.mem_cons_self)
        rw [(exponentPart_cons_iff.mp exponentWritten).1] at absent
        contradiction
  · intro zero
    exact ⟨text, [], (List.append_nil text).symm, unmarked, exponentPart_nil_iff.mpr zero⟩

theorem hasExponent_marked (unmarked : Unmarked front) (marked : isExponentMark mark = true) :
    HasExponent (front ++ mark :: rest) exponent ↔ Text.integer? rest = some exponent := by
  constructor
  · intro has
    obtain ⟨otherFront, part, same, otherUnmarked, exponentWritten⟩ := has
    have behind := (span_marked unmarked marked rest).2
    rw [same] at behind
    cases part with
    | nil =>
        rw [List.append_nil, (span_unmarked otherUnmarked).2] at behind
        contradiction
    | cons otherMark otherRest =>
        obtain ⟨otherMarked, integer⟩ := exponentPart_cons_iff.mp exponentWritten
        rw [(span_marked otherUnmarked otherMarked otherRest).2] at behind
        rwa [← (List.cons.inj behind).2]
  · intro integer
    exact ⟨front, mark :: rest, rfl, unmarked, exponentPart_cons_iff.mpr ⟨marked, integer⟩⟩

theorem Numeral.WrittenAs.hasExponent (written : numeral.WrittenAs text) :
    HasExponent text numeral.exponent := by
  obtain ⟨front, part, split, unmarked, exponentWritten, _⟩ := written.parts_exist
  exact ⟨front, part, split, unmarked, exponentWritten⟩

theorem Numeral.WrittenAs.number_eq (written : numeral.WrittenAs text) :
    ofNumber? (text.takeWhile fun c => !isExponentMark c) numeral.exponent =
      some numeral.decimal := by
  obtain ⟨front, part, rfl, unmarked, exponentWritten, number⟩ := written.parts_exist
  cases part with
  | nil => rw [List.append_nil, (span_unmarked unmarked).1, number]
  | cons mark rest =>
      obtain ⟨marked, _⟩ := exponentPart_cons_iff.mp exponentWritten
      rw [(span_marked unmarked marked rest).1, number]

theorem HasExponent.unique {other : Int} (has : HasExponent text exponent)
    (hasOther : HasExponent text other) : exponent = other := by
  rcases splits_at_mark text with unmarked | ⟨front, mark, rest, rfl, unmarked, marked⟩
  · rw [(hasExponent_unmarked unmarked).mp has, (hasExponent_unmarked unmarked).mp hasOther]
  · have integer := (hasExponent_marked unmarked marked).mp has
    rw [(hasExponent_marked unmarked marked).mp hasOther] at integer
    exact (Option.some.inj integer).symm

theorem elim_eq_error {counted? : Option Decimal} {expected : DecimalError}
    (read : counted?.elim (.error expected) Except.ok = .error error) : error = expected := by
  cases counted? with
  | none => exact (Except.error.inj read).symm
  | some _ => contradiction

theorem ofTrimmed_eq_error (read : ofTrimmed text = .error error) :
    error = .exponentOutOfRange (String.ofList text) ∧ ExponentTooLarge text ∨
      error = .invalidDigits (String.ofList text) := by
  rcases splits_at_mark text with unmarked | ⟨front, mark, rest, rfl, unmarked, marked⟩
  · rw [ofTrimmed_unmarked unmarked] at read
    exact .inr (elim_eq_error read)
  · rw [ofTrimmed_marked unmarked marked] at read
    cases integer : Text.integer64? rest with
    | none =>
        rw [integer] at read
        exact .inr (Except.error.inj read).symm
    | some word =>
        have has := (hasExponent_marked unmarked marked).mpr (integer64?_eq_some_iff.mp integer)
        rw [integer, Option.elim_some] at read
        split at read
        · rename_i large
          exact .inl ⟨(Except.error.inj read).symm, _, has, inWord_iff.mpr ⟨word, rfl⟩, large⟩
        · exact .inr (elim_eq_error read)

theorem ExponentTooLarge.ofTrimmed (large : ExponentTooLarge text) :
    Decimal.ofTrimmed text = .error (.exponentOutOfRange (String.ofList text)) := by
  obtain ⟨exponent, has, held, large⟩ := large
  rcases splits_at_mark text with unmarked | ⟨front, mark, rest, rfl, unmarked, marked⟩
  · rw [(hasExponent_unmarked unmarked).mp has] at large
    contradiction
  · obtain ⟨word, rfl⟩ := inWord_iff.mp held
    have integer := integer64?_eq_some_iff.mpr ((hasExponent_marked unmarked marked).mp has)
    rw [ofTrimmed_marked unmarked marked, integer, Option.elim_some, if_pos large]

theorem HasExponent.beyond_words (has : HasExponent text exponent) (beyond : ¬InWord exponent) :
    ofTrimmed text = .error (.invalidDigits (String.ofList text)) := by
  rcases splits_at_mark text with unmarked | ⟨front, mark, rest, rfl, unmarked, marked⟩
  · rw [(hasExponent_unmarked unmarked).mp has] at beyond
    exact absurd (by decide) beyond
  · have integer := integer64?_eq_none ((hasExponent_marked unmarked marked).mp has) beyond
    rw [ofTrimmed_marked unmarked marked, integer, Option.elim_none]

theorem out_of_range_iff : ofTrimmed text = .error (.exponentOutOfRange quoted) ↔
    quoted = String.ofList text ∧ ExponentTooLarge text := by
  constructor
  · intro read
    rcases ofTrimmed_eq_error read with ⟨same, large⟩ | other
    · exact ⟨DecimalError.exponentOutOfRange.inj same, large⟩
    · contradiction
  · intro fault
    obtain ⟨rfl, large⟩ := fault
    exact large.ofTrimmed

theorem invalid_digits_iff : ofTrimmed text = .error (.invalidDigits quoted) ↔
    quoted = String.ofList text ∧
      ((∃ numeral : Numeral, numeral.WrittenAs text ∧ ¬InWord numeral.exponent) ∨
        ¬IsNumeral text ∧ ¬ExponentTooLarge text) := by
  constructor
  · intro read
    have small : ¬ExponentTooLarge text := by
      intro large
      rw [large.ofTrimmed] at read
      cases Except.error.inj read
    rcases ofTrimmed_eq_error read with ⟨_, large⟩ | same
    · contradiction
    refine ⟨DecimalError.invalidDigits.inj same, ?_⟩
    by_cases numeral : IsNumeral text
    · obtain ⟨numeral, written⟩ := numeral
      refine .inl ⟨numeral, written, fun held => ?_⟩
      have within : numeral.exponent.natAbs ≤ maxExponent :=
        Nat.not_lt.mp fun large => small ⟨_, written.hasExponent, held, large⟩
      rw [written.ofTrimmed within] at read
      contradiction
    · exact .inr ⟨numeral, small⟩
  · intro fault
    obtain ⟨rfl, fault⟩ := fault
    rcases fault with ⟨numeral, written, beyond⟩ | ⟨none, small⟩
    · exact written.hasExponent.beyond_words beyond
    · cases read : ofTrimmed text with
      | ok number =>
          obtain ⟨numeral, written, _⟩ := numeral_of_ofTrimmed read
          exact absurd ⟨numeral, written⟩ none
      | error error =>
          rcases ofTrimmed_eq_error read with ⟨_, large⟩ | same
          · contradiction
          · rw [same]

theorem ExponentTooLarge.ne_nil (tooLarge : ExponentTooLarge text) : text ≠ [] := by
  intro nothing
  obtain ⟨exponent, has, _, large⟩ := tooLarge
  have unmarked : Unmarked text := by
    rw [nothing]
    exact List.forall_mem_nil _
  rw [(hasExponent_unmarked unmarked).mp has] at large
  contradiction

theorem parse_eq_error_iff {literal : String} : parse literal = .error error ↔
    Text.trim literal.toList = [] ∧ error = .empty ∨
      Text.trim literal.toList ≠ [] ∧ ofTrimmed (Text.trim literal.toList) = .error error := by
  rw [parse]
  cases trimmed : Text.trim literal.toList with
  | nil => simp [eq_comm]
  | cons c rest => simp

theorem parse_empty_iff {literal : String} :
    parse literal = .error .empty ↔ Text.trim literal.toList = [] := by
  rw [parse_eq_error_iff]
  constructor
  · intro fault
    rcases fault with ⟨nothing, _⟩ | ⟨_, read⟩
    · exact nothing
    · rcases ofTrimmed_eq_error read with ⟨other, _⟩ | other <;> contradiction
  · intro nothing
    exact .inl ⟨nothing, rfl⟩

theorem parse_out_of_range_iff {literal : String} :
    parse literal = .error (.exponentOutOfRange quoted) ↔
      quoted = String.ofList (Text.trim literal.toList) ∧
        ExponentTooLarge (Text.trim literal.toList) := by
  rw [parse_eq_error_iff, out_of_range_iff]
  constructor
  · intro fault
    rcases fault with ⟨_, other⟩ | ⟨_, fault⟩
    · contradiction
    · exact fault
  · intro fault
    exact .inr ⟨fault.2.ne_nil, fault⟩

theorem parse_invalid_digits_iff {literal : String} :
    parse literal = .error (.invalidDigits quoted) ↔
      quoted = String.ofList (Text.trim literal.toList) ∧ Text.trim literal.toList ≠ [] ∧
        ((∃ numeral : Numeral, numeral.WrittenAs (Text.trim literal.toList) ∧
            ¬InWord numeral.exponent) ∨
          ¬IsNumeral (Text.trim literal.toList) ∧
            ¬ExponentTooLarge (Text.trim literal.toList)) := by
  rw [parse_eq_error_iff, invalid_digits_iff, and_left_comm]
  constructor
  · intro fault
    rcases fault with ⟨_, other⟩ | fault
    · contradiction
    · exact fault
  · exact .inr

theorem large_of_beyond (beyond : ¬InWord exponent) : maxExponent < exponent.natAbs := by
  apply Nat.not_le.mp
  intro small
  exact beyond (inWord_iff.mpr (word_exists small))

theorem Numeral.WrittenAs.ordinary (written : numeral.WrittenAs text)
    (held : InWord numeral.exponent) : Ordinary text := by
  intro exponent has _
  rw [has.unique written.hasExponent]
  exact ⟨held, numeral, written⟩

theorem Ordinary.exponentTooLarge_iff (ordinary : Ordinary text) : ExponentTooLarge text ↔
    ∃ numeral : Numeral, numeral.WrittenAs text ∧ maxExponent < numeral.exponent.natAbs := by
  constructor
  · intro tooLarge
    obtain ⟨exponent, has, held, large⟩ := tooLarge
    obtain ⟨_, numeral, written⟩ := ordinary exponent has large
    exact ⟨numeral, written, by rwa [written.hasExponent.unique has]⟩
  · intro outside
    obtain ⟨numeral, written, large⟩ := outside
    obtain ⟨held, _⟩ := ordinary _ written.hasExponent large
    exact ⟨_, written.hasExponent, held, large⟩

theorem Ordinary.invalid_iff (ordinary : Ordinary text) :
    (∃ numeral : Numeral, numeral.WrittenAs text ∧ ¬InWord numeral.exponent) ∨
        ¬IsNumeral text ∧ ¬ExponentTooLarge text ↔
      ¬IsNumeral text := by
  constructor
  · intro invalid
    rcases invalid with ⟨numeral, written, beyond⟩ | ⟨none, _⟩
    · exact absurd (ordinary _ written.hasExponent (large_of_beyond beyond)).1 beyond
    · exact none
  · intro none
    refine .inr ⟨none, fun tooLarge => ?_⟩
    obtain ⟨numeral, written, _⟩ := ordinary.exponentTooLarge_iff.mp tooLarge
    exact none ⟨numeral, written⟩

/-- Each error quotes the trimmed literal.  An exponent is out of range if it is beyond the
bound and fits a word, even if it ends no numeral; digits are invalid if there is no numeral,
or one with an exponent that does not fit.  So the errors of ordinary literals tell whether
there is a numeral at all. -/
theorem errors_tell_faults (literal : String) :
    (parse literal = .error .empty ↔ Text.trim literal.toList = []) ∧
    (∀ quoted, parse literal = .error (.exponentOutOfRange quoted) ↔
      quoted = String.ofList (Text.trim literal.toList) ∧
        ExponentTooLarge (Text.trim literal.toList)) ∧
    (∀ quoted, parse literal = .error (.invalidDigits quoted) ↔
      quoted = String.ofList (Text.trim literal.toList) ∧ Text.trim literal.toList ≠ [] ∧
        ((∃ numeral : Numeral, numeral.WrittenAs (Text.trim literal.toList) ∧
            ¬InWord numeral.exponent) ∨
          ¬IsNumeral (Text.trim literal.toList) ∧
            ¬ExponentTooLarge (Text.trim literal.toList))) ∧
    (Ordinary (Text.trim literal.toList) →
      ((∃ quoted, parse literal = .error (.exponentOutOfRange quoted)) ↔
        ∃ numeral : Numeral, numeral.WrittenAs (Text.trim literal.toList) ∧
          maxExponent < numeral.exponent.natAbs) ∧
      ((∃ quoted, parse literal = .error (.invalidDigits quoted)) ↔
        Text.trim literal.toList ≠ [] ∧ ¬IsNumeral (Text.trim literal.toList))) := by
  refine ⟨parse_empty_iff, fun quoted => parse_out_of_range_iff,
    fun quoted => parse_invalid_digits_iff, fun ordinary => ⟨?_, ?_⟩⟩
  · simp only [parse_out_of_range_iff, exists_eq_left, ordinary.exponentTooLarge_iff]
  · simp only [parse_invalid_digits_iff, exists_eq_left, ordinary.invalid_iff]

theorem writtenAs_of_digit {digit mark : Char} (first : digit.isDigit = true)
    (marked : isExponentMark mark = true) (digits : List Char)
    (only : ∀ c ∈ digits, c.isDigit = true) (nonempty : digits ≠ []) :
    (Numeral.mk false [digit] [] (signed false (Nat.ofDigitChars 10 digits 0))).WrittenAs
      (digit :: mark :: digits) :=
  ⟨[], [digit], mark :: ([] ++ digits), rfl, .missing,
    .plain (fun c member => by rwa [List.mem_singleton.mp member]) (List.cons_ne_nil _ _),
    .written (isExponentMark_iff.mp marked) .missing only nonempty⟩

/-- An exponent that fits a word is reported for itself. -/
theorem errors_tell_large_exponent :
    Ordinary (Text.trim " 1e5000".toList) ∧
      (∃ quoted, parse " 1e5000" = .error (.exponentOutOfRange quoted)) ∧
      ¬∃ quoted, parse " 1e5000" = .error (.invalidDigits quoted) := by
  have written : (Numeral.mk false ['1'] [] 5000).WrittenAs (Text.trim " 1e5000".toList) :=
    writtenAs_of_digit rfl rfl ['5', '0', '0', '0'] (List.all_eq_true.mp rfl) (by decide)
  have ordinary := written.ordinary (by decide)
  obtain ⟨_, _, _, tells⟩ := errors_tell_faults " 1e5000"
  obtain ⟨range, digits⟩ := tells ordinary
  refine ⟨ordinary, range.mpr ⟨_, written, by decide⟩, ?_⟩
  rw [digits]
  exact fun invalid => invalid.2 ⟨_, written⟩

/-- An exponent that no word holds is reported as if digits were wrong; one in range of words is
reported in place of the second point in front of it. -/
theorem huge_exponent_reported_as_digits :
    ((Numeral.mk false ['1'] [] 99999999999999999999).WrittenAs "1e99999999999999999999".toList ∧
      parse "1e99999999999999999999" = .error (.invalidDigits "1e99999999999999999999")) ∧
    ¬IsNumeral "1.2.3e5000".toList ∧
      parse "1.2.3e5000" = .error (.exponentOutOfRange "1.2.3e5000") := by
  refine ⟨⟨?_, by decide⟩, ?_, by decide⟩
  · exact writtenAs_of_digit rfl rfl (List.replicate 20 '9') (List.all_eq_true.mp rfl) (by decide)
  · intro isNumeral
    obtain ⟨numeral, written⟩ := isNumeral
    have counted := written.number_eq
    contradiction

end FilterQuery.Decimal
