import FilterQuery.Proofs.Decimals.Exactness

namespace FilterQuery

/-! Decimal numbers and their texts determine each other.  The texts that are written are
the canonical numerals: they have no exponent, no zero in front of other digits, and no sign
where all digits are zero. -/

namespace Calendar

variable {digits others : List Char} {width value : Nat}

/-- Digits of one length that count the same are the same. -/
theorem digits_eq_of_ofDigitChars_eq (each : ∀ c ∈ digits, c.isDigit = true)
    (eachToo : ∀ c ∈ others, c.isDigit = true) (length : digits.length = others.length)
    (same : Nat.ofDigitChars 10 digits 0 = Nat.ofDigitChars 10 others 0) : digits = others := by
  induction digits generalizing others with
  | nil => exact (List.length_eq_zero_iff.mp length.symm).symm
  | cons c digits inductionHypothesis =>
      cases others with
      | nil => simp at length
      | cons d others =>
          obtain ⟨first, rest⟩ := List.forall_mem_cons.mp each
          obtain ⟨firstToo, restToo⟩ := List.forall_mem_cons.mp eachToo
          obtain ⟨value, small, rfl⟩ := Text.exists_digitChar first
          obtain ⟨other, smallToo, rfl⟩ := Text.exists_digitChar firstToo
          have lengths : digits.length = others.length := Nat.succ.inj length
          rw [Text.ofDigitChars_digitChar_cons small, Text.ofDigitChars_digitChar_cons smallToo,
            ← lengths] at same
          -- the first digits are the quotients by a power of ten, the others the remainders
          have below := Text.ofDigitChars_lt rest
          have belowToo := Text.ofDigitChars_lt restToo
          rw [← lengths] at belowToo
          have power : 0 < 10 ^ digits.length := Nat.pow_pos (by decide)
          have quotient := congrArg (· / 10 ^ digits.length) same
          have firsts : value = other := by
            simpa only [Nat.mul_add_div power, Nat.div_eq_of_lt below, Nat.div_eq_of_lt belowToo,
              Nat.add_zero] using quotient
          rw [firsts] at same ⊢
          rw [inductionHypothesis rest restToo lengths (Nat.add_left_cancel same)]

/-- What follows a number is written behind its digits. -/
theorem toDigits_append (positive : 0 < value) (each : ∀ c ∈ digits, c.isDigit = true) :
    Nat.toDigits 10 value ++ digits = Nat.toDigits 10 (Nat.ofDigitChars 10 digits value) := by
  induction digits generalizing value with
  | nil => rw [List.append_nil, Nat.ofDigitChars_nil]
  | cons c digits inductionHypothesis =>
      obtain ⟨first, rest⟩ := List.forall_mem_cons.mp each
      obtain ⟨next, small, rfl⟩ := Text.exists_digitChar first
      calc
        Nat.toDigits 10 value ++ next.digitChar :: digits
          = (Nat.toDigits 10 value ++ Nat.toDigits 10 next) ++ digits := by
            rw [Nat.toDigits_of_lt_base small, List.append_assoc, List.singleton_append]
        _ = Nat.toDigits 10 (10 * value + next) ++ digits := by
            rw [Nat.toDigits_append_toDigits (by decide) positive small]
        _ = Nat.toDigits 10 (Nat.ofDigitChars 10 (next.digitChar :: digits) value) := by
            rw [inductionHypothesis (by omega) rest,
              Nat.ofDigitChars_cons_digitChar_of_lt_ten small]

theorem toDigits_ofDigitChars (each : ∀ c ∈ digits, c.isDigit = true) (nonempty : digits ≠ [])
    (leading : digits.head? ≠ some '0') :
    Nat.toDigits 10 (Nat.ofDigitChars 10 digits 0) = digits := by
  obtain ⟨c, rest, rfl⟩ := List.exists_cons_of_ne_nil nonempty
  obtain ⟨first, others⟩ := List.forall_mem_cons.mp each
  obtain ⟨value, small, rfl⟩ := Text.exists_digitChar first
  have positive : 0 < value := by
    apply Nat.pos_of_ne_zero
    intro zero
    apply leading
    rw [zero]
    rfl
  rw [Nat.ofDigitChars_cons_digitChar_of_lt_ten small, Nat.mul_zero, Nat.zero_add,
    ← toDigits_append positive others, Nat.toDigits_of_lt_base small, List.singleton_append]

/-- Digits are written again if nothing is in front that a number would not keep. -/
theorem padded_ofDigitChars (positive : 0 < width) (each : ∀ c ∈ digits, c.isDigit = true)
    (kept : digits.length = width ∨ width ≤ digits.length ∧ digits.head? ≠ some '0') :
    padded width (Nat.ofDigitChars 10 digits 0) = digits := by
  rcases kept with rfl | ⟨long, leading⟩
  · refine digits_eq_of_ofDigitChars_eq (fun _ => isDigit_of_mem_padded) each ?_
      (ofDigitChars_padded _ _)
    exact length_padded positive (Text.ofDigitChars_lt each)
  · have nonempty : digits ≠ [] := List.length_pos_iff.mp (positive.trans_le long)
    have none : width - digits.length = 0 := by omega
    rw [padded, toDigits_ofDigitChars each nonempty leading, none]
    rfl

/-- Digits with a zero in front are no more than the width asked for. -/
theorem head?_padded (positive : 0 < width) (long : width < (padded width value).length) :
    (padded width value).head? ≠ some '0' := by
  intro zero
  obtain ⟨rest, split⟩ := List.head?_eq_some_iff.mp zero
  have digits : ∀ c ∈ rest, c.isDigit = true := fun c member =>
    isDigit_of_mem_padded (split ▸ List.mem_cons_of_mem _ member)
  have counted : Nat.ofDigitChars 10 rest 0 = value := by
    have whole := ofDigitChars_padded width value
    rw [split, Nat.ofDigitChars_cons] at whole
    exact whole
  have length : (padded width value).length = max width (Nat.toDigits 10 value).length := by
    simp only [padded, List.length_append, List.length_replicate]
    omega
  rw [split, List.length_cons] at long length
  have shorter : (Nat.toDigits 10 value).length ≤ rest.length := by
    rw [Nat.length_toDigits_le_iff (by decide) (by omega), ← counted]
    exact Text.ofDigitChars_lt digits
  omega

end Calendar

namespace Decimal

/-- An integer part that is zero or has no zero in front, and no sign unless some digit is
not zero. -/
structure Numeral.Canonical (numeral : Numeral) : Prop where
  digits : ∀ c ∈ numeral.whole ++ numeral.fraction, c.isDigit = true
  leading : numeral.whole = ['0'] ∨ numeral.whole ≠ [] ∧ numeral.whole.head? ≠ some '0'
  signed : numeral.negative = true → ∃ c ∈ numeral.whole ++ numeral.fraction, c ≠ '0'
  plain : numeral.exponent = 0

/-- A numeral without an exponent as it is written, with a point just where there are
digits behind it. -/
def Numeral.chars (numeral : Numeral) : List Char :=
  (if numeral.negative then ['-'] else []) ++
    (numeral.whole ++ if numeral.fraction = [] then [] else '.' :: numeral.fraction)

/-- What is written for a number, taken apart. -/
def numeral (number : Decimal) : Numeral where
  negative := decide (number.mantissa < 0)
  whole := number.wholeDigits
  fraction := number.fractionDigits
  exponent := 0

variable {numeral : Numeral} (number : Decimal)

theorem chars_numeral : number.numeral.chars = number.toChars := by
  have none : number.fractionDigits = [] ↔ number.scale = 0 := by
    rw [← List.length_eq_zero_iff, length_fractionDigits]
  simp only [toChars_eq, Numeral.chars, Decimal.numeral, none, decide_eq_true_eq]

theorem places_numeral : number.numeral.places = number.scale :=
  number.length_fractionDigits

theorem leading_wholeDigits : number.wholeDigits = ['0'] ∨
    number.wholeDigits ≠ [] ∧ number.wholeDigits.head? ≠ some '0' := by
  have nonempty := number.wholeDigits_ne_nil
  have lengths := congrArg List.length number.wholeDigits_append
  rw [List.length_append, length_fractionDigits] at lengths
  by_cases single : number.wholeDigits.length = 1
  · obtain ⟨c, whole⟩ := List.length_eq_one_iff.mp single
    by_cases zero : c = '0'
    · exact .inl (by rw [whole, zero])
    · exact .inr (by simp [whole, zero])
  · have several := List.length_pos_iff.mpr nonempty
    have head : number.wholeDigits.head? = number.paddedDigits.head? := by
      rw [← number.wholeDigits_append, List.head?_append_of_ne_nil _ nonempty]
    refine .inr ⟨nonempty, ?_⟩
    rw [head, paddedDigits_eq]
    apply Calendar.head?_padded (Nat.succ_pos _)
    rw [← paddedDigits_eq]
    omega

theorem exists_nonzero_of_negative (negative : number.mantissa < 0) :
    ∃ c ∈ number.wholeDigits ++ number.fractionDigits, c ≠ '0' := by
  by_contra none
  have zeros : ∀ c ∈ number.wholeDigits ++ number.fractionDigits, c = '0' := fun c member =>
    by_contra fun nonzero => none ⟨c, member, nonzero⟩
  have value : Nat.ofDigitChars 10 number.paddedDigits 0 = number.mantissa.natAbs :=
    Calendar.ofDigitChars_padded _ _
  rw [wholeDigits_append] at zeros
  rw [List.eq_replicate_of_mem zeros, Nat.ofDigitChars_replicate_zero] at value
  omega

theorem canonical_numeral : number.numeral.Canonical where
  digits _ member := (List.mem_append.mp member).elim number.isDigit_of_mem_wholeDigits
    number.isDigit_of_mem_fractionDigits
  leading := number.leading_wholeDigits
  signed negative := number.exists_nonzero_of_negative (of_decide_eq_true negative)
  plain := rfl

namespace Numeral

theorem Canonical.whole_ne_nil (canonical : numeral.Canonical) : numeral.whole ≠ [] := by
  rcases canonical.leading with zero | ⟨nonempty, _⟩
  · simp [zero]
  · exact nonempty

theorem Canonical.figures (canonical : numeral.Canonical) :
    Figures (numeral.whole ++ if numeral.fraction = [] then [] else '.' :: numeral.fraction)
      numeral.whole numeral.fraction := by
  have nonempty := canonical.whole_ne_nil
  have digits := List.forall_mem_append.mp canonical.digits
  by_cases none : numeral.fraction = []
  · rw [if_pos none, none, List.append_nil]
    exact .plain digits.1 nonempty
  · rw [if_neg none]
    exact .pointed digits.1 digits.2 (List.append_ne_nil_of_left_ne_nil nonempty _)

theorem Canonical.writtenAs (canonical : numeral.Canonical) : numeral.WrittenAs numeral.chars := by
  refine ⟨if numeral.negative then ['-'] else [], _, [], ?_, ?_, canonical.figures, ?_⟩
  · rw [List.append_nil, chars]
  · cases numeral.negative
    · exact .missing
    · exact .minus
  · rw [canonical.plain]
    exact .missing

theorem Canonical.mem_chars (canonical : numeral.Canonical) {c : Char}
    (member : c ∈ numeral.chars) : c = '-' ∨ c = '.' ∨ c.isDigit = true := by
  rcases List.mem_append.mp member with sign | figures
  · split at sign
    · exact .inl (List.mem_singleton.mp sign)
    · contradiction
  · exact .inr (canonical.figures.mem figures)

theorem Canonical.decimal_eq (canonical : numeral.Canonical) :
    numeral.decimal = ⟨Decimal.signed numeral.negative numeral.magnitude, numeral.places⟩ := by
  have above : ¬ (numeral.places : Int) < 0 := by omega
  rw [decimal, ofDigits_eq, canonical.plain, if_neg above, Int.sub_zero, Int.toNat_natCast]

theorem Canonical.mantissa_decimal (canonical : numeral.Canonical) :
    numeral.decimal.mantissa = Decimal.signed numeral.negative numeral.magnitude :=
  congrArg Decimal.mantissa canonical.decimal_eq

theorem Canonical.scale_decimal (canonical : numeral.Canonical) :
    numeral.decimal.scale = numeral.places :=
  congrArg Decimal.scale canonical.decimal_eq

theorem Canonical.parse_chars (canonical : numeral.Canonical) :
    parse (String.ofList numeral.chars) = .ok numeral.decimal := by
  have solid : ∀ c ∈ numeral.chars, Text.isBlank c = false := by
    intro c member
    rcases canonical.mem_chars member with rfl | rfl | digit
    · rfl
    · rfl
    · exact Text.isBlank_of_isDigit digit
  rw [parse_eq_ok_iff, String.toList_ofList, Text.trim_eq_self solid]
  apply canonical.writtenAs.ofTrimmed
  rw [canonical.plain]
  exact Nat.zero_le _

theorem Canonical.magnitude_ne_zero (canonical : numeral.Canonical)
    (negative : numeral.negative = true) : numeral.magnitude ≠ 0 := by
  intro zero
  obtain ⟨c, member, nonzero⟩ := canonical.signed negative
  have zeros : numeral.whole ++ numeral.fraction =
      List.replicate (numeral.whole ++ numeral.fraction).length '0' := by
    refine Calendar.digits_eq_of_ofDigitChars_eq canonical.digits ?_ (by simp) ?_
    · intro d within
      rw [(List.mem_replicate.mp within).2]
      rfl
    · rw [Nat.ofDigitChars_replicate_zero, Nat.mul_zero]
      exact zero
  rw [zeros] at member
  exact nonzero (List.mem_replicate.mp member).2

theorem Canonical.negative_decimal (canonical : numeral.Canonical) :
    decide (numeral.decimal.mantissa < 0) = numeral.negative := by
  rw [canonical.mantissa_decimal]
  cases negative : numeral.negative with
  | false => exact decide_eq_false (Int.not_lt.mpr (Int.natCast_nonneg _))
  | true =>
      have nonzero := canonical.magnitude_ne_zero negative
      have below : -(numeral.magnitude : Int) < 0 := by omega
      exact decide_eq_true below

theorem Canonical.paddedDigits_decimal (canonical : numeral.Canonical) :
    numeral.decimal.paddedDigits = numeral.whole ++ numeral.fraction := by
  have magnitude : (Decimal.signed numeral.negative numeral.magnitude).natAbs = numeral.magnitude := by
    unfold Decimal.signed
    split <;> omega
  rw [paddedDigits_eq, canonical.mantissa_decimal, canonical.scale_decimal, magnitude]
  refine Calendar.padded_ofDigitChars (Nat.succ_pos _) canonical.digits ?_
  rw [places, List.length_append]
  rcases canonical.leading with zero | ⟨nonempty, leading⟩
  · left
    rw [zero, List.length_singleton, Nat.add_comm]
  · right
    have some := List.length_pos_iff.mpr nonempty
    rw [List.head?_append_of_ne_nil _ nonempty]
    exact ⟨by omega, leading⟩

/-- Nothing of a canonical numeral gets lost in its number. -/
theorem Canonical.numeral_decimal (canonical : numeral.Canonical) :
    numeral.decimal.numeral = numeral := by
  have cut : numeral.decimal.paddedDigits.length - numeral.decimal.scale = numeral.whole.length := by
    rw [canonical.paddedDigits_decimal, canonical.scale_decimal, List.length_append, places]
    omega
  have whole : numeral.decimal.wholeDigits = numeral.whole := by
    rw [wholeDigits, cut, canonical.paddedDigits_decimal, List.take_left]
  have fraction : numeral.decimal.fractionDigits = numeral.fraction := by
    rw [fractionDigits, cut, canonical.paddedDigits_decimal, List.drop_left]
  rw [Decimal.numeral, canonical.negative_decimal, whole, fraction, ← canonical.plain]

theorem Canonical.text_decimal (canonical : numeral.Canonical) :
    numeral.decimal.text = String.ofList numeral.chars := by
  rw [text, ← chars_numeral, canonical.numeral_decimal]

theorem Canonical.decimal_in_words (canonical : numeral.Canonical) (few : numeral.places < 2 ^ 32) :
    ofDigitsInWords numeral.negative numeral.magnitude numeral.places 0 = numeral.decimal := by
  have held : Fits numeral.places 0 := fits (by decide) (by rw [Int64.toInt_zero]; omega)
  rw [held.ofDigits_eq, Int64.toInt_zero, decimal, canonical.plain]

end Numeral

/-- Each number is read again from its text, with its mantissa and scale.  The texts of
numbers with a scale of 32 bits are the canonical numerals with that many places at most, and
each canonical numeral is the text of the number that it reads as.  As long as 32 bits hold
the number of places, words compute the same number. -/
theorem texts_determine_numbers :
    (∀ mantissa scale, parse (Decimal.mk mantissa scale).text = .ok ⟨mantissa, scale⟩) ∧
    (∀ literal : String,
      (∃ (mantissa : Int) (scale : UInt32), (Decimal.mk mantissa scale.toNat).text = literal) ↔
        ∃ numeral : Numeral, numeral.Canonical ∧ numeral.places < 2 ^ 32 ∧
          String.ofList numeral.chars = literal) ∧
    ∀ numeral : Numeral, numeral.Canonical →
      ∃ number, parse (String.ofList numeral.chars) = .ok number ∧
        number.text = String.ofList numeral.chars ∧ number.scale = numeral.places ∧
        (numeral.places < 2 ^ 32 →
          number = ofDigitsInWords numeral.negative numeral.magnitude numeral.places 0) := by
  refine ⟨fun mantissa scale => parse_text _, fun literal => ⟨?_, ?_⟩, ?_⟩
  · intro written
    obtain ⟨mantissa, scale, rfl⟩ := written
    refine ⟨_, canonical_numeral _, ?_, by rw [chars_numeral, text]⟩
    rw [places_numeral]
    exact scale.toNat_lt
  · intro spelled
    obtain ⟨numeral, canonical, few, rfl⟩ := spelled
    refine ⟨numeral.decimal.mantissa, .ofNat numeral.decimal.scale, ?_⟩
    rw [canonical.scale_decimal, UInt32.toNat_ofNat_of_lt' few, ← canonical.scale_decimal]
    exact canonical.text_decimal
  · intro numeral canonical
    exact ⟨numeral.decimal, canonical.parse_chars, canonical.text_decimal,
      canonical.scale_decimal, fun few => (canonical.decimal_in_words few).symm⟩

theorem texts_determine_discount :
    ∃ numeral : Numeral, numeral.Canonical ∧ String.ofList numeral.chars = "-0.050" ∧
      ∃ number, parse "-0.050" = .ok number ∧ number.text = "-0.050" ∧ number.scale = 3 := by
  have canonical : (Numeral.mk true ['0'] ['0', '5', '0'] 0).Canonical :=
    ⟨List.all_eq_true.mp rfl, .inl rfl, fun _ => ⟨'5', by decide, by decide⟩, rfl⟩
  obtain ⟨_, _, exactly⟩ := texts_determine_numbers
  obtain ⟨number, read, written, scale, _⟩ := exactly _ canonical
  exact ⟨_, canonical, rfl, number, read, written, scale⟩

end Decimal

end FilterQuery
