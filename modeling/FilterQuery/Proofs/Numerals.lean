import FilterQuery.Calendar.Timestamp
import FilterQuery.Decimal
import Mathlib.Algebra.Ring.Nat
import Mathlib.Data.List.TakeWhile

namespace FilterQuery

/-! Digits that were written are read again: those of decimal numbers and those of
timestamps, in front of any text that does not go on with digits. -/

namespace Text

variable {value : Nat} {digits : List Char}

theorem exists_digitChar {c : Char} (digit : c.isDigit = true) :
    ∃ value < 10, value.digitChar = c := by
  simp only [Char.isDigit, Bool.and_eq_true, decide_eq_true_eq, UInt32.le_iff_toNat_le] at digit
  change 48 ≤ c.toNat ∧ c.toNat ≤ 57 at digit
  refine ⟨c.toNat - 48, by omega, Char.toNat_inj.mp ?_⟩
  rw [Nat.toNat_digitChar_of_lt_ten (by omega)]
  omega

theorem ofDigitChars_digitChar_cons (small : value < 10) (digits : List Char) :
    Nat.ofDigitChars 10 (value.digitChar :: digits) 0 =
      10 ^ digits.length * value + Nat.ofDigitChars 10 digits 0 := by
  rw [Nat.ofDigitChars_cons_digitChar_of_lt_ten small, Nat.mul_zero, Nat.zero_add,
    Nat.ofDigitChars_eq_ofDigitChars_zero]

theorem ofDigitChars_lt (each : ∀ c ∈ digits, c.isDigit = true) :
    Nat.ofDigitChars 10 digits 0 < 10 ^ digits.length := by
  induction digits with
  | nil => simp
  | cons c digits inductionHypothesis =>
      obtain ⟨first, rest⟩ := List.forall_mem_cons.mp each
      obtain ⟨value, small, rfl⟩ := exists_digitChar first
      have below := inductionHypothesis rest
      have most := Nat.mul_le_mul_left (10 ^ digits.length) (Nat.le_of_lt_succ small)
      rw [ofDigitChars_digitChar_cons small, List.length_cons, Nat.pow_succ]
      omega

end Text

namespace Calendar

variable {width value : Nat}

theorem isDigit_of_mem_padded {c : Char} (member : c ∈ padded width value) : c.isDigit = true := by
  rcases List.mem_append.mp member with zero | digit
  · rw [(List.mem_replicate.mp zero).2]
    rfl
  · exact Nat.isDigit_of_mem_toDigits (by decide) (by decide) digit

theorem padded_ne_nil (width value : Nat) : padded width value ≠ [] :=
  List.append_ne_nil_of_right_ne_nil _ Nat.toDigits_ne_nil

theorem ofDigitChars_padded (width value : Nat) :
    Nat.ofDigitChars 10 (padded width value) 0 = value := by
  rw [padded, Nat.ofDigitChars_append, Nat.ofDigitChars_replicate_zero, Nat.mul_zero,
    Nat.ofDigitChars_ten_toDigits]

theorem le_length_padded (width value : Nat) : width ≤ (padded width value).length := by
  simp only [padded, List.length_append, List.length_replicate]
  omega

theorem length_padded (positive : 0 < width) (bound : value < 10 ^ width) :
    (padded width value).length = width := by
  have short := (Nat.length_toDigits_le_iff (by decide) positive).mpr bound
  simp only [padded, List.length_append, List.length_replicate]
  omega

theorem natural?_padded (width value : Nat) : Text.natural? (padded width value) = some value := by
  have digits : (padded width value).all Char.isDigit = true :=
    List.all_eq_true.mpr fun _ => isDigit_of_mem_padded
  simp [Text.natural?, padded_ne_nil, digits, ofDigitChars_padded]

theorem digits?_padded (positive : 0 < width) (bound : value < 10 ^ width) (rest : List Char) :
    digits? width (padded width value ++ rest) = some (value, rest) := by
  have length := length_padded positive bound
  have taken : (padded width value ++ rest).take width = padded width value :=
    List.take_left' length
  have dropped : (padded width value ++ rest).drop width = rest := List.drop_left' length
  have digits : (padded width value).all Char.isDigit = true :=
    List.all_eq_true.mpr fun _ => isDigit_of_mem_padded
  simp [digits?, taken, dropped, length, digits, ofDigitChars_padded]

/-- Digits end where something else begins. -/
theorem span_padded (width value : Nat) (rest : List Char)
    (ends : ∀ c ∈ rest.head?, c.isDigit = false) :
    (padded width value ++ rest).takeWhile Char.isDigit = padded width value ∧
      (padded width value ++ rest).dropWhile Char.isDigit = rest := by
  have digits : ∀ c ∈ padded width value, c.isDigit = true := fun _ => isDigit_of_mem_padded
  rw [List.takeWhile_append_of_pos digits, List.dropWhile_append_of_pos digits]
  cases rest with
  | nil => simp
  | cons c rest => simp [ends c rfl]

end Calendar

namespace Text

theorem isBlank_of_isDigit {c : Char} (digit : c.isDigit = true) : isBlank c = false := by
  rw [Bool.eq_false_iff, isBlank, Ne, inRanges_iff]
  simp only [Char.isDigit, Bool.and_eq_true, decide_eq_true_eq, UInt32.le_iff_toNat_le] at digit
  rintro ⟨range, listed, lower, upper⟩
  change 48 ≤ c.toNat ∧ c.toNat ≤ 57 at digit
  simp only [blankRanges, List.mem_cons, List.not_mem_nil, or_false] at listed
  rcases listed with rfl | rfl | rfl | rfl | rfl | rfl | rfl | rfl | rfl | rfl <;>
    simp only at lower upper <;> omega

theorem trim_eq_self {text : List Char} (solid : ∀ c ∈ text, isBlank c = false) :
    trim text = text := by
  have kept : ∀ text : List Char, (∀ c ∈ text, isBlank c = false) → text.dropWhile isBlank = text := by
    intro text solid
    cases text with
    | nil => rfl
    | cons c text => rw [List.dropWhile_cons_of_neg (by simp [solid c])]
  rw [trim, kept text solid, kept text.reverse (by simpa using solid), List.reverse_reverse]

end Text

namespace Decimal

variable (number : Decimal)

theorem paddedDigits_eq :
    number.paddedDigits = Calendar.padded (number.scale + 1) number.mantissa.natAbs := rfl

/-- The digits of a number before its point, and those behind. -/
def wholeDigits : List Char :=
  number.paddedDigits.take (number.paddedDigits.length - number.scale)

def fractionDigits : List Char :=
  number.paddedDigits.drop (number.paddedDigits.length - number.scale)

theorem toChars_eq : number.toChars =
    (if number.mantissa < 0 then ['-'] else []) ++
      (number.wholeDigits ++ if number.scale = 0 then [] else '.' :: number.fractionDigits) := by
  rw [toChars, List.append_assoc]
  rfl

theorem wholeDigits_append : number.wholeDigits ++ number.fractionDigits = number.paddedDigits :=
  List.take_append_drop ..

theorem length_fractionDigits : number.fractionDigits.length = number.scale := by
  have long := Calendar.le_length_padded (number.scale + 1) number.mantissa.natAbs
  rw [fractionDigits, List.length_drop, paddedDigits_eq]
  omega

theorem wholeDigits_ne_nil : number.wholeDigits ≠ [] := by
  have long := Calendar.le_length_padded (number.scale + 1) number.mantissa.natAbs
  rw [wholeDigits, paddedDigits_eq, Ne, List.take_eq_nil_iff]
  rintro (zero | empty)
  · omega
  · exact Calendar.padded_ne_nil _ _ empty

theorem isDigit_of_mem_wholeDigits {c : Char} (member : c ∈ number.wholeDigits) :
    c.isDigit = true :=
  Calendar.isDigit_of_mem_padded (List.mem_of_mem_take member)

theorem isDigit_of_mem_fractionDigits {c : Char} (member : c ∈ number.fractionDigits) :
    c.isDigit = true :=
  Calendar.isDigit_of_mem_padded (List.mem_of_mem_drop member)

theorem mem_toChars {c : Char} (member : c ∈ number.toChars) :
    c = '-' ∨ c = '.' ∨ c.isDigit = true := by
  rw [toChars_eq, List.mem_append, List.mem_append] at member
  rcases member with sign | whole | fraction
  · split at sign
    · exact .inl (List.mem_singleton.mp sign)
    · contradiction
  · exact .inr (.inr (number.isDigit_of_mem_wholeDigits whole))
  · split at fraction
    · contradiction
    · rcases List.mem_cons.mp fraction with point | digit
      · exact .inr (.inl point)
      · exact .inr (.inr (number.isDigit_of_mem_fractionDigits digit))

/-- Digits are no signs. -/
theorem splitSign_digit {c : Char} (digit : c.isDigit = true) (rest : List Char) :
    splitSign (c :: rest) = (false, c :: rest) := by
  have minus : c ≠ '-' := by rintro rfl; contradiction
  have plus : c ≠ '+' := by rintro rfl; contradiction
  simp [splitSign, minus, plus]

theorem splitSign_toChars : splitSign number.toChars =
    (decide (number.mantissa < 0),
      number.wholeDigits ++ if number.scale = 0 then [] else '.' :: number.fractionDigits) := by
  rw [toChars_eq]
  by_cases negative : number.mantissa < 0
  · simp [negative, splitSign]
  · obtain ⟨c, rest, whole⟩ := List.exists_cons_of_ne_nil number.wholeDigits_ne_nil
    have digit : c.isDigit = true :=
      number.isDigit_of_mem_wholeDigits (whole ▸ List.mem_cons_self)
    rw [whole]
    simp only [negative, ↓reduceIte, List.nil_append, List.cons_append, decide_false]
    exact splitSign_digit digit _

theorem splitPoint_digits :
    splitPoint (number.wholeDigits ++ if number.scale = 0 then [] else '.' :: number.fractionDigits) =
      (number.wholeDigits, number.fractionDigits) := by
  have plain : ∀ c ∈ number.wholeDigits, decide (c ≠ '.') = true := by
    intro c member
    have digit := number.isDigit_of_mem_wholeDigits member
    exact decide_eq_true fun point => by simp [point] at digit
  rw [splitPoint, List.takeWhile_append_of_pos plain, List.dropWhile_append_of_pos plain]
  by_cases whole : number.scale = 0
  · have placeless := number.length_fractionDigits
    rw [whole, List.length_eq_zero_iff] at placeless
    simp [whole, placeless]
  · simp [whole]

theorem ofNumber?_toChars : ofNumber? number.toChars 0 = some number := by
  rw [ofNumber?, splitSign_toChars]
  simp only [splitPoint_digits, wholeDigits_append]
  rw [paddedDigits_eq, Calendar.natural?_padded, length_fractionDigits, Option.map_some, ofDigits]
  have notNegative : ¬ ((number.scale : Int) - 0 < 0) := by omega
  rw [if_neg notNegative]
  obtain ⟨mantissa, scale⟩ := number
  simp only [decide_eq_true_eq, Option.some.injEq, mk.injEq]
  constructor
  · split <;> omega
  · omega

theorem isExponentMark_of_isDigit {c : Char} (digit : c.isDigit = true) :
    isExponentMark c = false := by
  rw [Bool.eq_false_iff]
  intro mark
  simp only [isExponentMark, Bool.or_eq_true, beq_iff_eq] at mark
  rcases mark with rfl | rfl <;> contradiction

theorem ofTrimmed_toChars : ofTrimmed number.toChars = .ok number := by
  have unmarked : ∀ c ∈ number.toChars, (!isExponentMark c) = true := by
    intro c member
    rcases number.mem_toChars member with rfl | rfl | digit
    · rfl
    · rfl
    · rw [isExponentMark_of_isDigit digit, Bool.not_false]
  have all : number.toChars.takeWhile (fun c => !isExponentMark c) = number.toChars :=
    List.takeWhile_eq_self_iff.mpr unmarked
  have rest : number.toChars.dropWhile (fun c => !isExponentMark c) = [] :=
    List.dropWhile_eq_nil_iff.mpr unmarked
  rw [ofTrimmed, rest, all]
  simp only [ofNumber?_toChars]
  rfl

/-- The text of a number reads as the number again, with all its places. -/
theorem parse_text : parse number.text = .ok number := by
  have solid : ∀ c ∈ number.toChars, Text.isBlank c = false := by
    intro c member
    rcases number.mem_toChars member with rfl | rfl | digit
    · rfl
    · rfl
    · exact Text.isBlank_of_isDigit digit
  rw [parse, text, String.toList_ofList, Text.trim_eq_self solid]
  split
  · rename_i empty
    have whole := number.wholeDigits_ne_nil
    simp [toChars_eq, whole] at empty
  · exact number.ofTrimmed_toChars

end Decimal

end FilterQuery
