import FilterQuery.Proofs.Decimals.Grammar
import Mathlib.Algebra.Field.Rat
import Mathlib.Algebra.Order.Ring.Rat
import Mathlib.Data.String.Basic

namespace FilterQuery

/-! Decimal numbers are read exactly: no digit is lost, and the point moves by the
exponent.  The scale may be computed in words of 64 and 32 bits, as long as the literal is
shorter than such a word can count. -/

namespace Decimal

def value (number : Decimal) : ℚ :=
  number.mantissa * 10 ^ (-(number.scale : ℤ))

section Moves

variable (negative : Bool) (digits places : Nat) (exponent : Int)

theorem ofDigits_eq : ofDigits negative digits places exponent =
    if (places : Int) < exponent then
      ⟨signed negative digits * 10 ^ (exponent - places).toNat, 0⟩
    else
      ⟨signed negative digits, (places - exponent).toNat⟩ := by
  have below : (places : Int) - exponent < 0 ↔ (places : Int) < exponent := by omega
  simp only [ofDigits, below]
  split
  · have distance : ((places : Int) - exponent).natAbs = (exponent - places).toNat := by omega
    rw [distance]
    simp [signed]
  · rfl

theorem scale_ofDigits :
    ((ofDigits negative digits places exponent).scale : Int) = max 0 (places - exponent) := by
  rw [ofDigits_eq]
  split <;> simp only <;> omega

theorem value_ofDigits : (ofDigits negative digits places exponent).value =
    signed negative digits * 10 ^ (exponent - places) := by
  rw [ofDigits_eq]
  split
  · rename_i below
    have distance : exponent - places = ((exponent - places).toNat : ℤ) := by omega
    rw [value, distance, zpow_natCast]
    simp
  · rename_i above
    have distance : -(((places : Int) - exponent).toNat : ℤ) = exponent - places := by omega
    rw [value, distance]

end Moves

/-! The scale in words. -/

/-- The magnitude of a signed word, as an unsigned one. -/
def magnitudeWord (word : Int64) : UInt64 :=
  (if word < 0 then -word else word).toUInt64

/-- Both the conversion and the difference may wrap around. -/
def scaleWord (places : Nat) (exponent : Int64) : Int64 :=
  (UInt64.ofNat places).toInt64 - exponent

def ofDigitsInWords (negative : Bool) (digits places : Nat) (exponent : Int64) : Decimal :=
  if scaleWord places exponent < 0 then
    ⟨signed negative digits * 10 ^ (magnitudeWord (scaleWord places exponent)).toUInt32.toNat, 0⟩
  else
    ⟨signed negative digits, (scaleWord places exponent).toUInt64.toUInt32.toNat⟩

/-- Whether every word on the way to the scale holds the number that is meant. -/
structure Fits (places : Nat) (exponent : Int64) : Prop where
  counted : (UInt64.ofNat places).toNat = places
  converted : (UInt64.ofNat places).toInt64.toInt = places
  subtracted : (scaleWord places exponent).toInt = places - exponent.toInt
  magnitude : (magnitudeWord (scaleWord places exponent)).toNat = (places - exponent.toInt).natAbs
  shift : (magnitudeWord (scaleWord places exponent)).toUInt32.toNat =
    (places - exponent.toInt).natAbs
  scale : exponent.toInt ≤ places →
    (scaleWord places exponent).toUInt64.toUInt32.toNat = (places - exponent.toInt).toNat

theorem toNat_toUInt64_of_nonneg {word : Int64} (nonnegative : 0 ≤ word.toInt) :
    word.toUInt64.toNat = word.toInt.toNat := by
  have bits := BitVec.toInt_eq_toNat_cond word.toBitVec
  have bound := word.toBitVec.isLt
  rw [Int64.toInt_toBitVec] at bits
  rw [← UInt64.toNat_toBitVec, Int64.toBitVec_toUInt64]
  split at bits <;> omega

theorem toNat_magnitudeWord (word : Int64) : (magnitudeWord word).toNat = word.toInt.natAbs := by
  rw [magnitudeWord]
  split
  · rename_i negative
    rw [Int64.lt_iff_toInt_lt, Int64.toInt_zero] at negative
    have bits := BitVec.toInt_eq_toNat_cond word.toBitVec
    have bound := word.toBitVec.isLt
    rw [Int64.toInt_toBitVec] at bits
    rw [← UInt64.toNat_toBitVec, Int64.toBitVec_toUInt64, Int64.toBitVec_neg, BitVec.toNat_neg]
    split at bits <;> omega
  · rename_i nonnegative
    rw [Int64.lt_iff_toInt_lt, Int64.toInt_zero] at nonnegative
    rw [toNat_toUInt64_of_nonneg (by omega)]
    omega

theorem fits {places : Nat} {exponent : Int64} (bound : exponent.toInt.natAbs ≤ 4096)
    (held : (places - exponent.toInt).natAbs < 2 ^ 32) : Fits places exponent := by
  have counted : (UInt64.ofNat places).toNat = places :=
    UInt64.toNat_ofNat_of_lt' (by rw [UInt64.size]; omega)
  have converted : (UInt64.ofNat places).toInt64.toInt = places := by
    rw [← Int64.toInt_toBitVec, UInt64.toBitVec_toInt64, BitVec.toInt_eq_toNat_of_lt] <;>
      rw [UInt64.toNat_toBitVec, counted]
    omega
  have subtracted : (scaleWord places exponent).toInt = places - exponent.toInt := by
    rw [scaleWord, Int64.toInt_sub, converted]
    exact Int.bmod_eq_of_le (by omega) (by omega)
  have magnitude : (magnitudeWord (scaleWord places exponent)).toNat =
      (places - exponent.toInt).natAbs := by
    rw [toNat_magnitudeWord, subtracted]
  refine ⟨counted, converted, subtracted, magnitude, ?_, fun above => ?_⟩
  · rw [UInt64.toNat_toUInt32, magnitude]
    omega
  · rw [UInt64.toNat_toUInt32, toNat_toUInt64_of_nonneg (by omega), subtracted]
    omega

theorem Fits.ofDigits_eq {places : Nat} {exponent : Int64} (fits : Fits places exponent)
    (negative : Bool) (digits : Nat) :
    ofDigitsInWords negative digits places exponent =
      ofDigits negative digits places exponent.toInt := by
  have below : scaleWord places exponent < 0 ↔ (places : Int) < exponent.toInt := by
    rw [Int64.lt_iff_toInt_lt, Int64.toInt_zero, fits.subtracted]
    omega
  rw [ofDigitsInWords, Decimal.ofDigits_eq]
  simp only [below]
  split
  · have distance : ((places : Int) - exponent.toInt).natAbs = (exponent.toInt - places).toNat := by
      omega
    rw [fits.shift, distance]
  · rw [fits.scale (by omega)]

/-! Short literals. -/

theorem length_le_utf8Len (text : List Char) : text.length ≤ String.utf8Len text := by
  induction text with
  | nil => exact Nat.zero_le _
  | cons c text inductionHypothesis =>
      have positive := c.utf8Size_pos
      rw [String.utf8Len_cons, List.length_cons]
      omega

theorem trim_sublist (text : List Char) : (Text.trim text).Sublist text := by
  have back : ((text.dropWhile Text.isBlank).reverse.dropWhile Text.isBlank).reverse.Sublist
      (text.dropWhile Text.isBlank).reverse.reverse :=
    (List.dropWhile_sublist Text.isBlank).reverse
  rw [List.reverse_reverse] at back
  exact back.trans (List.dropWhile_sublist Text.isBlank)

theorem length_trim_le (literal : String) :
    (Text.trim literal.toList).length ≤ literal.utf8ByteSize := by
  rw [← String.utf8Len_toList]
  exact (trim_sublist literal.toList).length_le.trans (length_le_utf8Len literal.toList)

theorem Numeral.WrittenAs.places_le {numeral : Numeral} {text : List Char}
    (written : numeral.WrittenAs text) : numeral.places ≤ text.length := by
  obtain ⟨sign, figures, exponentPart, rfl, _, figuresWritten, _⟩ := written
  have places := figuresWritten.places_le
  simp only [Numeral.places, List.length_append]
  omega

theorem parse_eq_ok_iff {literal : String} {number : Decimal} :
    parse literal = .ok number ↔ ofTrimmed (Text.trim literal.toList) = .ok number := by
  rw [parse]
  split
  · rename_i blank
    rw [blank]
    apply iff_of_false
    · intro same
      contradiction
    · intro same
      contradiction
  · rfl

/-- A literal is read just if it is a numeral, between blanks, with an exponent of at most
4096.  The number has as many places as are left once the point has moved, and exactly the
written value.  In words of 64 and 32 bits the same scale is computed. -/
theorem numerals_read_exactly {literal : String}
    (short : literal.utf8ByteSize < 2 ^ 32 - 4096) :
    Text.Trims literal.toList (Text.trim literal.toList) ∧
    ((∃ number, parse literal = .ok number) ↔
      ∃ numeral : Numeral, numeral.WrittenAs (Text.trim literal.toList) ∧
        numeral.exponent.natAbs ≤ 4096) ∧
    ∀ numeral : Numeral, numeral.WrittenAs (Text.trim literal.toList) →
      numeral.exponent.natAbs ≤ 4096 →
      ∃ number, parse literal = .ok number ∧
        (number.scale : Int) = max 0 (numeral.places - numeral.exponent) ∧
        number.value = signed numeral.negative numeral.magnitude *
          10 ^ (numeral.exponent - numeral.places) ∧
        ∃ exponent : Int64, exponent.toInt = numeral.exponent ∧ Fits numeral.places exponent ∧
          number = ofDigitsInWords numeral.negative numeral.magnitude numeral.places exponent := by
  have reads : ∀ numeral : Numeral, numeral.WrittenAs (Text.trim literal.toList) →
      numeral.exponent.natAbs ≤ 4096 → parse literal = .ok numeral.decimal :=
    fun numeral written bound => parse_eq_ok_iff.mpr (written.ofTrimmed bound)
  refine ⟨Text.trims_trim literal.toList, ⟨?_, ?_⟩, ?_⟩
  · rintro ⟨number, read⟩
    exact numeral_of_ofTrimmed (parse_eq_ok_iff.mp read)
  · rintro ⟨numeral, written, bound⟩
    exact ⟨numeral.decimal, reads numeral written bound⟩
  · intro numeral written bound
    have few : numeral.places < 2 ^ 32 - 4096 :=
      (written.places_le.trans (length_trim_le literal)).trans_lt short
    have word : (Int64.ofInt numeral.exponent).toInt = numeral.exponent :=
      Int64.toInt_ofInt_of_le (by omega) (by omega)
    have held : Fits numeral.places (Int64.ofInt numeral.exponent) := by
      refine fits (by rwa [word]) ?_
      rw [word]
      omega
    refine ⟨numeral.decimal, reads numeral written bound, scale_ofDigits .., value_ofDigits .., ?_⟩
    refine ⟨_, word, held, ?_⟩
    rw [held.ofDigits_eq, word, Numeral.decimal]

theorem discount_reads_exactly :
    " -1.50e+01 ".utf8ByteSize < 2 ^ 32 - 4096 ∧
    ∃ number, parse " -1.50e+01 " = .ok number ∧ number.scale = 1 ∧
      number.value = -150 * 10 ^ (-1 : ℤ) := by
  have short : " -1.50e+01 ".utf8ByteSize < 2 ^ 32 - 4096 := by decide
  have figures : Figures (['1'] ++ '.' :: ['5', '0']) ['1'] ['5', '0'] :=
    .pointed (List.all_eq_true.mp rfl) (List.all_eq_true.mp rfl) (by decide)
  have exponent : ExponentPart ('e' :: (['+'] ++ ['0', '1']))
      (signed false (Nat.ofDigitChars 10 ['0', '1'] 0)) :=
    .written (.inl rfl) .plus (List.all_eq_true.mp rfl) (by decide)
  have written : (Numeral.mk true ['1'] ['5', '0'] 1).WrittenAs (Text.trim " -1.50e+01 ".toList) :=
    ⟨_, _, _, by decide, .minus, figures, exponent⟩
  obtain ⟨_, _, exactly⟩ := numerals_read_exactly short
  obtain ⟨number, read, scale, value, _⟩ := exactly _ written (by decide)
  refine ⟨short, number, read, ?_, ?_⟩
  · exact Int.ofNat_inj.mp scale
  · exact value

end Decimal

end FilterQuery
