import FilterQuery.Json.Reader
import FilterQuery.Json.Writer
import Mathlib.Tactic.SplitIfs

namespace FilterQuery.Json

/-! Strings of any characters are read back from their escaped form. -/

variable {c mark : Char}

theorem hexDigit?_digitChar : ∀ digit < 16, hexDigit? (Nat.digitChar digit) = some digit := by
  decide

/-- A control character is told by the two digits of its code. -/
theorem unit?_control (control : c.toNat < 32) :
    unit? '0' '0' (Nat.digitChar (c.toNat / 16)) (Nat.digitChar (c.toNat % 16)) =
      some c.toNat := by
  have zero : hexDigit? '0' = some 0 := rfl
  have high := hexDigit?_digitChar (c.toNat / 16) (by omega)
  have low := hexDigit?_digitChar (c.toNat % 16) (by omega)
  have whole : ((0 * 16 + 0) * 16 + c.toNat / 16) * 16 + c.toNat % 16 = c.toNat := by omega
  simp only [unit?, zero, high, low, Option.bind_eq_bind, Option.bind_some, whole]

theorem ofUnit_toNat (control : c.toNat < 32) : Piece.ofUnit c.toNat = .char c := by
  have plain : (decide (0xD800 ≤ c.toNat) && decide (c.toNat < 0xE000)) = false := by
    rw [Bool.and_eq_false_iff, decide_eq_false_iff_not]
    exact .inl (by omega)
  rw [Piece.ofUnit, plain, Char.ofNat_toNat]
  rfl

theorem pieces?_mark (unescaped : escape? mark = some c) (rest : List Char) :
    pieces? ('\\' :: mark :: rest) =
      (pieces? rest).map fun (pieces, rest) => (.char c :: pieces, rest) := by
  have notUnit : mark ≠ 'u' := by
    rintro rfl
    contradiction
  rw [pieces?.eq_4 _ _ (by simp [notUnit]), unescaped]
  cases pieces? rest <;> rfl

theorem pieces?_control (control : c.toNat < 32) (rest : List Char) :
    pieces? ('\\' :: 'u' :: '0' :: '0' :: Nat.digitChar (c.toNat / 16) ::
        Nat.digitChar (c.toNat % 16) :: rest) =
      (pieces? rest).map fun (pieces, rest) => (.char c :: pieces, rest) := by
  rw [pieces?, unit?_control control]
  cases read : pieces? rest <;> simp [ofUnit_toNat control]

theorem pieces?_plain (notQuote : c ≠ '"') (notMark : c ≠ '\\') (printed : ¬ c.toNat < 32)
    (rest : List Char) :
    pieces? (c :: rest) = (pieces? rest).map fun (pieces, rest) => (.char c :: pieces, rest) := by
  rw [pieces?.eq_5 _ _ (by simp [notQuote]) (by simp [notMark]) (by simp [notMark]), if_neg printed]
  cases pieces? rest <;> rfl

theorem eq_ofNat {code : Nat} (same : c.toNat = code) : c = Char.ofNat code := by
  rw [← same, Char.ofNat_toNat]

/-- Every character is read from what is written for it. -/
theorem pieces?_escapedChar (c : Char) (rest : List Char) :
    pieces? (escapedChar c ++ rest) =
      (pieces? rest).map fun (pieces, rest) => (.char c :: pieces, rest) := by
  unfold escapedChar
  split_ifs with quote backslash newline carriage tab backspace formFeed control
  · subst quote
    exact pieces?_mark rfl rest
  · subst backslash
    exact pieces?_mark rfl rest
  · subst newline
    exact pieces?_mark rfl rest
  · subst carriage
    exact pieces?_mark rfl rest
  · subst tab
    exact pieces?_mark rfl rest
  · obtain rfl := eq_ofNat backspace
    exact pieces?_mark rfl rest
  · obtain rfl := eq_ofNat formFeed
    exact pieces?_mark rfl rest
  · exact pieces?_control control rest
  · exact pieces?_plain quote backslash control rest

theorem pieces?_escaped (text rest : List Char) :
    pieces? (text.flatMap escapedChar ++ '"' :: rest) = some (text.map .char, rest) := by
  induction text with
  | nil => rw [List.flatMap_nil, List.nil_append, pieces?, List.map_nil]
  | cons c text inductionHypothesis =>
      rw [List.flatMap_cons, List.append_assoc, pieces?_escapedChar, inductionHypothesis]
      rfl

theorem joinPieces?_chars (text : List Char) : joinPieces? (text.map .char) = some text := by
  induction text with
  | nil => rfl
  | cons c text inductionHypothesis =>
      rw [List.map_cons, joinPieces?, inductionHypothesis, Option.map_some]

/-- A string is read back, whatever follows it. -/
theorem string?_escaped (text : String) (rest : List Char) :
    string? (text.toList.flatMap escapedChar ++ '"' :: rest) = some (some text, rest) := by
  simp only [string?, pieces?_escaped, Option.map_some, joinPieces?_chars, String.ofList_toList]

theorem stringChars_append (text : String) (rest : List Char) :
    stringChars text ++ rest = '"' :: (text.toList.flatMap escapedChar ++ '"' :: rest) := by
  simp [stringChars]

end FilterQuery.Json
