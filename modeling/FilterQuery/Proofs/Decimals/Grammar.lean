import FilterQuery.Proofs.Numerals

namespace FilterQuery

/-! The grammar of decimal numerals, apart from the way they are read: a sign, digits
with a point, an exponent.  A text is read as a decimal number just if it belongs to the
grammar and its exponent is small enough. -/

namespace Text

theorem natural?_eq_some_iff {text : List Char} {value : Nat} :
    natural? text = some value ↔
      text ≠ [] ∧ (∀ c ∈ text, c.isDigit = true) ∧ Nat.ofDigitChars 10 text 0 = value := by
  rw [natural?]
  split
  · rename_i digits
    rw [Bool.and_eq_true, decide_eq_true_iff, List.all_eq_true] at digits
    rw [Option.some.injEq]
    exact ⟨fun same => ⟨digits.1, digits.2, same⟩, fun accepted => accepted.2.2⟩
  · rename_i rejected
    rw [Bool.and_eq_true, decide_eq_true_iff, List.all_eq_true] at rejected
    exact iff_of_false (Option.some_ne_none value).symm
      fun accepted => rejected ⟨accepted.1, accepted.2.1⟩

/-- Whether a text is left of another one without the blanks at its ends. -/
def Trims (text core : List Char) : Prop :=
  ∃ front back, text = front ++ (core ++ back) ∧ (∀ c ∈ front ++ back, isBlank c = true) ∧
    (∀ c ∈ core.head?, isBlank c = false) ∧ ∀ c ∈ core.getLast?, isBlank c = false

theorem not_isBlank_of_head? {text : List Char} {c : Char}
    (first : c ∈ (text.dropWhile isBlank).head?) : isBlank c = false := by
  have kept := List.head?_dropWhile_not isBlank text
  rwa [first] at kept

theorem trims_trim (text : List Char) : Trims text (trim text) := by
  have parts : trim text ++ ((text.dropWhile isBlank).reverse.takeWhile isBlank).reverse =
      text.dropWhile isBlank := by
    rw [trim, ← List.reverse_append, List.takeWhile_append_dropWhile, List.reverse_reverse]
  refine ⟨text.takeWhile isBlank, ((text.dropWhile isBlank).reverse.takeWhile isBlank).reverse,
    ?_, ?_, ?_, ?_⟩
  · rw [parts, List.takeWhile_append_dropWhile]
  · intro c member
    rcases List.mem_append.mp member with front | back
    · exact List.mem_takeWhile_imp front
    · exact List.mem_takeWhile_imp (List.mem_reverse.mp back)
  · intro c first
    have kept : c ∈ (text.dropWhile isBlank).head? := by
      rw [← parts, List.head?_append, first]
      rfl
    exact not_isBlank_of_head? kept
  · intro c last
    rw [trim, List.getLast?_reverse] at last
    exact not_isBlank_of_head? last

end Text

namespace Decimal

def signed (negative : Bool) (magnitude : Nat) : Int :=
  if negative then -(magnitude : Int) else magnitude

/-- A sign that may be missing; the flag tells whether it is a minus. -/
inductive Sign : List Char → Bool → Prop where
  | missing : Sign [] false
  | plus : Sign ['+'] false
  | minus : Sign ['-'] true

/-- Digits with at most one point, and at least one digit: the text, and the digits
before and behind the point. -/
inductive Figures : List Char → List Char → List Char → Prop where
  | plain {whole : List Char} (digits : ∀ c ∈ whole, c.isDigit = true) (nonempty : whole ≠ []) :
      Figures whole whole []
  | pointed {whole fraction : List Char} (digits : ∀ c ∈ whole, c.isDigit = true)
      (places : ∀ c ∈ fraction, c.isDigit = true) (nonempty : whole ++ fraction ≠ []) :
      Figures (whole ++ '.' :: fraction) whole fraction

/-- An exponent part that may be missing, and its value. -/
inductive ExponentPart : List Char → Int → Prop where
  | missing : ExponentPart [] 0
  | written {mark : Char} {sign digits : List Char} {negative : Bool}
      (marked : mark = 'e' ∨ mark = 'E') (sign_written : Sign sign negative)
      (digits_only : ∀ c ∈ digits, c.isDigit = true) (nonempty : digits ≠ []) :
      ExponentPart (mark :: (sign ++ digits)) (signed negative (Nat.ofDigitChars 10 digits 0))

/-- What a numeral tells. -/
structure Numeral where
  negative : Bool
  whole : List Char
  fraction : List Char
  exponent : Int

namespace Numeral

def WrittenAs (numeral : Numeral) (text : List Char) : Prop :=
  ∃ sign figures exponentPart, text = sign ++ (figures ++ exponentPart) ∧
    Sign sign numeral.negative ∧ Figures figures numeral.whole numeral.fraction ∧
    ExponentPart exponentPart numeral.exponent

/-- The number of digits behind the point. -/
def places (numeral : Numeral) : Nat :=
  numeral.fraction.length

/-- All digits read as one number, whatever point is among them. -/
def magnitude (numeral : Numeral) : Nat :=
  Nat.ofDigitChars 10 (numeral.whole ++ numeral.fraction) 0

end Numeral

variable {text sign figures whole fraction : List Char} {negative : Bool} {exponent : Int}
  {number : Decimal}

theorem splitSign_written (text : List Char) :
    ∃ sign, text = sign ++ (splitSign text).2 ∧ Sign sign (splitSign text).1 := by
  unfold splitSign
  split
  · exact ⟨_, rfl, .minus⟩
  · exact ⟨_, rfl, .plus⟩
  · exact ⟨_, rfl, .missing⟩

theorem Sign.splitSign (written : Sign sign negative)
    (unsigned : ∀ c ∈ text, c = '.' ∨ c.isDigit = true) :
    Decimal.splitSign (sign ++ text) = (negative, text) := by
  cases written with
  | plus => rfl
  | minus => rfl
  | missing =>
      cases text with
      | nil => rfl
      | cons c rest =>
          rcases unsigned c List.mem_cons_self with rfl | digit
          · rfl
          · exact splitSign_digit digit rest

theorem Figures.mem (written : Figures figures whole fraction) {c : Char} (member : c ∈ figures) :
    c = '.' ∨ c.isDigit = true := by
  cases written with
  | plain digits => exact .inr (digits c member)
  | pointed digits places =>
      rcases List.mem_append.mp member with before | behind
      · exact .inr (digits c before)
      · rcases List.mem_cons.mp behind with point | behind
        · exact .inl point
        · exact .inr (places c behind)

theorem Figures.digits (written : Figures figures whole fraction) {c : Char}
    (member : c ∈ whole ++ fraction) : c.isDigit = true := by
  cases written with
  | plain digits => exact digits c (by simpa using member)
  | pointed digits places => exact (List.mem_append.mp member).elim (digits c) (places c)

theorem Figures.ne_nil (written : Figures figures whole fraction) : whole ++ fraction ≠ [] := by
  cases written with
  | plain _ nonempty => simpa using nonempty
  | pointed _ _ nonempty => exact nonempty

theorem Figures.places_le (written : Figures figures whole fraction) :
    fraction.length ≤ figures.length := by
  cases written with
  | plain => exact Nat.zero_le _
  | pointed =>
      rw [List.length_append, List.length_cons]
      omega

theorem Figures.splitPoint (written : Figures figures whole fraction) :
    Decimal.splitPoint figures = (whole, fraction) := by
  have plain : ∀ digits : List Char, (∀ c ∈ digits, c.isDigit = true) →
      ∀ c ∈ digits, decide (c ≠ '.') = true := by
    intro digits only c member
    refine decide_eq_true fun point => ?_
    simpa [point] using only c member
  cases written with
  | plain digits =>
      have all := List.takeWhile_eq_self_iff.mpr (plain figures digits)
      have rest := List.dropWhile_eq_nil_iff.mpr (plain figures digits)
      rw [Decimal.splitPoint, all, rest, List.drop_nil]
  | pointed digits =>
      have before := plain whole digits
      rw [Decimal.splitPoint, List.takeWhile_append_of_pos before,
        List.dropWhile_append_of_pos before]
      simp

/-- Whatever is split at its point has the form of figures, if it is digits. -/
theorem figures_of_splitPoint (digits : ∀ c ∈ (splitPoint text).1 ++ (splitPoint text).2,
      c.isDigit = true) (nonempty : (splitPoint text).1 ++ (splitPoint text).2 ≠ []) :
    Figures text (splitPoint text).1 (splitPoint text).2 := by
  have parts : text.takeWhile (· ≠ '.') ++ text.dropWhile (· ≠ '.') = text :=
    List.takeWhile_append_dropWhile
  unfold splitPoint at digits nonempty ⊢
  cases rest : text.dropWhile (· ≠ '.') with
  | nil =>
      rw [rest, List.append_nil] at parts
      simp only [rest, List.drop_nil, List.append_nil, parts] at digits nonempty ⊢
      exact .plain digits nonempty
  | cons c fraction =>
      have point : c = '.' := by
        have first := List.head?_dropWhile_not (fun c => decide (c ≠ '.')) text
        rw [rest] at first
        simpa using first
      subst point
      simp only [rest, List.drop_one, List.tail_cons] at digits nonempty ⊢
      have pointed := Figures.pointed (fun c member => digits c (List.mem_append_left _ member))
        (fun c member => digits c (List.mem_append_right _ member)) nonempty
      rwa [← rest, parts] at pointed

theorem ofNumber?_figures (signWritten : Sign sign negative)
    (figuresWritten : Figures figures whole fraction) (exponent : Int) :
    ofNumber? (sign ++ figures) exponent =
      some (ofDigits negative (Nat.ofDigitChars 10 (whole ++ fraction) 0) fraction.length
        exponent) := by
  have digits : Text.natural? (whole ++ fraction) =
      some (Nat.ofDigitChars 10 (whole ++ fraction) 0) :=
    Text.natural?_eq_some_iff.mpr
      ⟨figuresWritten.ne_nil, fun _ => figuresWritten.digits, rfl⟩
  rw [ofNumber?, signWritten.splitSign fun _ => figuresWritten.mem]
  simp only [figuresWritten.splitPoint, digits, Option.map_some]

theorem figures_of_ofNumber? (read : ofNumber? text exponent = some number) :
    ∃ sign negative figures whole fraction, text = sign ++ figures ∧
      Sign sign negative ∧ Figures figures whole fraction := by
  obtain ⟨sign, split, signWritten⟩ := splitSign_written text
  obtain ⟨digits, natural, _⟩ := Option.map_eq_some_iff.mp read
  obtain ⟨nonempty, only, _⟩ := Text.natural?_eq_some_iff.mp natural
  exact ⟨sign, _, _, _, _, split, signWritten, figures_of_splitPoint only nonempty⟩

theorem integer?_eq (text : List Char) : Text.integer? text =
    (Text.natural? (splitSign text).2).map (signed (splitSign text).1) := by
  unfold Text.integer?
  split
  · rename_i digits
    cases natural : Text.natural? digits <;> simp [splitSign, natural, signed]
  · rename_i digits
    cases natural : Text.natural? digits <;> simp [splitSign, natural, signed]
  · rename_i noMinus noPlus
    have unsigned : splitSign text = (false, text) := by
      unfold splitSign
      split
      · exact (noMinus _ rfl).elim
      · exact (noPlus _ rfl).elim
      · rfl
    cases natural : Text.natural? text <;> simp [unsigned, natural, signed]

theorem integer64?_eq_some_iff {word : Int64} :
    Text.integer64? text = some word ↔ Text.integer? text = some word.toInt := by
  rw [Text.integer64?, Option.bind_eq_some_iff]
  constructor
  · intro held
    obtain ⟨value, read, fits⟩ := held
    split at fits
    · rename_i range
      simp only [Bool.and_eq_true, decide_eq_true_eq] at range
      obtain rfl := Option.some.inj fits
      rw [read, Int64.toInt_ofInt_of_le range.1 (Int.lt_add_one_iff.mpr range.2)]
    · contradiction
  · intro read
    refine ⟨word.toInt, read, ?_⟩
    have lower : Int64.minValue.toInt ≤ word.toInt := Int64.le_toInt word
    have upper : word.toInt ≤ Int64.maxValue.toInt := Int64.toInt_le word
    rw [if_pos (by rw [Bool.and_eq_true, decide_eq_true_iff, decide_eq_true_iff]; exact ⟨lower, upper⟩),
      Int64.ofInt_toInt]

theorem Sign.mem (written : Sign sign negative) {c : Char} (member : c ∈ sign) :
    c = '+' ∨ c = '-' := by
  cases written with
  | missing => contradiction
  | plus => exact .inl (List.mem_singleton.mp member)
  | minus => exact .inr (List.mem_singleton.mp member)

/-- Whether no mark of an exponent is in a text. -/
def Unmarked (text : List Char) : Prop :=
  ∀ c ∈ text, (!isExponentMark c) = true

/-- No mark of an exponent stands in front of the exponent part. -/
theorem unmarked_figures (signWritten : Sign sign negative)
    (figuresWritten : Figures figures whole fraction) : Unmarked (sign ++ figures) := by
  intro c member
  rcases List.mem_append.mp member with inSign | inFigures
  · rcases signWritten.mem inSign with rfl | rfl <;> rfl
  · rcases figuresWritten.mem inFigures with rfl | digit
    · rfl
    · rw [isExponentMark_of_isDigit digit, Bool.not_false]

theorem isExponentMark_iff {c : Char} : isExponentMark c = true ↔ c = 'e' ∨ c = 'E' := by
  rw [isExponentMark, Bool.or_eq_true, beq_iff_eq, beq_iff_eq]

theorem integer?_signed (signWritten : Sign sign negative) {digits : List Char}
    (only : ∀ c ∈ digits, c.isDigit = true) (nonempty : digits ≠ []) :
    Text.integer? (sign ++ digits) = some (signed negative (Nat.ofDigitChars 10 digits 0)) := by
  have natural := Text.natural?_eq_some_iff.mpr ⟨nonempty, only, rfl⟩
  rw [integer?_eq, signWritten.splitSign fun c member => .inr (only c member), natural,
    Option.map_some]

theorem signed_of_integer? {value : Int} (read : Text.integer? text = some value) :
    ∃ sign negative digits, text = sign ++ digits ∧ Sign sign negative ∧
      (∀ c ∈ digits, c.isDigit = true) ∧ digits ≠ [] ∧
      value = signed negative (Nat.ofDigitChars 10 digits 0) := by
  obtain ⟨sign, split, signWritten⟩ := splitSign_written text
  rw [integer?_eq] at read
  obtain ⟨digits, natural, same⟩ := Option.map_eq_some_iff.mp read
  obtain ⟨nonempty, only, rfl⟩ := Text.natural?_eq_some_iff.mp natural
  exact ⟨sign, _, _, split, signWritten, only, nonempty, same.symm⟩

/-- The number that a numeral stands for. -/
def Numeral.decimal (numeral : Numeral) : Decimal :=
  ofDigits numeral.negative numeral.magnitude numeral.places numeral.exponent

theorem exponentPart_nil_iff : ExponentPart [] exponent ↔ exponent = 0 := by
  constructor
  · intro written
    cases written
    rfl
  · intro zero
    rw [zero]
    exact .missing

theorem exponentPart_cons_iff {mark : Char} : ExponentPart (mark :: text) exponent ↔
    isExponentMark mark = true ∧ Text.integer? text = some exponent := by
  constructor
  · intro written
    cases written with
    | written marked signWritten only nonempty =>
        exact ⟨isExponentMark_iff.mpr marked, integer?_signed signWritten only nonempty⟩
  · intro read
    obtain ⟨marked, integer⟩ := read
    obtain ⟨sign, negative, digits, rfl, signWritten, only, nonempty, rfl⟩ :=
      signed_of_integer? integer
    exact .written (isExponentMark_iff.mp marked) signWritten only nonempty

variable {front rest : List Char} {mark : Char}

/-- The text is split in front of the first mark of an exponent. -/
theorem splits_at_mark (text : List Char) :
    Unmarked text ∨ ∃ front mark rest, text = front ++ mark :: rest ∧ Unmarked front ∧
      isExponentMark mark = true := by
  have parts : text.takeWhile (fun c => !isExponentMark c) ++
      text.dropWhile (fun c => !isExponentMark c) = text := List.takeWhile_append_dropWhile
  cases behind : text.dropWhile fun c => !isExponentMark c with
  | nil => exact .inl (List.dropWhile_eq_nil_iff.mp behind)
  | cons mark rest =>
      have first := List.head?_dropWhile_not (fun c => !isExponentMark c) text
      rw [behind] at first parts
      exact .inr ⟨_, mark, rest, parts.symm, fun c => List.mem_takeWhile_imp, by simpa using first⟩

theorem span_unmarked (unmarked : Unmarked text) :
    text.takeWhile (fun c => !isExponentMark c) = text ∧
      text.dropWhile (fun c => !isExponentMark c) = [] :=
  ⟨List.takeWhile_eq_self_iff.mpr unmarked, List.dropWhile_eq_nil_iff.mpr unmarked⟩

theorem span_marked (unmarked : Unmarked front) (marked : isExponentMark mark = true)
    (rest : List Char) :
    (front ++ mark :: rest).takeWhile (fun c => !isExponentMark c) = front ∧
      (front ++ mark :: rest).dropWhile (fun c => !isExponentMark c) = mark :: rest := by
  rw [List.takeWhile_append_of_pos unmarked, List.dropWhile_append_of_pos unmarked]
  simp [marked]

theorem ofTrimmed_unmarked (unmarked : Unmarked text) : ofTrimmed text =
    (ofNumber? text 0).elim (.error (.invalidDigits (String.ofList text))) .ok := by
  obtain ⟨whole, nothing⟩ := span_unmarked unmarked
  rw [ofTrimmed, whole, nothing]

theorem ofTrimmed_marked (unmarked : Unmarked front) (marked : isExponentMark mark = true) :
    ofTrimmed (front ++ mark :: rest) =
      (Text.integer64? rest).elim (.error (.invalidDigits (String.ofList (front ++ mark :: rest))))
        fun exponent =>
          if maxExponent < exponent.toInt.natAbs then
            .error (.exponentOutOfRange (String.ofList (front ++ mark :: rest)))
          else
            (ofNumber? front exponent.toInt).elim
              (.error (.invalidDigits (String.ofList (front ++ mark :: rest)))) .ok := by
  obtain ⟨before, behind⟩ := span_marked unmarked marked rest
  rw [ofTrimmed, before, behind]
  cases read : Text.integer64? rest <;> simp only [read] <;> rfl

/-- Within its bounds an exponent fits a word. -/
theorem word_exists (bound : exponent.natAbs ≤ maxExponent) :
    ∃ word : Int64, word.toInt = exponent := by
  have small : exponent.natAbs ≤ 4096 := bound
  exact ⟨_, Int64.toInt_ofInt_of_le (by omega) (by omega)⟩

theorem Numeral.WrittenAs.parts_exist {numeral : Numeral} (written : numeral.WrittenAs text) :
    ∃ front part, text = front ++ part ∧ Unmarked front ∧ ExponentPart part numeral.exponent ∧
      ofNumber? front numeral.exponent = some numeral.decimal := by
  obtain ⟨sign, figures, exponentPart, rfl, signWritten, figuresWritten, exponentWritten⟩ := written
  exact ⟨sign ++ figures, exponentPart, (List.append_assoc ..).symm,
    unmarked_figures signWritten figuresWritten, exponentWritten,
    ofNumber?_figures signWritten figuresWritten numeral.exponent⟩

theorem Numeral.WrittenAs.ofTrimmed {numeral : Numeral} (written : numeral.WrittenAs text)
    (bound : numeral.exponent.natAbs ≤ maxExponent) :
    Decimal.ofTrimmed text = .ok numeral.decimal := by
  obtain ⟨front, part, rfl, unmarked, exponentWritten, number⟩ := written.parts_exist
  cases part with
  | nil =>
      rw [exponentPart_nil_iff.mp exponentWritten] at number
      rw [List.append_nil, ofTrimmed_unmarked unmarked, number, Option.elim_some]
  | cons mark rest =>
      obtain ⟨marked, integer⟩ := exponentPart_cons_iff.mp exponentWritten
      obtain ⟨word, same⟩ := word_exists bound
      rw [← same] at integer bound number
      rw [ofTrimmed_marked unmarked marked, integer64?_eq_some_iff.mpr integer, Option.elim_some,
        if_neg (Nat.not_lt.mpr bound), number, Option.elim_some]

theorem elim_eq_ok {counted? : Option Decimal} {error : DecimalError}
    (read : counted?.elim (.error error) Except.ok = .ok number) : counted? = some number := by
  cases counted? with
  | none => contradiction
  | some _ => rw [Except.ok.inj read]

theorem parts_of_ofTrimmed (read : ofTrimmed text = .ok number) :
    ∃ front part exponent, text = front ++ part ∧ ofNumber? front exponent = some number ∧
      ExponentPart part exponent ∧ exponent.natAbs ≤ maxExponent := by
  rcases splits_at_mark text with unmarked | ⟨front, mark, rest, rfl, unmarked, marked⟩
  · rw [ofTrimmed_unmarked unmarked] at read
    exact ⟨text, [], 0, (List.append_nil text).symm, elim_eq_ok read, .missing, Nat.zero_le _⟩
  · rw [ofTrimmed_marked unmarked marked] at read
    cases integer : Text.integer64? rest with
    | none => simp [integer] at read
    | some word =>
        rw [integer, Option.elim_some] at read
        split at read
        · contradiction
        · rename_i within
          have part := exponentPart_cons_iff.mpr ⟨marked, integer64?_eq_some_iff.mp integer⟩
          exact ⟨front, mark :: rest, word.toInt, rfl, elim_eq_ok read, part, Nat.not_lt.mp within⟩

theorem numeral_of_ofTrimmed (read : ofTrimmed text = .ok number) :
    ∃ numeral : Numeral, numeral.WrittenAs text ∧ numeral.exponent.natAbs ≤ maxExponent := by
  obtain ⟨front, part, exponent, rfl, counted, exponentWritten, bound⟩ := parts_of_ofTrimmed read
  obtain ⟨sign, negative, figures, whole, fraction, rfl, signWritten, figuresWritten⟩ :=
    figures_of_ofNumber? counted
  exact ⟨⟨negative, whole, fraction, exponent⟩,
    ⟨sign, figures, part, List.append_assoc .., signWritten, figuresWritten, exponentWritten⟩, bound⟩

end Decimal

end FilterQuery
