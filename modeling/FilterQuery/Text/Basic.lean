namespace FilterQuery.Text

/-! Sets of characters given by the ranges of their code points, the blanks among them, the
integers that are read from digits, and the alphabetical order of texts. -/

/-- The code points from the first to the second, both included. -/
abbrev CodeRange := Nat × Nat

def inRanges (ranges : List CodeRange) (c : Char) : Bool :=
  ranges.any fun range => range.1 ≤ c.toNat && c.toNat ≤ range.2

theorem inRanges_iff {ranges : List CodeRange} {c : Char} :
    inRanges ranges c = true ↔
      ∃ range ∈ ranges, range.1 ≤ c.toNat ∧ c.toNat ≤ range.2 := by
  simp [inRanges]

/-! ### Blanks -/

/-- The characters that the Unicode property White_Space lists. -/
def blankRanges : List CodeRange := [
    (0x0009, 0x000D), (0x0020, 0x0020), (0x0085, 0x0085), (0x00A0, 0x00A0), (0x1680, 0x1680),
    (0x2000, 0x200A), (0x2028, 0x2029), (0x202F, 0x202F), (0x205F, 0x205F), (0x3000, 0x3000)]

def isBlank (c : Char) : Bool :=
  inRanges blankRanges c

/-- Removes the blanks at both ends. -/
def trim (text : List Char) : List Char :=
  ((text.dropWhile isBlank).reverse.dropWhile isBlank).reverse

/-- A text of blanks alone, the empty one included. -/
def allBlank (text : String) : Bool :=
  text.toList.all isBlank

/-! ### Signed decimal integers of 64 bits -/

/-- Digits alone, at least one of them. -/
def natural? (digits : List Char) : Option Nat :=
  if digits ≠ [] && digits.all Char.isDigit then
    some (Nat.ofDigitChars 10 digits 0)
  else
    none

/-- An optional sign before the digits. -/
def integer? : List Char → Option Int
  | '-' :: digits => (natural? digits).map fun value => -(value : Int)
  | '+' :: digits => (natural? digits).map fun value => (value : Int)
  | digits => (natural? digits).map fun value => (value : Int)

/-- Values outside the range of 64 bits are refused, not wrapped. -/
def integer64? (text : List Char) : Option Int64 :=
  (integer? text).bind fun value =>
    if Int64.minValue.toInt ≤ value && value ≤ Int64.maxValue.toInt then some (Int64.ofInt value)
    else none

/-! ### Order -/

/-- Sorts texts by the code points of their characters. -/
def alphabetical (texts : List String) : List String :=
  texts.mergeSort fun first second => decide (first ≤ second)

theorem mem_alphabetical {texts : List String} {text : String} :
    text ∈ alphabetical texts ↔ text ∈ texts :=
  List.mem_mergeSort

theorem alphabetical_pairwise {texts : List String} (distinct : texts.Nodup) :
    (alphabetical texts).Pairwise (· < ·) := by
  have sorted : (alphabetical texts).Pairwise fun first second => decide (first ≤ second) = true :=
    List.pairwise_mergeSort (fun _ _ _ => by simpa using String.le_trans)
      (fun first second => by simpa using String.le_total first second) _
  have distinctToo : (alphabetical texts).Nodup := (List.mergeSort_perm _ _).nodup_iff.mpr distinct
  refine (sorted.and distinctToo).imp fun ⟨before, different⟩ => ?_
  exact Std.lt_of_le_of_ne (of_decide_eq_true before) different

end FilterQuery.Text
