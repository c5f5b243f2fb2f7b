import FilterQuery.Proofs.Sql.Evaluation
import Mathlib.Data.List.TakeWhile

namespace FilterQuery

/-- No character of the text is U+0000.  PostgreSQL has no other texts, and some functions of
SQLite take a text to end there. -/
def Unterminated (text : String) : Prop :=
  '\x00' ∉ text.toList

instance (text : String) : Decidable (Unterminated text) :=
  inferInstanceAs (Decidable (¬ _))

namespace Sql

/-! The functions of texts that statements for SQLite call; those for PostgreSQL call none. -/

/-- The number of the first place where one text occurs in another one, or 0. -/
def occurrencePlace (text part : List Char) : Nat :=
  ((text.tails.findIdx? part.isPrefixOf).map (· + 1)).getD 0

/-- What is documented of the functions of SQLite.  Characters are counted from 1 on, and from
the end with negative numbers.  Of texts with U+0000 only their length is known, which is that of
the part in front of it. -/
structure Calls.AsDocumented (call? : Calls) : Prop where
  length (text : String) : call? .length [.value (.string text)] =
    some (.count (text.toList.takeWhile (· ≠ '\x00')).length)
  substr_infix {text : String} (unterminated : Unterminated text) (start : Int)
    (counts : List Int) (atMostOne : counts.length ≤ 1) :
    ∃ part, call? .substr (.value (.string text) :: .count start :: counts.map .count) =
        some (.value (.string (.ofList part))) ∧ part <:+: text.toList
  substr_front {text : String} (unterminated : Unterminated text) {before count : Nat}
    (within : before + count ≤ text.toList.length) :
    call? .substr [.value (.string text), .count (before + 1), .count count] =
      some (.value (.string (.ofList ((text.toList.drop before).take count))))
  substr_back {text : String} (unterminated : Unterminated text) {count : Nat}
    (positive : 0 < count) (within : count ≤ text.toList.length) :
    call? .substr [.value (.string text), .count (-count)] =
      some (.value (.string (.ofList (text.toList.drop (text.toList.length - count)))))
  substr_null (start : Int) (counts : List Int) (atMostOne : counts.length ≤ 1) :
    call? .substr (.null :: .count start :: counts.map .count) = some .null
  instr {text part : String} (unterminated : Unterminated text)
    (unterminatedPart : Unterminated part) :
    call? .instr [.value (.string text), .value (.string part)] =
      some (.count (occurrencePlace text.toList part.toList))
  instr_null (part : String) : call? .instr [.null, .value (.string part)] = some .null

/-! ### Functions that keep to it -/

/-- Characters from one place up to another; places outside the text are empty. -/
def window (text : List Char) (first last : Int) : List Char :=
  (text.take (last - 1).toNat).drop (first - 1).toNat

/-- The place that a number stands for. -/
def place (text : List Char) (start : Int) : Int :=
  if start < 0 then text.length + start + 1 else start

/-- So many characters from a place on, or in front of it if the number is negative. -/
def substring (text : List Char) (start count : Int) : List Char :=
  let first := place text start
  if 0 ≤ count then window text first (first + count) else window text (first + count) first

/-- What is in front of the first U+0000. -/
def visible (text : String) : List Char :=
  text.toList.takeWhile (· ≠ '\x00')

/-- SQLite's functions for null, texts and counts.  Only `instr` looks behind U+0000. -/
def Calls.sqlite : Calls
  | .length, [.value (.string text)] => some (.count (visible text).length)
  | .substr, [.value (.string text), .count start] =>
      let text := visible text
      some (.value (.string (.ofList (window text (place text start) (text.length + 1)))))
  | .substr, [.value (.string text), .count start, .count count] =>
      some (.value (.string (.ofList (substring (visible text) start count))))
  | .instr, [.value (.string text), .value (.string part)] =>
      some (.count (occurrencePlace text.toList part.toList))
  | _, arguments => if arguments.any Datum.isNull then some .null else none

variable {text : String}

theorem visible_eq (unterminated : Unterminated text) : visible text = text.toList := by
  rw [visible, List.takeWhile_eq_self_iff]
  intro c member
  rw [decide_eq_true_iff]
  rintro rfl
  exact unterminated member

theorem window_infix (text : List Char) (first last : Int) : window text first last <:+: text :=
  (List.drop_suffix _ _).isInfix.trans (List.take_prefix _ _).isInfix

theorem substring_infix (text : List Char) (start count : Int) :
    substring text start count <:+: text := by
  rw [substring]
  split <;> exact window_infix ..

theorem substring_front (text : List Char) (before count : Nat) :
    substring text (before + 1) count = (text.drop before).take count := by
  have counted : ¬ (before : Int) + 1 < 0 := by omega
  have whole : (0 : Int) ≤ count := Int.natCast_nonneg count
  have behind : ((before : Int) + 1 + count - 1).toNat = before + count := by omega
  have front : ((before : Int) + 1 - 1).toNat = before := by omega
  rw [substring, place, if_neg counted, if_pos whole, window, behind, front, List.drop_take,
    Nat.add_sub_cancel_left]

theorem window_back (text : List Char) {count : Nat} (positive : 0 < count) :
    window text (place text (-count)) (text.length + 1) = text.drop (text.length - count) := by
  have negative : -(count : Int) < 0 := by omega
  have before : ((text.length : Int) + -(count : Int) + 1 - 1).toNat = text.length - count := by
    omega
  have behind : ((text.length : Int) + 1 - 1).toNat = text.length := by omega
  rw [window, place, if_pos negative, before, behind, List.take_length]

theorem Calls.sqlite_asDocumented : Calls.sqlite.AsDocumented where
  length _ := rfl
  substr_infix {text} unterminated start counts atMostOne := by
    match counts with
    | [] =>
        refine ⟨_, rfl, ?_⟩
        rw [visible_eq unterminated]
        exact window_infix ..
    | [count] =>
        refine ⟨_, rfl, ?_⟩
        rw [visible_eq unterminated]
        exact substring_infix ..
  substr_front {text} unterminated {before count} _ := by
    rw [Calls.sqlite, visible_eq unterminated, substring_front]
  substr_back {text} unterminated {count} positive _ := by
    rw [Calls.sqlite, visible_eq unterminated, window_back _ positive]
  substr_null start counts atMostOne := by
    match counts with
    | [] => rfl
    | [count] => rfl
  instr _ _ := rfl
  instr_null _ := rfl

/-- A text with U+0000 in it seems to end with what is in front of that. -/
example : Calls.sqlite .substr [.value (.string "ab\x00cd"), .count (-2)] =
    some (.value (.string "ab")) := by
  decide

end Sql

end FilterQuery
