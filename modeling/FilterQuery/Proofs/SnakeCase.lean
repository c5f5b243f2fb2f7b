import FilterQuery.Proofs.LowerCase
import FilterQuery.Text.SnakeCase
import Mathlib.Data.List.TakeWhile

namespace FilterQuery.Text

/-! Words are separated at every place between a lower-case letter and a capital, which is what
replacing one match of letters after the other comes to: no match takes such a place from the
next one. -/

/-- Whether a character begins a word that is not the first: an ASCII capital directly behind
an ASCII lower-case letter. -/
def beginsWord (before : Option Char) (c : Char) : Bool :=
  before.any Char.isLower && c.isUpper

/-- The text with an underscore in front of each character that begins a word, where `before`
is the character in front of the text. -/
def underscoredAfter (before : Option Char) (text : List Char) : List Char :=
  (List.zipWith (fun before c => if beginsWord before c then ['_', c] else [c])
    (before :: text.map some) text).flatten

def underscored (text : List Char) : List Char :=
  underscoredAfter none text

/-- What matches at the start of a text, with the text behind it: a lower-case letter and the
capitals that follow, as many as there are and one at least. -/
def wordEnd? : List Char → Option (Char × List Char × List Char)
  | [] => none
  | letter :: text =>
      if letter.isLower && text.head?.any Char.isUpper then
        some (letter, text.takeWhile Char.isUpper, text.dropWhile Char.isUpper)
      else
        none

variable {letter : Char} {capitals rest text : List Char}

theorem isLower_iff {c : Char} : c.isLower = true ↔ 97 ≤ c.toNat ∧ c.toNat ≤ 122 := by
  change (decide (97 ≤ c.toNat) && decide (c.toNat ≤ 122)) = true ↔ _
  rw [Bool.and_eq_true, decide_eq_true_iff, decide_eq_true_iff]

theorem isLower_of_isUpper {c : Char} (capital : c.isUpper = true) : c.isLower = false := by
  have upper := isUpper_iff.mp capital
  rw [Bool.eq_false_iff]
  intro small
  have lower := isLower_iff.mp small
  omega

theorem wordEnd?_eq_some_iff : wordEnd? text = some (letter, capitals, rest) ↔
    text = letter :: (capitals ++ rest) ∧ letter.isLower = true ∧ capitals ≠ [] ∧
      (∀ c ∈ capitals, c.isUpper = true) ∧ ∀ c ∈ rest.head?, c.isUpper = false := by
  constructor
  · intro matched
    cases text with
    | nil => contradiction
    | cons c text =>
        rw [wordEnd?, Option.ite_none_right_eq_some, Bool.and_eq_true] at matched
        obtain ⟨⟨lower, begins⟩, ⟨⟩⟩ := matched
        refine ⟨by rw [List.takeWhile_append_dropWhile], lower, ?_, ?_, ?_⟩
        · cases text with
          | nil => contradiction
          | cons next text =>
              have capital : next.isUpper = true := begins
              simp [capital]
        · intro next member
          exact List.mem_takeWhile_imp member
        · intro next first
          have stopped := List.head?_dropWhile_not Char.isUpper text
          rw [Option.mem_def.mp first] at stopped
          simpa using stopped
  · rintro ⟨rfl, lower, nonempty, each, stops⟩
    obtain ⟨next, others, rfl⟩ := List.exists_cons_of_ne_nil nonempty
    have capital : next.isUpper = true := each next List.mem_cons_self
    have stopped : rest.takeWhile Char.isUpper = [] ∧ rest.dropWhile Char.isUpper = rest := by
      cases rest with
      | nil => exact ⟨rfl, rfl⟩
      | cons c rest => simp [stops c rfl]
    rw [wordEnd?, List.takeWhile_append_of_pos each, List.dropWhile_append_of_pos each, stopped.1,
      stopped.2, lower]
    simp [capital]

theorem length_lt_of_wordEnd? (matched : wordEnd? text = some (letter, capitals, rest)) :
    rest.length < text.length := by
  rw [(wordEnd?_eq_some_iff.mp matched).1, List.length_cons, List.length_append]
  omega

/-- Every match is replaced by its letter and its capitals with an underscore between them.
Matches are looked for from the left to the right, each behind the one before. -/
def separateMatches (text : List Char) : List Char :=
  match _matched : wordEnd? text with
  | some (letter, capitals, rest) => letter :: '_' :: (capitals ++ separateMatches rest)
  | none =>
      match text with
      | [] => []
      | c :: text => c :: separateMatches text
termination_by text.length
decreasing_by
  · exact length_lt_of_wordEnd? _matched
  · exact Nat.lt_succ_self _

theorem separateWords_cons (c : Char) (text : List Char) : separateWords (c :: text) =
    (if c.isLower && text.head?.any Char.isUpper then [c, '_'] else [c]) ++ separateWords text := by
  cases text with
  | nil => simp [separateWords]
  | cons next text =>
      rw [separateWords, List.head?_cons, Option.any_some]
      cases c.isLower && next.isUpper <;> rfl

theorem separateWords_capitals (each : ∀ c ∈ capitals, c.isUpper = true) (rest : List Char) :
    separateWords (capitals ++ rest) = capitals ++ separateWords rest := by
  induction capitals with
  | nil => rfl
  | cons c capitals inductionHypothesis =>
      obtain ⟨capital, others⟩ := List.forall_mem_cons.mp each
      have notLower : c.isLower = false := isLower_of_isUpper capital
      rw [List.cons_append, separateWords_cons, notLower, inductionHypothesis others]
      rfl

theorem separateMatches_eq (text : List Char) : separateMatches text = separateWords text := by
  fun_induction separateMatches text with
  | case1 text letter capitals rest matched inductionHypothesis =>
      obtain ⟨rfl, lower, nonempty, each, _⟩ := wordEnd?_eq_some_iff.mp matched
      obtain ⟨c, others, rfl⟩ := List.exists_cons_of_ne_nil nonempty
      have capital : c.isUpper = true := each c List.mem_cons_self
      rw [separateWords_cons, separateWords_capitals each, inductionHypothesis, lower]
      simp [capital]
  | case2 => rfl
  | case3 c text unmatched inductionHypothesis =>
      have within : (c.isLower && text.head?.any Char.isUpper) = false := by
        simpa [wordEnd?] using unmatched
      rw [separateWords_cons, within, inductionHypothesis]
      rfl

theorem underscoredAfter_eq (before : Option Char) (text : List Char) :
    underscoredAfter before text =
      (if text.head?.any (beginsWord before) then ['_'] else []) ++ separateWords text := by
  induction text generalizing before with
  | nil => rfl
  | cons c text inductionHypothesis =>
      have unfolded : underscoredAfter before (c :: text) =
          (if beginsWord before c then ['_', c] else [c]) ++ underscoredAfter (some c) text := rfl
      have next : text.head?.any (beginsWord (some c)) =
          (c.isLower && text.head?.any Char.isUpper) := by
        cases text with
        | nil => simp
        | cons other text => rfl
      rw [unfolded, inductionHypothesis, separateWords_cons, next, List.head?_cons, Option.any_some]
      -- the underscore stands behind one character or in front of the next one
      cases beginsWord before c <;> cases c.isLower && text.head?.any Char.isUpper <;> rfl

theorem underscored_eq (text : List Char) : underscored text = separateWords text := by
  rw [underscored, underscoredAfter_eq]
  cases text <;> rfl

theorem separateWords_of_lowered (lowered : ∀ c ∈ text, isLowered c = true) :
    separateWords text = text := by
  induction text with
  | nil => rfl
  | cons c text inductionHypothesis =>
      obtain ⟨_, others⟩ := List.forall_mem_cons.mp lowered
      have within : text.head?.any Char.isUpper = false := by
        cases text with
        | nil => rfl
        | cons next text => exact isUpper_of_isLowered (others next List.mem_cons_self)
      rw [separateWords_cons, within, Bool.and_false, inductionHypothesis others]
      rfl

theorem toList_snakeCase (name : String) :
    (snakeCase name).toList = lowerCase (separateWords name.toList) :=
  String.toList_ofList

theorem isLowered_of_mem_snakeCase (name : String) :
    ∀ c ∈ (snakeCase name).toList, isLowered c = true := by
  rw [toList_snakeCase]
  exact isLowered_of_mem_lowerCase

/-- The snake-case form is the name in lower case, with an underscore in front of the capitals
that stand directly behind a lower-case letter and of nothing else.  It is its own form. -/
theorem snakeCase_underscores (name : String) :
    snakeCase name = toLowerCase (String.ofList (separateMatches name.toList)) ∧
    separateMatches name.toList = underscored name.toList ∧
    (∀ c ∈ (snakeCase name).toList, c.isUpper = false) ∧
    snakeCase (snakeCase name) = snakeCase name := by
  have lowered := isLowered_of_mem_snakeCase name
  refine ⟨?_, ?_, fun c member => isUpper_of_isLowered (lowered c member), ?_⟩
  · rw [toLowerCase, String.toList_ofList, separateMatches_eq]
    rfl
  · rw [separateMatches_eq, underscored_eq]
  · rw [snakeCase, separateWords_of_lowered lowered, lowerCase_eq_self lowered, String.ofList_toList]

end FilterQuery.Text
