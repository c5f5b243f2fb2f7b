import FilterQuery.Proofs.Sql.Spelling
import FilterQuery.Proofs.Sql.Symbols

namespace FilterQuery.Sql

/-! Tokens of whole statements, where placeholders stand for the values bound to
them. -/

namespace Token

variable {α : Type}

def content? : Token α → Option α
  | .lexeme _ => none
  | .placeholder content => some content

def contents (tokens : List (Token α)) : List α :=
  tokens.filterMap content?

/-- Tokens as they are written, where `next` is the number of the next placeholder. -/
def number (backend : Backend) (next : Nat) : List (Token Value) → List Written
  | [] => []
  | .lexeme piece :: tokens => .lexeme piece :: number backend next tokens
  | .placeholder _ :: tokens =>
      .placeholder (backend.number? next) :: number backend (next + 1) tokens

/-- The tokens with the values of their placeholders.  A placeholder without a
number has the one after the greatest so far. -/
def bind? (values : List Value) (greatest : Nat) : List Written → Option (List (Token Value))
  | [] => some []
  | .lexeme piece :: tokens => (bind? values greatest tokens).map (.lexeme piece :: ·)
  | .placeholder written :: tokens => do
      let number := written.getD (greatest + 1)
      let value ← if number = 0 then none else values[number - 1]?
      let bound ← bind? values (max greatest number) tokens
      some (.placeholder value :: bound)

@[simp]
theorem contents_append (first second : List (Token α)) :
    contents (first ++ second) = contents first ++ contents second :=
  List.filterMap_append

@[simp]
theorem contents_fixed (lexemes : List Lexeme) : contents (fixed lexemes : List (Token α)) = [] := by
  simp [contents, fixed, List.filterMap_map, Function.comp_def, content?]

variable {backend : Backend} {next : Nat}

theorem number_append (first second : List (Token Value)) :
    number backend next (first ++ second) =
      number backend next first ++ number backend (next + (contents first).length) second := by
  induction first generalizing next with
  | nil => rfl
  | cons token first inductionHypothesis =>
      cases token with
      | lexeme piece => exact congrArg (Token.lexeme piece :: ·) inductionHypothesis
      | placeholder value =>
          rw [List.cons_append, number, inductionHypothesis, number, Nat.add_assoc,
            Nat.add_comm 1]
          rfl

@[simp]
theorem number_fixed (lexemes : List Lexeme) : number backend next (fixed lexemes) = fixed lexemes := by
  induction lexemes with
  | nil => rfl
  | cons piece lexemes inductionHypothesis =>
      exact congrArg (Token.lexeme piece :: ·) inductionHypothesis

/-- Placeholders numbered from 1 on stand for the values in order. -/
theorem bind?_number (before : List Value) (tokens : List (Token Value)) :
    bind? (before ++ contents tokens) before.length (number backend (before.length + 1) tokens) =
      some tokens := by
  induction tokens generalizing before with
  | nil => rfl
  | cons token tokens inductionHypothesis =>
      cases token with
      | lexeme piece =>
          rw [number, bind?]
          exact congrArg (Option.map (Token.lexeme piece :: ·)) (inductionHypothesis before)
      | placeholder value =>
          -- the value joins those in front, so the next placeholder has the next number
          have rest := inductionHypothesis (before ++ [value])
          rw [List.append_assoc, List.length_append] at rest
          change bind? (before ++ contents (.placeholder value :: tokens)) (before.length + 1)
            (number backend (before.length + 1 + 1) tokens) = some tokens at rest
          have present : (before ++ contents (.placeholder value :: tokens))[before.length]? =
            some value := by simp [contents, content?]
          have written : (backend.number? (before.length + 1)).getD (before.length + 1) =
            before.length + 1 := by cases backend <;> rfl
          simp [number, bind?, written, present, rest]

end Token

def Statement.tokens? (statement : Statement) : Option (List (Token Value)) := do
  let written ← scan .between statement.text.toList
  Token.bind? statement.parameters 0 written

/-- Symbols that read as the tokens, whatever placeholders have been written before,
if a separator follows. -/
structure Spells (backend : Backend) (symbols : List Symbol) (tokens : List (Token Value)) :
    Prop where
  values : Symbol.values symbols = Token.contents tokens
  reads : ∀ next, Reads (Symbol.render backend.placeholder next symbols)
    (Token.number backend next tokens)

/-- A text between two phrases, which ends the one in front. -/
structure Gap (text : List Char) (lexemes : List Lexeme) : Prop where
  parted : parted text = true
  closes : Closes text (fixed lexemes)

namespace Spells

variable {backend : Backend} {first second : List Symbol} {tokens others : List (Token Value)}
  {text : List Char} {lexemes : List Lexeme}

theorem ofText (reads : Reads text (fixed lexemes)) :
    Spells backend (Symbol.ofChars text) (fixed lexemes) where
  values := by rw [Symbol.values_ofChars, Token.contents_fixed]
  reads next := by rwa [Symbol.render_ofChars, Token.number_fixed]

theorem ofParameter (value : Value) :
    Spells backend [.parameter value] [.placeholder value] where
  values := rfl
  reads next := by simpa [Symbol.render, Token.number] using reads_placeholder backend next

theorem afterText (closes : Closes text (fixed lexemes)) (spells : Spells backend second others) :
    Spells backend (Symbol.ofChars text ++ second) (fixed lexemes ++ others) where
  values := by simp [spells.values]
  reads next := by
    simpa [Symbol.render_append, Token.number_append] using closes.append_reads (spells.reads next)

theorem append (spells : Spells backend first tokens)
    (parted : ∃ c ∈ separators, ∃ rest, second = .character c :: rest)
    (spellsToo : Spells backend second others) :
    Spells backend (first ++ second) (tokens ++ others) where
  values := by rw [Symbol.values_append, Token.contents_append, spells.values, spellsToo.values]
  reads next := by
    rw [Symbol.render_append, Token.number_append, spells.values]
    obtain ⟨c, separator, rest, rfl⟩ := parted
    refine (spells.reads next).append_reads ?_ (List.cons_ne_nil _ _) (spellsToo.reads _)
    rintro _ ⟨⟩
    exact separator

theorem beforeText (spells : Spells backend first tokens)
    (begins : parted text = true) (reads : Reads text (fixed lexemes)) :
    Spells backend (first ++ Symbol.ofChars text) (tokens ++ fixed lexemes) := by
  refine spells.append ?_ (ofText reads)
  obtain ⟨c, separator, rest, rfl⟩ := exists_of_parted begins
  exact ⟨c, separator, Symbol.ofChars rest, rfl⟩

theorem aroundGap (spells : Spells backend first tokens) (gap : Gap text lexemes)
    (spellsToo : Spells backend second others) :
    Spells backend (first ++ (Symbol.ofChars text ++ second))
      (tokens ++ (fixed lexemes ++ others)) := by
  refine spells.append ?_ (spellsToo.afterText gap.closes)
  obtain ⟨c, separator, rest, rfl⟩ := exists_of_parted gap.parted
  exact ⟨c, separator, Symbol.ofChars rest ++ second, rfl⟩

theorem tokens?_render {fragment : Fragment} (spells : Spells backend fragment.symbols tokens) :
    (backend.render fragment).tokens? = some tokens := by
  have bound : Token.bind? (Token.contents tokens) 0 (Token.number backend 1 tokens) = some tokens :=
    Token.bind?_number [] tokens
  rw [Statement.tokens?, Backend.render, Fragment.toList_render_text, Fragment.render_parameters,
    (spells.reads 1).scan, spells.values]
  exact bound

end Spells

end FilterQuery.Sql
