import FilterQuery.Proofs.BuiltFields
import FilterQuery.Proofs.Values
import FilterQuery.Translation

namespace FilterQuery

/-! What expressions mean for the values stored under the keys of fields, whatever
they are translated to. -/

/-- Whether there is one operand and the stored value is in the given relation to
it. -/
def Operator.Relates (accepts : Ordering → Prop) (stored : Value) (operands : List Value) : Prop :=
  ∃ operand order, operands = [operand] ∧ stored.compare? operand = some order ∧ accepts order

/-- Whether there is one operand, a text, that occurs as asked for in the stored
text. -/
def Operator.Occurs (occurs : List Char → List Char → Prop) (stored : Value)
    (operands : List Value) : Prop :=
  ∃ literal text, operands = [.string literal] ∧ stored = .string text ∧
    occurs literal.toList text.toList

/-- Whether a stored value passes an operator with the values of its arguments.
Where nothing is stored, only null tests can hold. -/
def Operator.Holds (operator : Operator) (stored : Value) (operands : List Value) : Prop :=
  match operator with
  | .equal => Relates (· = .eq) stored operands
  | .notEqual => Relates (· ≠ .eq) stored operands
  | .greater | .greaterWord => Relates (· = .gt) stored operands
  | .atLeast | .atLeastWord => Relates (· ≠ .lt) stored operands
  | .less | .lessWord => Relates (· = .lt) stored operands
  | .atMost | .atMostWord => Relates (· ≠ .gt) stored operands
  | .oneOf => ∃ operand ∈ operands, stored.compare? operand = some .eq
  | .noneOf => stored ≠ .null ∧ ∀ operand ∈ operands, stored.compare? operand ≠ some .eq
  | .isNull => stored = .null
  | .notNull => stored ≠ .null
  | .startsWith => Occurs (· <+: ·) stored operands
  | .endsWith => Occurs (· <:+ ·) stored operands
  | .contains => Occurs (· <:+: ·) stored operands

/-- The meaning of an expression for what `stored` tells of each key. -/
def Expression.Holds (fields : FieldMap) (stored : String → Value) : Expression → Prop
  | .all children => ∀ child, (_ : child ∈ children) → child.Holds fields stored
  | .any children => ∃ child, ∃ _ : child ∈ children, child.Holds fields stored
  | .comparison selector symbol arguments =>
      ∃ field operator, fields.find? selector = some field ∧
        Operator.ofSymbol? symbol = some operator ∧
        field.blocks operator arguments = false ∧
        operator.Holds (stored field.key) (field.values arguments)

def Expression.selectors : Expression → List String
  | .all children => children.flatMap fun child => child.selectors
  | .any children => children.flatMap fun child => child.selectors
  | .comparison selector _ _ => [selector]

/-- Whether under every compared key there is nothing or a value of the kind of
the comparing field. -/
def Expression.Suits (fields : FieldMap) (stored : String → Value)
    (expression : Expression) : Prop :=
  ∀ selector ∈ expression.selectors, ∀ field, fields.find? selector = some field →
    stored field.key = .null ∨ (stored field.key).isOf field.kind = true

end FilterQuery
