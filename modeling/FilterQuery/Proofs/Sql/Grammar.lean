import FilterQuery.Proofs.Sql.Tokens

namespace FilterQuery.Sql

/-! The grammar of conditions: `AND` binds tighter than `OR`, and only parentheses
put a junction into another one. -/

inductive Scalar where
  | column (names : List (List Char))
  | bound (value : Value)
  | number (value : Nat)
  | negative (operand : Scalar)
  | call (function : Function) (arguments : List Scalar)

inductive Predicate where
  | compare (comparator : Comparator) (left right : Scalar)
  | like (subject pattern : Scalar) (escape : List Char)
  | elementOf (negated : Bool) (subject : Scalar) (choices : List Scalar)
  | isNull (negated : Bool) (subject : Scalar)

inductive Condition where
  | predicate (predicate : Predicate)
  | all (conditions : List Condition)
  | any (conditions : List Condition)

/-- A sequence of one stands for its only member. -/
def Condition.junction (join : List Condition → Condition) : List Condition → Condition
  | [condition] => condition
  | conditions => join conditions

abbrev Tokens := List (Token Value)

@[simp]
theorem Condition.junction_singleton (join : List Condition → Condition) (condition : Condition) :
    junction join [condition] = condition := rfl

theorem Condition.junction_of_ne (join : List Condition → Condition) {conditions : List Condition}
    (several : conditions.length ≠ 1) : junction join conditions = join conditions := by
  match conditions with
  | [] => rfl
  | [_] => contradiction
  | _ :: _ :: _ => rfl

def separated (separator : Lexeme) (phrases : List Tokens) : Tokens :=
  (fixed [separator]).intercalate phrases

def elementWords (negated : Bool) : List Lexeme :=
  (if negated then [.keyword .not] else []) ++ [.keyword .elementOf, .opening]

def nullWords (negated : Bool) : List Lexeme :=
  .keyword .is :: (if negated then [.keyword .not] else []) ++ [.keyword .null]

inductive Scalar.Derives : Scalar → Tokens → Prop where
  | column {names : List (List Char)} (nonempty : names ≠ []) :
      Derives (.column names) (fixed (path names))
  | bound (value : Value) : Derives (.bound value) [.placeholder value]
  | number (value : Nat) : Derives (.number value) (fixed [.number value])
  | negative {operand : Scalar} {tokens : Tokens} (derives : Derives operand tokens) :
      Derives (.negative operand) (fixed [.minus] ++ tokens)
  | call (function : Function) {arguments : List (Scalar × Tokens)} (nonempty : arguments ≠ [])
      (derives : ∀ argument ∈ arguments, Derives argument.1 argument.2) :
      Derives (.call function (arguments.map (·.1))) (fixed [.function function, .opening] ++
        (separated .comma (arguments.map (·.2)) ++ fixed [.closing]))

inductive Predicate.Derives : Predicate → Tokens → Prop where
  | compare (comparator : Comparator) {left right : Scalar} {first second : Tokens}
      (leftDerives : left.Derives first) (rightDerives : right.Derives second) :
      Derives (.compare comparator left right) (first ++ (fixed [.sign comparator] ++ second))
  | like (escape : List Char) {subject pattern : Scalar} {first second : Tokens}
      (subjectDerives : subject.Derives first) (patternDerives : pattern.Derives second) :
      Derives (.like subject pattern escape) (first ++ (fixed [.keyword .like] ++
        (second ++ fixed [.keyword .escape, .literal escape])))
  | elementOf (negated : Bool) {subject : Scalar} {first : Tokens}
      {choices : List (Scalar × Tokens)} (subjectDerives : subject.Derives first)
      (nonempty : choices ≠ []) (derives : ∀ choice ∈ choices, choice.1.Derives choice.2) :
      Derives (.elementOf negated subject (choices.map (·.1))) (first ++
        (fixed (elementWords negated) ++
          (separated .comma (choices.map (·.2)) ++ fixed [.closing])))
  | isNull (negated : Bool) {subject : Scalar} {first : Tokens}
      (subjectDerives : subject.Derives first) :
      Derives (.isNull negated subject) (first ++ fixed (nullWords negated))

def conjunction (factors : List (Condition × Tokens)) : Condition × Tokens :=
  (.junction .all (factors.map (·.1)), separated (.keyword .and) (factors.map (·.2)))

def disjunction (alternatives : List (List (Condition × Tokens))) : Condition × Tokens :=
  (.junction .any ((alternatives.map conjunction).map (·.1)),
    separated (.keyword .or) ((alternatives.map conjunction).map (·.2)))

/-- The conditions that can be joined by words. -/
inductive Condition.DerivesOperand : Condition → Tokens → Prop where
  | predicate {predicate : Predicate} {tokens : Tokens} (derives : predicate.Derives tokens) :
      DerivesOperand (.predicate predicate) tokens
  | parentheses {alternatives : List (List (Condition × Tokens))}
      (nonempty : alternatives ≠ [] ∧ ∀ factors ∈ alternatives, factors ≠ [])
      (derives : ∀ factors ∈ alternatives, ∀ operand ∈ factors,
        DerivesOperand operand.1 operand.2) :
      DerivesOperand (disjunction alternatives).1
        (fixed [.opening] ++ ((disjunction alternatives).2 ++ fixed [.closing]))

/-- The condition is a way to read all of the tokens. -/
def Condition.Derives (condition : Condition) (tokens : Tokens) : Prop :=
  ∃ alternatives, (alternatives ≠ [] ∧ ∀ factors ∈ alternatives, factors ≠ []) ∧
    (∀ factors ∈ alternatives, ∀ operand ∈ factors,
      operand.1.DerivesOperand operand.2) ∧
    condition = (disjunction alternatives).1 ∧ tokens = (disjunction alternatives).2

section Operands

variable {operands : List (Condition × Tokens)}

theorem Condition.all_derives (several : operands.length ≠ 1) (nonempty : operands ≠ [])
    (each : ∀ operand ∈ operands, operand.1.DerivesOperand operand.2) :
    (Condition.all (operands.map (·.1))).DerivesOperand (fixed [.opening] ++
      (separated (.keyword .and) (operands.map (·.2)) ++ fixed [.closing])) := by
  have joined : junction .all (operands.map (·.1)) = .all (operands.map (·.1)) :=
    junction_of_ne .all (by rwa [List.length_map])
  -- the operands are the factors of the only alternative
  have derives : (disjunction [operands]).1.DerivesOperand _ :=
    .parentheses ⟨List.cons_ne_nil _ _, List.forall_mem_singleton.mpr nonempty⟩
      (List.forall_mem_singleton.mpr each)
  rw [← joined]
  simpa [disjunction, conjunction, separated] using derives

theorem Condition.any_derives (several : operands.length ≠ 1) (nonempty : operands ≠ [])
    (each : ∀ operand ∈ operands, operand.1.DerivesOperand operand.2) :
    (Condition.any (operands.map (·.1))).DerivesOperand (fixed [.opening] ++
      (separated (.keyword .or) (operands.map (·.2)) ++ fixed [.closing])) := by
  have joined : junction .any (operands.map (·.1)) = .any (operands.map (·.1)) :=
    junction_of_ne .any (by rwa [List.length_map])
  -- every operand is the only factor of its alternative
  have derives : (disjunction (operands.map ([·]))).1.DerivesOperand _ :=
    .parentheses ⟨by simpa using nonempty, List.forall_mem_map.mpr fun _ _ => List.cons_ne_nil _ _⟩
      (List.forall_mem_map.mpr fun operand member =>
        List.forall_mem_singleton.mpr (each operand member))
  rw [← joined]
  simpa [disjunction, conjunction, separated, Function.comp_def] using derives

end Operands

end FilterQuery.Sql
