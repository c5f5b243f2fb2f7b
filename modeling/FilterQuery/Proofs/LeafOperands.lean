import FilterQuery.Proofs.Labels
import FilterQuery.Proofs.Predicates
import FilterQuery.Proofs.Stages

namespace FilterQuery

/-! What the leaves of filters are made of: keys of selected fields, and the values of
arguments, which are never null. -/

namespace Field

/-- Whether a value can be the operand of a test of the field. -/
structure Admits (field : Field) (value : Value) : Prop where
  ofKind : value.isOf field.kind = true
  finite : value.isFinite = true
  member : field.kind = .enumeration → ∃ member ∈ field.members, value = .string member

/-- The test that a field is put to by an operator with its arguments.  Only a list to
choose from may have fewer values than arguments: it lacks those that name no member. -/
inductive Asks (field : Field) : Operator → List String → Test → Prop where
  | compare {operator : Operator} {comparator : Comparator} {literal : String} {value : Value}
      (shape : operator.form = .single (.compare comparator))
      (valued : field.value? literal = some value) :
      Asks field operator [literal] (.compare comparator value)
  | occurs {operator : Operator} {position : Position} {literal : String}
      (shape : operator.form = .single fun value => .occurs position value.text)
      (texts : field.kind = .string) :
      Asks field operator [literal] (.occurs position literal)
  | oneOf {literals : List String}
      (lacking : ∀ literal ∈ literals, (field.value? literal).isNone = field.isUnresolved literal) :
      Asks field .oneOf literals (.oneOf (literals.filterMap field.value?))
  | noneOf {literals : List String} {values : List Value}
      (valued : literals.map field.value? = values.map some) :
      Asks field .noneOf literals (.noneOf values)
  | isNull {literals : List String} : Asks field .isNull literals .isNull
  | notNull {literals : List String} : Asks field .notNull literals .notNull

variable {field : Field} {operator : Operator} {literal : String} {arguments : List String}
  {test : Test} {value : Value}

theorem Built.value?_admitted (built : field.Built) (valued : field.value? literal = some value) :
    field.Admits value := by
  refine ⟨value?_isOf valued, value?_isFinite valued, ?_⟩
  intro enumeration
  have listed : field.isEnumeration = true := decide_eq_true enumeration
  rw [value?, if_pos listed, Option.map_eq_some_iff] at valued
  obtain ⟨member, resolved, rfl⟩ := valued
  exact ⟨member, built.mem_members enumeration resolved, rfl⟩

theorem Admits.ne_null (admits : field.Admits value) : value ≠ .null :=
  Value.ne_null_of_isOf admits.ofKind

theorem Asks.operands_admitted (built : field.Built) (asks : field.Asks operator arguments test) :
    ∀ operand ∈ test.operands, field.Admits operand := by
  intro operand member
  cases asks with
  | compare shape valued =>
      obtain rfl := List.mem_singleton.mp member
      exact built.value?_admitted valued
  | oneOf lacking =>
      obtain ⟨literal, _, valued⟩ := List.mem_filterMap.mp member
      exact built.value?_admitted valued
  | noneOf each =>
      have listed : some operand ∈ arguments.map field.value? := each ▸ List.mem_map_of_mem member
      obtain ⟨literal, _, valued⟩ := List.mem_map.mp listed
      exact built.value?_admitted valued
  | occurs | isNull | notNull => exact absurd member List.not_mem_nil

theorem map_value?_eq (each : ∀ literal ∈ arguments, ∃ value, field.value? literal = some value) :
    arguments.map field.value? = (field.values arguments).map some := by
  induction arguments with
  | nil => rfl
  | cons literal literals inductionHypothesis =>
      obtain ⟨⟨value, valued⟩, rest⟩ := List.forall_mem_cons.mp each
      rw [List.map_cons, inductionHypothesis rest, valued, values, values,
        List.filterMap_cons_some valued, List.map_cons]

theorem Accepts.asks (accepts : field.Accepts operator arguments)
    (allowed : operator ∈ [Operator.isNull, .notNull] ∨ field.kind.allows operator = true)
    (free : field.blocks operator arguments = false) :
    field.Asks operator arguments (operator.test (field.values arguments)) := by
  cases operator with
  | isNull => exact .isNull
  | notNull => exact .notNull
  | oneOf => exact .oneOf (accepts.resolved (by decide))
  | noneOf =>
      refine .noneOf (map_value?_eq fun literal member => ?_)
      exact accepts.value_exists (by decide) free member
  | startsWith | endsWith | contains =>
      have texts := ValueKind.eq_string_of_allows (allowed.resolve_left (by decide)) (by decide)
      obtain ⟨literal, rfl, values⟩ := accepts.text_eq texts (by decide)
      rw [values]
      exact .occurs rfl texts
  | _ =>
      -- both equalities, and the ordering comparisons in either spelling
      obtain ⟨literal, rfl⟩ := accepts.single (by decide)
      obtain ⟨value, valued⟩ := accepts.value_exists (by decide) free List.mem_cons_self
      rw [values_singleton, valued]
      exact .compare rfl valued

end Field

namespace Target

variable {φ : Type} {target : Target φ} {request : Request} {leaf : Leaf}

theorem Follows.mem_leaves {comparisons : List Comparison} {α : Type} {traced : Traced α}
    (follows : target.Follows request comparisons traced) (member : leaf ∈ traced.leaves) :
    ∃ comparison ∈ comparisons, leaf ∈ target.leavesOf request comparison := by
  cases follows with
  | finished valid => exact List.mem_flatMap.mp member
  | stopped valid refuses =>
      obtain ⟨comparison, listed, within⟩ := List.mem_flatMap.mp member
      exact ⟨comparison, List.mem_append_left _ listed, within⟩

theorem mem_leavesOf_iff {comparison : Comparison} :
    leaf ∈ target.leavesOf request comparison ↔
      request.resolveComparison target.name target.supports comparison = .ok (some leaf) := by
  rw [leavesOf, trace_comparison]
  cases request.resolveComparison target.name target.supports comparison with
  | error error => simp
  | ok resolved => cases resolved <;> simp [eq_comm]

/-- A leaf tests the key of the selected field as the operator and its arguments ask. -/
theorem leaf_asked (built : request.fields.Built) {comparison : Comparison}
    (member : leaf ∈ target.leavesOf request comparison) :
    ∃ field operator, comparison.Selects request.fields field operator ∧ field.Built ∧
      target.supports operator.canonical = true ∧ leaf.key = field.key ∧
      field.Asks operator comparison.arguments leaf.test := by
  have resolved := mem_leavesOf_iff.mp member
  obtain ⟨field, operator, selects, supported, _⟩ := Request.resolve_exists_iff.mp ⟨_, resolved⟩
  obtain ⟨_, _, found, named, listed, accepts, made⟩ := Request.resolve_eq_ok resolved
  obtain ⟨rfl, rfl⟩ := selects.unique ⟨found, named⟩
  have checked : field.Built := built field (FieldMap.mem_of_find? found)
  cases free : field.blocks operator comparison.arguments with
  | true =>
      -- a comparison with an unresolved literal makes no test, so it has no leaf
      simp [Field.madeTest, free] at made
  | false =>
      rw [Field.madeTest, free, if_neg Bool.false_ne_true, Option.map_some, Option.some.injEq] at made
      subst made
      exact ⟨field, operator, selects, checked, supported, rfl,
        accepts.asks (listed.imp_right checked.allows) free⟩

theorem declined_of_error {expression : Expression} {selector symbol name : String}
    (failed : target.translate request expression = .error (.unsupportedOperator selector symbol name)) :
    ∃ operator, Operator.ofSymbol? symbol = some operator ∧
      target.supports operator.canonical = false := by
  obtain ⟨_, comparison, _, _, _, refuses, _⟩ :=
    (target.trace_follows request expression).first_refusal_exists failed
  cases refuses with
  | unsupportedOperator selects allowed declined => exact ⟨_, selects.named, declined⟩

/-- Each leaf that a target is asked to write, also in front of an error, tests the key of
the field that a comparison selects.  Its operands are the values of the arguments, of the
kind of the field and never null.  Nothing is written for an operator that the target
declines, and only such an operator is reported as unsupported.  What is at hand for values
and tests that are missing is never taken. -/
theorem leaves_well_typed {fields : FieldMap} (built : fields.Built) (target : Target φ)
    (unknown : UnknownMembers) (expression : Expression) :
    (∀ leaf ∈ (target.trace ⟨fields, unknown⟩ expression).leaves,
      ∃ comparison ∈ expression.comparisons, ∃ field operator,
        comparison.Selects fields field operator ∧
        target.supports operator.canonical = true ∧
        leaf.key = field.key ∧
        field.Asks operator comparison.arguments leaf.test ∧
        ∀ operand ∈ leaf.test.operands, field.Admits operand ∧ operand ≠ .null) ∧
    (∀ selector symbol name, target.translate ⟨fields, unknown⟩ expression =
        .error (.unsupportedOperator selector symbol name) →
      ∃ operator, Operator.ofSymbol? symbol = some operator ∧
        target.supports operator.canonical = false) ∧
    ∀ missing untested, ∀ field ∈ fields.fields, ∀ selector operator arguments,
      field.stagedTest? missing untested selector operator unknown arguments =
        field.test? selector operator unknown arguments := by
  refine ⟨fun leaf member => ?_, fun _ _ _ => declined_of_error,
    fun _ _ field _ selector operator => field.stagedTest?_eq selector operator unknown⟩
  obtain ⟨comparison, listed, within⟩ := (target.trace_follows _ expression).mem_leaves member
  obtain ⟨field, operator, selects, checked, supported, key, asks⟩ := leaf_asked built within
  refine ⟨comparison, listed, field, operator, selects, supported, key, asks, ?_⟩
  intro operand asked
  have admits := asks.operands_admitted checked operand asked
  exact ⟨admits, admits.ne_null⟩

def knownFormatsAndAuthor : Expression :=
  .any [.comparison "format" "=IN=" ["Paper", "VINYL", "AUDIO"],
    .comparison "format" "!=" ["VINYL"],
    .comparison "author" "==" ["y"]]

theorem known_formats_well_typed :
    FieldMap.formats.Built ∧
    (Document.target.trace ⟨.formats, .matchNothing⟩ knownFormatsAndAuthor).leaves =
      [⟨"format", .oneOf [.string "PAPER", .string "AUDIO"]⟩] ∧
    ∃ comparison ∈ knownFormatsAndAuthor.comparisons, ∃ field operator,
      comparison.Selects .formats field operator ∧
      field.Asks operator comparison.arguments
        (.oneOf [.string "PAPER", .string "AUDIO"]) ∧
      ∀ operand ∈ [Value.string "PAPER", .string "AUDIO"], field.Admits operand ∧ operand ≠ .null := by
  have leaves : (Document.target.trace ⟨.formats, .matchNothing⟩ knownFormatsAndAuthor).leaves =
      [⟨"format", .oneOf [.string "PAPER", .string "AUDIO"]⟩] := rfl
  obtain ⟨typed, _, _⟩ := leaves_well_typed FieldMap.formats_built Document.target .matchNothing
    knownFormatsAndAuthor
  obtain ⟨comparison, listed, field, operator, selects, _, _, asks, admitted⟩ :=
    typed _ (by rw [leaves]; exact List.mem_cons_self)
  exact ⟨FieldMap.formats_built, leaves, comparison, listed, field, operator, selects, asks, admitted⟩

end Target

end FilterQuery
