import FilterQuery.Proofs.Junctions
import Mathlib.Logic.Basic

namespace FilterQuery

/-! The meaning of plans, which accepted expressions share with theirs. -/

def Comparator.accepts : Comparator → Ordering → Bool
  | .equal, order => order == .eq
  | .notEqual, order => order != .eq
  | .greater, order => order == .gt
  | .atLeast, order => order != .lt
  | .less, order => order == .lt
  | .atMost, order => order != .gt

def Position.Occurs : Position → List Char → List Char → Prop
  | .start, literal, text => literal <+: text
  | .finish, literal, text => literal <:+ text
  | .anywhere, literal, text => literal <:+: text

namespace Test

def operands : Test → List Value
  | .compare _ operand => [operand]
  | .oneOf operands | .noneOf operands => operands
  | .occurs _ _ | .isNull | .notNull => []

def Holds (stored : Value) : Test → Prop
  | .compare comparator operand =>
      ∃ order, stored.compare? operand = some order ∧ comparator.accepts order = true
  | .oneOf operands => ∃ operand ∈ operands, stored.compare? operand = some .eq
  | .noneOf operands => stored ≠ .null ∧ ∀ operand ∈ operands, stored.compare? operand ≠ some .eq
  | .occurs position literal =>
      ∃ text, stored = .string text ∧ position.Occurs literal.toList text.toList
  | .isNull => stored = .null
  | .notNull => stored ≠ .null

/-- Whether the test is one that values of a kind can be put to. -/
def Suits (kind : ValueKind) : Test → Prop
  | .compare _ operand => operand.isOf kind = true
  | .oneOf operands => ∀ operand ∈ operands, operand.isOf kind = true
  | .noneOf operands => operands ≠ [] ∧ ∀ operand ∈ operands, operand.isOf kind = true
  | .occurs _ _ => kind = .string
  | .isNull | .notNull => True

end Test

theorem ValueKind.eq_string_of_allows {kind : ValueKind} {operator : Operator}
    (allowed : kind.allows operator = true)
    (pattern : operator ∈ [Operator.startsWith, .endsWith, .contains]) : kind = .string := by
  cases operator <;> simp at pattern <;> cases kind <;> first | contradiction | rfl

namespace Operator

variable {operator : Operator} {stored operand : Value} {operands : List Value}

theorem compare_holds_iff {comparator : Comparator} {accepts : Ordering → Prop}
    (same : ∀ order, comparator.accepts order = true ↔ accepts order) :
    (Test.compare comparator operand).Holds stored ↔ Relates accepts stored [operand] := by
  constructor
  · rintro ⟨order, compared, accepted⟩
    exact ⟨operand, order, rfl, compared, (same order).mp accepted⟩
  · rintro ⟨other, order, equal, compared, accepted⟩
    cases equal
    exact ⟨order, compared, (same order).mpr accepted⟩

theorem occurs_holds_iff {position : Position} {literal : String} :
    (Test.occurs position literal).Holds stored ↔
      Occurs position.Occurs stored [.string literal] := by
  constructor
  · rintro ⟨text, equal, occurs⟩
    exact ⟨literal, text, rfl, equal, occurs⟩
  · rintro ⟨other, text, equal, texts, occurs⟩
    cases equal
    exact ⟨text, texts, occurs⟩

theorem test_singleton_holds_iff (single : operator ∉ [oneOf, .noneOf, .isNull, .notNull])
    (text : operator ∈ [startsWith, .endsWith, .contains] → ∃ literal, operand = .string literal) :
    (operator.test [operand]).Holds stored ↔ operator.Holds stored [operand] := by
  cases operator with
  | oneOf | noneOf | isNull | notNull => simp at single
  | startsWith | endsWith | contains =>
      obtain ⟨literal, rfl⟩ := text (by simp)
      exact occurs_holds_iff
  | _ => exact compare_holds_iff (by simp [Comparator.accepts])

end Operator

namespace Plan

def Holds (stored : String → Value) : Plan → Prop
  | .leaf predicate => predicate.test.Holds (stored predicate.key)
  | .all plans => ∀ plan, (_ : plan ∈ plans) → plan.Holds stored
  | .any plans => ∃ plan, ∃ _ : plan ∈ plans, plan.Holds stored

theorem holds_iff_holdsBy (stored : String → Value) (plan : Plan) :
    plan.Holds stored ↔ plan.HoldsBy fun leaf => leaf.test.Holds (stored leaf.key) := by
  induction plan with
  | leaf predicate => rw [Holds, HoldsBy]
  | all plans inductionHypothesis =>
      rw [Holds, HoldsBy]
      exact forall₂_congr inductionHypothesis
  | any plans inductionHypothesis =>
      rw [Holds, HoldsBy]
      exact exists₂_congr inductionHypothesis

end Plan

namespace Field

variable {field : Field} {operator : Operator} {literals : List String} {stored : Value}

theorem Accepts.text_eq (accepts : field.Accepts operator literals)
    (kind : field.kind = .string)
    (pattern : operator ∈ [Operator.startsWith, .endsWith, .contains]) :
    ∃ literal, literals = [literal] ∧ field.values literals = [.string literal] := by
  obtain ⟨literal, rfl⟩ := accepts.single (by
    cases operator <;> simp at pattern <;> simp)
  have value : field.value? literal = some (.string literal) := by
    simp [value?, isEnumeration, kind, readLiteral?]
  exact ⟨literal, rfl, by rw [values_singleton, value, Option.toList_some]⟩

/-- The test of a comparison that is not blocked means what its operator does. -/
theorem Accepts.test_holds_iff (accepts : field.Accepts operator literals)
    (allowed : operator ∈ [Operator.isNull, .notNull] ∨ field.kind.allows operator = true)
    (free : field.blocks operator literals = false) :
    (operator.test (field.values literals)).Holds stored ↔
      operator.Holds stored (field.values literals) := by
  by_cases several : operator ∈ [Operator.oneOf, .noneOf, .isNull, .notNull]
  · simp only [List.mem_cons, List.not_mem_nil, or_false] at several
    rcases several with rfl | rfl | rfl | rfl <;> exact Iff.rfl
  · obtain ⟨value, values⟩ := accepts.values_eq_singleton several free
    rw [values]
    -- literals are texts only for fields of texts, which is where patterns are allowed
    refine Operator.test_singleton_holds_iff several fun pattern => ?_
    have kind : field.kind = .string := by
      refine ValueKind.eq_string_of_allows (allowed.resolve_left fun test => several ?_) pattern
      exact List.mem_cons_of_mem _ (List.mem_cons_of_mem _ test)
    have valueOf : value.isOf field.kind = true := mem_values_isOf (by rw [values]; simp)
    rw [kind] at valueOf
    exact Value.exists_string_of_isOf valueOf

theorem Accepts.test_suits (accepts : field.Accepts operator literals)
    (allowed : operator ∈ [Operator.isNull, .notNull] ∨ field.kind.allows operator = true)
    (free : field.blocks operator literals = false) :
    (operator.test (field.values literals)).Suits field.kind := by
  have each : ∀ operand ∈ field.values literals, operand.isOf field.kind = true :=
    fun _ => mem_values_isOf
  by_cases several : operator ∈ [Operator.oneOf, .noneOf, .isNull, .notNull]
  · simp only [List.mem_cons, List.not_mem_nil, or_false] at several
    rcases several with rfl | rfl | rfl | rfl
    · exact each
    · exact ⟨accepts.values_ne_nil (by decide) free, each⟩
    · trivial
    · trivial
  · obtain ⟨value, values⟩ := accepts.values_eq_singleton several free
    rw [values] at each ⊢
    have valueOf := each value List.mem_cons_self
    have text : operator ∈ [Operator.startsWith, .endsWith, .contains] → field.kind = .string :=
      ValueKind.eq_string_of_allows <| allowed.resolve_left fun test =>
        several (List.mem_cons_of_mem _ (List.mem_cons_of_mem _ test))
    cases operator with
    | oneOf | noneOf | isNull | notNull => simp at several
    | startsWith | endsWith | contains => exact text (by simp)
    | _ => exact valueOf

end Field

namespace Expression

variable {φ : Type} {target : Target φ} {request : Request} {stored : String → Value}

theorem holds_iff_holdsBy (fields : FieldMap) (stored : String → Value) (expression : Expression) :
    expression.Holds fields stored ↔
      expression.HoldsBy (Comparison.Meets Operator.Holds fields stored) := by
  induction expression with
  | all children inductionHypothesis =>
      rw [Holds, HoldsBy]
      exact forall₂_congr inductionHypothesis
  | any children inductionHypothesis =>
      rw [Holds, HoldsBy]
      exact exists₂_congr inductionHypothesis
  | comparison selector symbol arguments =>
      rw [Holds, HoldsBy]
      exact Iff.rfl

theorem holds_iff_plan (built : request.fields.Built) {expression : Expression}
    (accepted : target.Accepts request expression) :
    expression.Holds request.fields stored ↔ (expression.plan request.fields).Holds stored := by
  rw [holds_iff_holdsBy, Plan.holds_iff_holdsBy]
  exact holdsBy_iff_plan built accepted fun comparison _ field operator names free =>
    names.accepts.test_holds_iff names.allowed free

/-- Every leaf of an accepted expression tests the key of a selected field as values
of its kind can be tested. -/
theorem leaf_suits (built : request.fields.Built) {expression : Expression}
    (accepted : target.Accepts request expression) :
    ∀ leaf ∈ (expression.plan request.fields).leaves, ∃ selector ∈ expression.selectors,
      ∃ field, request.fields.find? selector = some field ∧ leaf.key = field.key ∧
        leaf.test.Suits field.kind := by
  intro leaf member
  rw [leaves_plan, List.mem_flatMap] at member
  obtain ⟨comparison, listed, within⟩ := member
  obtain ⟨field, operator, names⟩ := names_exist built accepted comparison listed
  obtain ⟨free, rfl⟩ := names.mem_leaves_iff.mp within
  refine ⟨comparison.selector, ?_, field, names.found, rfl, names.accepts.test_suits names.allowed free⟩
  rw [selectors_eq_map]
  exact List.mem_map_of_mem listed

end Expression

end FilterQuery
