import FilterQuery.Proofs.Predicates
import Mathlib.Data.List.Forall2

namespace FilterQuery

/-! What is left of plans without their values: expressions that differ in nothing
but the texts of their arguments leave the same. -/

/-- A test without its values.  It is kept how many there are, and whether a literal
is empty. -/
def Test.erase : Test → Test
  | .compare comparator _ => .compare comparator .null
  | .oneOf values => .oneOf (List.replicate values.length .null)
  | .noneOf values => .noneOf (List.replicate values.length .null)
  | .occurs position literal => .occurs position (if literal = "" then "" else " ")
  | .isNull => .isNull
  | .notNull => .notNull

def Leaf.erase (leaf : Leaf) : Leaf :=
  ⟨leaf.key, leaf.test.erase⟩

def Plan.erase : Plan → Plan
  | .leaf predicate => .leaf predicate.erase
  | .all plans => .all (plans.map fun plan => plan.erase)
  | .any plans => .any (plans.map fun plan => plan.erase)

/-- Two arguments of an operator that count as the same apart from their texts: both
name a member of the enumeration or neither does, and no pattern is empty unless
both are. -/
structure Field.Alike (field : Field) (operator : Operator) (argument other : String) : Prop where
  unresolved : field.isUnresolved argument = field.isUnresolved other
  empty : operator ∈ [Operator.startsWith, .endsWith, .contains] → (argument = "" ↔ other = "")

/-- Two expressions that differ in the texts of arguments only. -/
inductive Expression.Alike (fields : FieldMap) : Expression → Expression → Prop where
  | all {pairs : List (Expression × Expression)} (alike : ∀ pair ∈ pairs, Alike fields pair.1 pair.2) :
      Alike fields (.all (pairs.map (·.1))) (.all (pairs.map (·.2)))
  | any {pairs : List (Expression × Expression)} (alike : ∀ pair ∈ pairs, Alike fields pair.1 pair.2) :
      Alike fields (.any (pairs.map (·.1))) (.any (pairs.map (·.2)))
  | comparison {selector symbol : String} {arguments others : List String}
      (count : arguments.length = others.length)
      (alike : ∀ field operator, fields.find? selector = some field →
        Operator.ofSymbol? symbol = some operator →
        List.Forall₂ (field.Alike operator) arguments others) :
      Alike fields (.comparison selector symbol arguments) (.comparison selector symbol others)

theorem Operator.test_erase {operator : Operator} {operands others : List Value}
    (count : operands.length = others.length)
    (empty : operator ∈ [startsWith, .endsWith, .contains] →
      ((operands.headD .null).text = "" ↔ (others.headD .null).text = "")) :
    (operator.test operands).erase = (operator.test others).erase := by
  cases operator with
  | oneOf | noneOf => simp only [test, Test.erase, count]
  | startsWith | endsWith | contains =>
      have same := empty (by simp)
      simp only [test, Test.erase, same]
  | _ => rfl

namespace Field

variable {field : Field} {operator : Operator} {arguments others : List String}

theorem any_isUnresolved_eq (alike : List.Forall₂ (field.Alike operator) arguments others) :
    arguments.any field.isUnresolved = others.any field.isUnresolved := by
  induction alike with
  | nil => rfl
  | cons first _ inductionHypothesis =>
      rw [List.any_cons, List.any_cons, first.unresolved, inductionHypothesis]

theorem blocks_eq (alike : List.Forall₂ (field.Alike operator) arguments others) :
    field.blocks operator arguments = field.blocks operator others := by
  rw [blocks, blocks, any_isUnresolved_eq alike]

theorem length_values_eq (alike : List.Forall₂ (field.Alike operator) arguments others)
    (resolved : ∀ literal ∈ arguments, (field.value? literal).isNone = field.isUnresolved literal)
    (resolvedToo : ∀ literal ∈ others, (field.value? literal).isNone = field.isUnresolved literal) :
    (field.values arguments).length = (field.values others).length := by
  induction alike with
  | nil => rfl
  | @cons argument other arguments others first _ inductionHypothesis =>
      obtain ⟨head, rest⟩ := List.forall_mem_cons.mp resolved
      obtain ⟨headToo, restToo⟩ := List.forall_mem_cons.mp resolvedToo
      -- at each place both literals have a value or neither has
      have same : (field.value? argument).isNone = (field.value? other).isNone := by
        rw [head, headToo, first.unresolved]
      have counted := inductionHypothesis rest restToo
      simp only [values] at counted ⊢
      cases value : field.value? argument <;> cases valueToo : field.value? other <;>
        simp_all

theorem Accepts.test_erase (accepts : field.Accepts operator arguments)
    (acceptsToo : field.Accepts operator others)
    (allowed : operator ∈ [Operator.isNull, .notNull] ∨ field.kind.allows operator = true)
    (alike : List.Forall₂ (field.Alike operator) arguments others) :
    (operator.test (field.values arguments)).erase = (operator.test (field.values others)).erase := by
  by_cases tests : operator ∈ [Operator.isNull, .notNull]
  · simp only [List.mem_cons, List.not_mem_nil, or_false] at tests
    rcases tests with rfl | rfl <;> rfl
  · have count := length_values_eq alike (accepts.resolved tests) (acceptsToo.resolved tests)
    refine Operator.test_erase count fun pattern => ?_
    have kind := ValueKind.eq_string_of_allows (allowed.resolve_left tests) pattern
    obtain ⟨literal, rfl, values⟩ := accepts.text_eq kind pattern
    obtain ⟨other, rfl, valuesToo⟩ := acceptsToo.text_eq kind pattern
    rw [values, valuesToo]
    cases alike with
    | cons first _ => exact first.empty pattern

end Field

namespace Expression

variable {φ : Type} {target : Target φ} {fields : FieldMap}

theorem comparison_erase (built : fields.Built) {unknown unknownToo : UnknownMembers}
    {selector symbol : String} {arguments others : List String}
    (accepted : target.Accepts ⟨fields, unknown⟩ (.comparison selector symbol arguments))
    (acceptedToo : target.Accepts ⟨fields, unknownToo⟩ (.comparison selector symbol others))
    (alike : ∀ field operator, fields.find? selector = some field →
      Operator.ofSymbol? symbol = some operator →
      List.Forall₂ (field.Alike operator) arguments others) :
    (fields.comparison selector symbol arguments).erase =
      (fields.comparison selector symbol others).erase := by
  obtain ⟨_, resolved⟩ := Target.accepts_comparison.mp accepted
  obtain ⟨_, resolvedToo⟩ := Target.accepts_comparison.mp acceptedToo
  obtain ⟨field, operator, found, named, supported, accepts, _⟩ := Request.resolve_eq_ok resolved
  obtain ⟨fieldToo, operatorToo, foundToo, namedToo, _, acceptsToo, _⟩ :=
    Request.resolve_eq_ok resolvedToo
  obtain rfl : field = fieldToo := Option.some.inj (found.symm.trans foundToo)
  obtain rfl : operator = operatorToo := Option.some.inj (named.symm.trans namedToo)
  have allowed := supported.imp_right (built field (FieldMap.mem_of_find? found)).allows
  have same := alike field operator found named
  have found : fields.find? selector = some field := found
  simp only [FieldMap.comparison, found, named, Field.blocks_eq same]
  cases field.blocks operator others with
  | true => rfl
  | false =>
      have erased := accepts.test_erase acceptsToo allowed same
      simp [Plan.erase, Leaf.erase, erased]

theorem erase_collapse {junction : List Plan → Plan}
    (joined : ∀ plans, (junction plans).erase = junction (plans.map Plan.erase)) (plans : List Plan) :
    (Plan.collapse junction plans).erase = .collapse junction (plans.map Plan.erase) := by
  match plans with
  | [] => exact joined []
  | [plan] => rfl
  | _ :: _ :: _ => exact joined _

/-- Expressions that are alike have plans that are the same without their values. -/
theorem Alike.plan_erase (built : fields.Built) {unknown unknownToo : UnknownMembers}
    {first second : Expression} (alike : first.Alike fields second)
    (accepted : target.Accepts ⟨fields, unknown⟩ first)
    (acceptedToo : target.Accepts ⟨fields, unknownToo⟩ second) :
    (first.plan fields).erase = (second.plan fields).erase := by
  induction alike with
  | all alike inductionHypothesis =>
      rw [plan, plan, erase_collapse (fun _ => by rw [Plan.erase]),
        erase_collapse (fun _ => by rw [Plan.erase])]
      simp only [List.map_map]
      congr 1
      refine List.map_congr_left fun pair member => inductionHypothesis pair member ?_ ?_
      · exact Target.accepts_all.mp accepted pair.1 (List.mem_map_of_mem member)
      · exact Target.accepts_all.mp acceptedToo pair.2 (List.mem_map_of_mem member)
  | any alike inductionHypothesis =>
      rw [plan, plan, erase_collapse (fun _ => by rw [Plan.erase]),
        erase_collapse (fun _ => by rw [Plan.erase])]
      simp only [List.map_map]
      congr 1
      refine List.map_congr_left fun pair member => inductionHypothesis pair member ?_ ?_
      · exact Target.accepts_any.mp accepted pair.1 (List.mem_map_of_mem member)
      · exact Target.accepts_any.mp acceptedToo pair.2 (List.mem_map_of_mem member)
  | comparison _ alike =>
      rw [plan, plan]
      exact comparison_erase built accepted acceptedToo alike

end Expression

end FilterQuery
