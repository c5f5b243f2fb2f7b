import FilterQuery.Proofs.Meaning
import FilterQuery.Proofs.Translation
import Mathlib.Data.List.Basic

namespace FilterQuery

/-! What holds of expressions and plans because of what holds of their comparisons
and leaves: junctions add nothing of their own. -/

/-- A comparison as it stands in an expression. -/
structure Comparison where
  selector : String
  symbol : String
  arguments : List String

namespace Plan

/-- Whether a plan is fulfilled by the leaves that are. -/
def HoldsBy (holds : Leaf → Prop) : Plan → Prop
  | .leaf predicate => holds predicate
  | .all plans => ∀ plan, (_ : plan ∈ plans) → plan.HoldsBy holds
  | .any plans => ∃ plan, ∃ _ : plan ∈ plans, plan.HoldsBy holds

def leaves : Plan → List Leaf
  | .leaf predicate => [predicate]
  | .all plans => plans.flatMap fun plan => plan.leaves
  | .any plans => plans.flatMap fun plan => plan.leaves

variable {holds : Leaf → Prop}

theorem holdsBy_collapse_all (plans : List Plan) :
    (collapse .all plans).HoldsBy holds ↔ ∀ plan ∈ plans, plan.HoldsBy holds :=
  collapse_cases (motive := fun plans plan => plan.HoldsBy holds ↔ ∀ plan ∈ plans, plan.HoldsBy holds)
    (by simp) (fun plans _ => by rw [HoldsBy]) plans

theorem holdsBy_collapse_any (plans : List Plan) :
    (collapse .any plans).HoldsBy holds ↔ ∃ plan ∈ plans, plan.HoldsBy holds :=
  collapse_cases (motive := fun plans plan => plan.HoldsBy holds ↔ ∃ plan ∈ plans, plan.HoldsBy holds)
    (by simp) (fun plans _ => by simp [HoldsBy]) plans

theorem leaves_collapse {junction : List Plan → Plan}
    (joined : ∀ plans, (junction plans).leaves = plans.flatMap leaves) (plans : List Plan) :
    (collapse junction plans).leaves = plans.flatMap leaves :=
  collapse_cases (motive := fun plans plan => plan.leaves = plans.flatMap leaves)
    (by simp) (fun plans _ => joined plans) plans

end Plan

namespace Comparison

def plan (comparison : Comparison) (fields : FieldMap) : Plan :=
  fields.comparison comparison.selector comparison.symbol comparison.arguments

/-- What is known of the field and the operator that an accepted comparison names. -/
structure Names (comparison : Comparison) (fields : FieldMap) (field : Field)
    (operator : Operator) : Prop where
  found : fields.find? comparison.selector = some field
  named : Operator.ofSymbol? comparison.symbol = some operator
  allowed : operator ∈ [Operator.isNull, .notNull] ∨ field.kind.allows operator = true
  accepts : field.Accepts operator comparison.arguments

/-- Whether what is stored passes a comparison, where `holds` says what operators
mean. -/
def Meets (holds : Operator → Value → List Value → Prop) (fields : FieldMap)
    (stored : String → Value) (comparison : Comparison) : Prop :=
  ∃ field operator, fields.find? comparison.selector = some field ∧
    Operator.ofSymbol? comparison.symbol = some operator ∧
    field.blocks operator comparison.arguments = false ∧
    holds operator (stored field.key) (field.values comparison.arguments)

variable {comparison : Comparison} {fields : FieldMap} {field : Field} {operator : Operator}

theorem Names.meets_iff (names : comparison.Names fields field operator)
    {holds : Operator → Value → List Value → Prop} {stored : String → Value} :
    comparison.Meets holds fields stored ↔
      field.blocks operator comparison.arguments = false ∧
        holds operator (stored field.key) (field.values comparison.arguments) := by
  simp only [Meets, names.found, names.named, Option.some.injEq, exists_and_left, exists_eq_left']

theorem Names.plan_eq (names : comparison.Names fields field operator) :
    comparison.plan fields =
      if field.blocks operator comparison.arguments then .any []
      else .leaf ⟨field.key, operator.test (field.values comparison.arguments)⟩ := by
  simp only [plan, FieldMap.comparison, names.found, names.named]

theorem Names.mem_leaves_iff (names : comparison.Names fields field operator) {leaf : Leaf} :
    leaf ∈ (comparison.plan fields).leaves ↔
      field.blocks operator comparison.arguments = false ∧
        leaf = ⟨field.key, operator.test (field.values comparison.arguments)⟩ := by
  rw [names.plan_eq]
  cases field.blocks operator comparison.arguments <;> simp [Plan.leaves]

theorem Names.holdsBy_iff (names : comparison.Names fields field operator) {holds : Leaf → Prop} :
    (comparison.plan fields).HoldsBy holds ↔
      field.blocks operator comparison.arguments = false ∧
        holds ⟨field.key, operator.test (field.values comparison.arguments)⟩ := by
  rw [names.plan_eq]
  cases field.blocks operator comparison.arguments <;> simp [Plan.HoldsBy]

end Comparison

namespace Expression

variable {φ : Type} {target : Target φ} {request : Request} {expression : Expression}

def comparisons : Expression → List Comparison
  | .all children => children.flatMap fun child => child.comparisons
  | .any children => children.flatMap fun child => child.comparisons
  | .comparison selector symbol arguments => [⟨selector, symbol, arguments⟩]

/-- Whether an expression is fulfilled by the comparisons that are. -/
def HoldsBy (holds : Comparison → Prop) : Expression → Prop
  | .all children => ∀ child, (_ : child ∈ children) → child.HoldsBy holds
  | .any children => ∃ child, ∃ _ : child ∈ children, child.HoldsBy holds
  | .comparison selector symbol arguments => holds ⟨selector, symbol, arguments⟩

theorem selectors_eq_map (expression : Expression) :
    expression.selectors = expression.comparisons.map Comparison.selector := by
  induction expression with
  | all children inductionHypothesis | any children inductionHypothesis =>
      rw [selectors, comparisons, List.map_flatMap]
      exact List.flatMap_congr inductionHypothesis
  | comparison selector symbol arguments => simp [selectors, comparisons]

theorem leaves_plan (fields : FieldMap) (expression : Expression) :
    (expression.plan fields).leaves =
      expression.comparisons.flatMap fun comparison => (comparison.plan fields).leaves := by
  induction expression with
  | all children inductionHypothesis | any children inductionHypothesis =>
      rw [plan, Plan.leaves_collapse (fun _ => by rw [Plan.leaves]), List.flatMap_map, comparisons,
        List.flatMap_assoc]
      exact List.flatMap_congr inductionHypothesis
  | comparison selector symbol arguments => simp [plan, comparisons, Comparison.plan]

theorem holdsBy_plan (fields : FieldMap) (holds : Leaf → Prop) (expression : Expression) :
    (expression.plan fields).HoldsBy holds ↔
      expression.HoldsBy fun comparison => (comparison.plan fields).HoldsBy holds := by
  induction expression with
  | all children inductionHypothesis =>
      rw [plan, Plan.holdsBy_collapse_all, List.forall_mem_map, HoldsBy]
      exact forall₂_congr inductionHypothesis
  | any children inductionHypothesis =>
      rw [plan, Plan.holdsBy_collapse_any, HoldsBy]
      simp only [List.mem_map, exists_exists_and_eq_and, exists_prop]
      exact exists_congr fun child => and_congr_right (inductionHypothesis child)
  | comparison selector symbol arguments => rw [plan, HoldsBy, Comparison.plan]

theorem holdsBy_congr {first second : Comparison → Prop}
    (same : ∀ comparison ∈ expression.comparisons, first comparison ↔ second comparison) :
    expression.HoldsBy first ↔ expression.HoldsBy second := by
  induction expression with
  | all children inductionHypothesis =>
      rw [HoldsBy, HoldsBy]
      refine forall₂_congr fun child member => inductionHypothesis child member fun comparison within => ?_
      exact same comparison (by rw [comparisons]; exact List.mem_flatMap.mpr ⟨child, member, within⟩)
  | any children inductionHypothesis =>
      rw [HoldsBy, HoldsBy]
      refine exists₂_congr fun child member => inductionHypothesis child member fun comparison within => ?_
      exact same comparison (by rw [comparisons]; exact List.mem_flatMap.mpr ⟨child, member, within⟩)
  | comparison selector symbol arguments =>
      rw [HoldsBy, HoldsBy]
      exact same _ (by simp [comparisons])

theorem accepts_comparisons (accepted : target.Accepts request expression) :
    ∀ comparison ∈ expression.comparisons,
      target.Accepts request (.comparison comparison.selector comparison.symbol comparison.arguments) := by
  intro comparison member
  induction expression with
  | all children inductionHypothesis =>
      rw [comparisons, List.mem_flatMap] at member
      obtain ⟨child, listed, within⟩ := member
      exact inductionHypothesis child listed (Target.accepts_all.mp accepted child listed) within
  | any children inductionHypothesis =>
      rw [comparisons, List.mem_flatMap] at member
      obtain ⟨child, listed, within⟩ := member
      exact inductionHypothesis child listed (Target.accepts_any.mp accepted child listed) within
  | comparison selector symbol arguments =>
      rw [comparisons, List.mem_singleton] at member
      subst member
      exact accepted

/-- Every comparison of an accepted expression names a field of the request, and an
operator that the kind of the field allows. -/
theorem names_exist (built : request.fields.Built) (accepted : target.Accepts request expression) :
    ∀ comparison ∈ expression.comparisons,
      ∃ field operator, comparison.Names request.fields field operator := by
  intro comparison member
  obtain ⟨_, resolved⟩ := Target.accepts_comparison.mp (accepts_comparisons accepted comparison member)
  obtain ⟨field, operator, found, named, supported, accepts, _⟩ := Request.resolve_eq_ok resolved
  exact ⟨field, operator, found, named,
    supported.imp_right (built field (FieldMap.mem_of_find? found)).allows, accepts⟩

/-- The plan of an accepted expression means what the expression does if the leaves of
its comparisons mean what their operators do. -/
theorem holdsBy_iff_plan (built : request.fields.Built)
    (accepted : target.Accepts request expression) {holdsLeaf : Leaf → Prop}
    {holds : Operator → Value → List Value → Prop} {stored : String → Value}
    (agree : ∀ comparison ∈ expression.comparisons, ∀ field operator,
      comparison.Names request.fields field operator →
      field.blocks operator comparison.arguments = false →
      (holdsLeaf ⟨field.key, operator.test (field.values comparison.arguments)⟩ ↔
        holds operator (stored field.key) (field.values comparison.arguments))) :
    expression.HoldsBy (Comparison.Meets holds request.fields stored) ↔
      (expression.plan request.fields).HoldsBy holdsLeaf := by
  rw [holdsBy_plan]
  refine holdsBy_congr fun comparison member => ?_
  obtain ⟨field, operator, names⟩ := names_exist built accepted comparison member
  rw [names.meets_iff, names.holdsBy_iff]
  exact and_congr_right fun free => (agree comparison member field operator names free).symm

end Expression

end FilterQuery
