import FilterQuery.Expression
import FilterQuery.Plan

namespace FilterQuery

/-! Induction over expressions and plans, where the children of a junction are
the members of a list. -/

@[induction_eliminator, elab_as_elim]
theorem Expression.induction {motive : Expression → Prop}
    (all : ∀ children, (∀ child ∈ children, motive child) → motive (.all children))
    (any : ∀ children, (∀ child ∈ children, motive child) → motive (.any children))
    (comparison : ∀ selector symbol arguments,
      motive (.comparison selector symbol arguments)) :
    (expression : Expression) → motive expression
  | .all children => all children fun child _ => induction all any comparison child
  | .any children => any children fun child _ => induction all any comparison child
  | .comparison selector symbol arguments => comparison selector symbol arguments

@[induction_eliminator, elab_as_elim]
theorem Plan.induction {motive : Plan → Prop}
    (leaf : ∀ predicate, motive (.leaf predicate))
    (all : ∀ plans, (∀ plan ∈ plans, motive plan) → motive (.all plans))
    (any : ∀ plans, (∀ plan ∈ plans, motive plan) → motive (.any plans)) :
    (plan : Plan) → motive plan
  | .leaf predicate => leaf predicate
  | .all plans => all plans fun plan _ => induction leaf all any plan
  | .any plans => any plans fun plan _ => induction leaf all any plan

namespace Plan

theorem writeList_eq_map {φ : Type} (target : Target φ) (plans : List Plan) :
    writeList target plans = plans.map (write target) := by
  induction plans with
  | nil => rfl
  | cons plan plans inductionHypothesis =>
      rw [writeList, inductionHypothesis, List.map_cons]

@[simp]
theorem write_leaf {φ : Type} (target : Target φ) (leaf : Leaf) :
    write target (.leaf leaf) = target.leaf leaf := rfl

@[simp]
theorem write_all {φ : Type} (target : Target φ) (plans : List Plan) :
    write target (.all plans) = target.all (plans.map (write target)) := by
  rw [write, writeList_eq_map]

@[simp]
theorem write_any {φ : Type} (target : Target φ) (plans : List Plan) :
    write target (.any plans) = target.any (plans.map (write target)) := by
  rw [write, writeList_eq_map]

end Plan

end FilterQuery
