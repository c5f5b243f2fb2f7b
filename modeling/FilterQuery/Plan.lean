import FilterQuery.Predicate

namespace FilterQuery

/-! Plans: filters that are not written in any language yet. -/

inductive Plan where
  | leaf (leaf : Leaf)
  | all (plans : List Plan)
  | any (plans : List Plan)

namespace Plan

mutual

/-- Writes a plan for a target. -/
def write {φ : Type} (target : Target φ) : Plan → φ
  | .leaf predicate => target.leaf predicate
  | .all plans => target.all (writeList target plans)
  | .any plans => target.any (writeList target plans)

def writeList {φ : Type} (target : Target φ) : List Plan → List φ
  | [] => []
  | plan :: plans => plan.write target :: writeList target plans

end

/-- The target whose filters are plans. -/
def target (name : String) (supports : Operator → Bool) : Target Plan where
  name := name
  supports := supports
  all := .all
  any := .any
  leaf := .leaf

end Plan

end FilterQuery
