import FilterQuery.Json.Basic

namespace FilterQuery

/-! Filter expressions as clients send them: comparisons of fields with texts,
combined by junctions. -/

/-- Neither the selected field nor the symbol of the operator need exist. -/
inductive Expression where
  | all (children : List Expression)
  | any (children : List Expression)
  | comparison (selector symbol : String) (arguments : List String)

namespace Expression

mutual

def decideEqual : (first second : Expression) → Decidable (first = second)
  | .all first, .all second =>
      match decideEqualLists first second with
      | isTrue equal => isTrue (congrArg Expression.all equal)
      | isFalse different => isFalse fun equal => different (Expression.all.inj equal)
  | .any first, .any second =>
      match decideEqualLists first second with
      | isTrue equal => isTrue (congrArg Expression.any equal)
      | isFalse different => isFalse fun equal => different (Expression.any.inj equal)
  | .comparison selector symbol arguments, .comparison selector' symbol' arguments' =>
      if equal : selector = selector' ∧ symbol = symbol' ∧ arguments = arguments' then
        isTrue (by rw [equal.1, equal.2.1, equal.2.2])
      else
        isFalse fun same => equal (Expression.comparison.inj same)
  | .all _, .any _ | .any _, .all _ => isFalse nofun
  | .all _, .comparison .. | .comparison .., .all _ => isFalse nofun
  | .any _, .comparison .. | .comparison .., .any _ => isFalse nofun

def decideEqualLists : (first second : List Expression) → Decidable (first = second)
  | [], [] => isTrue rfl
  | [], _ :: _ | _ :: _, [] => isFalse nofun
  | expression :: first, expression' :: second =>
      match decideEqual expression expression', decideEqualLists first second with
      | isTrue heads, isTrue tails => isTrue (by rw [heads, tails])
      | isFalse different, _ => isFalse fun equal => different (List.cons.inj equal).1
      | _, isFalse different => isFalse fun equal => different (List.cons.inj equal).2

end

instance : DecidableEq Expression := decideEqual

mutual

def toJson : Expression → Json
  | .all children =>
      .object [("type", .string "and"), ("children", .array (listToJson children))]
  | .any children =>
      .object [("type", .string "or"), ("children", .array (listToJson children))]
  | .comparison selector symbol arguments =>
      .object [("type", .string "comparison"), ("selector", .string selector),
        ("operator", .string symbol), ("arguments", Json.ofStrings arguments)]

def listToJson : List Expression → List Json
  | [] => []
  | expression :: expressions => expression.toJson :: listToJson expressions

end

end Expression

end FilterQuery
