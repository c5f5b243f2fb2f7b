import FilterQuery.Document
import FilterQuery.Proofs.BuiltFields
import FilterQuery.Proofs.Comparisons
import FilterQuery.Proofs.Trees
import FilterQuery.Sql.Backend
import FilterQuery.Translation

namespace FilterQuery

/-! Translation takes the same course whatever the target is: the plan of an
expression does not depend on the target, which only writes it down, and errors
differ in nothing but the name of the target. -/

/-- A junction of plans, for which a single plan stands by itself. -/
def Plan.collapse (junction : List Plan → Plan) : List Plan → Plan
  | [plan] => plan
  | plans => junction plans

/-- What holds of a single plan, and of the junction of any other number of plans. -/
theorem Plan.collapse_cases {motive : List Plan → Plan → Prop} {junction : List Plan → Plan}
    (single : ∀ plan, motive [plan] plan)
    (joined : ∀ plans, plans.length ≠ 1 → motive plans (junction plans))
    (plans : List Plan) : motive plans (collapse junction plans) := by
  match plans with
  | [] => exact joined [] (by simp)
  | [plan] => exact single plan
  | _ :: _ :: _ => exact joined _ (by simp)

/-- The plan of a comparison: one leaf, or an empty disjunction if one of its
literals keeps it from holding. -/
def FieldMap.comparison (fields : FieldMap) (selector symbol : String)
    (arguments : List String) : Plan :=
  match fields.find? selector, Operator.ofSymbol? symbol with
  | some field, some operator =>
      if field.blocks operator arguments then .any []
      else .leaf ⟨field.key, operator.test (field.values arguments)⟩
  | _, _ => .any []

/-- The plan of an expression that is accepted. -/
def Expression.plan (fields : FieldMap) : Expression → Plan
  | .all children => .collapse .all (children.map fun child => child.plan fields)
  | .any children => .collapse .any (children.map fun child => child.plan fields)
  | .comparison selector symbol arguments => fields.comparison selector symbol arguments

/-- The same error as met by another target. -/
def FilterError.withTarget (target : String) : FilterError → FilterError
  | .unsupportedOperator field symbol _ => .unsupportedOperator field symbol target
  | error => error

namespace Field

variable {field : Field} {operator : Operator} {unknown : UnknownMembers}
  {literal selector : String} {literals : List String} {error : FilterError}

theorem castArgument_error (failed : field.castArgument unknown literal = .error error) :
    error = .invalidArgument field.name literal field.kind := by
  simp only [castArgument] at failed
  split at failed
  · split at failed <;> cases failed
    rfl
  · split at failed <;> cases failed
    rfl

theorem test?_error (failed : field.test? selector operator unknown literals = .error error)
    (target : String) : error.withTarget target = error := by
  unfold test? at failed
  cases shape : operator.form with
  | nullTest test => simp [shape] at failed
  | single test =>
      simp only [shape] at failed
      split at failed
      · rename_i literal
        cases cast : field.castArgument unknown literal with
        | ok value => simp [cast, Except.map] at failed
        | error reason =>
            simp only [cast, Except.map, Except.error.injEq] at failed
            rw [← failed, castArgument_error cast]
            rfl
      · cases failed
        rfl
  | list test =>
      simp only [shape] at failed
      split at failed
      · cases failed
        rfl
      · cases cast : field.castArguments unknown literals with
        | ok values => simp [cast, Except.map] at failed
        | error reason =>
            simp only [cast, Except.map, Except.error.injEq] at failed
            obtain ⟨literal, _, refused⟩ := exists_error_of_mapM cast
            rw [← failed, castArgument_error refused]
            rfl

end Field

theorem Request.resolve_withTarget (request : Request) (target other : String)
    (supports : Operator → Bool) (selector symbol : String) (arguments : List String) :
    request.resolve target supports selector symbol arguments =
      (request.resolve other supports selector symbol arguments).mapError
        (FilterError.withTarget target) := by
  unfold resolve
  split
  · rfl
  · split
    · rfl
    · split
      · rfl
      · split
        · rfl
        · rename_i field _ _ operator _ _ _
          cases made : field.test? selector operator request.unknown arguments with
          | ok test => rfl
          | error error =>
              exact congrArg Except.error (Field.test?_error made target).symm

namespace Target

variable {φ : Type}

/-- What becomes of a recorded translation when the target writes it. -/
def writeRecorded (target : Target φ) (recorded : Except FilterError Plan) :
    Except FilterError φ :=
  (recorded.mapError (FilterError.withTarget target.name)).map (Plan.write target)

theorem outcome_traceList (target : Target φ) (request : Request) (children : List Expression) :
    (target.traceList request children).outcome = children.mapM (target.translate request) := by
  induction children with
  | nil => rfl
  | cons child children inductionHypothesis =>
      rw [List.mapM_cons, ← inductionHypothesis]
      simp only [traceList, Traced.andThen, Traced.map, translate]
      cases (target.trace request child).outcome with
      | error error => rfl
      | ok filter => cases (target.traceList request children).outcome <;> rfl

theorem translate_all (target : Target φ) (request : Request) (children : List Expression) :
    target.translate request (.all children) =
      (children.mapM (target.translate request)).map (junction target.all) := by
  rw [← outcome_traceList]
  rfl

theorem translate_any (target : Target φ) (request : Request) (children : List Expression) :
    target.translate request (.any children) =
      (children.mapM (target.translate request)).map (junction target.any) := by
  rw [← outcome_traceList]
  rfl

theorem translate_comparison (target : Target φ) (request : Request) (selector symbol : String)
    (arguments : List String) :
    target.translate request (.comparison selector symbol arguments) =
      (request.resolve target.name target.supports selector symbol arguments).map fun resolved =>
        resolved.elim (target.any []) target.leaf := by
  simp only [translate, trace, comparison]
  cases request.resolve target.name target.supports selector symbol arguments with
  | error error => rfl
  | ok resolved => cases resolved <;> rfl

theorem mapM_writeRecorded {target : Target φ} {translate : Expression → Except FilterError φ}
    {record : Expression → Except FilterError Plan} {children : List Expression}
    (each : ∀ child ∈ children, translate child = target.writeRecorded (record child)) :
    children.mapM translate =
      ((children.mapM record).mapError (FilterError.withTarget target.name)).map
        (List.map (Plan.write target)) := by
  induction children with
  | nil => rfl
  | cons child children inductionHypothesis =>
      obtain ⟨first, rest⟩ := List.forall_mem_cons.mp each
      rw [List.mapM_cons, List.mapM_cons, first, inductionHypothesis rest]
      cases record child with
      | error error => rfl
      | ok plan => cases children.mapM record <;> rfl

theorem junction_of_ne {combine : List φ → φ} {filters : List φ} (several : filters.length ≠ 1) :
    junction combine filters = combine filters := by
  match filters with
  | [] => rfl
  | [_] => contradiction
  | _ :: _ :: _ => rfl

theorem junction_eq_collapse (combine : List Plan → Plan) (plans : List Plan) :
    junction combine plans = .collapse combine plans :=
  Plan.collapse_cases (motive := fun plans plan => junction combine plans = plan)
    (fun _ => rfl) (fun _ several => junction_of_ne several) plans

theorem write_junction (target : Target φ) {join : List Plan → Plan} {combine : List φ → φ}
    (write : ∀ plans, (join plans).write target = combine (plans.map (Plan.write target)))
    (plans : List Plan) :
    (junction join plans).write target = junction combine (plans.map (Plan.write target)) := by
  rw [junction_eq_collapse]
  refine Plan.collapse_cases (motive := fun plans plan => plan.write target =
    junction combine (plans.map (Plan.write target))) (fun _ => rfl) (fun plans several => ?_) plans
  rw [write, junction_of_ne (by rwa [List.length_map])]

/-- Translation is recording followed by writing, whoever records. -/
theorem translate_eq_writeRecorded (target : Target φ) (recorder : String) (request : Request)
    (expression : Expression) :
    target.translate request expression =
      target.writeRecorded
        ((Plan.target recorder target.supports).translate request expression) := by
  induction expression with
  | all children inductionHypothesis =>
      rw [translate_all, translate_all, mapM_writeRecorded inductionHypothesis]
      cases children.mapM ((Plan.target recorder target.supports).translate request) with
      | error error => rfl
      | ok plans => exact congrArg Except.ok (write_junction target (Plan.write_all target) plans).symm
  | any children inductionHypothesis =>
      rw [translate_any, translate_any, mapM_writeRecorded inductionHypothesis]
      cases children.mapM ((Plan.target recorder target.supports).translate request) with
      | error error => rfl
      | ok plans => exact congrArg Except.ok (write_junction target (Plan.write_any target) plans).symm
  | comparison selector symbol arguments =>
      -- only the error of an unsupported operator tells the two targets apart
      rw [translate_comparison, translate_comparison,
        request.resolve_withTarget target.name recorder target.supports]
      change _ = target.writeRecorded ((request.resolve recorder target.supports selector symbol
        arguments).map fun resolved => resolved.elim (.any []) .leaf)
      cases request.resolve recorder target.supports selector symbol arguments with
      | error error => rfl
      | ok resolved => cases resolved <;> rfl

theorem comparison_eq_plan {request : Request} {target : String} {supports : Operator → Bool}
    {selector symbol : String} {arguments : List String} {result : Option Leaf}
    (resolved : request.resolve target supports selector symbol arguments = .ok result) :
    result.elim (.any []) .leaf = request.fields.comparison selector symbol arguments := by
  obtain ⟨field, operator, found, named, _, _, rfl⟩ := Request.resolve_eq_ok resolved
  simp only [FieldMap.comparison, found, named, Field.madeTest]
  split <;> rfl

theorem recorded_eq_plan {recorder : String} {supports : Operator → Bool} {request : Request}
    {expression : Expression} {plan : Plan}
    (accepted : (Plan.target recorder supports).translate request expression = .ok plan) :
    plan = expression.plan request.fields := by
  induction expression generalizing plan with
  | all children inductionHypothesis =>
      rw [translate_all] at accepted
      cases recorded : children.mapM ((Plan.target recorder supports).translate request) with
      | error error => simp [recorded, Except.map] at accepted
      | ok plans =>
          simp only [recorded, Except.map, Except.ok.injEq] at accepted
          obtain ⟨same, _⟩ := mapM_eq_map
            (fun child member _ => inductionHypothesis child member) recorded
          rw [Expression.plan, ← accepted, same]
          exact junction_eq_collapse .all _
  | any children inductionHypothesis =>
      rw [translate_any] at accepted
      cases recorded : children.mapM ((Plan.target recorder supports).translate request) with
      | error error => simp [recorded, Except.map] at accepted
      | ok plans =>
          simp only [recorded, Except.map, Except.ok.injEq] at accepted
          obtain ⟨same, _⟩ := mapM_eq_map
            (fun child member _ => inductionHypothesis child member) recorded
          rw [Expression.plan, ← accepted, same]
          exact junction_eq_collapse .any _
  | comparison selector symbol arguments =>
      rw [translate_comparison] at accepted
      cases resolved : request.resolve recorder supports selector symbol arguments with
      | error error => simp [Plan.target, resolved, Except.map] at accepted
      | ok result =>
          simp only [Plan.target, resolved, Except.map, Except.ok.injEq] at accepted
          rw [Expression.plan, ← comparison_eq_plan resolved, ← accepted]

def Accepts (target : Target φ) (request : Request) (expression : Expression) : Prop :=
  ∃ filter, target.translate request expression = .ok filter

theorem accepts_all {target : Target φ} {request : Request} {children : List Expression} :
    target.Accepts request (.all children) ↔ ∀ child ∈ children, target.Accepts request child := by
  rw [Accepts, translate_all, exists_map_ok_iff, exists_mapM_ok_iff]
  rfl

theorem accepts_any {target : Target φ} {request : Request} {children : List Expression} :
    target.Accepts request (.any children) ↔ ∀ child ∈ children, target.Accepts request child := by
  rw [Accepts, translate_any, exists_map_ok_iff, exists_mapM_ok_iff]
  rfl

theorem accepts_comparison {target : Target φ} {request : Request} {selector symbol : String}
    {arguments : List String} :
    target.Accepts request (.comparison selector symbol arguments) ↔ ∃ result,
      request.resolve target.name target.supports selector symbol arguments = .ok result := by
  rw [Accepts, translate_comparison, exists_map_ok_iff]

/-- Whether an expression is accepted has nothing to do with how filters are
written. -/
theorem accepts_iff_recorded (target : Target φ) (recorder : String) (request : Request)
    (expression : Expression) :
    target.Accepts request expression ↔
      (Plan.target recorder target.supports).Accepts request expression := by
  rw [Accepts, target.translate_eq_writeRecorded recorder, writeRecorded, Accepts]
  cases (Plan.target recorder target.supports).translate request expression with
  | error error => exact ⟨nofun, nofun⟩
  | ok plan => exact ⟨fun _ => ⟨plan, rfl⟩, fun _ => ⟨plan.write target, rfl⟩⟩

theorem filter_eq_write {target : Target φ} {request : Request} {expression : Expression}
    {filter : φ} (accepted : target.translate request expression = .ok filter) :
    filter = (expression.plan request.fields).write target := by
  rw [target.translate_eq_writeRecorded "", writeRecorded] at accepted
  cases recorded : (Plan.target "" target.supports).translate request expression with
  | error error =>
      rw [recorded] at accepted
      contradiction
  | ok plan =>
      rw [recorded] at accepted
      have written : plan.write target = filter := Except.ok.inj accepted
      rw [← written, recorded_eq_plan recorded]

/-- Targets that support the same operators accept the same expressions and write
down the same plan, and all others they refuse for the same reason. -/
theorem translations_agree {ψ : Type} (first : Target φ) (second : Target ψ)
    (agree : ∀ operator, first.supports operator = second.supports operator)
    (recorder : String) (request : Request) (expression : Expression) :
    (∃ error,
      (Plan.target recorder first.supports).translate request expression = .error error ∧
      first.translate request expression = .error (error.withTarget first.name) ∧
      second.translate request expression = .error (error.withTarget second.name)) ∨
    (∃ plan, plan = expression.plan request.fields ∧
      (Plan.target recorder first.supports).translate request expression = .ok plan ∧
      first.translate request expression = .ok (plan.write first) ∧
      second.translate request expression = .ok (plan.write second)) := by
  have writesFirst := first.translate_eq_writeRecorded recorder request expression
  have writesSecond := second.translate_eq_writeRecorded recorder request expression
  rw [← funext agree] at writesSecond
  cases recorded : (Plan.target recorder first.supports).translate request expression with
  | error error =>
      rw [recorded] at writesFirst writesSecond
      exact .inl ⟨error, rfl, writesFirst, writesSecond⟩
  | ok plan =>
      rw [recorded] at writesFirst writesSecond
      exact .inr ⟨plan, recorded_eq_plan recorded, rfl, writesFirst, writesSecond⟩

theorem postgres_and_documents_agree_on_titles :
    (∀ operator, Sql.Backend.postgres.target.supports operator = Document.target.supports operator) ∧
    ∃ plan, plan = (Expression.comparison "title" "==" ["x"]).plan .books ∧
      Sql.Backend.postgres.target.translate ⟨.books, .reject⟩ (.comparison "title" "==" ["x"]) =
        .ok (plan.write Sql.Backend.postgres.target) ∧
      Document.target.translate ⟨.books, .reject⟩ (.comparison "title" "==" ["x"]) =
        .ok (plan.write Document.target) := by
  refine ⟨fun _ => rfl, ?_⟩
  rcases translations_agree Sql.Backend.postgres.target Document.target (fun _ => rfl) "recorder"
    ⟨.books, .reject⟩ (.comparison "title" "==" ["x"]) with ⟨_, failed, _⟩ | ⟨plan, same, _, written⟩
  · contradiction
  · exact ⟨plan, same, written⟩

end Target

end FilterQuery
