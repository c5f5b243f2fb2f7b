import FilterQuery.Proofs.Predicates
import FilterQuery.Proofs.Refusals
import FilterQuery.Proofs.Sql.Placeholders
import Mathlib.Data.List.Forall2

namespace FilterQuery

open Sql

/-! The values that statements bind, comparison by comparison. -/

/-- What is bound to search for a literal that is not empty. -/
def Sql.Backend.searchParameters : Backend → Position → String → List Value
  | .postgres, position, literal => [.string (likePattern literal position)]
  | .sqlite, .anywhere, literal => [.string literal]
  | .sqlite, .start, literal | .sqlite, .finish, literal => [.string literal, .string literal]

def Test.parameters (backend : Backend) : Test → List Value
  | .compare _ operand => [operand]
  | .oneOf operands | .noneOf operands => operands
  | .occurs position literal => if literal = "" then [] else backend.searchParameters position literal
  | .isNull | .notNull => []

/-- The values that a backend binds for an operator and its arguments.  Literals that name
no member are left out of a list to choose from, and leave nothing of other comparisons. -/
inductive Field.Binds (field : Field) (unknown : UnknownMembers) (backend : Backend) :
    Operator → List String → List Value → Prop where
  | nullTest {operator : Operator} {arguments : List String}
      (tests : operator.isNullTest = true) : Binds field unknown backend operator arguments []
  | constant {operator : Operator} {arguments : List String} {results : List (Option Value)}
      (compares : operator ∉ [Operator.oneOf, .isNull, .notNull])
      (cast : field.castArguments unknown arguments = .ok results) (unresolved : none ∈ results) :
      Binds field unknown backend operator arguments []
  | values {operator : Operator} {arguments : List String} {results : List (Option Value)}
      (compares : operator ∉ [Operator.isNull, .notNull, .startsWith, .endsWith, .contains])
      (cast : field.castArguments unknown arguments = .ok results)
      (resolved : operator = .oneOf ∨ none ∉ results) :
      Binds field unknown backend operator arguments results.reduceOption
  | emptySearch {operator : Operator} {position : Position}
      (shape : operator.form = .single fun value => .occurs position value.text) :
      Binds field unknown backend operator [""] []
  | search {operator : Operator} {position : Position} {literal : String}
      (shape : operator.form = .single fun value => .occurs position value.text)
      (nonempty : literal ≠ "") :
      Binds field unknown backend operator [literal] (backend.searchParameters position literal)

/-- Whether all literals that the plan searches for are empty. -/
def Plan.Searchless (plan : Plan) : Prop :=
  ∀ leaf ∈ plan.leaves, ∀ position literal, leaf.test = .occurs position literal → literal = ""

theorem Plan.Searchless.of_mem {plans : List Plan} {plan joined : Plan}
    (searchless : joined.Searchless) (leaves : joined.leaves = plans.flatMap Plan.leaves)
    (member : plan ∈ plans) : plan.Searchless := by
  intro leaf within
  apply searchless leaf
  rw [leaves]
  exact List.mem_flatMap.mpr ⟨plan, member, within⟩

namespace Sql

variable {backend : Backend}

theorem values_membership (column keyword whenEmpty : String) (values : List Value) :
    Symbol.values (Backend.membership column keyword whenEmpty values).symbols = values := by
  by_cases empty : values = []
  · simp [Backend.membership, empty]
  · simp [Backend.membership, empty, values_join, List.flatMap_map]

theorem values_occurrence (column : String) (position : Position) (literal : String) :
    Symbol.values (backend.occurrence column position literal).symbols =
      backend.searchParameters position literal := by
  cases backend with
  | postgres => simp [Backend.occurrence, Backend.searchParameters]
  | sqlite => cases position <;> simp [Backend.occurrence, Backend.searchParameters]

theorem values_condition (leaf : Leaf) :
    Symbol.values (backend.condition leaf).symbols = leaf.test.parameters backend := by
  obtain ⟨key, test⟩ := leaf
  cases test with
  | compare comparator value => simp [Backend.condition, Test.parameters]
  | oneOf values => exact values_membership ..
  | noneOf values => exact values_membership ..
  | occurs position literal =>
      by_cases empty : literal = ""
      · simp [Backend.condition, Test.parameters, empty]
      · simpa [Backend.condition, Test.parameters, empty] using values_occurrence ..
  | isNull => simp [Backend.condition, Test.parameters]
  | notNull => simp [Backend.condition, Test.parameters]

theorem values_junction {word whenEmpty : String} {plans : List Plan}
    (each : ∀ plan ∈ plans, Symbol.values (plan.write backend.target).symbols =
      plan.leaves.flatMap fun leaf => leaf.test.parameters backend) :
    Symbol.values (Backend.junction word whenEmpty
        (plans.map fun plan => plan.write backend.target)).symbols =
      (plans.flatMap Plan.leaves).flatMap fun leaf => leaf.test.parameters backend := by
  have joined : ∀ fragments, Symbol.values (Backend.junction word whenEmpty fragments).symbols =
      fragments.flatMap fun fragment => Symbol.values fragment.symbols := by
    intro fragments
    unfold Backend.junction
    split
    · simp
    · simp [values_join]
  rw [joined, List.flatMap_map, List.flatMap_assoc]
  exact List.flatMap_congr each

/-- Junctions bind nothing of their own. -/
theorem values_write (plan : Plan) :
    Symbol.values (plan.write backend.target).symbols =
      plan.leaves.flatMap fun leaf => leaf.test.parameters backend := by
  induction plan with
  | leaf predicate =>
      rw [Plan.leaves, List.flatMap_singleton]
      exact values_condition predicate
  | all plans inductionHypothesis =>
      rw [Plan.write_all, Plan.leaves]
      exact values_junction inductionHypothesis
  | any plans inductionHypothesis =>
      rw [Plan.write_any, Plan.leaves]
      exact values_junction inductionHypothesis

/-- The backends write nothing differently but searches. -/
theorem write_eq_of_searchless {plan : Plan} (searchless : plan.Searchless) :
    plan.write Backend.postgres.target = plan.write Backend.sqlite.target := by
  induction plan with
  | leaf predicate =>
      obtain ⟨key, test⟩ := predicate
      have empty := searchless ⟨key, test⟩ (by rw [Plan.leaves]; exact List.mem_singleton_self _)
      change Backend.postgres.condition _ = Backend.sqlite.condition _
      cases test with
      | occurs position literal => simp [Backend.condition, empty position literal rfl]
      | _ => rfl
  | all plans inductionHypothesis =>
      rw [Plan.write_all, Plan.write_all]
      apply congrArg (Backend.junction "AND" Backend.always)
      apply List.map_congr_left
      intro plan member
      exact inductionHypothesis plan member (searchless.of_mem (by rw [Plan.leaves]) member)
  | any plans inductionHypothesis =>
      rw [Plan.write_any, Plan.write_any]
      apply congrArg (Backend.junction "OR" Backend.never)
      apply List.map_congr_left
      intro plan member
      exact inductionHypothesis plan member (searchless.of_mem (by rw [Plan.leaves]) member)

end Sql

theorem Field.Built.binds {field : Field} (built : field.Built) {unknown : UnknownMembers}
    {backend : Backend} {operator : Operator} {arguments : List String}
    {results : List (Option Value)} (compares : operator.isNullTest = false)
    (supported : field.supports operator = true) (counted : operator.Takes arguments)
    (cast : field.castArguments unknown arguments = .ok results)
    (resolved : operator = .oneOf ∨ none ∉ results) :
    field.Binds unknown backend operator arguments
      ((operator.test results.reduceOption).parameters backend) := by
  cases operator with
  | isNull | notNull => contradiction
  | oneOf | noneOf => exact .values (by decide) cast resolved
  | startsWith | endsWith | contains =>
      have texts := ValueKind.eq_string_of_allows (built.allows supported) (by decide)
      obtain ⟨literal, rfl⟩ := List.length_eq_one_iff.mp counted
      rw [castArguments_singleton, castArgument_of_texts texts] at cast
      cases cast
      change field.Binds unknown backend _ _ (if literal = "" then [] else _)
      split
      · rename_i empty
        rw [empty]
        exact .emptySearch rfl
      · exact .search rfl ‹_›
  | _ =>
      -- both equalities, and the ordering comparisons in either spelling
      obtain ⟨literal, rfl⟩ := List.length_eq_one_iff.mp counted
      have single : results = [field.value? literal] := (castArguments_eq_ok cast).1
      cases read : field.value? literal with
      | none =>
          rw [single, read] at resolved
          simp at resolved
      | some value =>
          rw [single, read] at cast resolved ⊢
          exact .values (by decide) cast resolved

theorem Request.comparison_binds (request : Request) (built : request.fields.Built)
    (backend : Backend) {comparison : Comparison} {target : String} {supports : Operator → Bool}
    {leaf : Option Leaf} (accepted : request.resolveComparison target supports comparison = .ok leaf) :
    ∃ field operator, comparison.Selects request.fields field operator ∧
      field.Binds request.unknown backend operator comparison.arguments
        (leaf.elim [] fun leaf => leaf.test.parameters backend) := by
  obtain ⟨field, operator, selects, supported, rules⟩ := resolve_exists_iff.mp ⟨leaf, accepted⟩
  rw [resolve_of_allowed selects (rules.imp_right And.left), if_pos supported] at accepted
  refine ⟨field, operator, selects, ?_⟩
  cases tests : operator.isNullTest with
  | true =>
      cases operator with
      | isNull | notNull =>
          cases accepted
          exact .nullTest rfl
      | _ => contradiction
  | false =>
      obtain ⟨listed, counted, casts⟩ := rules.resolve_left (by simp [tests])
      obtain ⟨results, cast⟩ := Field.castArguments_exist casts
      have checked := built field (FieldMap.mem_of_find? selects.found)
      rw [Field.test?_counted tests counted, cast] at accepted
      by_cases resolved : operator = .oneOf ∨ none ∉ results
      · have kept : (operator = .oneOf || none ∉ results) = true := by simpa using resolved
        simp only [Except.map, kept, if_true, Option.map_some, Except.ok.injEq] at accepted
        rw [← accepted]
        exact checked.binds tests listed counted cast resolved
      · have lost : (operator = .oneOf || none ∉ results) = false := by simpa using resolved
        simp only [Except.map, lost, Except.ok.injEq] at accepted
        obtain ⟨other, unresolved⟩ := not_or.mp resolved
        rw [← accepted]
        refine .constant ?_ cast (not_not.mp unresolved)
        intro free
        rcases List.mem_cons.mp free with one | test
        · exact other one
        · cases operator <;> simp [Operator.isNullTest] at tests test

namespace Expression

variable {fields : FieldMap} {unknown : UnknownMembers} {expression : Expression}

theorem parameters_plan (parameters : Leaf → List Value) :
    (expression.plan fields).leaves.flatMap parameters =
      (expression.comparisons.map fun comparison =>
        (comparison.plan fields).leaves.flatMap parameters).flatten := by
  rw [leaves_plan, List.flatMap_assoc, List.flatMap_def]

theorem comparisons_bind (built : fields.Built) {φ : Type} {target : Target φ}
    (accepted : target.Accepts ⟨fields, unknown⟩ expression) (backend : Backend) :
    ∀ comparison ∈ expression.comparisons, ∃ field operator,
      comparison.Selects fields field operator ∧
      field.Binds unknown backend operator comparison.arguments
        ((comparison.plan fields).leaves.flatMap fun leaf => leaf.test.parameters backend) := by
  intro comparison member
  obtain ⟨leaf, resolved⟩ := Target.accepts_comparison.mp (accepts_comparisons accepted comparison member)
  obtain ⟨field, operator, selects, binds⟩ :=
    Request.comparison_binds ⟨fields, unknown⟩ built backend resolved
  have planned : leaf.elim (.any []) .leaf = comparison.plan fields := Target.comparison_eq_plan resolved
  refine ⟨field, operator, selects, ?_⟩
  rw [← planned]
  cases leaf with
  | none => simpa [Plan.leaves] using binds
  | some leaf => simpa [Plan.leaves] using binds

/-- Whether the expression searches for no literals but empty ones. -/
def Searchless (expression : Expression) : Prop :=
  ∀ comparison ∈ expression.comparisons, ∀ operator ∈ [Operator.startsWith, .endsWith, .contains],
    Operator.ofSymbol? comparison.symbol = some operator →
      ∀ literal ∈ comparison.arguments, literal = ""

theorem Searchless.plan (searchless : expression.Searchless) (built : fields.Built) {φ : Type}
    {target : Target φ} (accepted : target.Accepts ⟨fields, unknown⟩ expression) :
    (expression.plan fields).Searchless := by
  intro leaf member position literal searches
  rw [leaves_plan, List.mem_flatMap] at member
  obtain ⟨comparison, listed, within⟩ := member
  obtain ⟨field, operator, names⟩ := names_exist built accepted comparison listed
  obtain ⟨free, rfl⟩ := names.mem_leaves_iff.mp within
  have empty := searchless comparison listed operator
  cases operator with
  | startsWith | endsWith | contains =>
      have texts := ValueKind.eq_string_of_allows (names.allowed.resolve_left (by decide)) (by decide)
      obtain ⟨argument, single, values⟩ := names.accepts.text_eq texts (by decide)
      have nothing := empty (by decide) names.named argument (by rw [single]; exact List.mem_singleton_self _)
      rw [values] at searches
      cases searches
      exact nothing
  | _ => cases searches

end Expression

theorem Sql.parameters_bound {fields : FieldMap} (built : fields.Built) {unknown : UnknownMembers}
    {expression : Expression} {φ : Type} {target : Target φ}
    (accepted : target.Accepts ⟨fields, unknown⟩ expression) (backend : Backend) :
    ∃ bound : List (List Value),
      (backend.render ((expression.plan fields).write backend.target)).parameters = bound.flatten ∧
      List.Forall₂ (fun comparison values => ∃ field operator,
          comparison.Selects fields field operator ∧
          field.Binds unknown backend operator comparison.arguments values)
        expression.comparisons bound := by
  have binds := Expression.comparisons_bind built accepted backend
  refine ⟨_, ?_, List.forall₂_map_right_iff.mpr (List.forall₂_same.mpr binds)⟩
  rw [Backend.render, Fragment.render_parameters, values_write, Expression.parameters_plan]

/-- Every backend accepts the expressions that one of them accepts.  The text of its statement
has as many placeholders outside of quotes as there are parameters, numbered from 1 on by
PostgreSQL and without numbers for SQLite.  The parameters are those that the comparisons
bind, from left to right.  Without searches both backends bind the same, and their texts
differ in the numbers of placeholders only. -/
theorem Sql.placeholders_aligned {fields : FieldMap} (built : fields.Built)
    {unknown : UnknownMembers} {expression : Expression} {accepting : Backend}
    (accepted : accepting.target.Accepts ⟨fields, unknown⟩ expression) :
    (∀ backend : Backend, ∃ fragment,
      backend.target.translate ⟨fields, unknown⟩ expression = .ok fragment ∧
      placeholders (backend.render fragment).text =
        (List.range' 1 (backend.render fragment).parameters.length).map backend.number? ∧
      ∃ bound : List (List Value), (backend.render fragment).parameters = bound.flatten ∧
        List.Forall₂ (fun comparison values => ∃ field operator,
            comparison.Selects fields field operator ∧
            field.Binds unknown backend operator comparison.arguments values)
          expression.comparisons bound) ∧
    (expression.Searchless → ∃ numbered plain,
      Backend.postgres.target.translate ⟨fields, unknown⟩ expression = .ok numbered ∧
      Backend.sqlite.target.translate ⟨fields, unknown⟩ expression = .ok plain ∧
      (Backend.postgres.render numbered).parameters = (Backend.sqlite.render plain).parameters ∧
      unnumbered (Backend.postgres.render numbered).text = (Backend.sqlite.render plain).text) := by
  have recorded := (accepting.target.accepts_iff_recorded "" _ _).mp accepted
  have translated : ∀ backend : Backend, backend.target.translate ⟨fields, unknown⟩ expression =
      .ok ((expression.plan fields).write backend.target) := by
    intro backend
    obtain ⟨fragment, made⟩ := (backend.target.accepts_iff_recorded "" _ _).mpr recorded
    rw [made, Target.filter_eq_write made]
  refine ⟨fun backend => ?_, fun searchless => ?_⟩
  · exact ⟨_, translated backend, placeholders_render _, parameters_bound built accepted backend⟩
  · have same := write_eq_of_searchless (searchless.plan built accepted)
    refine ⟨_, _, translated .postgres, translated .sqlite, ?_, ?_⟩
    · rw [same]
      rfl
    · rw [unnumbered_render (write_marked _), same]

def pagesAndTitles : Expression :=
  .all [.comparison "pages" "=in=" ["100", "200"],
    .any [.comparison "title" "=prefix=" ["10%"], .comparison "title" "=null=" []],
    .comparison "title" "==" ["x"]]

def anyTitleOrPages : Expression :=
  .any [.comparison "title" "=prefix=" [""], .comparison "pages" "=in=" ["100", "200"]]

theorem anyTitleOrPages_searchless : anyTitleOrPages.Searchless := by
  have comparisons : anyTitleOrPages.comparisons =
      [⟨"title", "=prefix=", [""]⟩, ⟨"pages", "=in=", ["100", "200"]⟩] := by
    simp [anyTitleOrPages, Expression.comparisons]
  rw [Expression.Searchless, comparisons]
  decide

theorem Sql.placeholders_of_titles_aligned :
    (∃ fragment, Backend.sqlite.target.translate ⟨.books, .reject⟩ pagesAndTitles = .ok fragment ∧
      (Backend.sqlite.render fragment).parameters =
        [.integer 100, .integer 200, .string "10%", .string "10%", .string "x"] ∧
      placeholders (Backend.sqlite.render fragment).text = List.replicate 5 none) ∧
    (∃ fragment, Backend.postgres.target.translate ⟨.books, .reject⟩ pagesAndTitles = .ok fragment ∧
      (Backend.postgres.render fragment).parameters =
        [.integer 100, .integer 200, .string "10\\%%", .string "x"] ∧
      placeholders (Backend.postgres.render fragment).text = [some 1, some 2, some 3, some 4]) ∧
    ∃ numbered plain,
      Backend.postgres.target.translate ⟨.books, .reject⟩ anyTitleOrPages = .ok numbered ∧
      Backend.sqlite.target.translate ⟨.books, .reject⟩ anyTitleOrPages = .ok plain ∧
      (Backend.postgres.render numbered).parameters = (Backend.sqlite.render plain).parameters ∧
      unnumbered (Backend.postgres.render numbered).text = (Backend.sqlite.render plain).text := by
  have accepted : Backend.postgres.target.Accepts ⟨.books, .reject⟩ pagesAndTitles := ⟨_, rfl⟩
  have acceptedToo : Backend.postgres.target.Accepts ⟨.books, .reject⟩ anyTitleOrPages := ⟨_, rfl⟩
  obtain ⟨aligned, _⟩ := placeholders_aligned FieldMap.books_built accepted
  obtain ⟨_, same⟩ := placeholders_aligned FieldMap.books_built acceptedToo
  obtain ⟨fragment, translated, read, _⟩ := aligned .sqlite
  obtain ⟨other, translatedToo, readToo, _⟩ := aligned .postgres
  have parameters : (Backend.sqlite.render fragment).parameters =
      [.integer 100, .integer 200, .string "10%", .string "10%", .string "x"] := by
    cases translated
    rfl
  have parametersToo : (Backend.postgres.render other).parameters =
      [.integer 100, .integer 200, .string "10\\%%", .string "x"] := by
    cases translatedToo
    rfl
  rw [parameters] at read
  rw [parametersToo] at readToo
  exact ⟨⟨fragment, translated, parameters, read⟩, ⟨other, translatedToo, parametersToo, readToo⟩,
    same anyTitleOrPages_searchless⟩

end FilterQuery
