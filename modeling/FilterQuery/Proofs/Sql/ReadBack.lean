import FilterQuery.Proofs.Sql.Binding
import FilterQuery.Proofs.Sql.Parser
import FilterQuery.Proofs.Translation
import FilterQuery.Sql.Backend

namespace FilterQuery

open Sql

/-! Rendered filters are read back as the conditions that they were put together
from, whatever the storage keys are. -/

namespace Sql

def Condition.equality (first second : Nat) : Condition :=
  .predicate (.compare .equal (.number first) (.number second))

def Backend.occurrencePredicate (backend : Backend) (column : Scalar) (position : Position)
    (literal : String) : Predicate :=
  let bound := Scalar.bound (.string literal)
  let length := Scalar.call .length [bound]
  match backend, position with
  | .postgres, position =>
      .like column (.bound (.string (likePattern literal position))) ['\\']
  | .sqlite, .start => .compare .equal (.call .substr [column, .number 1, length]) bound
  | .sqlite, .finish => .compare .equal (.call .substr [column, .negative length]) bound
  | .sqlite, .anywhere => .compare .greater (.call .instr [column, bound]) (.number 0)

end Sql

/-- The column of a key: its parts between dots. -/
def Leaf.column (leaf : Leaf) : Scalar :=
  .column (leaf.key.toList.splitOn '.')

/-- The one predicate that a leaf stands for, where a list without members is
decided at once. -/
def Leaf.condition (backend : Backend) (leaf : Leaf) : Condition :=
  match leaf.test with
  | .compare comparator value => .predicate (.compare comparator leaf.column (.bound value))
  | .oneOf values =>
      if values = [] then .equality 1 0
      else .predicate (.elementOf false leaf.column (values.map .bound))
  | .noneOf values =>
      if values = [] then .equality 1 1
      else .predicate (.elementOf true leaf.column (values.map .bound))
  | .occurs position literal =>
      if literal = "" then .predicate (.isNull true leaf.column)
      else .predicate (backend.occurrencePredicate leaf.column position literal)
  | .isNull => .predicate (.isNull false leaf.column)
  | .notNull => .predicate (.isNull true leaf.column)

/-- The condition of a plan has its shape; empty junctions are constants. -/
def Plan.condition (backend : Backend) : Plan → Condition
  | .leaf predicate => predicate.condition backend
  | .all plans =>
      if plans = [] then .equality 1 1 else .all (plans.map fun plan => plan.condition backend)
  | .any plans =>
      if plans = [] then .equality 1 0 else .any (plans.map fun plan => plan.condition backend)

namespace Sql

variable {backend : Backend}

theorem join_spells {separator : String} {lexeme : Lexeme} (gap : Gap separator.toList [lexeme])
    {members : List (Fragment × Tokens)} (nonempty : members ≠ [])
    (each : ∀ member ∈ members, Spells backend member.1.symbols member.2) :
    Spells backend (Fragment.join separator (members.map (·.1))).symbols
      (separated lexeme (members.map (·.2))) := by
  induction members with
  | nil => contradiction
  | cons first members inductionHypothesis =>
      obtain ⟨spellsFirst, spellsOthers⟩ := List.forall_mem_cons.mp each
      cases members with
      | nil => simpa [separated, Fragment.join] using spellsFirst
      | cons second members =>
          rw [List.map_cons, List.map_cons, Fragment.symbols_join_cons_cons, List.append_assoc,
            List.map_cons, List.map_cons, separated_cons_cons]
          exact spellsFirst.aroundGap gap (inductionHypothesis (List.cons_ne_nil _ _) spellsOthers)

/-- The fragment is one operand of junctions, namely the condition. -/
def Expresses (backend : Backend) (fragment : Fragment) (condition : Condition) : Prop :=
  ∃ tokens, Spells backend fragment.symbols tokens ∧ condition.DerivesOperand tokens

theorem column_spells (leaf : Leaf) :
    Spells backend (Symbol.ofChars (quoteKey leaf.key).toList)
      (fixed (path (leaf.key.toList.splitOn '.'))) :=
  .ofText (reads_quoteKey leaf.key)

theorem column_derives (leaf : Leaf) :
    leaf.column.Derives (fixed (path (leaf.key.toList.splitOn '.'))) :=
  .column (List.splitOn_ne_nil _ _)

theorem gap_sign (comparator : Comparator) :
    Gap (" " ++ Backend.comparisonSign comparator ++ " ").toList [.sign comparator] := by
  cases comparator <;> exact ⟨rfl, closes_of_run rfl⟩

theorem compare_expresses (leaf : Leaf) (comparator : Comparator) (value : Value) :
    Expresses backend (.ofText (quoteKey leaf.key ++ " " ++ Backend.comparisonSign comparator ++ " ") ++
        .ofParameter value)
      (.predicate (.compare comparator leaf.column (.bound value))) := by
  have spells : Spells backend _ _ :=
    (column_spells leaf).aroundGap (gap_sign comparator) (.ofParameter value)
  refine ⟨_, ?_, .predicate (.compare comparator (column_derives leaf) (.bound value))⟩
  simpa using spells

theorem null_expresses (leaf : Leaf) {words : String} {negated : Bool}
    (begins : parted words.toList = true)
    (reads : Reads words.toList (fixed (nullWords negated))) :
    Expresses backend (.ofText (quoteKey leaf.key ++ words))
      (.predicate (.isNull negated leaf.column)) := by
  have spells : Spells backend _ _ := (column_spells leaf).beforeText begins reads
  refine ⟨_, ?_, .predicate (.isNull negated (column_derives leaf))⟩
  simpa using spells

theorem isNull_expresses (leaf : Leaf) :
    Expresses backend (.ofText (quoteKey leaf.key ++ " IS NULL"))
      (.predicate (.isNull false leaf.column)) :=
  null_expresses leaf rfl
    (reads_of_run [.lexeme (.keyword .is)] (.word "NULL".toList) rfl rfl rfl)

theorem notNull_expresses (leaf : Leaf) :
    Expresses backend (.ofText (quoteKey leaf.key ++ " IS NOT NULL"))
      (.predicate (.isNull true leaf.column)) :=
  null_expresses leaf rfl
    (reads_of_run [.lexeme (.keyword .is), .lexeme (.keyword .not)] (.word "NULL".toList)
      rfl rfl rfl)

theorem equality_expresses (first second : Nat) {text : String}
    (reads : Reads text.toList (fixed [.number first, .sign .equal, .number second])) :
    Expresses backend (.ofText text) (.equality first second) := by
  have spells : Spells backend _ _ := .ofText reads
  refine ⟨_, ?_, .predicate (.compare .equal (.number first) (.number second))⟩
  simpa [fixed] using spells

theorem always_expresses : Expresses backend (.ofText Backend.always) (.equality 1 1) :=
  equality_expresses 1 1
    (reads_of_run [.lexeme (.number 1), .lexeme (.sign .equal)] (.number ['1']) rfl rfl rfl)

theorem never_expresses : Expresses backend (.ofText Backend.never) (.equality 1 0) :=
  equality_expresses 1 0
    (reads_of_run [.lexeme (.number 1), .lexeme (.sign .equal)] (.number ['0']) rfl rfl rfl)

theorem gap_comma : Gap ", ".toList [.comma] :=
  ⟨rfl, closes_of_run rfl⟩

theorem values_spell {values : List Value} (nonempty : values ≠ []) :
    Spells backend (Fragment.join ", " (values.map .ofParameter)).symbols
      (separated .comma (values.map fun value => [.placeholder value])) := by
  have each : ∀ member ∈ values.map fun value => (Fragment.ofParameter value, [Token.placeholder value]),
      Spells backend member.1.symbols member.2 := by
    rw [List.forall_mem_map]
    exact fun value _ => .ofParameter value
  simpa [Function.comp_def] using join_spells gap_comma (by simpa using nonempty) each

theorem membership_expresses (leaf : Leaf) (whenEmpty : String) {keyword : String} {negated : Bool}
    {values : List Value} (nonempty : values ≠ [])
    (gap : Gap (" " ++ keyword ++ " (").toList (elementWords negated)) :
    Expresses backend (Backend.membership (quoteKey leaf.key) keyword whenEmpty values)
      (.predicate (.elementOf negated leaf.column (values.map .bound))) := by
  have closing : Closes ")".toList (fixed [.closing]) := closes_of_run rfl
  have spells : Spells backend _ _ := (column_spells leaf).aroundGap gap
    ((values_spell nonempty).beforeText rfl closing.reads)
  have each : ∀ choice ∈ values.map fun value => (Scalar.bound value, [Token.placeholder value]),
      choice.1.Derives choice.2 := by
    rw [List.forall_mem_map]
    exact fun value _ => .bound value
  have derives := Predicate.Derives.elementOf negated (column_derives leaf)
    (by simpa using nonempty) each
  rw [Backend.membership, if_neg nonempty]
  refine ⟨_, ?_, .predicate (by simpa [Function.comp_def] using derives)⟩
  simpa using spells

theorem like_expresses (leaf : Leaf) (pattern : String) :
    Expresses backend (.ofText (quoteKey leaf.key ++ " LIKE ") ++ .ofParameter (.string pattern) ++
        .ofText " ESCAPE '\\'")
      (.predicate (.like leaf.column (.bound (.string pattern)) ['\\'])) := by
  have gap : Gap " LIKE ".toList [.keyword .like] := ⟨rfl, closes_of_run rfl⟩
  have escape : Reads " ESCAPE '\\'".toList (fixed [.keyword .escape, .literal ['\\']]) :=
    reads_of_run [.lexeme (.keyword .escape)] (.literal ['\\'] true) rfl rfl rfl
  have spells : Spells backend _ _ := (column_spells leaf).aroundGap gap
    ((Spells.ofParameter (.string pattern)).beforeText rfl escape)
  refine ⟨_, ?_, .predicate (.like ['\\'] (column_derives leaf) (.bound (.string pattern)))⟩
  simpa using spells

theorem call_derives (function : Function) (arguments : List (Scalar × Tokens))
    (nonempty : arguments ≠ [])
    (derives : ∀ argument ∈ arguments, argument.1.Derives argument.2) :
    (Scalar.call function (arguments.map (·.1))).Derives (fixed [.function function, .opening] ++
      (separated .comma (arguments.map (·.2)) ++ fixed [.closing])) :=
  .call function nonempty derives

theorem length_derives (value : Value) :
    (Scalar.call .length [.bound value]).Derives
      (fixed [.function .length, .opening] ++ ([.placeholder value] ++ fixed [.closing])) := by
  have derives := call_derives .length [(.bound value, [.placeholder value])] (by simp)
    (List.forall_mem_singleton.mpr (.bound value))
  simpa [separated] using derives

theorem gap_equality : Gap ")) = ".toList [.closing, .closing, .sign .equal] :=
  ⟨rfl, closes_of_run rfl⟩

theorem start_expresses (leaf : Leaf) (literal : String) :
    Expresses backend (Backend.occurrence .sqlite (quoteKey leaf.key) .start literal)
      (.predicate (Backend.occurrencePredicate .sqlite leaf.column .start literal)) := by
  have opens : Closes "substr(".toList (fixed [.function .substr, .opening]) := closes_of_run rfl
  have inside : Gap ", 1, length(".toList
      [.comma, .number 1, .comma, .function .length, .opening] := ⟨rfl, closes_of_run rfl⟩
  have bound : Spells backend _ _ := .ofParameter (.string literal)
  have spells := ((column_spells leaf).aroundGap inside
    (bound.aroundGap gap_equality bound)).afterText opens
  have call := call_derives .substr
    [(leaf.column, _), (.number 1, _), (.call .length [.bound (.string literal)], _)] (by simp)
    (List.forall_mem_cons.mpr ⟨column_derives leaf, List.forall_mem_cons.mpr ⟨.number 1,
      List.forall_mem_singleton.mpr (length_derives (.string literal))⟩⟩)
  have derives := Predicate.Derives.compare .equal call (.bound (.string literal))
  simp only [Expresses, Backend.occurrence, Fragment.symbols_append, Fragment.symbols_ofText,
    Fragment.symbols_ofParameter, String.toList_append, Symbol.ofChars_append, List.append_assoc]
  refine ⟨_, spells, .predicate ?_⟩
  simpa [Backend.occurrencePredicate, separated, fixed] using derives

theorem finish_expresses (leaf : Leaf) (literal : String) :
    Expresses backend (Backend.occurrence .sqlite (quoteKey leaf.key) .finish literal)
      (.predicate (Backend.occurrencePredicate .sqlite leaf.column .finish literal)) := by
  have opens : Closes "substr(".toList (fixed [.function .substr, .opening]) := closes_of_run rfl
  have inside : Gap ", -length(".toList [.comma, .minus, .function .length, .opening] :=
    ⟨rfl, closes_of_run rfl⟩
  have bound : Spells backend _ _ := .ofParameter (.string literal)
  have spells := ((column_spells leaf).aroundGap inside
    (bound.aroundGap gap_equality bound)).afterText opens
  have call := call_derives .substr
    [(leaf.column, _), (.negative (.call .length [.bound (.string literal)]), _)] (by simp)
    (List.forall_mem_cons.mpr ⟨column_derives leaf,
      List.forall_mem_singleton.mpr (.negative (length_derives (.string literal)))⟩)
  have derives := Predicate.Derives.compare .equal call (.bound (.string literal))
  simp only [Expresses, Backend.occurrence, Fragment.symbols_append, Fragment.symbols_ofText,
    Fragment.symbols_ofParameter, String.toList_append, Symbol.ofChars_append, List.append_assoc]
  refine ⟨_, spells, .predicate ?_⟩
  simpa [Backend.occurrencePredicate, separated, fixed] using derives

theorem anywhere_expresses (leaf : Leaf) (literal : String) :
    Expresses backend (Backend.occurrence .sqlite (quoteKey leaf.key) .anywhere literal)
      (.predicate (Backend.occurrencePredicate .sqlite leaf.column .anywhere literal)) := by
  have opens : Closes "instr(".toList (fixed [.function .instr, .opening]) := closes_of_run rfl
  have positive : Reads ") > 0".toList (fixed [.closing, .sign .greater, .number 0]) :=
    reads_of_run [.lexeme .closing, .lexeme (.sign .greater)] (.number ['0']) rfl rfl rfl
  have bound : Spells backend _ _ := .ofParameter (.string literal)
  have spells := ((column_spells leaf).aroundGap gap_comma
    (bound.beforeText rfl positive)).afterText opens
  have call := call_derives .instr
    [(leaf.column, _), (.bound (.string literal), _)] (by simp)
    (List.forall_mem_cons.mpr ⟨column_derives leaf,
      List.forall_mem_singleton.mpr (.bound (.string literal))⟩)
  have derives := Predicate.Derives.compare .greater call (.number 0)
  simp only [Expresses, Backend.occurrence, Fragment.symbols_append, Fragment.symbols_ofText,
    Fragment.symbols_ofParameter, String.toList_append, Symbol.ofChars_append, List.append_assoc]
  refine ⟨_, spells, .predicate ?_⟩
  simpa [Backend.occurrencePredicate, separated, fixed] using derives

theorem occurrence_expresses (leaf : Leaf) (position : Position) (literal : String) :
    Expresses backend (backend.occurrence (quoteKey leaf.key) position literal)
      (.predicate (backend.occurrencePredicate leaf.column position literal)) := by
  cases backend with
  | postgres => exact like_expresses leaf (likePattern literal position)
  | sqlite =>
      cases position with
      | start => exact start_expresses leaf literal
      | finish => exact finish_expresses leaf literal
      | anywhere => exact anywhere_expresses leaf literal

theorem leaf_expresses (leaf : Leaf) :
    Expresses backend (backend.condition leaf) (leaf.condition backend) := by
  unfold Backend.condition Leaf.condition
  cases leaf.test with
  | compare comparator value => exact compare_expresses leaf comparator value
  | oneOf values =>
      by_cases empty : values = []
      · simpa [empty, Backend.membership] using never_expresses
      · have gap : Gap (" " ++ "IN" ++ " (").toList (elementWords false) :=
          ⟨rfl, closes_of_run rfl⟩
        simpa [empty] using membership_expresses leaf Backend.never empty gap
  | noneOf values =>
      by_cases empty : values = []
      · simpa [empty, Backend.membership] using always_expresses
      · have gap : Gap (" " ++ "NOT IN" ++ " (").toList (elementWords true) :=
          ⟨rfl, closes_of_run rfl⟩
        simpa [empty] using membership_expresses leaf Backend.always empty gap
  | occurs position literal =>
      by_cases empty : literal = ""
      · simpa [empty] using notNull_expresses leaf
      · simpa [empty] using occurrence_expresses leaf position literal
  | isNull => exact isNull_expresses leaf
  | notNull => exact notNull_expresses leaf

theorem junction_spells {word : String} (whenEmpty : String) {lexeme : Lexeme}
    (gap : Gap (" " ++ word ++ " ").toList [lexeme]) {members : List (Fragment × Tokens)}
    (nonempty : members ≠ [])
    (each : ∀ member ∈ members, Spells backend member.1.symbols member.2) :
    Spells backend (Backend.junction word whenEmpty (members.map (·.1))).symbols
      (fixed [.opening] ++ (separated lexeme (members.map (·.2)) ++ fixed [.closing])) := by
  have opening : Closes "(".toList (fixed [.opening]) := closes_of_run rfl
  have closing : Closes ")".toList (fixed [.closing]) := closes_of_run rfl
  have spells := ((join_spells gap nonempty each).beforeText rfl closing.reads).afterText opening
  unfold Backend.junction
  split
  · rename_i none
    simp [nonempty] at none
  · simpa using spells

section Junctions

variable {fragmentOf : Plan → Fragment} {conditionOf : Plan → Condition} {plans : List Plan}

theorem exists_tokens (each : ∀ plan ∈ plans, Expresses backend (fragmentOf plan) (conditionOf plan)) :
    ∃ tokensOf : Plan → Tokens, ∀ plan ∈ plans,
      Spells backend (fragmentOf plan).symbols (tokensOf plan) ∧
        (conditionOf plan).DerivesOperand (tokensOf plan) := by
  have exists_for : ∀ plan, ∃ tokens, plan ∈ plans →
      Spells backend (fragmentOf plan).symbols tokens ∧ (conditionOf plan).DerivesOperand tokens := by
    intro plan
    by_cases member : plan ∈ plans
    · obtain ⟨tokens, spells, derives⟩ := each plan member
      exact ⟨tokens, fun _ => ⟨spells, derives⟩⟩
    · exact ⟨[], fun present => absurd present member⟩
  exact Classical.skolem.mp exists_for

theorem junction_expresses {word whenEmpty : String} {lexeme : Lexeme} {empty : Condition}
    {join : List Condition → Condition} (gap : Gap (" " ++ word ++ " ").toList [lexeme])
    (constant : Expresses backend (.ofText whenEmpty) empty)
    (derives : ∀ operands : List (Condition × Tokens), operands.length ≠ 1 → operands ≠ [] →
      (∀ operand ∈ operands, operand.1.DerivesOperand operand.2) →
      (join (operands.map (·.1))).DerivesOperand (fixed [.opening] ++
        (separated lexeme (operands.map (·.2)) ++ fixed [.closing])))
    (several : plans.length ≠ 1)
    (each : ∀ plan ∈ plans, Expresses backend (fragmentOf plan) (conditionOf plan)) :
    Expresses backend (Backend.junction word whenEmpty (plans.map fragmentOf))
      (if plans = [] then empty else join (plans.map conditionOf)) := by
  by_cases none : plans = []
  · simpa [none, Backend.junction] using constant
  -- one choice of tokens serves both what is written and what is derived
  obtain ⟨tokensOf, both⟩ := exists_tokens each
  have spellEach : ∀ member ∈ plans.map fun plan => (fragmentOf plan, tokensOf plan),
      Spells backend member.1.symbols member.2 :=
    List.forall_mem_map.mpr fun plan member => (both plan member).1
  have deriveEach : ∀ operand ∈ plans.map fun plan => (conditionOf plan, tokensOf plan),
      operand.1.DerivesOperand operand.2 :=
    List.forall_mem_map.mpr fun plan member => (both plan member).2
  have spells := junction_spells whenEmpty gap (by simpa using none) spellEach
  have derived := derives _ (by simpa using several) (by simpa using none) deriveEach
  rw [if_neg none]
  rw [List.map_map, List.map_map] at spells derived
  exact ⟨_, spells, derived⟩

end Junctions

def PlanExpresses (backend : Backend) (plan : Plan) : Prop :=
  Expresses backend (plan.write backend.target) (plan.condition backend)

theorem all_expresses {plans : List Plan} (several : plans.length ≠ 1)
    (each : ∀ plan ∈ plans, PlanExpresses backend plan) : PlanExpresses backend (.all plans) := by
  have gap : Gap (" " ++ "AND" ++ " ").toList [.keyword .and] := ⟨rfl, closes_of_run rfl⟩
  rw [PlanExpresses, Plan.write_all, Plan.condition]
  exact junction_expresses gap always_expresses (fun _ => Condition.all_derives) several each

theorem any_expresses {plans : List Plan} (several : plans.length ≠ 1)
    (each : ∀ plan ∈ plans, PlanExpresses backend plan) : PlanExpresses backend (.any plans) := by
  have gap : Gap (" " ++ "OR" ++ " ").toList [.keyword .or] := ⟨rfl, closes_of_run rfl⟩
  rw [PlanExpresses, Plan.write_any, Plan.condition]
  exact junction_expresses gap never_expresses (fun _ => Condition.any_derives) several each

theorem collapse_expresses {junction : List Plan → Plan}
    (joined : ∀ plans, plans.length ≠ 1 → (∀ plan ∈ plans, PlanExpresses backend plan) →
      PlanExpresses backend (junction plans)) (plans : List Plan) :
    (∀ plan ∈ plans, PlanExpresses backend plan) → PlanExpresses backend (.collapse junction plans) :=
  Plan.collapse_cases (motive := fun plans plan =>
    (∀ plan ∈ plans, PlanExpresses backend plan) → PlanExpresses backend plan)
    (fun _ each => each _ List.mem_cons_self) joined plans

/-- Accepted or not, the plan of an expression is written as its condition. -/
theorem plan_expresses (backend : Backend) (fields : FieldMap) (expression : Expression) :
    PlanExpresses backend (expression.plan fields) := by
  induction expression with
  | all children inductionHypothesis =>
      rw [Expression.plan]
      exact collapse_expresses (fun _ => all_expresses) _ (List.forall_mem_map.mpr inductionHypothesis)
  | any children inductionHypothesis =>
      rw [Expression.plan]
      exact collapse_expresses (fun _ => any_expresses) _ (List.forall_mem_map.mpr inductionHypothesis)
  | comparison selector symbol arguments =>
      have nothing : PlanExpresses backend (.any []) :=
        any_expresses (by simp) fun _ member => absurd member List.not_mem_nil
      rw [Expression.plan, FieldMap.comparison]
      split
      · split
        · exact nothing
        · rw [PlanExpresses, Plan.write_leaf, Plan.condition]
          exact leaf_expresses _
      · exact nothing

theorem tokens?_of_accepted {request : Request} {expression : Expression} {fragment : Fragment}
    (accepted : backend.target.translate request expression = .ok fragment) :
    ∃ tokens, (backend.render fragment).tokens? = some tokens ∧
      ((expression.plan request.fields).condition backend).DerivesOperand tokens := by
  obtain ⟨tokens, spells, operand⟩ := plan_expresses backend request.fields expression
  rw [← Target.filter_eq_write accepted] at spells
  exact ⟨tokens, spells.tokens?_render, operand⟩

def Statement.condition? (statement : Statement) : Option Condition := do
  Condition.parse? (← statement.tokens?)

theorem condition?_render {request : Request} {expression : Expression} {fragment : Fragment}
    (accepted : backend.target.translate request expression = .ok fragment) :
    (backend.render fragment).condition? =
      some ((expression.plan request.fields).condition backend) := by
  obtain ⟨tokens, read, operand⟩ := tokens?_of_accepted accepted
  rw [Statement.condition?, read]
  exact operand.derives.parse?

/-- The tokens of what is rendered for an accepted expression derive the condition
of its plan, and no other condition. -/
theorem Backend.rendered_reads_back (backend : Backend) {request : Request}
    {expression : Expression} {fragment : Fragment}
    (accepted : backend.target.translate request expression = .ok fragment) :
    ∃ tokens, (backend.render fragment).tokens? = some tokens ∧
      Condition.parse? tokens = some ((expression.plan request.fields).condition backend) ∧
      ∀ condition : Condition, condition.Derives tokens ↔
        condition = (expression.plan request.fields).condition backend := by
  obtain ⟨tokens, read, operand⟩ := tokens?_of_accepted accepted
  have derives := operand.derives
  refine ⟨tokens, read, derives.parse?, fun condition => ⟨fun other => other.unique derives, ?_⟩⟩
  rintro rfl
  exact derives

theorem Backend.prefix_of_title_reads_back :
    ∃ fragment, Backend.sqlite.target.translate ⟨.books, .reject⟩
        (.any [.comparison "title" "=prefix=" ["x"], .all []]) = .ok fragment ∧
      ∃ tokens, (Backend.sqlite.render fragment).tokens? = some tokens ∧
        Condition.parse? tokens = some (((Expression.any
          [.comparison "title" "=prefix=" ["x"], .all []]).plan .books).condition .sqlite) ∧
        ∀ condition : Condition, condition.Derives tokens ↔ condition = ((Expression.any
          [.comparison "title" "=prefix=" ["x"], .all []]).plan .books).condition .sqlite := by
  obtain ⟨fragment, accepted⟩ : Backend.sqlite.target.Accepts ⟨.books, .reject⟩
    (.any [.comparison "title" "=prefix=" ["x"], .all []]) := ⟨_, rfl⟩
  exact ⟨fragment, accepted, rendered_reads_back .sqlite accepted⟩

end Sql

end FilterQuery
