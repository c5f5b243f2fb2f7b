import FilterQuery.Proofs.Registrations
import FilterQuery.Proofs.Sql.Occurrences
import FilterQuery.Proofs.Sql.ReadBack

namespace FilterQuery

/-! Statements select the rows that expressions hold for, on every backend, as long as U+0000 is
neither in a literal nor in a text of the row. -/

def Test.LiteralUnterminated : Test → Prop
  | .occurs _ literal => Unterminated literal
  | _ => True

def Expression.LiteralsUnterminated (expression : Expression) : Prop :=
  ∀ comparison ∈ expression.comparisons, ∀ literal ∈ comparison.arguments, Unterminated literal

def Sql.TextsUnterminated (row : List (List Char) → Value) : Prop :=
  ∀ names text, row names = .string text → Unterminated text

/-- A test looks for a literal only if the comparison was made with it. -/
theorem Field.Accepts.test_literalUnterminated {field : Field} {operator : Operator}
    {literals : List String} (accepts : field.Accepts operator literals)
    (allowed : operator ∈ [Operator.isNull, .notNull] ∨ field.kind.allows operator = true)
    (each : ∀ literal ∈ literals, Unterminated literal) :
    (operator.test (field.values literals)).LiteralUnterminated := by
  by_cases pattern : operator ∈ [Operator.startsWith, .endsWith, .contains]
  · have kind : field.kind = .string := by
      refine ValueKind.eq_string_of_allows (allowed.resolve_left fun test => ?_) pattern
      cases operator <;> simp at test pattern
    obtain ⟨literal, rfl, values⟩ := accepts.text_eq kind pattern
    have unterminated := each literal (List.mem_singleton_self literal)
    rw [values]
    cases operator <;> simp at pattern <;> exact unterminated
  · cases operator <;> first | exact trivial | simp at pattern

theorem Expression.leaf_literalUnterminated {φ : Type} {target : Target φ} {request : Request}
    (built : request.fields.Built) {expression : Expression}
    (accepted : target.Accepts request expression)
    (unterminated : expression.LiteralsUnterminated) :
    ∀ leaf ∈ (expression.plan request.fields).leaves, leaf.test.LiteralUnterminated := by
  intro leaf member
  rw [leaves_plan, List.mem_flatMap] at member
  obtain ⟨comparison, listed, within⟩ := member
  obtain ⟨field, operator, names⟩ := names_exist built accepted comparison listed
  obtain ⟨_, rfl⟩ := names.mem_leaves_iff.mp within
  exact names.accepts.test_literalUnterminated names.allowed (unterminated comparison listed)

namespace Sql

/-- The truth value exists, and it is truth in just the one case. -/
def Decides (truth? : Option Truth) (meaning : Prop) : Prop :=
  ∃ truth, truth? = some truth ∧ (truth = .holds ↔ meaning)

theorem sequence?_map {α β : Type} {f : α → Option β} {value : α → β} {members : List α}
    (each : ∀ member ∈ members, f member = some (value member)) :
    sequence? (members.map f) = some (members.map value) := by
  induction members with
  | nil => rfl
  | cons member members inductionHypothesis =>
      obtain ⟨first, others⟩ := List.forall_mem_cons.mp each
      have rest := inductionHypothesis others
      rw [sequence?] at rest ⊢
      rw [List.map_cons, List.mapM_cons, first, rest]
      rfl

def relation (comparator : Comparator) (stored operand : Value) : Truth :=
  match stored.compare? operand with
  | none => .unknown
  | some order => .ofBool (comparator.accepts order)

theorem relation_eq_holds (comparator : Comparator) (stored operand : Value) :
    relation comparator stored operand = .holds ↔
      ∃ order, stored.compare? operand = some order ∧ comparator.accepts order = true := by
  unfold relation
  split <;> simp_all

theorem relation_eq_fails (comparator : Comparator) (stored operand : Value) :
    relation comparator stored operand = .fails ↔
      ∃ order, stored.compare? operand = some order ∧ comparator.accepts order = false := by
  unfold relation
  split <;> simp_all

theorem equal_accepts_iff (order : Ordering) : Comparator.equal.accepts order = true ↔ order = .eq := by
  cases order <;> decide

section Leaves

variable {backend : Backend} {call? : Calls} {row : List (List Char) → Value}
  {stored operand : Value} {operands : List Value} {kind : ValueKind}

theorem relates?_eq_relation (comparator : Comparator)
    (suits : stored = .null ∨ stored.isOf kind = true) (operandOf : operand.isOf kind = true) :
    (Datum.value stored).relates? comparator (.value operand) =
      some (relation comparator stored operand) := by
  have operandPresent := Value.ne_null_of_isOf operandOf
  rcases suits with rfl | storedOf
  · simp [Datum.relates?, Datum.compare?, relation]
  · obtain ⟨order, compared⟩ := Value.compare?_exists storedOf operandOf
    have storedPresent := Value.ne_null_of_isOf storedOf
    simp [Datum.relates?, Datum.compare?, relation, storedPresent, operandPresent, compared]

theorem equalities_eq (suits : stored = .null ∨ stored.isOf kind = true)
    (each : ∀ operand ∈ operands, operand.isOf kind = true) :
    sequence? ((operands.map Datum.value).map ((Datum.value stored).relates? .equal)) =
      some (operands.map (relation .equal stored)) := by
  rw [List.map_map]
  exact sequence?_map fun operand member => relates?_eq_relation .equal suits (each operand member)

theorem bound_eq (operands : List Value) :
    sequence? ((operands.map Scalar.bound).map (Scalar.datum? call? row)) =
      some (operands.map Datum.value) := by
  rw [List.map_map]
  exact sequence?_map fun operand _ => by simp [Scalar.datum?]

theorem any_relation_eq_holds (operands : List Value) :
    Truth.any (operands.map (relation .equal stored)) = .holds ↔
      (Test.oneOf operands).Holds stored := by
  rw [Truth.any_eq_holds]
  simp only [List.mem_map, exists_exists_and_eq_and, relation_eq_holds, equal_accepts_iff,
    Test.Holds, exists_eq_right]

theorem any_relation_eq_fails (nonempty : operands ≠ [])
    (suits : stored = .null ∨ stored.isOf kind = true)
    (each : ∀ operand ∈ operands, operand.isOf kind = true) :
    Truth.any (operands.map (relation .equal stored)) = .fails ↔
      (Test.noneOf operands).Holds stored := by
  rw [Truth.any_eq_fails, List.forall_mem_map]
  simp only [relation_eq_fails, Test.Holds]
  rcases suits with rfl | storedOf
  -- null is unknown against the first operand already, and there is one
  · obtain ⟨operand, member⟩ := List.exists_mem_of_ne_nil operands nonempty
    simp only [Value.compare?_null, reduceCtorEq, false_and, exists_false, ne_eq, not_true_eq_false]
    exact iff_false_intro fun absent => absent operand member
  · have storedPresent := Value.ne_null_of_isOf storedOf
    simp only [ne_eq, storedPresent, not_false_eq_true, true_and]
    refine forall₂_congr fun operand member => ?_
    obtain ⟨order, compared⟩ := Value.compare?_exists storedOf (each operand member)
    simp [compared, ← equal_accepts_iff]

theorem null_decides (backend : Backend) (call? : Calls) (row : List (List Char) → Value)
    (leaf : Leaf) (negated : Bool) :
    Decides ((Condition.predicate (.isNull negated leaf.column)).truth? backend call? row)
      ((row (leaf.key.toList.splitOn '.') = .null) ≠ (negated = true)) := by
  refine ⟨_, by simp [Condition.truth?, Predicate.truth?, Leaf.column, Scalar.datum?]; rfl, ?_⟩
  cases negated <;> simp [Datum.isNull, Datum.null]

theorem always_decides :
    Decides ((Condition.equality 1 1).truth? backend call? row) True :=
  ⟨.holds, by simp [Condition.equality, Condition.truth?, Predicate.truth?, Scalar.datum?]; rfl,
    by simp⟩

theorem never_decides :
    Decides ((Condition.equality 1 0).truth? backend call? row) False :=
  ⟨.fails, by simp [Condition.equality, Condition.truth?, Predicate.truth?, Scalar.datum?]; rfl,
    by simp⟩

theorem occurs_null (position : Position) (literal : String) :
    ¬ (Test.occurs position literal).Holds .null := by
  rintro ⟨text, equal, _⟩
  contradiction

theorem occurs_string_iff (position : Position) (literal text : String) :
    (Test.occurs position literal).Holds (.string text) ↔
      position.Occurs literal.toList text.toList := by
  constructor
  · rintro ⟨_, ⟨⟩, occurs⟩
    exact occurs
  · exact fun occurs => ⟨text, rfl, occurs⟩

theorem occurrence_null (documented : call?.AsDocumented) (leaf : Leaf) (position : Position)
    (literal : String) (column : row (leaf.key.toList.splitOn '.') = .null) :
    (backend.occurrencePredicate leaf.column position literal).truth? backend call? row =
      some .unknown := by
  have length := documented.length literal
  cases backend with
  | postgres =>
      simp [Backend.occurrencePredicate, Predicate.truth?, Leaf.column, Scalar.datum?, column,
        Backend.like?, Datum.isNull, Datum.null]
  | sqlite =>
      cases position with
      | start =>
          have called (count : Int) := documented.substr_null 1 [count] (Nat.le_refl _)
          simp only [Datum.null, List.map_cons, List.map_nil] at called
          simp [Backend.occurrencePredicate, Predicate.truth?, Leaf.column, Scalar.datum?, column,
            sequence?, length, called, Datum.relates?, Datum.compare?]
      | finish =>
          have called (start : Int) := documented.substr_null start [] (Nat.zero_le _)
          simp only [Datum.null, List.map_nil] at called
          simp [Backend.occurrencePredicate, Predicate.truth?, Leaf.column, Scalar.datum?, column,
            sequence?, length, called, Datum.relates?, Datum.compare?, Datum.negate?]
      | anywhere =>
          have called := documented.instr_null literal
          simp only [Datum.null] at called
          simp [Backend.occurrencePredicate, Predicate.truth?, Leaf.column, Scalar.datum?, column,
            sequence?, called, Datum.relates?, Datum.compare?]

theorem equal_string_decides (part : List Char) (literal : String) :
    Decides ((Datum.value (.string (.ofList part))).relates? .equal (.value (.string literal)))
      (literal.toList = part) := by
  refine ⟨relation .equal (.string (.ofList part)) (.string literal), by simp [Datum.relates?,
    Datum.compare?, relation, Value.compare?], ?_⟩
  rw [relation_eq_holds]
  simp only [equal_accepts_iff, exists_eq_right, Value.compare?_string_eq_iff]
  rw [← String.toList_inj, String.toList_ofList, eq_comm]

theorem positive_decides (number : Nat) :
    Decides ((Datum.count number).relates? .greater (.count (0 : Nat))) (0 < number) := by
  refine ⟨.ofBool (Comparator.greater.accepts (compare (number : Int) 0)), rfl, ?_⟩
  rw [Truth.ofBool_eq_holds, Comparator.accepts, beq_iff_eq, Int.compare_eq_gt, Int.natCast_pos]

/-- Texts of SQLite are compared with parts of the column that are as long. -/
theorem occurrence_string (documented : call?.AsDocumented) (leaf : Leaf) (position : Position)
    {literal text : String} (nonempty : literal ≠ "") (unterminated : Unterminated literal)
    (unterminatedText : Unterminated text)
    (column : row (leaf.key.toList.splitOn '.') = .string text) :
    Decides ((backend.occurrencePredicate leaf.column position literal).truth? backend call? row)
      (position.Occurs literal.toList text.toList) := by
  cases backend with
  | postgres =>
      obtain ⟨items, read, accepts⟩ := likePattern_accepts literal position
      refine ⟨.ofBool (PatternItem.accept Backend.postgres.sameInPattern items text.toList), ?_, ?_⟩
      · simp [Backend.occurrencePredicate, Predicate.truth?, Leaf.column, Scalar.datum?, column,
          Backend.like?, read]
      · rw [Truth.ofBool_eq_holds, accepts]
  | sqlite =>
      have length := documented.length_eq unterminated
      cases position with
      | start =>
          obtain ⟨part, called, same⟩ := documented.front_exists unterminatedText literal.toList
          rw [Position.Occurs, ← same]
          have decides := equal_string_decides part literal
          simpa [Backend.occurrencePredicate, Predicate.truth?, Leaf.column, Scalar.datum?, column,
            sequence?, length, called] using decides
      | finish =>
          have present : literal.toList ≠ [] := fun empty =>
            nonempty (String.toList_eq_nil_iff.mp empty)
          obtain ⟨part, called, same⟩ := documented.back_exists unterminatedText present
          rw [Position.Occurs, ← same]
          have decides := equal_string_decides part literal
          simpa [Backend.occurrencePredicate, Predicate.truth?, Leaf.column, Scalar.datum?, column,
            sequence?, length, called, Datum.negate?] using decides
      | anywhere =>
          have called := documented.instr unterminatedText unterminated
          rw [Position.Occurs, ← occurrencePlace_pos]
          have decides := positive_decides (occurrencePlace text.toList literal.toList)
          simpa [Backend.occurrencePredicate, Predicate.truth?, Leaf.column, Scalar.datum?, column,
            sequence?, called] using decides

theorem pattern_decides (documented : call?.AsDocumented) (leaf : Leaf) (position : Position)
    {literal : String} (unterminated : Unterminated literal)
    (column : row (leaf.key.toList.splitOn '.') = stored)
    (texts : ∀ text, stored = .string text → Unterminated text)
    (suits : stored = .null ∨ stored.isOf .string = true) :
    Decides ((if literal = "" then Condition.predicate (.isNull true leaf.column)
        else .predicate (backend.occurrencePredicate leaf.column position literal)).truth? backend call? row)
      ((Test.occurs position literal).Holds stored) := by
  by_cases empty : literal = ""
  · obtain ⟨truth, evaluated, same⟩ := null_decides backend call? row leaf true
    refine ⟨truth, by rwa [if_pos empty], same.trans ?_⟩
    rw [column]
    rcases suits with rfl | storedOf
    · simp [occurs_null]
    · obtain ⟨text, rfl⟩ := Value.exists_string_of_isOf storedOf
      rw [occurs_string_iff, empty]
      cases position <;> simp [Position.Occurs]
  · rw [if_neg empty, Condition.truth?]
    rcases suits with rfl | storedOf
    · exact ⟨.unknown, occurrence_null documented leaf position literal column, by simp [occurs_null]⟩
    · obtain ⟨text, rfl⟩ := Value.exists_string_of_isOf storedOf
      rw [occurs_string_iff]
      exact occurrence_string documented leaf position empty unterminated (texts text rfl) column

/-- The condition of a leaf is true where its test holds, and the database never
refuses to evaluate it. -/
theorem leaf_decides (documented : call?.AsDocumented) (leaf : Leaf)
    (column : row (leaf.key.toList.splitOn '.') = stored)
    (texts : ∀ text, stored = .string text → Unterminated text)
    (suits : stored = .null ∨ stored.isOf kind = true) (testSuits : leaf.test.Suits kind)
    (unterminated : leaf.test.LiteralUnterminated) :
    Decides ((leaf.condition backend).truth? backend call? row) (leaf.test.Holds stored) := by
  unfold Leaf.condition
  cases test : leaf.test with
  | compare comparator operand =>
      rw [test] at testSuits
      refine ⟨relation comparator stored operand, ?_, relation_eq_holds comparator stored operand⟩
      simp [Condition.truth?, Predicate.truth?, Leaf.column, Scalar.datum?, column,
        relates?_eq_relation comparator suits testSuits]
  | oneOf operands =>
      rw [test] at testSuits
      by_cases empty : operands = []
      · subst empty
        simpa [Test.Holds] using never_decides
      · refine ⟨Truth.any (operands.map (relation .equal stored)), ?_, any_relation_eq_holds operands⟩
        have equalities := equalities_eq suits testSuits
        simp only [if_neg empty, Condition.truth?, Predicate.truth?, Leaf.column, Scalar.datum?,
          column, Option.bind_eq_bind, Option.bind_some, bound_eq, equalities]
        rfl
  | noneOf operands =>
      rw [test] at testSuits
      obtain ⟨nonempty, each⟩ := testSuits
      refine ⟨(Truth.any (operands.map (relation .equal stored))).negate, ?_, ?_⟩
      · have equalities := equalities_eq suits each
        simp only [if_neg nonempty, Condition.truth?, Predicate.truth?, Leaf.column, Scalar.datum?,
          column, Option.bind_eq_bind, Option.bind_some, bound_eq, equalities]
        rfl
      · rw [Truth.negate_eq_holds]
        exact any_relation_eq_fails nonempty suits each
  | occurs position literal =>
      rw [test] at testSuits unterminated
      rw [show kind = .string from testSuits] at suits
      exact pattern_decides documented leaf position unterminated column texts suits
  | isNull =>
      obtain ⟨truth, evaluated, same⟩ := null_decides backend call? row leaf false
      exact ⟨truth, evaluated, by simpa [column, Test.Holds] using same⟩
  | notNull =>
      obtain ⟨truth, evaluated, same⟩ := null_decides backend call? row leaf true
      exact ⟨truth, evaluated, by simpa [column, Test.Holds] using same⟩

end Leaves

section Plans

variable {backend : Backend} {call? : Calls} {row : List (List Char) → Value} {plans : List Plan}
  {conditionOf : Plan → Condition} {meaning : Plan → Prop}

theorem Decides.getD {truth? : Option Truth} {meaning : Prop} (decides : Decides truth? meaning) :
    truth? = some (truth?.getD .unknown) ∧ (truth?.getD .unknown = .holds ↔ meaning) := by
  obtain ⟨truth, rfl, same⟩ := decides
  exact ⟨rfl, same⟩

theorem all_decides (each : ∀ plan ∈ plans,
    Decides ((conditionOf plan).truth? backend call? row) (meaning plan)) :
    Decides ((if plans = [] then Condition.equality 1 1
        else .all (plans.map conditionOf)).truth? backend call? row) (∀ plan ∈ plans, meaning plan) := by
  by_cases empty : plans = []
  · simpa [empty] using always_decides
  · rw [if_neg empty, Condition.truth?, List.map_map]
    have evaluated := sequence?_map fun plan member => (each plan member).getD.1
    refine ⟨_, congrArg (Option.map Truth.all) evaluated, ?_⟩
    rw [Truth.all_eq_holds, List.forall_mem_map]
    exact forall₂_congr fun plan member => (each plan member).getD.2

theorem any_decides (each : ∀ plan ∈ plans,
    Decides ((conditionOf plan).truth? backend call? row) (meaning plan)) :
    Decides ((if plans = [] then Condition.equality 1 0
        else .any (plans.map conditionOf)).truth? backend call? row) (∃ plan ∈ plans, meaning plan) := by
  by_cases empty : plans = []
  · simpa [empty] using never_decides
  · rw [if_neg empty, Condition.truth?, List.map_map]
    have evaluated := sequence?_map fun plan member => (each plan member).getD.1
    refine ⟨_, congrArg (Option.map Truth.any) evaluated, ?_⟩
    rw [Truth.any_eq_holds]
    simp only [List.mem_map, exists_exists_and_eq_and]
    exact exists_congr fun plan => and_congr_right fun member => (each plan member).getD.2

def storedIn (row : List (List Char) → Value) (key : String) : Value :=
  row (key.toList.splitOn '.')

theorem plan_decides (documented : call?.AsDocumented) (texts : TextsUnterminated row) (plan : Plan)
    (suits : ∀ leaf ∈ plan.leaves, leaf.test.LiteralUnterminated ∧ ∃ kind : ValueKind,
      leaf.test.Suits kind ∧
        (storedIn row leaf.key = .null ∨ (storedIn row leaf.key).isOf kind = true)) :
    Decides ((plan.condition backend).truth? backend call? row) (plan.Holds (storedIn row)) := by
  induction plan with
  | leaf predicate =>
      obtain ⟨unterminated, kind, testSuits, storedSuits⟩ := suits predicate (by simp [Plan.leaves])
      rw [Plan.condition, Plan.Holds]
      exact leaf_decides documented predicate rfl (texts _) storedSuits testSuits unterminated
  | all plans inductionHypothesis =>
      rw [Plan.condition, Plan.Holds]
      refine all_decides fun plan member => inductionHypothesis plan member fun leaf within => ?_
      exact suits leaf (by rw [Plan.leaves]; exact List.mem_flatMap.mpr ⟨plan, member, within⟩)
  | any plans inductionHypothesis =>
      rw [Plan.condition, Plan.Holds]
      simp only [exists_prop]
      refine any_decides fun plan member => inductionHypothesis plan member fun leaf within => ?_
      exact suits leaf (by rw [Plan.leaves]; exact List.mem_flatMap.mpr ⟨plan, member, within⟩)

end Plans

/-- Every backend accepts the expressions that one of them accepts, and what it
renders reads as a condition that is true for just the rows the expression holds
for.  Texts may have any characters but U+0000, and functions are known by what is
documented of them. -/
theorem statements_select {registry : Registry} (built : registry.Built) {entity : String}
    {group : Option String} {fields : FieldMap}
    (found : registry.lookupMap entity group = .ok fields) (unknown : UnknownMembers)
    {expression : Expression} {accepting : Backend}
    (accepted : accepting.target.Accepts ⟨fields, unknown⟩ expression)
    (unterminated : expression.LiteralsUnterminated) {row : List (List Char) → Value}
    (suits : expression.Suits fields (storedIn row)) (texts : TextsUnterminated row)
    {call? : Calls} (documented : call?.AsDocumented) (backend : Backend) :
    ∃ fragment condition truth,
      backend.target.translate ⟨fields, unknown⟩ expression = .ok fragment ∧
      (backend.render fragment).condition? = some condition ∧
      condition.truth? backend call? row = some truth ∧
      (truth = .holds ↔ expression.Holds fields (storedIn row)) := by
  have fieldsBuilt := Registry.lookupMap_built built found
  have recorded := (accepting.target.accepts_iff_recorded "" _ _).mp accepted
  obtain ⟨fragment, translated⟩ : backend.target.Accepts ⟨fields, unknown⟩ expression :=
    (backend.target.accepts_iff_recorded "" _ _).mpr recorded
  have meaning : expression.Holds fields (storedIn row) ↔ _ :=
    Expression.holds_iff_plan fieldsBuilt accepted
  obtain ⟨truth, evaluated, same⟩ : Decides
      (((expression.plan fields).condition backend).truth? backend call? row)
      ((expression.plan fields).Holds (storedIn row)) := by
    refine plan_decides documented texts _ fun leaf member => ?_
    obtain ⟨selector, selected, field, named, key, testSuits⟩ :=
      Expression.leaf_suits fieldsBuilt accepted leaf member
    refine ⟨Expression.leaf_literalUnterminated fieldsBuilt accepted unterminated leaf member,
      field.kind, testSuits, ?_⟩
    rw [key]
    exact suits selector selected field named
  exact ⟨fragment, _, truth, translated, condition?_render translated, evaluated,
    same.trans meaning.symm⟩

/-- The row of a book with a wildcard of patterns in its title. -/
def discountRow (names : List (List Char)) : Value :=
  if names = ["pages".toList] then .integer 120 else .string "10% off"

theorem statements_select_books :
    ∃ fragment condition truth,
      Backend.sqlite.target.translate ⟨.books, .reject⟩ (.any
        [.comparison "title" "=prefix=" ["10%"], .comparison "pages" "=gt=" ["100"]]) = .ok fragment ∧
      (Backend.sqlite.render fragment).condition? = some condition ∧
      condition.truth? .sqlite .sqlite discountRow = some truth ∧
      (truth = .holds ↔ (Expression.any
        [.comparison "title" "=prefix=" ["10%"], .comparison "pages" "=gt=" ["100"]]).Holds .books
        (storedIn discountRow)) := by
  have accepted : Backend.postgres.target.Accepts ⟨.books, .reject⟩ (.any
    [.comparison "title" "=prefix=" ["10%"], .comparison "pages" "=gt=" ["100"]]) := ⟨_, rfl⟩
  have unterminated : (Expression.any [.comparison "title" "=prefix=" ["10%"],
      .comparison "pages" "=gt=" ["100"]]).LiteralsUnterminated := by
    simp only [Expression.LiteralsUnterminated, Expression.comparisons, List.flatMap_cons,
      List.flatMap_nil, List.cons_append, List.nil_append]
    decide
  have texts : TextsUnterminated discountRow := by
    intro names text stored
    unfold discountRow at stored
    split at stored
    · contradiction
    · cases stored
      decide
  have built : Registry.books.Built := Registry.register_built "book" book_built
  refine statements_select built Registry.lookupMap_books .reject accepted unterminated ?_ texts
    Calls.sqlite_asDocumented .sqlite
  intro selector _ field found
  have member : field ∈ [bookTitle, bookPages] := FieldMap.mem_of_find? found
  rcases List.mem_cons.mp member with rfl | member
  · exact .inr (by decide)
  · obtain rfl := List.mem_singleton.mp member
    exact .inr (by decide)

end Sql

end FilterQuery
