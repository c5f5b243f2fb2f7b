import FilterQuery.Document
import FilterQuery.Proofs.Sql.Erasure

namespace FilterQuery

/-! The texts of arguments never become part of a filter's structure, whatever they
consist of. -/

namespace Document

def comparisonOperators : List String :=
  ["$eq", "$ne", "$gt", "$gte", "$lt", "$lte", "$regex"]

/-- An operand without the values in it.  Lists keep how many members they have. -/
def eraseOperand (operator : String) (operand : Json) : Json :=
  if operator ∈ comparisonOperators then .null
  else if operator ∈ ["$in", "$nin"] then
    match operand with
    | .array items => .array (List.replicate items.length .null)
    | operand => operand
  else operand

/-- A filter without the values that it compares with. -/
def erase : Json → Json
  | .object [(name, .array filters)] => .object [(name, .array (filters.map fun filter => erase filter))]
  | .object [(key, .object [(operator, operand)])] =>
      .object [(key, .object [(operator, eraseOperand operator operand)])]
  | filter => filter

theorem erase_clause (key operator : String) (operand : Json) :
    erase (clause key operator operand) = clause key operator (eraseOperand operator operand) := by
  rw [clause, erase, clause]

theorem comparisonName_mem (comparator : Comparator) :
    comparisonName comparator ∈ comparisonOperators := by
  cases comparator <;> decide

theorem erase_all (filters : List Json) : erase (all filters) = all (filters.map erase) := by
  cases filters with
  | nil => simp [all, erase]
  | cons filter filters => simp [all, erase]

theorem erase_any (filters : List Json) : erase (any filters) = any (filters.map erase) := by
  cases filters with
  | nil => simp [any, erase]
  | cons filter filters => simp [any, erase]

theorem erase_filter (leaf : Leaf) : erase (filter leaf) = erase (filter leaf.erase) := by
  obtain ⟨key, test⟩ := leaf
  cases test with
  | compare comparator value =>
      simp only [filter, Leaf.erase, Test.erase, erase_clause, eraseOperand,
        if_pos (comparisonName_mem comparator)]
  | oneOf values => simp [filter, Leaf.erase, Test.erase, erase_clause, eraseOperand, comparisonOperators]
  | noneOf values => simp [filter, Leaf.erase, Test.erase, erase_clause, eraseOperand, comparisonOperators]
  | occurs position literal =>
      simp [filter, Leaf.erase, Test.erase, erase_clause, eraseOperand, comparisonOperators]
  | isNull => rfl
  | notNull => rfl

theorem erase_write (plan : Plan) :
    erase (plan.write target) = erase (plan.erase.write target) := by
  induction plan with
  | leaf predicate =>
      rw [Plan.erase]
      exact erase_filter predicate
  | all plans inductionHypothesis =>
      rw [Plan.erase, Plan.write_all, Plan.write_all]
      change erase (all _) = erase (all _)
      simp only [erase_all, List.map_map]
      exact congrArg all (List.map_congr_left inductionHypothesis)
  | any plans inductionHypothesis =>
      rw [Plan.erase, Plan.write_any, Plan.write_any]
      change erase (any _) = erase (any _)
      simp only [erase_any, List.map_map]
      exact congrArg any (List.map_congr_left inductionHypothesis)

end Document

/-- Accepted expressions that differ in the texts of arguments only have the same text on
every backend of SQL, and the same document apart from operands. -/
theorem Expression.Alike.same_structure {fields : FieldMap} (built : fields.Built)
    {unknown unknownToo : UnknownMembers} {first second : Expression}
    (alike : first.Alike fields second)
    (accepted : Document.target.Accepts ⟨fields, unknown⟩ first)
    (acceptedToo : Document.target.Accepts ⟨fields, unknownToo⟩ second) :
    (∀ backend : Sql.Backend, ∃ fragment other,
      backend.target.translate ⟨fields, unknown⟩ first = .ok fragment ∧
      backend.target.translate ⟨fields, unknownToo⟩ second = .ok other ∧
      (backend.render fragment).text = (backend.render other).text) ∧
    (∃ document other,
      Document.target.translate ⟨fields, unknown⟩ first = .ok document ∧
      Document.target.translate ⟨fields, unknownToo⟩ second = .ok other ∧
      Document.erase document = Document.erase other) := by
  have same := alike.plan_erase built accepted acceptedToo
  refine ⟨fun backend => ?_, ?_⟩
  · have recorded := (Document.target.accepts_iff_recorded "" _ _).mp accepted
    have recordedToo := (Document.target.accepts_iff_recorded "" _ _).mp acceptedToo
    obtain ⟨fragment, translated⟩ := (backend.target.accepts_iff_recorded "" _ _).mpr recorded
    obtain ⟨other, translatedToo⟩ := (backend.target.accepts_iff_recorded "" _ _).mpr recordedToo
    refine ⟨fragment, other, translated, translatedToo, ?_⟩
    rw [Target.filter_eq_write translated, Target.filter_eq_write translatedToo]
    exact backend.text_eq_of_erase same
  · obtain ⟨document, translated⟩ := accepted
    obtain ⟨other, translatedToo⟩ := acceptedToo
    refine ⟨document, other, translated, translatedToo, ?_⟩
    rw [Target.filter_eq_write translated, Target.filter_eq_write translatedToo,
      Document.erase_write, same, ← Document.erase_write]

theorem Expression.titles_same_structure :
    (∀ backend : Sql.Backend, ∃ fragment other,
      backend.target.translate ⟨.books, .reject⟩ (.comparison "title" "=contains=" ["x"]) =
        .ok fragment ∧
      backend.target.translate ⟨.books, .reject⟩ (.comparison "title" "=contains=" ["' OR 1=1"]) =
        .ok other ∧
      (backend.render fragment).text = (backend.render other).text) ∧
    (∃ document other,
      Document.target.translate ⟨.books, .reject⟩ (.comparison "title" "=contains=" ["x"]) =
        .ok document ∧
      Document.target.translate ⟨.books, .reject⟩ (.comparison "title" "=contains=" ["' OR 1=1"]) =
        .ok other ∧
      Document.erase document = Document.erase other) := by
  refine Alike.same_structure FieldMap.books_built (.comparison rfl fun field operator found _ => ?_)
    ⟨_, rfl⟩ ⟨_, rfl⟩
  have title : FieldMap.books.find? "title" = some bookTitle := rfl
  obtain rfl : bookTitle = field := Option.some.inj (title.symm.trans found)
  exact .cons ⟨rfl, fun _ => by decide⟩ .nil

end FilterQuery
