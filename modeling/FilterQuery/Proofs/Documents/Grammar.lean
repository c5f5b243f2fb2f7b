import FilterQuery.Proofs.Documents.Operands
import FilterQuery.Proofs.LeafOperands

namespace FilterQuery

/-! The grammar of query documents, apart from the way they are put together.  Each part of a
document is owed to a comparison or to an empty conjunction of the expression. -/

/-- Whether there is no null in a value, at any depth. -/
inductive Json.NullFree : Json → Prop where
  | bool (value : Bool) : NullFree (.bool value)
  | integer (value : Int) : NullFree (.integer value)
  | float (value : Float) : NullFree (.float value)
  | string (text : String) : NullFree (.string text)
  | array {items : List Json} (each : ∀ item ∈ items, NullFree item) : NullFree (.array items)
  | object {members : List (String × Json)} (each : ∀ member ∈ members, NullFree member.2) :
      NullFree (.object members)

namespace Document

/-- The names of junctions. -/
inductive Junction where
  | all
  | any

def Junction.name : Junction → String
  | .all => "$and"
  | .any => "$or"

theorem Junction.name_inj {junction other : Junction} (same : junction.name = other.name) :
    junction = other := by
  cases junction <;> cases other <;> first | rfl | contradiction

/-- One operator that is applied to the value of a key. -/
@[ext]
structure Clause where
  key : String
  operator : String
  operand : Json

/-- The documents of the grammar; a junction joins two of them at least. -/
inductive Query where
  | everything
  | nothing
  | joined (junction : Junction) (first second : Query) (others : List Query)
  | clause (clause : Clause)

namespace Query

@[induction_eliminator, elab_as_elim]
theorem induction {motive : Query → Prop} (everything : motive .everything)
    (nothing : motive .nothing)
    (joined : ∀ junction first second others, motive first → motive second →
      (∀ query ∈ others, motive query) → motive (.joined junction first second others))
    (clause : ∀ written, motive (.clause written)) : (query : Query) → motive query
  | .everything => everything
  | .nothing => nothing
  | .joined junction first second others =>
      joined junction first second others (induction everything nothing joined clause first)
        (induction everything nothing joined clause second)
        fun query _ => induction everything nothing joined clause query
  | .clause written => clause written

def document : Query → Json
  | .everything => .object []
  | .nothing => .object [("$nor", .array [.object []])]
  | .joined junction first second others =>
      .object [(junction.name, .array
        (first.document :: second.document :: others.map fun query => query.document))]
  | .clause written => .object [(written.key, .object [(written.operator, written.operand)])]

/-- How often the document that selects everything is part of a query, negations apart. -/
def everythings : Query → Nat
  | .everything => 1
  | .nothing => 0
  | .joined _ first second others =>
      first.everythings + (second.everythings +
        (others.map fun query => query.everythings).sum)
  | .clause _ => 0

def clauses : Query → List Clause
  | .everything => []
  | .nothing => []
  | .joined _ first second others =>
      first.clauses ++ (second.clauses ++ others.flatMap fun query => query.clauses)
  | .clause written => [written]

/-- The junction of any number of queries, where `empty` is the one of none. -/
def join (junction : Junction) (empty : Query) : List Query → Query
  | [] => empty
  | [query] => query
  | first :: second :: others => .joined junction first second others

variable {first second : Query} {queries others : List Query}

theorem map_document_inj
    (each : ∀ query ∈ queries, ∀ other : Query, query.document = other.document → query = other)
    (same : queries.map document = others.map document) : queries = others := by
  induction queries generalizing others with
  | nil => exact (List.map_eq_nil_iff.mp same.symm).symm
  | cons query queries inductionHypothesis =>
      obtain ⟨first, rest⟩ := List.forall_mem_cons.mp each
      obtain ⟨other, others, rfl, head, tail⟩ := List.map_eq_cons_iff.mp same.symm
      rw [first other head.symm, inductionHypothesis rest tail.symm]

/-- The grammar is not ambiguous. -/
theorem document_inj (same : first.document = second.document) : first = second := by
  induction first generalizing second with
  | everything => cases second <;> simp [document] at same ⊢
  | nothing => cases second <;> simp [document] at same ⊢
  | clause written =>
      cases second with
      | clause other =>
          simp only [document, Json.object.injEq, List.cons.injEq, Prod.mk.injEq, and_true] at same
          obtain ⟨key, operator, operand⟩ := same
          exact congrArg Query.clause (Clause.ext key operator operand)
      | everything | nothing | joined => simp [document] at same
  | joined junction first second others firstHypothesis secondHypothesis othersHypothesis =>
      cases second with
      | joined otherJunction otherFirst otherSecond otherOthers =>
          simp only [document, Json.object.injEq, List.cons.injEq, Prod.mk.injEq, and_true,
            Json.array.injEq] at same
          obtain ⟨name, head, next, tail⟩ := same
          rw [Junction.name_inj name, firstHypothesis head, secondHypothesis next,
            map_document_inj (fun query member _ => othersHypothesis query member) tail]
      | everything | nothing | clause => simp [document] at same

variable {junction : Junction} {empty : Query}

theorem everythings_join (queries : List Query) : (join junction empty queries).everythings =
    if queries.isEmpty then empty.everythings else (queries.map everythings).sum := by
  match queries with
  | [] => rfl
  | [query] => simp [join]
  | first :: second :: others => simp [join, everythings]

theorem clauses_join (none : empty.clauses = []) (queries : List Query) :
    (join junction empty queries).clauses = queries.flatMap clauses := by
  match queries with
  | [] => exact none
  | [query] => simp [join]
  | first :: second :: others => simp [join, clauses]

theorem document_join {combine : List Json → Json} (none : combine [] = empty.document)
    (several : ∀ first second others, combine (first :: second :: others) =
      .object [(junction.name, .array (first :: second :: others))]) (queries : List Query) :
    (join junction empty queries).document = Target.junction combine (queries.map document) := by
  match queries with
  | [] => exact none.symm
  | [query] => rfl
  | first :: second :: others =>
      rw [join, document, List.map_cons, List.map_cons]
      exact (several _ _ _).symm

theorem document_join_all (queries : List Query) :
    (join .all .everything queries).document = Target.junction Document.all (queries.map document) :=
  document_join (by rw [document, Document.all]) (fun _ _ _ => rfl) queries

theorem document_join_any (queries : List Query) :
    (join .any .nothing queries).document = Target.junction Document.any (queries.map document) :=
  document_join (by rw [document, Document.any]) (fun _ _ _ => rfl) queries

/-- Null tests are two clauses, all others one. -/
def ofLeaf (leaf : Leaf) : Query :=
  match leaf.test with
  | .compare comparator value => .clause ⟨leaf.key, comparisonName comparator, operand value⟩
  | .oneOf values => .clause ⟨leaf.key, "$in", .array (values.map operand)⟩
  | .noneOf values => .clause ⟨leaf.key, "$nin", .array (values.map operand)⟩
  | .occurs position literal => .clause ⟨leaf.key, "$regex", .string (pattern literal position)⟩
  | .isNull =>
      .joined .any (.clause ⟨leaf.key, "$eq", .null⟩) (.clause ⟨leaf.key, "$exists", .bool false⟩) []
  | .notNull =>
      .joined .all (.clause ⟨leaf.key, "$ne", .null⟩) (.clause ⟨leaf.key, "$exists", .bool true⟩) []

theorem document_ofLeaf (leaf : Leaf) : (ofLeaf leaf).document = filter leaf := by
  obtain ⟨key, test⟩ := leaf
  cases test <;> simp [ofLeaf, document, filter, Document.clause, Junction.name]

end Query

end Document

namespace Comparison

open Document

variable {comparison : Comparison} {fields : FieldMap}

/-- A comparison is one leaf, or selects nothing. -/
def query (comparison : Comparison) (fields : FieldMap) : Query :=
  match comparison.plan fields with
  | .leaf leaf => .ofLeaf leaf
  | _ => .nothing

theorem plan_cases (comparison : Comparison) (fields : FieldMap) :
    comparison.plan fields = .any [] ∨ ∃ leaf, comparison.plan fields = .leaf leaf := by
  rw [plan, FieldMap.comparison]
  split
  · split
    · exact .inl rfl
    · exact .inr ⟨_, rfl⟩
  · exact .inl rfl

theorem document_query (comparison : Comparison) (fields : FieldMap) :
    (comparison.query fields).document = (comparison.plan fields).write target := by
  rw [query]
  rcases plan_cases comparison fields with nothing | ⟨leaf, single⟩
  · rw [nothing, Plan.write_any]
    exact Query.document_join_any []
  · rw [single, Plan.write_leaf]
    exact Query.document_ofLeaf leaf

theorem everythings_query (comparison : Comparison) (fields : FieldMap) :
    (comparison.query fields).everythings = 0 := by
  rw [query]
  split
  · rename_i leaf _
    obtain ⟨key, test⟩ := leaf
    cases test <;> simp [Query.ofLeaf, Query.everythings]
  · rw [Query.everythings]

theorem clauses_query (comparison : Comparison) (fields : FieldMap) :
    (comparison.query fields).clauses =
      (comparison.plan fields).leaves.flatMap fun leaf => (Query.ofLeaf leaf).clauses := by
  rw [query]
  rcases plan_cases comparison fields with nothing | ⟨leaf, single⟩
  · rw [nothing, Plan.leaves, List.flatMap_nil, List.flatMap_nil, Query.clauses]
  · rw [single, Plan.leaves, List.flatMap_singleton]

end Comparison

namespace Expression

open Document

/-- The number of conjunctions of nothing at all. -/
def emptyConjunctions : Expression → Nat
  | .all children =>
      if children.isEmpty then 1 else (children.map fun child => child.emptyConjunctions).sum
  | .any children => (children.map fun child => child.emptyConjunctions).sum
  | .comparison .. => 0

def query (fields : FieldMap) : Expression → Query
  | .all children => .join .all .everything (children.map fun child => child.query fields)
  | .any children => .join .any .nothing (children.map fun child => child.query fields)
  | .comparison selector symbol arguments => (Comparison.mk selector symbol arguments).query fields

theorem junction_documents {fields : FieldMap} {children : List Expression}
    {join : List Plan → Plan} {combine : List Json → Json}
    (written : ∀ plans, (join plans).write target = combine (plans.map (Plan.write target)))
    (each : ∀ child ∈ children,
      (child.query fields).document = (child.plan fields).write target) :
    Target.junction combine ((children.map fun child => child.query fields).map Query.document) =
      (Plan.collapse join (children.map fun child => child.plan fields)).write target := by
  rw [← Target.junction_eq_collapse, Target.write_junction target written, List.map_map,
    List.map_map]
  exact congrArg (Target.junction combine) (List.map_congr_left each)

theorem document_query (fields : FieldMap) (expression : Expression) :
    (expression.query fields).document = (expression.plan fields).write target := by
  induction expression with
  | all children inductionHypothesis =>
      rw [query, Query.document_join_all, plan]
      exact junction_documents (Plan.write_all target) inductionHypothesis
  | any children inductionHypothesis =>
      rw [query, Query.document_join_any, plan]
      exact junction_documents (Plan.write_any target) inductionHypothesis
  | comparison selector symbol arguments => rw [query, Comparison.document_query, plan, Comparison.plan]

theorem everythings_query (fields : FieldMap) (expression : Expression) :
    (expression.query fields).everythings = expression.emptyConjunctions := by
  induction expression with
  | all children inductionHypothesis =>
      rw [query, Query.everythings_join, emptyConjunctions, List.isEmpty_map, List.map_map,
        Query.everythings]
      exact congrArg (fun counts => if children.isEmpty then 1 else counts.sum)
        (List.map_congr_left inductionHypothesis)
  | any children inductionHypothesis =>
      rw [query, Query.everythings_join, emptyConjunctions, List.isEmpty_map, List.map_map,
        Query.everythings]
      cases children with
      | nil => rfl
      | cons => exact congrArg List.sum (List.map_congr_left inductionHypothesis)
  | comparison selector symbol arguments =>
      rw [query, Comparison.everythings_query, emptyConjunctions]

theorem clauses_query (fields : FieldMap) (expression : Expression) :
    (expression.query fields).clauses =
      expression.comparisons.flatMap fun comparison => (comparison.query fields).clauses := by
  induction expression with
  | all children inductionHypothesis | any children inductionHypothesis =>
      rw [query, Query.clauses_join (by rw [Query.clauses]), List.flatMap_map, comparisons,
        List.flatMap_assoc]
      exact List.flatMap_congr inductionHypothesis
  | comparison selector symbol arguments => simp [query, comparisons]

end Expression

namespace Document

/-- What an operator of expressions may be written as: null is an operand in null tests alone. -/
inductive Clause.Fits (key : String) : Operator → Clause → Prop where
  | unset : Fits key .isNull ⟨key, "$eq", .null⟩
  | missing : Fits key .isNull ⟨key, "$exists", .bool false⟩
  | set : Fits key .notNull ⟨key, "$ne", .null⟩
  | present : Fits key .notNull ⟨key, "$exists", .bool true⟩
  | compares {operator : Operator} {comparator : Comparator} {operand : Json}
      (shape : operator.form = .single (.compare comparator)) (nullFree : operand.NullFree) :
      Fits key operator ⟨key, comparisonName comparator, operand⟩
  | oneOf {operands : List Json} (nullFree : (Json.array operands).NullFree) :
      Fits key .oneOf ⟨key, "$in", .array operands⟩
  | noneOf {operands : List Json} (nullFree : (Json.array operands).NullFree) :
      Fits key .noneOf ⟨key, "$nin", .array operands⟩
  | occurs {operator : Operator} {position : Position} {expression : String}
      (shape : operator.form = .single fun value => .occurs position value.text) :
      Fits key operator ⟨key, "$regex", .string expression⟩

variable {value : Value} {values : List Value} {field : Field} {operator : Operator}
  {arguments : List String} {test : Test} {clause : Clause}

theorem operand_nullFree (finite : value.isFinite = true) (something : value ≠ .null) :
    (operand value).NullFree := by
  cases value with
  | null => contradiction
  | boolean value => exact .bool value
  | integer number => exact .integer _
  | float number =>
      rw [operand_float finite]
      exact .float number
  | string text => exact .string text
  | decimal number => exact .object (List.forall_mem_singleton.mpr (.string number.text))
  | dateTime instant => exact .object (List.forall_mem_singleton.mpr (.string instant.text))

theorem operands_nullFree (admitted : ∀ value ∈ values, field.Admits value) :
    (Json.array (values.map operand)).NullFree := by
  apply Json.NullFree.array
  intro item member
  obtain ⟨value, listed, rfl⟩ := List.mem_map.mp member
  have admits := admitted value listed
  exact operand_nullFree admits.finite admits.ne_null

theorem mem_clauses_clause {written : Clause} :
    clause ∈ (Query.clause written).clauses ↔ clause = written := by
  rw [Query.clauses, List.mem_singleton]

theorem mem_clauses_pair {junction : Junction} {first second : Clause} :
    clause ∈ (Query.joined junction (.clause first) (.clause second) []).clauses ↔
      clause = first ∨ clause = second := by
  simp [Query.clauses]

theorem clause_fits (built : field.Built) (asks : field.Asks operator arguments test)
    (member : clause ∈ (Query.ofLeaf ⟨field.key, test⟩).clauses) :
    clause.Fits field.key operator := by
  have admitted := asks.operands_admitted built
  cases asks with
  | compare shape valued =>
      obtain rfl := mem_clauses_clause.mp member
      have admits := built.value?_admitted valued
      exact .compares shape (operand_nullFree admits.finite admits.ne_null)
  | occurs shape texts =>
      obtain rfl := mem_clauses_clause.mp member
      exact .occurs shape
  | oneOf lacking =>
      obtain rfl := mem_clauses_clause.mp member
      exact .oneOf (operands_nullFree admitted)
  | noneOf valued =>
      obtain rfl := mem_clauses_clause.mp member
      exact .noneOf (operands_nullFree admitted)
  | isNull =>
      obtain rfl | rfl := mem_clauses_pair.mp member
      · exact .unset
      · exact .missing
  | notNull =>
      obtain rfl | rfl := mem_clauses_pair.mp member
      · exact .set
      · exact .present

/-- The document of an accepted expression belongs to the grammar, in one way only.  It selects
everything just where the expression has an empty conjunction, and each clause of it applies an
operator that fits to the key of the field that a comparison selects. -/
theorem filters_well_formed {fields : FieldMap} (built : fields.Built) {unknown : UnknownMembers}
    {expression : Expression} (accepted : target.Accepts ⟨fields, unknown⟩ expression) :
    ∃ query : Query, target.translate ⟨fields, unknown⟩ expression = .ok query.document ∧
      (∀ other : Query, other.document = query.document → other = query) ∧
      query.everythings = expression.emptyConjunctions ∧
      ∀ clause ∈ query.clauses, ∃ comparison ∈ expression.comparisons, ∃ field operator,
        comparison.Selects fields field operator ∧ clause.Fits field.key operator := by
  obtain ⟨filter, translated⟩ := accepted
  refine ⟨expression.query fields, ?_, fun other same => Query.document_inj same,
    Expression.everythings_query fields expression, ?_⟩
  · rw [translated, Target.filter_eq_write translated, Expression.document_query]
  · intro clause member
    rw [Expression.clauses_query, List.mem_flatMap] at member
    obtain ⟨comparison, listed, within⟩ := member
    obtain ⟨field, operator, names⟩ :=
      Expression.names_exist built ⟨filter, translated⟩ comparison listed
    rw [Comparison.clauses_query, List.mem_flatMap] at within
    obtain ⟨leaf, planned, within⟩ := within
    obtain ⟨free, rfl⟩ := names.mem_leaves_iff.mp planned
    have checked : field.Built := built field (FieldMap.mem_of_find? names.found)
    exact ⟨comparison, listed, field, operator, ⟨names.found, names.named⟩,
      clause_fits checked (names.accepts.asks names.allowed free) within⟩

def untitledOrShort : Expression :=
  .any [.comparison "title" "=null=" [], .any [],
    .all [.all [], .comparison "pages" "=lt=" ["100"], .any [.comparison "title" "==" ["x"]]]]

theorem untitled_or_short_well_formed :
    FieldMap.books.Built ∧ target.Accepts ⟨.books, .reject⟩ untitledOrShort ∧
      ∃ query : Query,
        target.translate ⟨.books, .reject⟩ untitledOrShort = .ok query.document ∧
        query.everythings = 1 := by
  have accepted : target.Accepts ⟨.books, .reject⟩ untitledOrShort := ⟨_, rfl⟩
  obtain ⟨query, translated, _, everythings, _⟩ := filters_well_formed FieldMap.books_built accepted
  refine ⟨FieldMap.books_built, accepted, query, translated, ?_⟩
  rw [everythings]
  simp [untitledOrShort, Expression.emptyConjunctions]

end Document

end FilterQuery
