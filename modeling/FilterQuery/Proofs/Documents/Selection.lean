import FilterQuery.Proofs.Documents.Store
import FilterQuery.Proofs.Registrations

namespace FilterQuery

/-! Query documents select the records that expressions hold for, with one exception:
what is null or missing passes the two operators that only rule values out. -/

/-- Whether a stored value passes an operator, where null passes the operators that
rule values out. -/
def Operator.HoldsOpenly (operator : Operator) (stored : Value) (operands : List Value) : Prop :=
  operator.Holds stored operands ∨ operator ∈ [Operator.notEqual, .noneOf] ∧ stored = .null

/-- The meaning of an expression with operators that hold openly. -/
def Expression.HoldsOpenly (fields : FieldMap) (stored : String → Value)
    (expression : Expression) : Prop :=
  expression.HoldsBy (Comparison.Meets Operator.HoldsOpenly fields stored)

/-- Whether no comparison looks for a literal within texts. -/
def Expression.PatternFree (expression : Expression) : Prop :=
  ∀ comparison ∈ expression.comparisons, ∀ operator,
    Operator.ofSymbol? comparison.symbol = some operator →
    operator ∉ [Operator.startsWith, .endsWith, .contains]

/-- Whether an expression rules values out only where something is stored. -/
def Expression.RulesOutPresent (fields : FieldMap) (stored : String → Value)
    (expression : Expression) : Prop :=
  ∀ comparison ∈ expression.comparisons,
    Operator.ofSymbol? comparison.symbol ∈ [some Operator.notEqual, some .noneOf] →
    ∀ field, fields.find? comparison.selector = some field → stored field.key ≠ .null

theorem Expression.holdsOpenly_iff_holds {fields : FieldMap} {stored : String → Value}
    {expression : Expression} (present : expression.RulesOutPresent fields stored) :
    expression.HoldsOpenly fields stored ↔ expression.Holds fields stored := by
  rw [holds_iff_holdsBy]
  refine holdsBy_congr fun comparison member => ?_
  refine exists_congr fun field => exists_congr fun operator => and_congr_right fun found =>
    and_congr_right fun named => and_congr_right fun _ => or_iff_left ?_
  rintro ⟨rulesOut, absent⟩
  exact present comparison member (by simpa [named] using rulesOut) field found absent

namespace Test

def rulesOut : Test → Bool
  | .compare .notEqual _ | .noneOf _ => true
  | _ => false

def HoldsOpenly (stored : Value) (test : Test) : Prop :=
  test.Holds stored ∨ test.rulesOut = true ∧ stored = .null

end Test

theorem Operator.test_rulesOut_iff (operator : Operator) (operands : List Value) :
    (operator.test operands).rulesOut = true ↔ operator ∈ [Operator.notEqual, .noneOf] := by
  cases operator <;> simp [test, Test.rulesOut]

theorem Operator.mem_operands_test {operator : Operator} {operands : List Value} {operand : Value}
    (member : operand ∈ (operator.test operands).operands) : operand ∈ operands ∨ operand = .null := by
  cases operands <;> cases operator <;> simp_all [test, Test.operands]

namespace Document

variable {store : Store} {record : Record}

/-- Whether the store takes a filter and selects the record by it exactly if the meaning
is true. -/
def Store.Decides (store : Store) (record : Record) (filter : Json) (meaning : Prop) : Prop :=
  ∃ answer, store.selects? record filter = some answer ∧ (answer = true ↔ meaning)

section Junctions

variable {ι : Type} {items : List ι} {filterOf : ι → Json} {meaning : ι → Prop}

theorem answers_exist (each : ∀ item ∈ items, store.Decides record (filterOf item) (meaning item)) :
    ∃ answers, store.answers? record (items.map filterOf) = some answers ∧
      answers.length = items.length ∧ (answers.all id = true ↔ ∀ item ∈ items, meaning item) ∧
      (answers.any id = true ↔ ∃ item ∈ items, meaning item) := by
  induction items with
  | nil => exact ⟨[], by simp [Store.answers?]⟩
  | cons item items inductionHypothesis =>
      obtain ⟨first, rest⟩ := List.forall_mem_cons.mp each
      obtain ⟨answer, selected, same⟩ := first
      obtain ⟨answers, answered, length, all, any⟩ := inductionHypothesis rest
      refine ⟨answer :: answers, ?_, by simp [length], ?_, ?_⟩
      · simp [Store.answers?, selected, answered]
      · rw [List.all_cons, Bool.and_eq_true, id, same, all, List.forall_mem_cons]
      · rw [List.any_cons, Bool.or_eq_true, id, same, any]
        simp

theorem all_decides (each : ∀ item ∈ items, store.Decides record (filterOf item) (meaning item)) :
    store.Decides record (all (items.map filterOf)) (∀ item ∈ items, meaning item) := by
  cases items with
  | nil => exact ⟨true, by simp [all, Store.selects?, Store.fulfils?]⟩
  | cons item items =>
      obtain ⟨answers, answered, length, same, _⟩ := answers_exist each
      have nonempty : answers ≠ [] := List.ne_nil_of_length_eq_add_one length
      refine ⟨answers.all id, ?_, same⟩
      rw [List.map_cons] at answered ⊢
      simp [all, Store.selects?, Store.fulfils?, answered, Store.junction?, nonempty]

theorem any_decides (each : ∀ item ∈ items, store.Decides record (filterOf item) (meaning item)) :
    store.Decides record (any (items.map filterOf)) (∃ item ∈ items, meaning item) := by
  cases items with
  | nil => exact ⟨false, by simp [any, Store.selects?, Store.fulfils?, Store.answers?, Store.junction?]⟩
  | cons item items =>
      obtain ⟨answers, answered, length, _, same⟩ := answers_exist each
      have nonempty : answers ≠ [] := List.ne_nil_of_length_eq_add_one length
      refine ⟨answers.any id, ?_, same⟩
      rw [List.map_cons] at answered ⊢
      simp [any, Store.selects?, Store.fulfils?, answered, Store.junction?, nonempty]

variable {first second : Json} {one other : Prop}

theorem both_decides (firstDecides : store.Decides record first one)
    (secondDecides : store.Decides record second other) :
    store.Decides record (all [first, second]) (one ∧ other) := by
  have decides : store.Decides record (all ([(first, one), (second, other)].map Prod.fst))
      (∀ item ∈ [(first, one), (second, other)], item.2) :=
    all_decides (List.forall_mem_cons.mpr ⟨firstDecides, List.forall_mem_singleton.mpr secondDecides⟩)
  simpa using decides

theorem either_decides (firstDecides : store.Decides record first one)
    (secondDecides : store.Decides record second other) :
    store.Decides record (any [first, second]) (one ∨ other) := by
  have decides : store.Decides record (any ([(first, one), (second, other)].map Prod.fst))
      (∃ item ∈ [(first, one), (second, other)], item.2) :=
    any_decides (List.forall_mem_cons.mpr ⟨firstDecides, List.forall_mem_singleton.mpr secondDecides⟩)
  simpa using decides

end Junctions

section Leaves

theorem clause_decides {key operator : String} {operand : Json} {meaning : Prop} (answer : Bool)
    (passes : store.passes? (record key) operator operand = some answer)
    (same : answer = true ↔ meaning) : store.Decides record (clause key operator operand) meaning := by
  refine ⟨answer, ?_, same⟩
  simp [clause, Store.selects?, Store.fulfils?, Store.passesAll?, passes]

theorem finds_iff {operand : Value} (present : operand ≠ .null) (found : Option Value) :
    store.finds found operand = true ↔ (found.getD .null).compare? operand = some .eq := by
  unfold Store.finds
  split <;> simp_all

theorem finds_null_iff (stored : Value) :
    store.finds (some stored) .null = true ↔ stored = .null := by
  cases stored <;> simp [Store.finds, Value.compare?]

theorem orders_iff (comparator : Comparator) (found : Option Value) (operand : Value) :
    Store.orders comparator found operand = true ↔
      (Test.compare comparator operand).Holds (found.getD .null) := by
  cases found with
  | none => simp [Store.orders, Test.Holds]
  | some stored =>
      rw [Store.orders, Option.bind_some, Option.any_eq_true, Option.getD_some, Test.Holds]

theorem holdsOpenly_iff_holds {test : Test} {stored : Value} (plain : test.rulesOut = false) :
    test.HoldsOpenly stored ↔ test.Holds stored := by
  simp [Test.HoldsOpenly, plain]

/-- To differ from a value of a kind is not to equal it, for values of the kind and for
what is absent. -/
theorem differs_iff {kind : ValueKind} {stored operand : Value}
    (suits : stored = .null ∨ stored.isOf kind = true) (operandOf : operand.isOf kind = true) :
    (Test.compare .notEqual operand).HoldsOpenly stored ↔ stored.compare? operand ≠ some .eq := by
  simp only [Test.HoldsOpenly, Test.Holds, Test.rulesOut, true_and]
  rcases suits with rfl | storedOf
  · simp
  · have present := Value.ne_null_of_isOf storedOf
    obtain ⟨order, compared⟩ := Value.compare?_exists storedOf operandOf
    simp [compared, present, Comparator.accepts]

theorem noneOf_iff {stored : Value} {operands : List Value} :
    (Test.noneOf operands).HoldsOpenly stored ↔
      ∀ operand ∈ operands, stored.compare? operand ≠ some .eq := by
  simp only [Test.HoldsOpenly, Test.Holds, Test.rulesOut, true_and]
  by_cases absent : stored = .null
  · simp [absent]
  · simp [absent]

theorem compare_decides (leaf : Leaf) (comparator : Comparator) {operand : Value} {kind : ValueKind}
    (suits : record.stored leaf.key = .null ∨ (record.stored leaf.key).isOf kind = true)
    (operandOf : operand.isOf kind = true) (finite : operand.isFinite = true) :
    store.Decides record (clause leaf.key (comparisonName comparator) (Document.operand operand))
      ((Test.compare comparator operand).HoldsOpenly (record.stored leaf.key)) := by
  have present := Value.ne_null_of_isOf operandOf
  have read := value?_operand finite
  cases comparator with
  | equal =>
      refine clause_decides (store.finds (record leaf.key) operand) ?_ ?_
      · simp [comparisonName, Store.passes?, read]
      · rw [holdsOpenly_iff_holds rfl, finds_iff present, Test.Holds]
        simp [Comparator.accepts, Record.stored]
  | notEqual =>
      refine clause_decides (!store.finds (record leaf.key) operand) ?_ ?_
      · simp [comparisonName, Store.passes?, read]
      · rw [differs_iff suits operandOf, Bool.not_eq_true', ← Bool.not_eq_true, finds_iff present]
        rfl
  | greater | atLeast | less | atMost =>
      refine clause_decides (Store.orders _ (record leaf.key) operand)
        (by simp [comparisonName, Store.passes?, read]; rfl) ?_
      rw [holdsOpenly_iff_holds rfl]
      exact orders_iff _ _ _

theorem oneOf_decides (leaf : Leaf) {operands : List Value} {kind : ValueKind}
    (each : ∀ operand ∈ operands, operand.isOf kind = true)
    (finite : ∀ operand ∈ operands, operand.isFinite = true) :
    store.Decides record (clause leaf.key "$in" (.array (operands.map operand)))
      ((Test.oneOf operands).HoldsOpenly (record.stored leaf.key)) := by
  refine clause_decides (operands.any (store.finds (record leaf.key))) ?_ ?_
  · simp [Store.passes?, operands?_array finite]
  · rw [holdsOpenly_iff_holds rfl, List.any_eq_true, Test.Holds]
    exact exists_congr fun operand => and_congr_right fun member =>
      finds_iff (Value.ne_null_of_isOf (each operand member)) _

theorem noneOf_decides (leaf : Leaf) {operands : List Value} {kind : ValueKind}
    (each : ∀ operand ∈ operands, operand.isOf kind = true)
    (finite : ∀ operand ∈ operands, operand.isFinite = true) :
    store.Decides record (clause leaf.key "$nin" (.array (operands.map operand)))
      ((Test.noneOf operands).HoldsOpenly (record.stored leaf.key)) := by
  refine clause_decides (!operands.any (store.finds (record leaf.key))) ?_ ?_
  · simp [Store.passes?, operands?_array finite]
  · rw [noneOf_iff, Bool.not_eq_true', List.any_eq_false]
    exact forall₂_congr fun operand member =>
      not_congr (finds_iff (Value.ne_null_of_isOf (each operand member)) _)

theorem exists_decides (leaf : Leaf) (wanted : Bool) :
    store.Decides record (clause leaf.key "$exists" (.bool wanted))
      ((record leaf.key).isSome = wanted) :=
  clause_decides ((record leaf.key).isSome == wanted) (by simp [Store.passes?]) (by simp)

/-- What is null or missing is found by one of the two filters, whatever the store
finds where null is looked for. -/
theorem isNull_decides (leaf : Leaf) (isNull : leaf.test = .isNull) :
    store.Decides record (filter leaf) (record.stored leaf.key = .null) := by
  have looked : store.Decides record (clause leaf.key "$eq" .null)
      (store.finds (record leaf.key) .null = true) :=
    clause_decides (store.finds (record leaf.key) .null) (by simp [Store.passes?, value?]) Iff.rfl
  have decides := either_decides looked (exists_decides leaf false)
  have written : filter leaf = any [clause leaf.key "$eq" .null, clause leaf.key "$exists" (.bool false)] := by
    rw [filter, isNull]
    rfl
  rw [written]
  cases found : record leaf.key <;>
    simpa [found, Record.stored, finds_null_iff] using decides

theorem notNull_decides (leaf : Leaf) (notNull : leaf.test = .notNull) :
    store.Decides record (filter leaf) (record.stored leaf.key ≠ .null) := by
  have looked : store.Decides record (clause leaf.key "$ne" .null)
      (store.finds (record leaf.key) .null = false) :=
    clause_decides (!store.finds (record leaf.key) .null)
      (by simp [Store.passes?, value?]) (by simp)
  have decides := both_decides looked (exists_decides leaf true)
  have written : filter leaf = all [clause leaf.key "$ne" .null, clause leaf.key "$exists" (.bool true)] := by
    rw [filter, notNull]
    rfl
  rw [written]
  cases found : record leaf.key <;>
    simpa [found, Record.stored, finds_null_iff, ← Bool.not_eq_true] using decides

/-- The filter of a leaf selects the records that the test holds openly for, and the
store never refuses it. -/
theorem leaf_decides (leaf : Leaf) {kind : ValueKind}
    (suits : record.stored leaf.key = .null ∨ (record.stored leaf.key).isOf kind = true)
    (testSuits : leaf.test.Suits kind)
    (finite : ∀ operand ∈ leaf.test.operands, operand.isFinite = true)
    (plain : ∀ position literal, leaf.test ≠ .occurs position literal) :
    store.Decides record (filter leaf) (leaf.test.HoldsOpenly (record.stored leaf.key)) := by
  cases test : leaf.test with
  | compare comparator operand =>
      rw [test] at testSuits finite
      rw [filter, test]
      exact compare_decides leaf comparator suits testSuits (finite operand List.mem_cons_self)
  | oneOf operands =>
      rw [test] at testSuits finite
      rw [filter, test]
      exact oneOf_decides leaf testSuits finite
  | noneOf operands =>
      rw [test] at testSuits finite
      rw [filter, test]
      exact noneOf_decides leaf testSuits.2 finite
  | occurs position literal => exact absurd test (plain position literal)
  | isNull =>
      rw [holdsOpenly_iff_holds rfl]
      exact isNull_decides leaf test
  | notNull =>
      rw [holdsOpenly_iff_holds rfl]
      exact notNull_decides leaf test

end Leaves

theorem plan_decides (plan : Plan) {meaning : Leaf → Prop}
    (each : ∀ leaf ∈ plan.leaves, store.Decides record (filter leaf) (meaning leaf)) :
    store.Decides record (plan.write target) (plan.HoldsBy meaning) := by
  induction plan with
  | leaf predicate =>
      rw [Plan.write_leaf, Plan.HoldsBy]
      exact each predicate (by simp [Plan.leaves])
  | all plans inductionHypothesis =>
      rw [Plan.write_all, Plan.HoldsBy]
      refine all_decides fun plan member => inductionHypothesis plan member fun leaf within => ?_
      exact each leaf (by rw [Plan.leaves]; exact List.mem_flatMap.mpr ⟨plan, member, within⟩)
  | any plans inductionHypothesis =>
      rw [Plan.write_any, Plan.HoldsBy]
      simp only [exists_prop]
      refine any_decides fun plan member => inductionHypothesis plan member fun leaf within => ?_
      exact each leaf (by rw [Plan.leaves]; exact List.mem_flatMap.mpr ⟨plan, member, within⟩)

section Comparisons

variable {fields : FieldMap} {field : Field} {operator : Operator} {comparison : Comparison}

theorem test_holdsOpenly_iff (names : comparison.Names fields field operator)
    (free : field.blocks operator comparison.arguments = false) (stored : Value) :
    (operator.test (field.values comparison.arguments)).HoldsOpenly stored ↔
      operator.HoldsOpenly stored (field.values comparison.arguments) := by
  rw [Test.HoldsOpenly, names.accepts.test_holds_iff names.allowed free,
    Operator.test_rulesOut_iff, Operator.HoldsOpenly]

theorem comparison_decides (names : comparison.Names fields field operator)
    (free : field.blocks operator comparison.arguments = false)
    (plain : operator ∉ [Operator.startsWith, .endsWith, .contains])
    (suits : record.stored field.key = .null ∨ (record.stored field.key).isOf field.kind = true) :
    store.Decides record
      (filter ⟨field.key, operator.test (field.values comparison.arguments)⟩)
      ((operator.test (field.values comparison.arguments)).HoldsOpenly (record.stored field.key)) := by
  have testSuits := names.accepts.test_suits names.allowed free
  refine leaf_decides ⟨field.key, operator.test (field.values comparison.arguments)⟩ suits testSuits
    (fun operand member => ?_) fun position literal occurs => ?_
  · rcases Operator.mem_operands_test member with value | absent
    · exact Field.mem_values_isFinite value
    · rw [absent]
      rfl
  · cases operator <;> simp_all [Operator.test]

end Comparisons

/-- The filter of an accepted expression without patterns is one that the store takes.
It selects the records that the expression holds for if null and missing values pass
the operators that rule values out: just those that it holds for, unless such an
operator looks at what is absent. -/
theorem filters_select {registry : Registry} (built : registry.Built) {entity : String}
    {group : Option String} {fields : FieldMap}
    (found : registry.lookupMap entity group = .ok fields) (unknown : UnknownMembers)
    {expression : Expression} (accepted : target.Accepts ⟨fields, unknown⟩ expression)
    (plain : expression.PatternFree) {record : Record}
    (suits : expression.Suits fields record.stored) (store : Store) :
    ∃ filter answer,
      target.translate ⟨fields, unknown⟩ expression = .ok filter ∧
      store.selects? record filter = some answer ∧
      (answer = true ↔ expression.HoldsOpenly fields record.stored) ∧
      (expression.RulesOutPresent fields record.stored →
        (answer = true ↔ expression.Holds fields record.stored)) := by
  have fieldsBuilt := Registry.lookupMap_built built found
  have meaning : expression.HoldsOpenly fields record.stored ↔
      (expression.plan fields).HoldsBy fun leaf => leaf.test.HoldsOpenly (record.stored leaf.key) :=
    Expression.holdsBy_iff_plan fieldsBuilt accepted fun _ _ _ _ names free =>
      test_holdsOpenly_iff names free _
  obtain ⟨answer, selected, same⟩ : store.Decides record ((expression.plan fields).write target)
      ((expression.plan fields).HoldsBy fun leaf => leaf.test.HoldsOpenly (record.stored leaf.key)) := by
    refine plan_decides _ fun leaf member => ?_
    rw [Expression.leaves_plan, List.mem_flatMap] at member
    obtain ⟨comparison, listed, within⟩ := member
    obtain ⟨field, operator, names⟩ := Expression.names_exist fieldsBuilt accepted comparison listed
    obtain ⟨free, rfl⟩ := names.mem_leaves_iff.mp within
    refine comparison_decides names free (plain comparison listed operator names.named) ?_
    refine suits comparison.selector ?_ field names.found
    rw [Expression.selectors_eq_map]
    exact List.mem_map_of_mem listed
  obtain ⟨filter, translated⟩ := accepted
  have openly := same.trans meaning.symm
  refine ⟨filter, answer, translated, ?_, openly, fun present => ?_⟩
  · rw [Target.filter_eq_write translated, selected]
  · exact openly.trans (Expression.holdsOpenly_iff_holds present)

/-- A long book without a title. -/
def untitledBook : Record := fun path => if path = "pages" then some (.integer 120) else none

theorem untitledBook_title : untitledBook.stored bookTitle.key = .null :=
  rfl

theorem untitledBook_suits (expression : Expression) :
    expression.Suits .books untitledBook.stored := by
  intro selector _ field found
  have member : field ∈ [bookTitle, bookPages] := FieldMap.mem_of_find? found
  rcases List.mem_cons.mp member with rfl | member
  · exact .inl untitledBook_title
  · obtain rfl := List.mem_singleton.mp member
    exact .inr (by decide)

theorem filters_select_untitledBook :
    ∃ filter answer,
      target.translate ⟨.books, .reject⟩ (.all
        [.comparison "title" "=out=" ["draft"], .comparison "pages" "=gt=" ["100"]]) = .ok filter ∧
      (Store.mk true).selects? untitledBook filter = some answer ∧
      (answer = true ↔ (Expression.all
        [.comparison "title" "=out=" ["draft"], .comparison "pages" "=gt=" ["100"]]).HoldsOpenly .books
        untitledBook.stored) ∧
      ((Expression.all
        [.comparison "title" "=out=" ["draft"], .comparison "pages" "=gt=" ["100"]]).RulesOutPresent
        .books untitledBook.stored →
        (answer = true ↔ (Expression.all
          [.comparison "title" "=out=" ["draft"], .comparison "pages" "=gt=" ["100"]]).Holds .books
          untitledBook.stored)) := by
  have accepted : target.Accepts ⟨.books, .reject⟩ (.all
    [.comparison "title" "=out=" ["draft"], .comparison "pages" "=gt=" ["100"]]) := ⟨_, rfl⟩
  have built : Registry.books.Built := Registry.register_built "book" book_built
  refine filters_select built Registry.lookupMap_books .reject accepted ?_ (untitledBook_suits _) _
  intro comparison member operator named
  simp only [Expression.comparisons, List.flatMap_cons, List.flatMap_nil, List.cons_append,
    List.nil_append, List.mem_cons, List.not_mem_nil, or_false] at member
  rcases member with rfl | rfl
  · cases named
    decide
  · cases named
    decide

/-- Every store selects the book without a title where titles other than a given one are
asked for, though neither operator holds for a title that is absent. -/
theorem untitledBook_selected :
    Registry.books.Built ∧ Registry.books.lookupMap "book" none = .ok .books ∧
    ∀ symbol ∈ ["!=", "=out="],
      (Expression.comparison "title" symbol ["draft"]).PatternFree ∧
      (Expression.comparison "title" symbol ["draft"]).Suits .books untitledBook.stored ∧
      (∃ filter, target.translate ⟨.books, .reject⟩ (.comparison "title" symbol ["draft"]) = .ok filter ∧
        ∀ store : Store, store.selects? untitledBook filter = some true) ∧
      ¬ (Expression.comparison "title" symbol ["draft"]).Holds .books untitledBook.stored := by
  refine ⟨Registry.register_built "book" book_built, Registry.lookupMap_books,
    List.forall_mem_cons.mpr ⟨⟨?_, untitledBook_suits _, ⟨_, rfl, fun store => ?_⟩, ?_⟩,
      List.forall_mem_singleton.mpr ⟨?_, untitledBook_suits _, ⟨_, rfl, fun store => ?_⟩, ?_⟩⟩⟩
  · rw [Expression.PatternFree, Expression.comparisons, List.forall_mem_singleton]
    rintro operator ⟨⟩
    decide
  · rfl
  · rw [Expression.Holds]
    rintro ⟨field, operator, ⟨⟩, ⟨⟩, _, operand, order, _, compared, _⟩
    rw [untitledBook_title, Value.compare?_null] at compared
    contradiction
  · rw [Expression.PatternFree, Expression.comparisons, List.forall_mem_singleton]
    rintro operator ⟨⟩
    decide
  · rfl
  · rw [Expression.Holds]
    rintro ⟨field, operator, ⟨⟩, ⟨⟩, _, present, _⟩
    exact present untitledBook_title

end Document

end FilterQuery
