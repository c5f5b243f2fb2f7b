import FilterQuery.Proofs.Junctions

namespace FilterQuery

/-! Expressions are accepted if all of their comparisons are valid.  Any other is
refused for the first comparison that is not, and for the first rule that this one
breaks; what stands in front of it has been written by then. -/

def Operator.Takes (operator : Operator) (arguments : List String) : Prop :=
  if operator.takesList then 1 ≤ arguments.length else arguments.length = 1

instance (operator : Operator) (arguments : List String) : Decidable (operator.Takes arguments) :=
  inferInstanceAs (Decidable (if operator.takesList then _ else _))

def Field.Casts (field : Field) (unknown : UnknownMembers) (literal : String) : Prop :=
  ∃ value, field.castArgument unknown literal = .ok value

/-- The field that an error names. -/
def FilterError.fieldName : FilterError → String
  | .duplicateField _ field => field
  | .invalidDeclaration field _ | .unknownField field | .unknownOperator field _ => field
  | .operatorNotAllowed field _ | .invalidArgument field _ _ => field
  | .argumentCount field _ _ | .unsupportedOperator field _ _ => field

namespace Comparison

def expression (comparison : Comparison) : Expression :=
  .comparison comparison.selector comparison.symbol comparison.arguments

/-- Whether a comparison selects a field and has the symbol of an operator. -/
structure Selects (comparison : Comparison) (fields : FieldMap) (field : Field)
    (operator : Operator) : Prop where
  found : fields.find? comparison.selector = some field
  named : Operator.ofSymbol? comparison.symbol = some operator

theorem Selects.unique {comparison : Comparison} {fields : FieldMap} {field field' : Field}
    {operator operator' : Operator} (selects : comparison.Selects fields field operator)
    (selects' : comparison.Selects fields field' operator') :
    field = field' ∧ operator = operator' :=
  ⟨Option.some.inj (selects.found.symm.trans selects'.found),
    Option.some.inj (selects.named.symm.trans selects'.named)⟩

end Comparison

namespace Request

def resolveComparison (request : Request) (target : String) (supports : Operator → Bool)
    (comparison : Comparison) : Except FilterError (Option Leaf) :=
  request.resolve target supports comparison.selector comparison.symbol comparison.arguments

/-- Whether a comparison keeps all rules.  Null tests need not be declared for the
field, and their arguments do not matter. -/
def Valid (request : Request) (supports : Operator → Bool) (comparison : Comparison) : Prop :=
  ∃ field operator, comparison.Selects request.fields field operator ∧
    supports operator.canonical = true ∧
    (operator.isNullTest = true ∨
      field.supports operator = true ∧ operator.Takes comparison.arguments ∧
        ∀ literal ∈ comparison.arguments, field.Casts request.unknown literal)

/-- The error for the first rule that a comparison breaks: each case keeps the rules of
the cases before it. -/
inductive Refuses (request : Request) (target : String) (supports : Operator → Bool) :
    Comparison → FilterError → Prop where
  | unknownField {comparison : Comparison}
      (absent : request.fields.find? comparison.selector = none) :
      Refuses request target supports comparison (.unknownField comparison.selector)
  | unknownOperator {comparison : Comparison} {field : Field}
      (found : request.fields.find? comparison.selector = some field)
      (unnamed : Operator.ofSymbol? comparison.symbol = none) :
      Refuses request target supports comparison
        (.unknownOperator comparison.selector comparison.symbol)
  | operatorNotAllowed {comparison : Comparison} {field : Field} {operator : Operator}
      (selects : comparison.Selects request.fields field operator)
      (compares : operator.isNullTest = false) (forbidden : field.supports operator = false) :
      Refuses request target supports comparison
        (.operatorNotAllowed comparison.selector comparison.symbol)
  | unsupportedOperator {comparison : Comparison} {field : Field} {operator : Operator}
      (selects : comparison.Selects request.fields field operator)
      (allowed : operator.isNullTest = true ∨ field.supports operator = true)
      (declined : supports operator.canonical = false) :
      Refuses request target supports comparison
        (.unsupportedOperator comparison.selector comparison.symbol target)
  | argumentCount {comparison : Comparison} {field : Field} {operator : Operator}
      (selects : comparison.Selects request.fields field operator)
      (compares : operator.isNullTest = false) (allowed : field.supports operator = true)
      (supported : supports operator.canonical = true)
      (miscounted : ¬ operator.Takes comparison.arguments) :
      Refuses request target supports comparison
        (.argumentCount comparison.selector operator comparison.arguments.length)
  | invalidArgument {comparison : Comparison} {field : Field} {operator : Operator}
      {earlier later : List String} {literal : String}
      (selects : comparison.Selects request.fields field operator)
      (compares : operator.isNullTest = false) (allowed : field.supports operator = true)
      (supported : supports operator.canonical = true)
      (counted : operator.Takes comparison.arguments)
      (listed : comparison.arguments = earlier ++ literal :: later)
      (cast : ∀ other ∈ earlier, field.Casts request.unknown other)
      (uncast : ¬ field.Casts request.unknown literal) :
      Refuses request target supports comparison
        (.invalidArgument field.name literal field.kind)

end Request

/-- What compares takes one argument or a list of them. -/
theorem Operator.form_of_compares {operator : Operator} (compares : operator.isNullTest = false) :
    (operator.takesList = false ∧ ∃ test, operator.form = .single test) ∨
      (operator.takesList = true ∧ ∃ test, operator.form = .list test) := by
  cases operator with
  | isNull | notNull => contradiction
  | oneOf | noneOf => exact .inr ⟨rfl, _, rfl⟩
  | _ => exact .inl ⟨rfl, _, rfl⟩

namespace Field

variable {field : Field} {unknown : UnknownMembers} {operator : Operator} {selector : String}
  {arguments : List String}

theorem castArguments_exist (cast : ∀ literal ∈ arguments, field.Casts unknown literal) :
    ∃ values, field.castArguments unknown arguments = .ok values :=
  exists_mapM_ok_iff.mpr cast

theorem castArguments_singleton (argument : String) :
    field.castArguments unknown [argument] =
      (field.castArgument unknown argument).map fun value => [value] := by
  rw [castArguments, List.mapM_cons, List.mapM_nil]
  cases field.castArgument unknown argument <;> rfl

theorem castArgument_of_texts (texts : field.kind = .string) (literal : String) :
    field.castArgument unknown literal = .ok (some (.string literal)) := by
  simp only [castArgument, texts, readLiteral?]
  rfl

theorem castArguments_error {earlier later : List String} {literal : String}
    (cast : ∀ other ∈ earlier, field.Casts unknown other) (uncast : ¬ field.Casts unknown literal) :
    field.castArguments unknown (earlier ++ literal :: later) =
      .error (.invalidArgument field.name literal field.kind) := by
  cases failed : field.castArgument unknown literal with
  | ok value => exact absurd ⟨value, failed⟩ uncast
  | error error =>
      obtain rfl := castArgument_error failed
      exact mapM_eq_error_iff.mpr ⟨earlier, literal, later, rfl, cast, failed⟩

theorem first_uncast_exists (refused : ¬ ∀ literal ∈ arguments, field.Casts unknown literal) :
    ∃ earlier literal later, arguments = earlier ++ literal :: later ∧
      (∀ other ∈ earlier, field.Casts unknown other) ∧ ¬ field.Casts unknown literal := by
  cases cast : field.castArguments unknown arguments with
  | ok values => exact absurd (exists_mapM_ok_iff.mp ⟨values, cast⟩) refused
  | error error =>
      obtain ⟨earlier, literal, later, listed, each, failed⟩ := mapM_eq_error_iff.mp cast
      exact ⟨earlier, literal, later, listed, each, fun ⟨value, made⟩ => by simp [made] at failed⟩

theorem test?_of_isNullTest (tests : operator.isNullTest = true) :
    ∃ test, field.test? selector operator unknown arguments = .ok (some test) := by
  cases operator <;> first | contradiction | exact ⟨_, rfl⟩

theorem test?_miscounted (compares : operator.isNullTest = false)
    (miscounted : ¬ operator.Takes arguments) :
    field.test? selector operator unknown arguments =
      .error (.argumentCount selector operator arguments.length) := by
  unfold test?
  rcases operator.form_of_compares compares with ⟨single, test, shape⟩ | ⟨several, test, shape⟩
  · simp only [shape]
    split
    · simp [Operator.Takes, single] at miscounted
    · rfl
  · have none : arguments = [] := by simpa [Operator.Takes, several] using miscounted
    simp only [shape, none, if_true]

/-- With the right number of arguments only their casts can fail. -/
theorem test?_counted (compares : operator.isNullTest = false)
    (counted : operator.Takes arguments) :
    field.test? selector operator unknown arguments =
      (field.castArguments unknown arguments).map fun values =>
        if operator = .oneOf || none ∉ values then some (operator.test values.reduceOption)
        else none := by
  unfold test?
  rcases operator.form_of_compares compares with ⟨single, test, shape⟩ | ⟨several, test, shape⟩
  · obtain ⟨argument, rfl⟩ : ∃ argument, arguments = [argument] := by
      rw [← List.length_eq_one_iff]
      simpa [Operator.Takes, single] using counted
    obtain ⟨unlisted, same⟩ := Operator.test_of_single shape
    have one : operator ≠ .oneOf := fun listed => unlisted (by simp [listed])
    simp only [shape, castArguments_singleton]
    cases field.castArgument unknown argument with
    | error error => rfl
    | ok value =>
        cases value with
        | none => simp [one, Except.map]
        | some value =>
            have kept : [some value].reduceOption = [value] := rfl
            simp [Except.map, kept, same]
  · have nonempty : arguments ≠ [] := by
      rintro rfl
      simp [Operator.Takes, several] at counted
    simp only [shape, if_neg nonempty, (Operator.test_of_list shape).2]

end Field

namespace Request

variable {request : Request} {target : String} {supports : Operator → Bool}
  {comparison : Comparison} {error : FilterError}

/-- A comparison that is allowed for the field it selects depends on the target and on its
test only. -/
theorem resolve_of_allowed {field : Field} {operator : Operator}
    (selects : comparison.Selects request.fields field operator)
    (allowed : operator.isNullTest = true ∨ field.supports operator = true) :
    request.resolveComparison target supports comparison =
      if supports operator.canonical then
        (field.test? comparison.selector operator request.unknown comparison.arguments).map
          (Option.map fun test => ⟨field.key, test⟩)
      else
        .error (.unsupportedOperator comparison.selector comparison.symbol target) := by
  have free : (!operator.isNullTest && !field.supports operator) = false := by
    rcases allowed with tests | listed
    · simp [tests]
    · simp [listed]
  simp only [resolveComparison, resolve, selects.found, selects.named, free]
  cases supports operator.canonical <;> rfl

theorem Valid.resolve_exists (valid : request.Valid supports comparison) (target : String) :
    ∃ leaf, request.resolveComparison target supports comparison = .ok leaf := by
  obtain ⟨field, operator, selects, supported, rules⟩ := valid
  rw [resolve_of_allowed selects (rules.imp_right And.left), if_pos supported, exists_map_ok_iff]
  cases tests : operator.isNullTest with
  | true =>
      obtain ⟨test, made⟩ := Field.test?_of_isNullTest tests
      exact ⟨_, made⟩
  | false =>
      obtain ⟨_, counted, cast⟩ := rules.resolve_left (by simp [tests])
      rw [Field.test?_counted tests counted, exists_map_ok_iff]
      exact Field.castArguments_exist cast

theorem Refuses.resolve_eq (refuses : request.Refuses target supports comparison error) :
    request.resolveComparison target supports comparison = .error error := by
  cases refuses with
  | unknownField absent => simp only [resolveComparison, resolve, absent]
  | unknownOperator found unnamed => simp only [resolveComparison, resolve, found, unnamed]
  | operatorNotAllowed selects compares forbidden =>
      simp only [resolveComparison, resolve, selects.found, selects.named, compares, forbidden]
      rfl
  | unsupportedOperator selects allowed declined =>
      rw [resolve_of_allowed selects allowed, if_neg (by simp [declined])]
  | argumentCount selects compares allowed supported miscounted =>
      rw [resolve_of_allowed selects (.inr allowed), if_pos supported,
        Field.test?_miscounted compares miscounted]
      rfl
  | invalidArgument selects compares allowed supported counted listed cast uncast =>
      rw [resolve_of_allowed selects (.inr allowed), if_pos supported,
        Field.test?_counted compares counted, listed, Field.castArguments_error cast uncast]
      rfl

/-- Every comparison keeps all rules or breaks a first one. -/
theorem valid_or_refused (request : Request) (target : String) (supports : Operator → Bool)
    (comparison : Comparison) :
    request.Valid supports comparison ∨
      ∃ error, request.Refuses target supports comparison error := by
  -- the rules are split on in the order in which they are checked
  cases found : request.fields.find? comparison.selector with
  | none => exact .inr ⟨_, .unknownField found⟩
  | some field =>
  cases named : Operator.ofSymbol? comparison.symbol with
  | none => exact .inr ⟨_, .unknownOperator found named⟩
  | some operator =>
  have selects : comparison.Selects request.fields field operator := ⟨found, named⟩
  by_cases allowed : operator.isNullTest = true ∨ field.supports operator = true
  · cases supported : supports operator.canonical with
    | false => exact .inr ⟨_, .unsupportedOperator selects allowed supported⟩
    | true =>
    cases compares : operator.isNullTest with
    | true => exact .inl ⟨field, operator, selects, supported, .inl compares⟩
    | false =>
    have listed := allowed.resolve_left (by simp [compares])
    by_cases counted : operator.Takes comparison.arguments
    · by_cases cast : ∀ literal ∈ comparison.arguments, field.Casts request.unknown literal
      · exact .inl ⟨field, operator, selects, supported, .inr ⟨listed, counted, cast⟩⟩
      · obtain ⟨earlier, literal, later, split, each, uncast⟩ := Field.first_uncast_exists cast
        exact .inr ⟨_, .invalidArgument selects compares listed supported counted split each uncast⟩
    · exact .inr ⟨_, .argumentCount selects compares listed supported counted⟩
  · rw [not_or] at allowed
    exact .inr ⟨_, .operatorNotAllowed selects (by simpa using allowed.1) (by simpa using allowed.2)⟩

theorem resolve_exists_iff :
    (∃ leaf, request.resolveComparison target supports comparison = .ok leaf) ↔
      request.Valid supports comparison := by
  refine ⟨fun ⟨leaf, resolved⟩ => ?_, fun valid => valid.resolve_exists target⟩
  rcases request.valid_or_refused target supports comparison with valid | ⟨error, refuses⟩
  · exact valid
  · rw [refuses.resolve_eq] at resolved
    contradiction

theorem resolve_eq_error_iff :
    request.resolveComparison target supports comparison = .error error ↔
      request.Refuses target supports comparison error := by
  refine ⟨fun refused => ?_, Refuses.resolve_eq⟩
  rcases request.valid_or_refused target supports comparison with valid | ⟨reason, refuses⟩
  · obtain ⟨leaf, resolved⟩ := valid.resolve_exists target
    rw [refused] at resolved
    contradiction
  · obtain rfl : reason = error := Except.error.inj (refuses.resolve_eq.symm.trans refused)
    exact refuses

theorem Refuses.not_valid (refuses : request.Refuses target supports comparison error) :
    ¬ request.Valid supports comparison := by
  intro valid
  obtain ⟨leaf, resolved⟩ := valid.resolve_exists target
  rw [refuses.resolve_eq] at resolved
  contradiction

theorem Refuses.fieldName_eq (refuses : request.Refuses target supports comparison error) :
    error.fieldName = comparison.selector := by
  cases refuses with
  | invalidArgument selects => exact FieldMap.name_of_find? selects.found
  | _ => rfl

end Request

namespace Target

variable {φ α β : Type} {target : Target φ} {request : Request}

/-- The leaves that a comparison has by itself. -/
def leavesOf (target : Target φ) (request : Request) (comparison : Comparison) : List Leaf :=
  (target.trace request comparison.expression).leaves

/-- What it is to work on comparisons in their order, up to the first that is not valid. -/
inductive Follows (target : Target φ) (request : Request) {α : Type} :
    List Comparison → Traced α → Prop where
  | finished {comparisons : List Comparison} {value : α}
      (valid : ∀ comparison ∈ comparisons, request.Valid target.supports comparison) :
      Follows target request comparisons
        ⟨comparisons.flatMap (target.leavesOf request), .ok value⟩
  | stopped {earlier later : List Comparison} {comparison : Comparison} {error : FilterError}
      (valid : ∀ other ∈ earlier, request.Valid target.supports other)
      (refuses : request.Refuses target.name target.supports comparison error) :
      Follows target request (earlier ++ comparison :: later)
        ⟨earlier.flatMap (target.leavesOf request), .error error⟩

namespace Follows

variable {first second : List Comparison} {traced : Traced α}

theorem map (change : α → β) (follows : target.Follows request first traced) :
    target.Follows request first (traced.map change) := by
  cases follows with
  | finished valid => exact .finished valid
  | stopped valid refuses => exact .stopped valid refuses

theorem andThen {next : α → Traced β} (follows : target.Follows request first traced)
    (continues : ∀ value, target.Follows request second (next value)) :
    target.Follows request (first ++ second) (traced.andThen next) := by
  cases follows with
  | stopped valid refuses =>
      rw [List.append_assoc, List.cons_append]
      exact .stopped valid refuses
  | @finished _ value valid =>
      simp only [Traced.andThen]
      generalize after : next value = result
      have continued := after ▸ continues value
      cases continued with
      | finished validToo =>
          rw [← List.flatMap_append]
          exact .finished (List.forall_mem_append.mpr ⟨valid, validToo⟩)
      | stopped validToo refuses =>
          rw [← List.flatMap_append, ← List.append_assoc]
          exact .stopped (List.forall_mem_append.mpr ⟨valid, validToo⟩) refuses

theorem ok_iff (follows : target.Follows request first traced) :
    (∃ value, traced.outcome = .ok value) ↔
      ∀ comparison ∈ first, request.Valid target.supports comparison := by
  cases follows with
  | finished valid => exact ⟨fun _ => valid, fun _ => ⟨_, rfl⟩⟩
  | @stopped _ _ comparison _ _ refuses =>
      constructor
      · rintro ⟨value, finished⟩
        contradiction
      · intro each
        exact absurd (each comparison (by simp)) refuses.not_valid

theorem first_refusal_exists (follows : target.Follows request first traced) {error : FilterError}
    (failed : traced.outcome = .error error) :
    ∃ earlier comparison later, first = earlier ++ comparison :: later ∧
      (∀ other ∈ earlier, request.Valid target.supports other) ∧
      request.Refuses target.name target.supports comparison error ∧
      traced.leaves = earlier.flatMap (target.leavesOf request) := by
  cases follows with
  | finished valid => contradiction
  | stopped valid refuses =>
      cases failed
      exact ⟨_, _, _, rfl, valid, refuses, rfl⟩

end Follows

theorem trace_comparison (target : Target φ) (request : Request) (comparison : Comparison) :
    target.trace request comparison.expression =
      match request.resolveComparison target.name target.supports comparison with
      | .error error => ⟨[], .error error⟩
      | .ok none => ⟨[], .ok (target.any [])⟩
      | .ok (some leaf) => ⟨[leaf], .ok (target.leaf leaf)⟩ := by
  rfl

theorem trace_of_refused {comparison : Comparison} {error : FilterError}
    (refuses : request.Refuses target.name target.supports comparison error) :
    target.trace request comparison.expression = ⟨[], .error error⟩ := by
  rw [trace_comparison, refuses.resolve_eq]

theorem comparison_outcome_exists {comparison : Comparison}
    (valid : request.Valid target.supports comparison) :
    ∃ filter, (target.trace request comparison.expression).outcome = .ok filter := by
  obtain ⟨leaf, resolved⟩ := valid.resolve_exists target.name
  rw [trace_comparison, resolved]
  cases leaf with
  | none => exact ⟨_, rfl⟩
  | some leaf => exact ⟨_, rfl⟩

theorem comparison_follows (target : Target φ) (request : Request) (comparison : Comparison) :
    target.Follows request [comparison] (target.trace request comparison.expression) := by
  rcases request.valid_or_refused target.name target.supports comparison with valid | ⟨error, refuses⟩
  · obtain ⟨filter, accepted⟩ := comparison_outcome_exists valid
    have finished : target.Follows request [comparison]
        ⟨[comparison].flatMap (target.leavesOf request), .ok filter⟩ :=
      .finished (List.forall_mem_singleton.mpr valid)
    rwa [List.flatMap_singleton, leavesOf, ← accepted] at finished
  · have none : ∀ other ∈ [], request.Valid target.supports other := List.forall_mem_nil _
    rw [trace_of_refused refuses]
    exact .stopped none refuses

theorem traceList_follows {children : List Expression} (each : ∀ child ∈ children,
      target.Follows request child.comparisons (target.trace request child)) :
    target.Follows request (children.flatMap Expression.comparisons)
      (target.traceList request children) := by
  induction children with
  | nil => exact .finished (by simp)
  | cons child children inductionHypothesis =>
      obtain ⟨first, rest⟩ := List.forall_mem_cons.mp each
      exact first.andThen fun _ => (inductionHypothesis rest).map _

theorem trace_follows (target : Target φ) (request : Request) (expression : Expression) :
    target.Follows request expression.comparisons (target.trace request expression) := by
  induction expression with
  | all children inductionHypothesis | any children inductionHypothesis =>
      rw [Expression.comparisons]
      exact (traceList_follows inductionHypothesis).map _
  | comparison selector symbol arguments =>
      rw [Expression.comparisons]
      exact target.comparison_follows request ⟨selector, symbol, arguments⟩

theorem translate_comparison_eq_error_iff (comparison : Comparison) {error : FilterError} :
    target.translate request comparison.expression = .error error ↔
      request.Refuses target.name target.supports comparison error := by
  rw [← Request.resolve_eq_error_iff, translate, trace_comparison]
  cases request.resolveComparison target.name target.supports comparison with
  | error reason => simp
  | ok resolved => cases resolved <;> simp

theorem accepts_comparison_iff_valid (comparison : Comparison) :
    target.Accepts request comparison.expression ↔ request.Valid target.supports comparison :=
  accepts_comparison.trans Request.resolve_exists_iff

/-- An expression is accepted just if each of its comparisons is valid.  Any other fails
as the first invalid comparison does, which is the one that the error names, and what has
been written by then are the leaves of the comparisons in front of it. -/
theorem refused_for_first_invalid (target : Target φ) (request : Request)
    (expression : Expression) :
    (target.Accepts request expression ↔
      ∀ comparison ∈ expression.comparisons, request.Valid target.supports comparison) ∧
    ∀ error, target.translate request expression = .error error →
      ∃ earlier comparison later, expression.comparisons = earlier ++ comparison :: later ∧
        (∀ other ∈ earlier, request.Valid target.supports other) ∧
        ¬ request.Valid target.supports comparison ∧
        request.Refuses target.name target.supports comparison error ∧
        error.fieldName = comparison.selector ∧
        (target.trace request expression).leaves = earlier.flatMap (target.leavesOf request) := by
  have follows := target.trace_follows request expression
  refine ⟨follows.ok_iff, ?_⟩
  intro error failed
  obtain ⟨earlier, comparison, later, listed, valid, refuses, leaves⟩ :=
    follows.first_refusal_exists failed
  exact ⟨earlier, comparison, later, listed, valid, refuses.not_valid, refuses,
    refuses.fieldName_eq, leaves⟩

def titleAndManyPages : Expression :=
  .all [.comparison "title" "==" ["x"],
    .any [.comparison "pages" ">" ["many"], .comparison "author" "==" ["y"]]]

theorem many_pages_refused :
    Document.target.translate ⟨.books, .reject⟩ titleAndManyPages =
      .error (.invalidArgument "pages" "many" .integer) ∧
    ∃ earlier comparison later, titleAndManyPages.comparisons = earlier ++ comparison :: later ∧
      comparison.selector = "pages" ∧
      (Document.target.trace ⟨.books, .reject⟩ titleAndManyPages).leaves =
        earlier.flatMap (Document.target.leavesOf ⟨.books, .reject⟩) := by
  have refused : Document.target.translate ⟨.books, .reject⟩ titleAndManyPages =
      .error (.invalidArgument "pages" "many" .integer) := rfl
  obtain ⟨_, first⟩ := refused_for_first_invalid Document.target ⟨.books, .reject⟩ titleAndManyPages
  obtain ⟨earlier, comparison, later, listed, _, _, _, named, leaves⟩ := first _ refused
  exact ⟨refused, earlier, comparison, later, listed, named.symm, leaves⟩

end Target

end FilterQuery
