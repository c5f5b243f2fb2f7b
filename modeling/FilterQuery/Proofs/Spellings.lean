import FilterQuery.Proofs.BuiltFields
import FilterQuery.Proofs.Translation

namespace FilterQuery

/-! How the symbol of an operator is spelled does not matter, and neither does what is
written as the arguments of a null test. -/

namespace Operator

/-- The sign and the word of each ordering comparison. -/
def spellings : List (String × String) :=
  [(">", "=gt="), (">=", "=ge="), ("<", "=lt="), ("<=", "=le=")]

/-- Whether a symbol may stand for another, which has its letters in another case or is the
other symbol of an ordering comparison. -/
inductive Respells : String → String → Prop where
  | letters {symbol other : String}
      (same : symbol.toList.map Char.toLower = other.toList.map Char.toLower) :
      Respells symbol other
  | word {sign word : String} (pair : (sign, word) ∈ spellings) : Respells sign word
  | sign {sign word : String} (pair : (sign, word) ∈ spellings) : Respells word sign
  | trans {first second third : String} (start : Respells first second)
      (finish : Respells second third) : Respells first third

theorem canonical_eq_of_spellings {sign word : String} (pair : (sign, word) ∈ spellings) :
    (ofSymbol? sign).map canonical = (ofSymbol? word).map canonical := by
  simp only [spellings, List.mem_cons, Prod.mk.injEq, List.not_mem_nil, or_false] at pair
  rcases pair with ⟨rfl, rfl⟩ | ⟨rfl, rfl⟩ | ⟨rfl, rfl⟩ | ⟨rfl, rfl⟩ <;> decide

theorem Respells.canonical_eq {symbol other : String} (respells : Respells symbol other) :
    (ofSymbol? symbol).map canonical = (ofSymbol? other).map canonical := by
  induction respells with
  | letters same => rw [ofSymbol?, ofSymbol?, same]
  | word pair => exact canonical_eq_of_spellings pair
  | sign pair => exact (canonical_eq_of_spellings pair).symm
  | trans _ _ first second => exact first.trans second

theorem isNullTest_canonical (operator : Operator) :
    operator.canonical.isNullTest = operator.isNullTest := by
  cases operator <;> rfl

theorem canonical_canonical (operator : Operator) :
    operator.canonical.canonical = operator.canonical := by
  cases operator <;> rfl

end Operator

/-- An error without the spelling of the operator that it quotes. -/
def FilterError.unspelled : FilterError → FilterError
  | .unknownOperator field _ => .unknownOperator field ""
  | .operatorNotAllowed field _ => .operatorNotAllowed field ""
  | .unsupportedOperator field _ target => .unsupportedOperator field "" target
  | .argumentCount field operator count => .argumentCount field operator.canonical count
  | error => error

/-- Two expressions that differ in the spelling of operators and in the arguments of null
tests only. -/
inductive Expression.Respelled : Expression → Expression → Prop where
  | all {pairs : List (Expression × Expression)}
      (respelled : ∀ pair ∈ pairs, Respelled pair.1 pair.2) :
      Respelled (.all (pairs.map (·.1))) (.all (pairs.map (·.2)))
  | any {pairs : List (Expression × Expression)}
      (respelled : ∀ pair ∈ pairs, Respelled pair.1 pair.2) :
      Respelled (.any (pairs.map (·.1))) (.any (pairs.map (·.2)))
  | comparison {selector symbol other : String} {arguments others : List String}
      (respells : Operator.Respells symbol other)
      (same : arguments = others ∨
        ∃ operator, Operator.ofSymbol? symbol = some operator ∧ operator.isNullTest = true) :
      Respelled (.comparison selector symbol arguments) (.comparison selector other others)

theorem Declaration.mem_fieldOperators_canonical (declaration : Declaration) (operator : Operator) :
    operator.canonical ∈ declaration.fieldOperators ↔ operator ∈ declaration.fieldOperators := by
  unfold fieldOperators
  split
  · simp [ValueKind.operators, Operator.mem_all, ValueKind.allows_canonical]
  · rw [Operator.mem_closeSpellings_iff, Operator.mem_closeSpellings_iff,
      Operator.canonical_canonical]

namespace Field

variable {field : Field} {operator : Operator} {selector : String} {unknown : UnknownMembers}
  {arguments : List String}

/-- A field has both symbols of an ordering comparison or neither. -/
theorem Built.supports_canonical (built : field.Built) (operator : Operator) :
    field.supports operator.canonical = field.supports operator := by
  obtain ⟨declaration, checked⟩ := built
  rw [supports, supports, (build_eq_ok checked).2]
  exact decide_eq_decide.mpr (declaration.mem_fieldOperators_canonical operator)

theorem test?_canonical (field : Field) (selector : String) (operator : Operator)
    (unknown : UnknownMembers) (arguments : List String) :
    (field.test? selector operator.canonical unknown arguments).mapError FilterError.unspelled =
      (field.test? selector operator unknown arguments).mapError FilterError.unspelled := by
  cases operator with
  | greaterWord | atLeastWord | lessWord | atMostWord =>
      simp only [test?, Operator.canonical, Operator.form]
      split <;> rfl
  | _ => rfl

theorem test?_of_isNullTest_congr (tests : operator.isNullTest = true) (others : List String) :
    field.test? selector operator unknown arguments = field.test? selector operator unknown others := by
  cases operator <;> first | contradiction | rfl

end Field

/-- Operators of one canonical form make one test, except that the wrong number of
arguments is reported for the operator that is used. -/
theorem Field.test?_respelled (field : Field) (selector : String) {operator operator' : Operator}
    (same : operator.canonical = operator'.canonical) (unknown : UnknownMembers)
    {arguments others : List String} (given : arguments = others ∨ operator.isNullTest = true) :
    (field.test? selector operator unknown arguments).mapError FilterError.unspelled =
      (field.test? selector operator' unknown others).mapError FilterError.unspelled := by
  rw [← field.test?_canonical selector operator, ← field.test?_canonical selector operator', ← same]
  rcases given with rfl | tests
  · rfl
  · rw [test?_of_isNullTest_congr (by rwa [Operator.isNullTest_canonical]) others]

theorem Request.resolve_respelled (request : Request) (built : request.fields.Built)
    (target : String) (supports : Operator → Bool) {selector symbol other : String}
    {arguments others : List String}
    (same : (Operator.ofSymbol? symbol).map Operator.canonical =
      (Operator.ofSymbol? other).map Operator.canonical)
    (given : arguments = others ∨
      ∃ operator, Operator.ofSymbol? symbol = some operator ∧ operator.isNullTest = true) :
    (request.resolve target supports selector symbol arguments).mapError FilterError.unspelled =
      (request.resolve target supports selector other others).mapError FilterError.unspelled := by
  unfold resolve
  cases found : request.fields.find? selector with
  | none => rfl
  | some field =>
  have checked : field.Built := built field (FieldMap.mem_of_find? found)
  cases named : Operator.ofSymbol? symbol with
  | none =>
      cases namedToo : Operator.ofSymbol? other with
      | none => rfl
      | some operator => simp [named, namedToo] at same
  | some operator =>
  cases namedToo : Operator.ofSymbol? other with
  | none => simp [named, namedToo] at same
  | some operator' =>
  have canonical : operator.canonical = operator'.canonical := by simpa [named, namedToo] using same
  have tests : operator.isNullTest = operator'.isNullTest := by
    rw [← operator.isNullTest_canonical, canonical, operator'.isNullTest_canonical]
  have listed : field.supports operator = field.supports operator' := by
    rw [← checked.supports_canonical operator, canonical, checked.supports_canonical]
  have made := field.test?_respelled selector canonical request.unknown
    (given.imp_right (by simp [named]))
  simp only [tests, listed, canonical]
  split
  · rfl
  · split
    · rfl
    · rw [mapError_map, mapError_map, made]

/-- Expressions that differ in the spelling of operators and in the arguments of null tests
only are translated to the same filter, or fail with the same error but for the symbol that
it quotes. -/
theorem Expression.Respelled.same_translation {φ : Type} {fields : FieldMap}
    (built : fields.Built) (target : Target φ) (unknown : UnknownMembers)
    {first second : Expression} (respelled : first.Respelled second) :
    (target.translate ⟨fields, unknown⟩ first).mapError FilterError.unspelled =
      (target.translate ⟨fields, unknown⟩ second).mapError FilterError.unspelled := by
  induction respelled with
  | all _ inductionHypothesis =>
      rw [Target.translate_all, Target.translate_all, mapError_map, mapError_map,
        mapError_mapM_congr inductionHypothesis]
  | any _ inductionHypothesis =>
      rw [Target.translate_any, Target.translate_any, mapError_map, mapError_map,
        mapError_mapM_congr inductionHypothesis]
  | comparison respells given =>
      rw [Target.translate_comparison, Target.translate_comparison, mapError_map, mapError_map,
        Request.resolve_respelled ⟨fields, unknown⟩ built _ _ respells.canonical_eq given]

/-- Books of more than three pages and without a title. -/
def Expression.untitledPages (more absent : String) (ignored : List String) : Expression :=
  .all [.comparison "pages" more ["3"], .comparison "title" absent ignored]

theorem Expression.untitled_pages_same_translation :
    FieldMap.books.Built ∧
    (untitledPages "=GT=" "=null=" ["x", "y"]).Respelled (untitledPages ">" "=NULL=" []) ∧
    (Document.target.translate ⟨.books, .reject⟩
        (untitledPages "=GT=" "=null=" ["x", "y"])).mapError FilterError.unspelled =
      (Document.target.translate ⟨.books, .reject⟩
        (untitledPages ">" "=NULL=" [])).mapError FilterError.unspelled := by
  have lowered : Operator.Respells "=GT=" "=gt=" := .letters (by decide)
  have greater : Operator.Respells "=GT=" ">" := lowered.trans (.sign (by decide))
  have pages : (comparison "pages" "=GT=" ["3"]).Respelled (.comparison "pages" ">" ["3"]) :=
    .comparison greater (.inl rfl)
  have title : (comparison "title" "=null=" ["x", "y"]).Respelled (.comparison "title" "=NULL=" []) :=
    .comparison (.letters (by decide)) (.inr ⟨.isNull, by decide, rfl⟩)
  have each : ∀ pair ∈ [(comparison "pages" "=GT=" ["3"], comparison "pages" ">" ["3"]),
      (comparison "title" "=null=" ["x", "y"], comparison "title" "=NULL=" [])],
      pair.1.Respelled pair.2 :=
    List.forall_mem_cons.mpr ⟨pages, List.forall_mem_singleton.mpr title⟩
  have respelled : (untitledPages "=GT=" "=null=" ["x", "y"]).Respelled
      (untitledPages ">" "=NULL=" []) := .all each
  exact ⟨FieldMap.books_built, respelled,
    respelled.same_translation FieldMap.books_built Document.target .reject⟩

end FilterQuery
