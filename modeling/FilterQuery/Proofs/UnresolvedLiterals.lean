import FilterQuery.Proofs.Labels
import FilterQuery.Proofs.Refusals

namespace FilterQuery

open scoped List

/-! Literals that name no member of an enumeration.  Whether they are rejected makes a
difference only where there are some, and where they match nothing an expression stands
for one that is rid of them. -/

/-- Whether a comparison, other than a null test, has a literal that names no member of the
enumeration it selects. -/
structure Comparison.HasUnresolved (comparison : Comparison) (fields : FieldMap) (field : Field)
    (literal : String) : Prop where
  selects : ∃ operator, comparison.Selects fields field operator ∧ operator.isNullTest = false
  member : literal ∈ comparison.arguments
  unresolved : field.isUnresolved literal = true

/-- A list to choose from loses the literals that name no member, unless none would be left.
Any other comparison with such a literal is replaced by an empty disjunction, and null tests
stay as they are. -/
def FieldMap.pruned (fields : FieldMap) (selector symbol : String) (arguments : List String) :
    Expression :=
  match fields.find? selector, Operator.ofSymbol? symbol with
  | some field, some operator =>
      let resolved := arguments.filter fun literal => !field.isUnresolved literal
      if operator = .oneOf ∧ resolved ≠ [] then .comparison selector symbol resolved
      else if field.blocks operator arguments then .any []
      else .comparison selector symbol arguments
  | _, _ => .comparison selector symbol arguments

def Expression.pruned (fields : FieldMap) : Expression → Expression
  | .all children => .all (children.map fun child => child.pruned fields)
  | .any children => .any (children.map fun child => child.pruned fields)
  | .comparison selector symbol arguments => fields.pruned selector symbol arguments

namespace Field

variable {field : Field} {literal : String} {literals : List String}

theorem kind_of_isUnresolved (unresolved : field.isUnresolved literal = true) :
    field.kind = .enumeration :=
  of_decide_eq_true (Bool.and_eq_true_iff.mp unresolved).1

theorem casts_of_enumeration (enumeration : field.kind = .enumeration) (literal : String) :
    field.Casts .matchNothing literal := by
  simp only [Casts, castArgument, enumeration, if_true]
  cases field.resolveMember? literal <;> simp

theorem casts_strictly_iff :
    field.Casts .reject literal ↔
      field.Casts .matchNothing literal ∧ field.isUnresolved literal = false := by
  by_cases enumeration : field.kind = .enumeration
  · rw [and_iff_right (casts_of_enumeration enumeration literal)]
    simp only [Casts, castArgument, isUnresolved, isEnumeration, enumeration, if_true]
    cases field.resolveMember? literal <;> simp
  · simp [Casts, castArgument, isUnresolved, isEnumeration, enumeration]

theorem values_resolved :
    field.values (literals.filter fun literal => !field.isUnresolved literal) =
      field.values literals := by
  rw [values, values, List.filterMap_filter]
  refine List.filterMap_congr fun literal _ => ?_
  cases unresolved : field.isUnresolved literal with
  | false => rfl
  | true => simp [value?_eq_none unresolved]

end Field

namespace Request

variable {fields : FieldMap} {target : String} {supports : Operator → Bool}
  {comparison : Comparison} {error : FilterError}

theorem valid_strictly_iff :
    Request.Valid ⟨fields, .reject⟩ supports comparison ↔
      Request.Valid ⟨fields, .matchNothing⟩ supports comparison ∧
        ∀ field literal, ¬ comparison.HasUnresolved fields field literal := by
  constructor
  · rintro ⟨field, operator, selects, supported, rules⟩
    constructor
    · refine ⟨field, operator, selects, supported, rules.imp_right ?_⟩
      rintro ⟨listed, counted, cast⟩
      exact ⟨listed, counted, fun literal member => (Field.casts_strictly_iff.mp (cast literal member)).1⟩
    · rintro field' literal ⟨⟨operator', selects', compares⟩, member, unresolved⟩
      obtain ⟨rfl, rfl⟩ := selects.unique selects'
      obtain ⟨_, _, cast⟩ := rules.resolve_left (by simp [compares])
      simp [(Field.casts_strictly_iff.mp (cast literal member)).2] at unresolved
  · rintro ⟨⟨field, operator, selects, supported, rules⟩, resolved⟩
    refine ⟨field, operator, selects, supported, ?_⟩
    cases compares : operator.isNullTest with
    | true => exact .inl rfl
    | false =>
        obtain ⟨listed, counted, cast⟩ := rules.resolve_left (by simp [compares])
        refine .inr ⟨listed, counted, fun literal member => ?_⟩
        have named : field.isUnresolved literal = false := Bool.eq_false_iff.mpr fun unresolved =>
          resolved field literal ⟨⟨operator, selects, compares⟩, member, unresolved⟩
        exact Field.casts_strictly_iff.mpr ⟨cast literal member, named⟩

/-- What is refused although unresolved literals match nothing is refused for the same
reason if they are rejected. -/
theorem Refuses.strictly
    (refuses : Request.Refuses ⟨fields, .matchNothing⟩ target supports comparison error) :
    Request.Refuses ⟨fields, .reject⟩ target supports comparison error := by
  cases refuses with
  | unknownField absent => exact .unknownField absent
  | unknownOperator found unnamed => exact .unknownOperator found unnamed
  | operatorNotAllowed selects compares forbidden =>
      exact .operatorNotAllowed selects compares forbidden
  | unsupportedOperator selects allowed declined =>
      exact .unsupportedOperator selects allowed declined
  | argumentCount selects compares allowed supported miscounted =>
      exact .argumentCount selects compares allowed supported miscounted
  | invalidArgument selects compares allowed supported counted listed cast uncast =>
      -- a literal that cannot be cast shows that the field is no enumeration
      have resolved : ∀ other, Field.isUnresolved _ other = false := fun other =>
        Bool.eq_false_iff.mpr fun unresolved =>
          uncast (Field.casts_of_enumeration (Field.kind_of_isUnresolved unresolved) _)
      refine .invalidArgument selects compares allowed supported counted listed ?_ ?_
      · exact fun other member => Field.casts_strictly_iff.mpr ⟨cast other member, resolved other⟩
      · exact fun strictly => uncast (Field.casts_strictly_iff.mp strictly).1

theorem Refuses.leniently
    (refuses : Request.Refuses ⟨fields, .reject⟩ target supports comparison error) :
    Request.Refuses ⟨fields, .matchNothing⟩ target supports comparison error ∨
      ∃ field literal, comparison.HasUnresolved fields field literal ∧
        error = .invalidArgument field.name literal .enumeration := by
  cases refuses with
  | unknownField absent => exact .inl (.unknownField absent)
  | unknownOperator found unnamed => exact .inl (.unknownOperator found unnamed)
  | operatorNotAllowed selects compares forbidden =>
      exact .inl (.operatorNotAllowed selects compares forbidden)
  | unsupportedOperator selects allowed declined =>
      exact .inl (.unsupportedOperator selects allowed declined)
  | argumentCount selects compares allowed supported miscounted =>
      exact .inl (.argumentCount selects compares allowed supported miscounted)
  | @invalidArgument field operator earlier later literal selects compares allowed supported counted
      listed cast uncast =>
      cases unresolved : field.isUnresolved literal with
      | true =>
          have member : literal ∈ comparison.arguments := by simp [listed]
          refine .inr ⟨field, literal, ⟨⟨operator, selects, compares⟩, member, unresolved⟩, ?_⟩
          rw [Field.kind_of_isUnresolved unresolved]
      | false =>
          apply Or.inl
          refine .invalidArgument selects compares allowed supported counted listed ?_ ?_
          · exact fun other member => (Field.casts_strictly_iff.mp (cast other member)).1
          · exact fun leniently => uncast (Field.casts_strictly_iff.mpr ⟨leniently, unresolved⟩)

theorem leaf_of_selects {request : Request} {field : Field} {operator : Operator} {result : Option Leaf}
    (selects : comparison.Selects request.fields field operator)
    (resolved : request.resolveComparison target supports comparison = .ok result) :
    result = (field.madeTest operator comparison.arguments).map fun test => ⟨field.key, test⟩ := by
  obtain ⟨_, _, found, named, _, _, made⟩ := resolve_eq_ok resolved
  obtain ⟨rfl, rfl⟩ := selects.unique ⟨found, named⟩
  exact made

/-- A list to choose from makes the same test without the literals that name no member. -/
theorem resolve_resolved {request : Request} {field : Field} {resolved : List String}
    {result : Option Leaf} (selects : comparison.Selects request.fields field .oneOf)
    (kept : resolved = comparison.arguments.filter fun literal => !field.isUnresolved literal)
    (nonempty : resolved ≠ [])
    (whole : request.resolveComparison target supports comparison = .ok result) :
    request.resolveComparison target supports { comparison with arguments := resolved } = .ok result := by
  have selectsToo : Comparison.Selects { comparison with arguments := resolved } request.fields field
      .oneOf := ⟨selects.found, selects.named⟩
  have valid : request.Valid supports { comparison with arguments := resolved } := by
    obtain ⟨field', operator, selects', supported, rules⟩ := resolve_exists_iff.mp ⟨result, whole⟩
    obtain ⟨rfl, rfl⟩ := selects.unique selects'
    obtain ⟨listed, _, cast⟩ := rules.resolve_left (by decide)
    refine ⟨field, .oneOf, selectsToo, supported, .inr ⟨listed, ?_, fun literal member => ?_⟩⟩
    · exact List.length_pos_iff.mpr nonempty
    · rw [kept] at member
      exact cast literal (List.mem_filter.mp member).1
  obtain ⟨leaf, rest⟩ := valid.resolve_exists target
  have same : leaf = result := by
    rw [leaf_of_selects selects whole, leaf_of_selects selectsToo rest, Field.madeTest, Field.madeTest,
      Field.blocks_eq_false (by decide), Field.blocks_eq_false (by decide), kept, Field.values_resolved]
  rwa [same] at rest

end Request

namespace Target

variable {φ : Type} {target : Target φ} {request : Request} {fields : FieldMap}
  {expression : Expression} {earlier : List Comparison} {comparison : Comparison}
  {error : FilterError}

/-- Whether translation stops at a comparison, behind others that are valid, and fails as
this one does. -/
structure StopsAt (target : Target φ) (request : Request) (expression : Expression)
    (earlier : List Comparison) (comparison : Comparison) (error : FilterError) : Prop where
  placed : earlier ++ [comparison] <+: expression.comparisons
  valid : ∀ other ∈ earlier, request.Valid target.supports other
  refuses : request.Refuses target.name target.supports comparison error
  failed : target.translate request expression = .error error

theorem stopsAt_exists (failed : target.translate request expression = .error error) :
    ∃ earlier comparison, target.StopsAt request expression earlier comparison error := by
  obtain ⟨earlier, comparison, later, listed, valid, refuses, _⟩ :=
    (target.trace_follows request expression).first_refusal_exists failed
  refine ⟨earlier, comparison, ⟨later, ?_⟩, valid, refuses, failed⟩
  rw [listed, List.append_assoc, List.singleton_append]

/-- Where unresolved literals are rejected, translation stops where it would anyway or at an
earlier comparison that has one. -/
theorem StopsAt.strictly
    (stops : target.StopsAt ⟨fields, .matchNothing⟩ expression earlier comparison error) :
    target.StopsAt ⟨fields, .reject⟩ expression earlier comparison error ∨
      ∃ before other field literal, before ++ [other] <+: earlier ∧
        other.HasUnresolved fields field literal ∧
        target.StopsAt ⟨fields, .reject⟩ expression before other
          (.invalidArgument field.name literal .enumeration) := by
  have invalid : ¬ Request.Valid ⟨fields, .reject⟩ target.supports comparison := fun valid =>
    stops.refuses.not_valid (Request.valid_strictly_iff.mp valid).1
  have refused : ¬ target.Accepts ⟨fields, .reject⟩ expression := by
    intro accepted
    have each := (target.trace_follows ⟨fields, .reject⟩ expression).ok_iff.mp accepted
    exact invalid (each comparison (stops.placed.subset (by simp)))
  cases failed : target.translate ⟨fields, .reject⟩ expression with
  | ok filter => exact absurd ⟨filter, failed⟩ refused
  | error reason =>
  obtain ⟨before, other, stops'⟩ := stopsAt_exists failed
  rcases places_compared stops.placed stops'.placed with passed | ⟨rfl, rfl⟩ | within
  · exact absurd (stops'.valid comparison (passed.subset (by simp))) invalid
  · have agree := stops.refuses.strictly.resolve_eq.symm.trans stops'.refuses.resolve_eq
    obtain rfl : error = reason := Except.error.inj agree
    exact .inl stops'
  · have valid := stops.valid other (within.subset (by simp))
    rcases stops'.refuses.leniently with refuses | ⟨field, literal, unresolved, rfl⟩
    · exact absurd valid refuses.not_valid
    · exact .inr ⟨before, other, field, literal, within, unresolved, stops'⟩

theorem translate_strictly_iff {filter : φ} :
    target.translate ⟨fields, .reject⟩ expression = .ok filter ↔
      target.translate ⟨fields, .matchNothing⟩ expression = .ok filter ∧
        ∀ comparison ∈ expression.comparisons, ∀ field literal,
          ¬ comparison.HasUnresolved fields field literal := by
  have strict := (target.trace_follows ⟨fields, .reject⟩ expression).ok_iff
  have lenient := (target.trace_follows ⟨fields, .matchNothing⟩ expression).ok_iff
  simp only [Request.valid_strictly_iff, forall₂_and] at strict
  rw [← lenient] at strict
  constructor
  · intro accepted
    obtain ⟨⟨filter', accepted'⟩, resolved⟩ := strict.mp ⟨filter, accepted⟩
    rw [filter_eq_write accepted, ← filter_eq_write accepted']
    exact ⟨accepted', resolved⟩
  · rintro ⟨accepted, resolved⟩
    obtain ⟨filter', accepted'⟩ := strict.mpr ⟨⟨filter, accepted⟩, resolved⟩
    rw [filter_eq_write accepted, ← filter_eq_write accepted']
    exact accepted'

theorem translate_pruned_comparison (comparison : Comparison) {filter : φ}
    (accepted : target.translate request comparison.expression = .ok filter) :
    target.translate request
        (request.fields.pruned comparison.selector comparison.symbol comparison.arguments) =
      .ok filter := by
  have written := accepted
  rw [Comparison.expression, translate_comparison] at written
  change (request.resolveComparison target.name target.supports comparison).map _ = _ at written
  cases whole : request.resolveComparison target.name target.supports comparison with
  | error error => simp [whole, Except.map] at written
  | ok result =>
  obtain ⟨field, operator, selects, _⟩ := Request.resolve_exists_iff.mp ⟨result, whole⟩
  simp only [FieldMap.pruned, selects.found, selects.named]
  split
  · rename_i listed
    obtain ⟨rfl, nonempty⟩ := listed
    rw [translate_comparison, ← written, whole]
    exact congrArg (Except.map _) (Request.resolve_resolved selects rfl nonempty whole)
  · split
    · rename_i blocked
      have none := Request.leaf_of_selects selects whole
      rw [Field.madeTest, blocked, if_pos rfl, Option.map_none] at none
      rw [← written, whole, none]
      rfl
    · exact accepted

theorem translate_pruned {filter : φ}
    (accepted : target.translate request expression = .ok filter) :
    target.translate request (expression.pruned request.fields) = .ok filter := by
  induction expression generalizing filter with
  | all children inductionHypothesis =>
      rw [Expression.pruned, translate_all, List.mapM_map]
      rw [translate_all] at accepted
      exact map_eq_ok_mono (fun _ => mapM_eq_ok_mono inductionHypothesis) accepted
  | any children inductionHypothesis =>
      rw [Expression.pruned, translate_any, List.mapM_map]
      rw [translate_any] at accepted
      exact map_eq_ok_mono (fun _ => mapM_eq_ok_mono inductionHypothesis) accepted
  | comparison selector symbol arguments =>
      rw [Expression.pruned]
      exact translate_pruned_comparison ⟨selector, symbol, arguments⟩ accepted

/-- Where unresolved literals are rejected, the expressions without any are translated as
where they match nothing, and all others are refused: for the same reason at the same
comparison, or for an unresolved literal of an earlier one.  Where they match nothing, an
expression has the filter of the expression that is rid of them. -/
theorem policies_differ_where_unresolved (target : Target φ) (fields : FieldMap)
    (expression : Expression) :
    (∀ filter, target.translate ⟨fields, .reject⟩ expression = .ok filter ↔
      target.translate ⟨fields, .matchNothing⟩ expression = .ok filter ∧
        ∀ comparison ∈ expression.comparisons, ∀ field literal,
          ¬ comparison.HasUnresolved fields field literal) ∧
    (∀ error, target.translate ⟨fields, .matchNothing⟩ expression = .error error →
      ∃ earlier comparison,
        target.StopsAt ⟨fields, .matchNothing⟩ expression earlier comparison error ∧
        (target.StopsAt ⟨fields, .reject⟩ expression earlier comparison error ∨
          ∃ before other field literal, before ++ [other] <+: earlier ∧
            other.HasUnresolved fields field literal ∧
            target.StopsAt ⟨fields, .reject⟩ expression before other
              (.invalidArgument field.name literal .enumeration))) ∧
    (∀ filter, target.translate ⟨fields, .matchNothing⟩ expression = .ok filter →
      target.translate ⟨fields, .matchNothing⟩ (expression.pruned fields) = .ok filter) := by
  refine ⟨fun _ => translate_strictly_iff, fun error failed => ?_, fun _ => translate_pruned⟩
  obtain ⟨earlier, comparison, stops⟩ := stopsAt_exists failed
  exact ⟨earlier, comparison, stops, stops.strictly⟩

end Target

example : FieldMap.formats.pruned "format" "=in=" ["Paper", "VINYL"] =
    .comparison "format" "=in=" ["Paper"] := by
  decide

example : FieldMap.formats.pruned "format" "=out=" ["Paper", "VINYL"] = .any [] := by
  decide

end FilterQuery
