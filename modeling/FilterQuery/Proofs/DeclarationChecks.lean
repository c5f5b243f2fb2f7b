import FilterQuery.Proofs.BuiltFields

namespace FilterQuery

open scoped List

/-! The checks of a declaration in their order: first whether one of its operators applies,
then whether its literals can be told apart. -/

namespace Operator

variable {first second : Operator}

/-- Whether two operators are the symbols of one ordering comparison. -/
def Pairs (first second : Operator) : Prop :=
  first.word? = some second ∨ second.word? = some first

theorem canonical_eq_iff : first.canonical = second.canonical ↔ first = second ∨ first.Pairs second := by
  cases first <;> cases second <;> simp [canonical, Pairs, word?]

theorem Pairs.canonical_eq (pairs : first.Pairs second) : first.canonical = second.canonical :=
  canonical_eq_iff.mpr (.inr pairs)

end Operator

namespace ValueKind

variable {kind : ValueKind} {operator partner : Operator}

theorem mem_operators_iff : operator ∈ kind.operators ↔ kind.allows operator = true := by
  simp [operators, Operator.mem_all]

theorem operators_ne_nil (kind : ValueKind) : kind.operators ≠ [] := by
  cases kind <;> decide

theorem isNullTest_of_allows (allowed : kind.allows operator = true) : operator.isNullTest = false := by
  cases operator <;> first | rfl | cases kind <;> contradiction

theorem allows_of_pairs (pairs : operator.Pairs partner) : kind.allows operator = kind.allows partner := by
  rw [← kind.allows_canonical operator, pairs.canonical_eq, kind.allows_canonical]

end ValueKind

namespace Declaration

variable {declaration : Declaration} {operator partner : Operator}

/-- Whether operators are left to choose, or one that is declared applies. -/
def OperatorsApply (declaration : Declaration) : Prop :=
  declaration.operators = [] ∨
    ∃ operator ∈ declaration.operators, declaration.valueKind.allows operator = true

/-- A field has the operators that apply and are declared by one of their symbols. -/
theorem mem_fieldOperators_iff :
    operator ∈ declaration.fieldOperators ↔ declaration.valueKind.allows operator = true ∧
      (declaration.operators = [] ∨ operator ∈ declaration.operators ∨
        ∃ partner ∈ declaration.operators, operator.Pairs partner) := by
  unfold fieldOperators
  split
  · rename_i undeclared
    simp [ValueKind.mem_operators_iff, undeclared]
  · rename_i declared
    rw [Operator.mem_closeSpellings_iff]
    simp only [Operator.canonical_eq_iff, List.mem_filter, declared, false_or]
    constructor
    · rintro ⟨present, ⟨listed, allowed⟩, rfl | pairs⟩
      · exact ⟨allowed, .inl listed⟩
      · exact ⟨(ValueKind.allows_of_pairs pairs).trans allowed, .inr ⟨present, listed, pairs⟩⟩
    · rintro ⟨allowed, listed | ⟨present, listed, pairs⟩⟩
      · exact ⟨operator, ⟨listed, allowed⟩, .inl rfl⟩
      · exact ⟨present, ⟨listed, (ValueKind.allows_of_pairs pairs).symm.trans allowed⟩, .inr pairs⟩

example : Declaration.fieldOperators {
      attributeName := "pages"
      attributeType := .i64
      operators := [.contains, .lessWord, .isNull, .equal] } = [.equal, .less, .lessWord] := by
  decide

theorem fieldOperators_ne_nil_iff : declaration.fieldOperators ≠ [] ↔ declaration.OperatorsApply := by
  constructor
  · intro nonempty
    obtain ⟨operator, member⟩ := List.exists_mem_of_ne_nil _ nonempty
    obtain ⟨allowed, undeclared | listed | ⟨partner, listed, pairs⟩⟩ := mem_fieldOperators_iff.mp member
    · exact .inl undeclared
    · exact .inr ⟨operator, listed, allowed⟩
    · exact .inr ⟨partner, listed, (ValueKind.allows_of_pairs pairs).symm.trans allowed⟩
  · rintro (undeclared | ⟨operator, listed, allowed⟩)
    · rw [fieldOperators, if_pos undeclared]
      exact declaration.valueKind.operators_ne_nil
    · exact List.ne_nil_of_mem (mem_fieldOperators_iff.mpr ⟨allowed, .inr (.inl listed)⟩)

theorem fieldOperators_sublist (declaration : Declaration) : declaration.fieldOperators <+ Operator.all := by
  unfold fieldOperators
  split
  · exact List.filter_sublist
  · exact List.filter_sublist

end Declaration

namespace Field

variable {declaration : Declaration} {fault : DeclarationFault} {labels : Option (Dictionary String)}
  {members : List String}

theorem build_of_inapplicable (inapplicable : ¬ declaration.OperatorsApply) :
    build declaration = .error (.invalidDeclaration declaration.fieldName
      (.noApplicableOperator declaration.operators declaration.valueKind)) := by
  have none : declaration.fieldOperators = [] :=
    Decidable.not_not.mp fun some => inapplicable (Declaration.fieldOperators_ne_nil_iff.mp some)
  simp only [build, none, if_true]

theorem build_of_labelling_error (applicable : declaration.OperatorsApply)
    (failed : labelling declaration = .error fault) :
    build declaration = .error (.invalidDeclaration declaration.fieldName fault) := by
  simp only [build, if_neg (Declaration.fieldOperators_ne_nil_iff.mpr applicable), failed]

theorem build_of_labelling (applicable : declaration.OperatorsApply)
    (labelled : labelling declaration = .ok (labels, members)) :
    build declaration = .ok {
      name := declaration.fieldName
      key := declaration.fieldKey
      kind := declaration.valueKind
      operators := declaration.fieldOperators
      groups := Text.alphabetical declaration.groups.eraseDups
      description := declaration.description
      labels := labels
      members := members } := by
  simp only [build, if_neg (Declaration.fieldOperators_ne_nil_iff.mpr applicable), labelled]

end Field

end FilterQuery
