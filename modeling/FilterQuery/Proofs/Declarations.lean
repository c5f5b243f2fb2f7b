import FilterQuery.Proofs.EnumerationLabels
import FilterQuery.Proofs.Spellings
import Mathlib.Data.List.TakeWhile

namespace FilterQuery

open scoped List

/-! A declaration is refused for the first rule that it breaks.  Any other has a field, which
keeps all that later stages rely on. -/

namespace Text

theorem trim_eq_nil_iff {text : List Char} : trim text = [] ↔ ∀ c ∈ text, isBlank c = true := by
  rw [trim, List.reverse_eq_nil_iff, List.dropWhile_eq_nil_iff]
  simp only [List.mem_reverse]
  constructor
  · intro blank
    rw [← List.dropWhile_eq_nil_iff]
    cases rest : text.dropWhile isBlank with
    | nil => rfl
    | cons first others =>
        -- what is left begins with a character that is not blank
        have shown := @List.head_dropWhile_not _ isBlank text (by simp [rest])
        have hidden := blank first (by simp [rest])
        simp [rest, hidden] at shown
  · exact fun blank c member => blank c ((List.dropWhile_suffix isBlank).mem member)

theorem allBlank_iff {text : String} : allBlank text = true ↔ trim text.toList = [] := by
  rw [allBlank, List.all_eq_true, trim_eq_nil_iff]

theorem nodup_eraseDups : (texts : List String) → texts.eraseDups.Nodup
  | [] => List.nodup_nil
  | text :: texts => by
      rw [List.eraseDups_cons, List.nodup_cons, List.mem_eraseDups]
      exact ⟨by simp, nodup_eraseDups _⟩
termination_by texts => texts.length
decreasing_by exact Nat.lt_succ_of_le (List.length_filter_le _ _)

end Text

namespace Declaration

variable {declaration : Declaration} {fault : DeclarationFault} {field : Field}

/-- A choice counts unless nothing is left of it once it is trimmed. -/
inductive Chosen (choice : Option String) (otherwise : String) : String → Prop where
  | given {text : String} (chosen : choice = some text) (shown : Text.trim text.toList ≠ []) :
      Chosen choice otherwise text
  | missing (blank : ∀ text, choice = some text → Text.trim text.toList = []) :
      Chosen choice otherwise otherwise

/-- The first rule that a declaration breaks: each case keeps the rules of the cases before
it. -/
inductive Breaks (declaration : Declaration) : DeclarationFault → Prop where
  | noApplicableOperator (declared : declaration.operators ≠ [])
      (inapplicable : ∀ operator ∈ declaration.operators,
        declaration.valueKind.allows operator = false) :
      Breaks declaration (.noApplicableOperator declaration.operators declaration.valueKind)
  | notAnEnumeration (applicable : declaration.OperatorsApply)
      (kind : declaration.valueKind = .enumeration)
      (other : ∀ enumeration, declaration.attributeType ≠ .enumeration enumeration) :
      Breaks declaration .notAnEnumeration
  | repeatedLabel {enumeration : Enumeration} {label : String}
      (applicable : declaration.OperatorsApply) (kind : declaration.valueKind = .enumeration)
      (typed : declaration.attributeType = .enumeration enumeration)
      (repeats : FirstRepeats (enumeration.members.map enumeration.label) label) :
      Breaks declaration (.repeatedLabel label)

/-- What a field has of the declaration that it is built from.  Each of its operators applies
to its kind and is declared by one of its symbols, if any is; both symbols of an ordering
comparison come together. -/
structure Describes (declaration : Declaration) (field : Field) : Prop where
  name : Chosen declaration.name declaration.attributeName field.name
  key : Chosen declaration.key (Text.snakeCase declaration.attributeName) field.key
  kind : declaration.kind = some field.kind ∨
    declaration.kind = none ∧ field.kind = declaration.attributeType.kind
  description : field.description = declaration.description
  operators : ∀ operator, operator ∈ field.operators ↔ field.kind.allows operator = true ∧
    (declaration.operators = [] ∨ operator ∈ declaration.operators ∨
      ∃ partner ∈ declaration.operators, operator.Pairs partner)
  someOperator : field.operators ≠ []
  compares : ∀ operator ∈ field.operators, operator.isNullTest = false
  paired : ∀ operator partner, operator.Pairs partner →
    (operator ∈ field.operators ↔ partner ∈ field.operators)
  listed : field.operators <+ Operator.all
  groups : ∀ group, group ∈ field.groups ↔ group ∈ declaration.groups
  sorted : field.groups.Pairwise (· < ·)
  enumerated : field.kind = .enumeration → ∃ enumeration dictionary,
    declaration.attributeType = .enumeration enumeration ∧ field.labels = some dictionary ∧
      field.members = enumeration.members.map EnumerationMember.name
  plain : field.kind ≠ .enumeration → field.labels = none ∧ field.members = []

theorem chosen_iff {choice : Option String} {otherwise text : String} :
    Chosen choice otherwise text ↔
      (choice.filter fun text => !Text.allBlank text).getD otherwise = text := by
  constructor
  · intro chosen
    cases chosen with
    | given chosen shown =>
        rw [chosen, Option.filter_some, Bool.eq_false_iff.mpr (Text.allBlank_iff.not.mpr shown)]
        rfl
    | missing blank =>
        cases choice with
        | none => rfl
        | some text =>
            rw [Option.filter_some, Text.allBlank_iff.mpr (blank text rfl)]
            rfl
  · rintro rfl
    cases choice with
    | none => exact .missing nofun
    | some text =>
        by_cases blank : Text.trim text.toList = []
        · rw [Option.filter_some, Text.allBlank_iff.mpr blank]
          exact .missing fun other same => Option.some.inj same ▸ blank
        · rw [Option.filter_some, Bool.eq_false_iff.mpr (Text.allBlank_iff.not.mpr blank)]
          exact .given rfl blank

theorem valueKind_chosen (declaration : Declaration) :
    declaration.kind = some declaration.valueKind ∨
      declaration.kind = none ∧ declaration.valueKind = declaration.attributeType.kind := by
  unfold valueKind
  cases declaration.kind with
  | none => exact .inr ⟨rfl, rfl⟩
  | some kind => exact .inl rfl

theorem mem_fieldOperators_of_pairs {operator partner : Operator} (pairs : operator.Pairs partner) :
    operator ∈ declaration.fieldOperators ↔ partner ∈ declaration.fieldOperators := by
  rw [← declaration.mem_fieldOperators_canonical, pairs.canonical_eq, mem_fieldOperators_canonical]

theorem not_operatorsApply_iff : ¬ declaration.OperatorsApply ↔ declaration.operators ≠ [] ∧
    ∀ operator ∈ declaration.operators, declaration.valueKind.allows operator = false := by
  simp [OperatorsApply]

theorem Breaks.build_eq (breaks : declaration.Breaks fault) :
    Field.build declaration = .error (.invalidDeclaration declaration.fieldName fault) := by
  cases breaks with
  | noApplicableOperator declared inapplicable =>
      exact Field.build_of_inapplicable (not_operatorsApply_iff.mpr ⟨declared, inapplicable⟩)
  | notAnEnumeration applicable kind other =>
      exact Field.build_of_labelling_error applicable (Field.labelling_other kind other)
  | repeatedLabel applicable kind typed repeats =>
      exact Field.build_of_labelling_error applicable (Field.labelling_repeated kind typed repeats)

/-- Every declaration breaks a first rule or has a field. -/
theorem breaks_or_builds (declaration : Declaration) :
    (∃ fault, declaration.Breaks fault) ∨ ∃ field, Field.build declaration = .ok field := by
  by_cases applicable : declaration.OperatorsApply
  · by_cases kind : declaration.valueKind = .enumeration
    · cases typed : declaration.attributeType with
      | enumeration enumeration =>
          by_cases distinct : (enumeration.members.map enumeration.label).Nodup
          · exact .inr ⟨_, Field.build_of_labelling applicable
              (Field.labelling_distinct kind typed distinct)⟩
          · obtain ⟨label, repeats⟩ := not_nodup_iff.mp distinct
            exact .inl ⟨_, .repeatedLabel applicable kind typed repeats⟩
      | _ => exact .inl ⟨_, .notAnEnumeration applicable kind (by simp [typed])⟩
    · exact .inr ⟨_, Field.build_of_labelling applicable (Field.labelling_plain kind)⟩
  · obtain ⟨declared, inapplicable⟩ := not_operatorsApply_iff.mp applicable
    exact .inl ⟨_, .noApplicableOperator declared inapplicable⟩

theorem build_eq_error_iff {error : FilterError} :
    Field.build declaration = .error error ↔
      ∃ fault, declaration.Breaks fault ∧ error = .invalidDeclaration declaration.fieldName fault := by
  constructor
  · intro failed
    rcases declaration.breaks_or_builds with ⟨fault, breaks⟩ | ⟨field, built⟩
    · exact ⟨fault, breaks, Except.error.inj (failed.symm.trans breaks.build_eq)⟩
    · rw [built] at failed
      contradiction
  · rintro ⟨fault, breaks, rfl⟩
    exact breaks.build_eq

theorem breaks_iff : (∃ fault, declaration.Breaks fault) ↔
    (declaration.operators ≠ [] ∧ ∀ operator ∈ declaration.operators,
      declaration.valueKind.allows operator = false) ∨
    declaration.valueKind = .enumeration ∧
      ((∀ enumeration, declaration.attributeType ≠ .enumeration enumeration) ∨
        ∃ enumeration, declaration.attributeType = .enumeration enumeration ∧
          ¬ (enumeration.members.map enumeration.label).Nodup) := by
  constructor
  · rintro ⟨fault, breaks⟩
    cases breaks with
    | noApplicableOperator declared inapplicable => exact .inl ⟨declared, inapplicable⟩
    | notAnEnumeration _ kind other => exact .inr ⟨kind, .inl other⟩
    | repeatedLabel _ kind typed repeats =>
        exact .inr ⟨kind, .inr ⟨_, typed, not_nodup_iff.mpr ⟨_, repeats⟩⟩⟩
  · rw [← not_operatorsApply_iff]
    intro faulty
    by_cases applicable : declaration.OperatorsApply
    · obtain ⟨kind, other | ⟨enumeration, typed, shared⟩⟩ := faulty.resolve_left (not_not_intro applicable)
      · exact ⟨_, .notAnEnumeration applicable kind other⟩
      · obtain ⟨label, repeats⟩ := not_nodup_iff.mp shared
        exact ⟨_, .repeatedLabel applicable kind typed repeats⟩
    · obtain ⟨declared, inapplicable⟩ := not_operatorsApply_iff.mp applicable
      exact ⟨_, .noApplicableOperator declared inapplicable⟩

/-- What a declaration that is not refused has been found to keep, and the field that it has. -/
theorem checked_of_build (built : Field.build declaration = .ok field) :
    declaration.OperatorsApply ∧
      Field.labelling declaration = .ok (field.labels, field.members) ∧ field = {
        name := declaration.fieldName
        key := declaration.fieldKey
        kind := declaration.valueKind
        operators := declaration.fieldOperators
        groups := Text.alphabetical declaration.groups.eraseDups
        description := declaration.description
        labels := field.labels
        members := field.members } := by
  have applicable : declaration.OperatorsApply := by
    by_contra inapplicable
    rw [Field.build_of_inapplicable inapplicable] at built
    contradiction
  have labelled := Field.build_labelling built
  rw [Field.build_of_labelling applicable labelled] at built
  exact ⟨applicable, labelled, (Except.ok.inj built).symm⟩

theorem enumeration_of_labelling {labels : Option (Dictionary String)} {members : List String}
    (kind : declaration.valueKind = .enumeration)
    (labelled : Field.labelling declaration = .ok (labels, members)) :
    ∃ enumeration dictionary, declaration.attributeType = .enumeration enumeration ∧
      labels = some dictionary ∧ members = enumeration.members.map EnumerationMember.name := by
  cases typed : declaration.attributeType with
  | enumeration enumeration =>
      obtain ⟨_, present, names⟩ := Field.labelling_ok kind typed labelled
      exact ⟨enumeration, enumeration.dictionary, rfl, present, names⟩
  | _ =>
      rw [Field.labelling_other kind (by simp [typed])] at labelled
      contradiction

theorem plain_of_labelling {labels : Option (Dictionary String)} {members : List String}
    (plain : declaration.valueKind ≠ .enumeration)
    (labelled : Field.labelling declaration = .ok (labels, members)) :
    labels = none ∧ members = [] := by
  rw [Field.labelling_plain plain] at labelled
  cases labelled
  exact ⟨rfl, rfl⟩

theorem describes_of_build (built : Field.build declaration = .ok field) :
    declaration.Describes field := by
  obtain ⟨applicable, labelled, whole⟩ := checked_of_build built
  rw [whole]
  exact {
    name := chosen_iff.mpr rfl
    key := chosen_iff.mpr rfl
    kind := declaration.valueKind_chosen
    description := rfl
    operators := fun _ => mem_fieldOperators_iff
    someOperator := fieldOperators_ne_nil_iff.mpr applicable
    compares := fun _ member => ValueKind.isNullTest_of_allows (mem_fieldOperators_iff.mp member).1
    paired := fun _ _ => mem_fieldOperators_of_pairs
    listed := declaration.fieldOperators_sublist
    groups := fun _ => Text.mem_alphabetical.trans List.mem_eraseDups
    sorted := Text.alphabetical_pairwise (Text.nodup_eraseDups _)
    enumerated := fun kind => enumeration_of_labelling kind labelled
    plain := fun plain => plain_of_labelling plain labelled }

/-- A declaration is refused if operators are declared and none of them applies, or if it is
for an enumeration and is not of one or two of its members have one label.  The error names
the first of these.  Any other declaration has a field that it describes. -/
theorem declarations_checked (declaration : Declaration) :
    ((∃ error, Field.build declaration = .error error) ↔
      (declaration.operators ≠ [] ∧ ∀ operator ∈ declaration.operators,
        declaration.valueKind.allows operator = false) ∨
      declaration.valueKind = .enumeration ∧
        ((∀ enumeration, declaration.attributeType ≠ .enumeration enumeration) ∨
          ∃ enumeration, declaration.attributeType = .enumeration enumeration ∧
            ¬ (enumeration.members.map enumeration.label).Nodup)) ∧
    (∀ error, Field.build declaration = .error error ↔
      ∃ name fault, Chosen declaration.name declaration.attributeName name ∧
        declaration.Breaks fault ∧ error = .invalidDeclaration name fault) ∧
    ∀ field, Field.build declaration = .ok field → declaration.Describes field := by
  have named (error : FilterError) : Field.build declaration = .error error ↔
      ∃ name fault, Chosen declaration.name declaration.attributeName name ∧
        declaration.Breaks fault ∧ error = .invalidDeclaration name fault := by
    simp only [build_eq_error_iff, chosen_iff, exists_and_left, exists_eq_left', fieldName]
  refine ⟨?_, named, fun _ => describes_of_build⟩
  rw [← breaks_iff]
  simp only [build_eq_error_iff]
  constructor
  · rintro ⟨_, fault, breaks, _⟩
    exact ⟨fault, breaks⟩
  · rintro ⟨fault, breaks⟩
    exact ⟨_, fault, breaks, rfl⟩

end Declaration

end FilterQuery
