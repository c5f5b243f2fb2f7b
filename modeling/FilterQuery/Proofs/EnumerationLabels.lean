import FilterQuery.Proofs.DeclarationChecks
import FilterQuery.Proofs.Labels
import FilterQuery.Proofs.Repetitions

namespace FilterQuery

/-! Labels of enumerations.  No two members of a field share one, and a literal stands for
the member that it names or else for the one that it labels. -/

namespace Enumeration

variable {enumeration : Enumeration} {member : EnumerationMember} {accessor label literal : String}

/-- Whether a type exposes an accessor, and none that is preferred to it for labels. -/
def Prefers (enumeration : Enumeration) (accessor : String) : Prop :=
  accessor ∈ enumeration.accessors ∧ ∃ before after, labelAccessors = before ++ accessor :: after ∧
    ∀ other ∈ before, other ∉ enumeration.accessors

/-- What a member is labelled with: its text for the preferred accessor, or its name where
there is no such accessor or text. -/
inductive Labels (enumeration : Enumeration) (member : EnumerationMember) : String → Prop where
  | text {accessor text : String} (preferred : enumeration.Prefers accessor)
      (given : member.accessors.find? accessor = some text) : Labels enumeration member text
  | lacking {accessor : String} (preferred : enumeration.Prefers accessor)
      (absent : member.accessors.find? accessor = none) : Labels enumeration member member.name
  | unexposed (unexposed : ∀ accessor ∈ labelAccessors, accessor ∉ enumeration.accessors) :
      Labels enumeration member member.name

/-- What a literal stands for: the member of this name, or else the one with this label. -/
inductive StandsFor (enumeration : Enumeration) : String → Option String → Prop where
  | name {literal : String} (named : literal ∈ enumeration.names) :
      StandsFor enumeration literal (some literal)
  | label {literal : String} {member : EnumerationMember} (unnamed : literal ∉ enumeration.names)
      (listed : member ∈ enumeration.members) (labels : enumeration.Labels member literal) :
      StandsFor enumeration literal (some member.name)
  | nothing {literal : String} (unnamed : literal ∉ enumeration.names)
      (unlabelled : ∀ member ∈ enumeration.members, ¬ enumeration.Labels member literal) :
      StandsFor enumeration literal none

theorem labelAccessor?_eq_some_iff :
    enumeration.labelAccessor? = some accessor ↔ enumeration.Prefers accessor := by
  simp [labelAccessor?, List.find?_eq_some_iff_append, Prefers]

theorem labelAccessor?_eq_none_iff :
    enumeration.labelAccessor? = none ↔
      ∀ accessor ∈ labelAccessors, accessor ∉ enumeration.accessors := by
  simp [labelAccessor?]

theorem label_eq_iff : enumeration.label member = label ↔ enumeration.Labels member label := by
  constructor
  · rintro rfl
    unfold Enumeration.label
    cases preferred : enumeration.labelAccessor? with
    | none => exact .unexposed (labelAccessor?_eq_none_iff.mp preferred)
    | some accessor =>
        rw [Option.bind_some]
        cases given : member.accessors.find? accessor with
        | none => exact .lacking (labelAccessor?_eq_some_iff.mp preferred) given
        | some text => exact .text (labelAccessor?_eq_some_iff.mp preferred) given
  · intro labels
    unfold Enumeration.label
    cases labels with
    | text preferred given =>
        rw [labelAccessor?_eq_some_iff.mpr preferred, Option.bind_some, given, Option.getD_some]
    | lacking preferred absent =>
        rw [labelAccessor?_eq_some_iff.mpr preferred, Option.bind_some, absent, Option.getD_none]
    | unexposed none =>
        rw [labelAccessor?_eq_none_iff.mpr none, Option.bind_none, Option.getD_none]

theorem map_fst_labels (enumeration : Enumeration) :
    enumeration.labels.map Prod.fst = enumeration.members.map enumeration.label := by
  rw [labels, List.map_map]
  rfl

theorem entries_dictionary (distinct : (enumeration.members.map enumeration.label).Nodup) :
    enumeration.dictionary.entries = enumeration.labels :=
  Dictionary.entries_ofList (by rwa [map_fst_labels])

theorem find?_dictionary_iff (distinct : (enumeration.members.map enumeration.label).Nodup)
    {name : String} :
    enumeration.dictionary.find? literal = some name ↔
      ∃ member ∈ enumeration.members, enumeration.Labels member literal ∧ member.name = name := by
  rw [Dictionary.find?_eq_some_iff, entries_dictionary distinct, labels, List.mem_map]
  simp only [Prod.mk.injEq, label_eq_iff]

theorem find?_names (enumeration : Enumeration) (literal : String) :
    enumeration.names.find? (· = literal) =
      if literal ∈ enumeration.names then some literal else none := by
  split
  · rename_i named
    obtain ⟨name, found⟩ : ∃ name, enumeration.names.find? (· = literal) = some name := by
      rw [← Option.isSome_iff_exists, List.find?_isSome]
      exact ⟨literal, named, decide_eq_true rfl⟩
    have same : name = literal := by simpa using List.find?_some found
    rw [found, same]
  · rename_i unnamed
    rw [List.find?_eq_none]
    intro name member same
    exact unnamed (of_decide_eq_true same ▸ member)

end Enumeration

namespace Field

variable {declaration : Declaration} {enumeration : Enumeration} {field : Field}

theorem resolveMember?_eq_iff (labels : field.labels = some enumeration.dictionary)
    (members : field.members = enumeration.names)
    (distinct : (enumeration.members.map enumeration.label).Nodup) {literal : String}
    {result : Option String} :
    field.resolveMember? literal = result ↔ enumeration.StandsFor literal result := by
  have found {name : String} : enumeration.dictionary.find? literal = some name ↔
      ∃ member ∈ enumeration.members, enumeration.Labels member literal ∧ member.name = name :=
    enumeration.find?_dictionary_iff distinct
  rw [resolveMember?, labels, members, Enumeration.find?_names, Option.bind_some]
  constructor
  · rintro rfl
    by_cases named : literal ∈ enumeration.names
    · rw [if_pos named]
      exact .name named
    · rw [if_neg named, Option.none_or]
      cases looked : enumeration.dictionary.find? literal with
      | none =>
          refine .nothing named fun member listed labels => ?_
          simp [found.mpr ⟨member, listed, labels, rfl⟩] at looked
      | some name =>
          obtain ⟨member, listed, labels, rfl⟩ := found.mp looked
          exact .label named listed labels
  · intro stands
    cases stands with
    | name named => rw [if_pos named, Option.some_or]
    | label unnamed listed labels =>
        rw [if_neg unnamed, Option.none_or]
        exact found.mpr ⟨_, listed, labels, rfl⟩
    | nothing unnamed unlabelled =>
        rw [if_neg unnamed, Option.none_or, Option.eq_none_iff_forall_ne_some]
        intro name looked
        obtain ⟨member, listed, labels, _⟩ := found.mp looked
        exact unlabelled member listed labels

/-! What a declaration says of labels, by its kind and the type of its attribute. -/

theorem labelling_plain (plain : declaration.valueKind ≠ .enumeration) :
    labelling declaration = .ok (none, []) := by
  unfold labelling
  split
  · contradiction
  · contradiction
  · rfl

theorem labelling_other (kind : declaration.valueKind = .enumeration)
    (other : ∀ enumeration, declaration.attributeType ≠ .enumeration enumeration) :
    labelling declaration = .error .notAnEnumeration := by
  unfold labelling
  split
  · rename_i enumeration _ typed
    exact absurd typed (other enumeration)
  · rfl
  · rename_i plain _
    exact absurd kind plain

theorem labelling_repeated {label : String} (kind : declaration.valueKind = .enumeration)
    (typed : declaration.attributeType = .enumeration enumeration)
    (repeats : FirstRepeats (enumeration.members.map enumeration.label) label) :
    labelling declaration = .error (.repeatedLabel label) := by
  have found : enumeration.repeatedLabel? = some label := by
    rwa [Enumeration.repeatedLabel?, Enumeration.map_fst_labels, firstRepeated?_eq_some_iff]
  simp only [labelling, kind, typed, found]

theorem labelling_distinct (kind : declaration.valueKind = .enumeration)
    (typed : declaration.attributeType = .enumeration enumeration)
    (distinct : (enumeration.members.map enumeration.label).Nodup) :
    labelling declaration = .ok (some enumeration.dictionary, enumeration.names) := by
  have unrepeated : enumeration.repeatedLabel? = none := by
    rwa [Enumeration.repeatedLabel?, Enumeration.map_fst_labels, firstRepeated?_eq_none_iff]
  simp only [labelling, kind, typed, unrepeated]

theorem labelling_ok (kind : declaration.valueKind = .enumeration)
    (typed : declaration.attributeType = .enumeration enumeration)
    {labels : Option (Dictionary String)} {members : List String}
    (labelled : labelling declaration = .ok (labels, members)) :
    (enumeration.members.map enumeration.label).Nodup ∧ labels = some enumeration.dictionary ∧
      members = enumeration.names := by
  by_cases distinct : (enumeration.members.map enumeration.label).Nodup
  · rw [labelling_distinct kind typed distinct] at labelled
    cases labelled
    exact ⟨distinct, rfl, rfl⟩
  · obtain ⟨label, repeats⟩ := not_nodup_iff.mp distinct
    rw [labelling_repeated kind typed repeats] at labelled
    contradiction

/-- The dictionary of an enumeration has one entry for each member, from its label to its
name, in their order, and every literal is resolved to what it stands for.  Where two members
have one label, no field is built, and the error names the first label that repeats an
earlier one. -/
theorem labels_unambiguous (kind : declaration.valueKind = .enumeration)
    (typed : declaration.attributeType = .enumeration enumeration) :
    (∀ member label, enumeration.label member = label ↔ enumeration.Labels member label) ∧
    (∀ field, build declaration = .ok field →
      (∃ dictionary, field.labels = some dictionary ∧ dictionary.entries =
        enumeration.members.map fun member => (enumeration.label member, member.name)) ∧
      ∀ literal result,
        field.resolveMember? literal = result ↔ enumeration.StandsFor literal result) ∧
    (declaration.OperatorsApply → ¬ (enumeration.members.map enumeration.label).Nodup →
      ∃ label, FirstRepeats (enumeration.members.map enumeration.label) label ∧
        build declaration = .error (.invalidDeclaration declaration.fieldName (.repeatedLabel label))) := by
  refine ⟨fun _ _ => Enumeration.label_eq_iff, fun field built => ?_, fun applicable shared => ?_⟩
  · obtain ⟨distinct, labels, members⟩ := labelling_ok kind typed (build_labelling built)
    refine ⟨⟨enumeration.dictionary, labels, ?_⟩, fun _ _ => ?_⟩
    · exact Enumeration.entries_dictionary distinct
    · exact resolveMember?_eq_iff labels members distinct
  · obtain ⟨label, repeats⟩ := not_nodup_iff.mp shared
    exact ⟨label, repeats, build_of_labelling_error applicable (labelling_repeated kind typed repeats)⟩

/-- Editions of books.  One is labelled with the name of another, one lacks the text that
labels the others, and two have one name. -/
def bookEdition : Declaration where
  attributeName := "edition"
  attributeType := .enumeration {
    accessors := ["desc", "description"]
    members := [⟨"PAPER", .ofList [("description", "Paperback")]⟩,
      ⟨"AUDIO", .ofList [("description", "PAPER")]⟩,
      ⟨"EBOOK", .ofList [("desc", "Paperback")]⟩,
      ⟨"EBOOK", .ofList [("description", "Electronic")]⟩] }

theorem editions_unambiguous :
    bookEdition.valueKind = .enumeration ∧
    ∃ enumeration field, bookEdition.attributeType = .enumeration enumeration ∧
      build bookEdition = .ok field ∧
      field.members = ["PAPER", "AUDIO", "EBOOK", "EBOOK"] ∧
      enumeration.StandsFor "PAPER" (some "PAPER") ∧
      enumeration.StandsFor "Paperback" (some "PAPER") ∧
      enumeration.StandsFor "Electronic" (some "EBOOK") ∧
      enumeration.StandsFor "AUDIO BOOK" none := by
  have kind : bookEdition.valueKind = .enumeration := rfl
  have typed : bookEdition.attributeType = .enumeration _ := rfl
  have applicable : bookEdition.OperatorsApply := .inl rfl
  have built := build_of_labelling applicable (labelling_distinct kind typed (by decide))
  obtain ⟨_, fields, _⟩ := labels_unambiguous kind typed
  obtain ⟨_, resolves⟩ := fields _ built
  refine ⟨kind, _, _, typed, built, rfl, (resolves _ _).mp ?_, (resolves _ _).mp ?_,
    (resolves _ _).mp ?_, (resolves _ _).mp ?_⟩ <;> decide

end Field

end FilterQuery
