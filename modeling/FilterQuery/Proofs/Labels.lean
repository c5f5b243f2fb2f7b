import FilterQuery.Proofs.BuiltFields

namespace FilterQuery

/-! The labels and members of enumerations, by which literals are resolved. -/

namespace Field

section Labelling

variable {declaration : Declaration} {labels : Option (Dictionary String)} {members : List String}

/-- Labels that differ make a dictionary of exactly the members, in their order. -/
theorem labelling_enumeration (kind : declaration.valueKind = .enumeration)
    (labelled : labelling declaration = .ok (labels, members)) :
    ∃ dictionary, labels = some dictionary ∧ members = dictionary.entries.map Prod.snd := by
  simp only [labelling, kind] at labelled
  split at labelled
  · rename_i enumeration _ _
    split at labelled
    · contradiction
    · rename_i unrepeated
      cases labelled
      have distinct := (FieldMap.firstRepeated?_eq_none unrepeated).1
      refine ⟨_, rfl, ?_⟩
      rw [Enumeration.dictionary, Dictionary.entries_ofList distinct]
      simp [Enumeration.names, Enumeration.labels]
  · contradiction
  · contradiction

theorem kind_of_labels {dictionary : Dictionary String}
    (labelled : labelling declaration = .ok (some dictionary, members)) :
    declaration.valueKind = .enumeration := by
  unfold labelling at labelled
  split at labelled
  · assumption
  · contradiction
  · cases labelled

end Labelling

variable {field : Field} {labels : Dictionary String} {literal member : String}

theorem Built.labels_exist (built : field.Built) (enumeration : field.kind = .enumeration) :
    ∃ labels, field.labels = some labels ∧ field.members = labels.entries.map Prod.snd := by
  obtain ⟨declaration, checked⟩ := built
  exact labelling_enumeration ((build_eq_ok checked).1.symm.trans enumeration)
    (build_labelling checked)

theorem Built.isSome_labels_iff (built : field.Built) :
    field.labels.isSome = true ↔ field.kind = .enumeration := by
  constructor
  · intro labelled
    obtain ⟨dictionary, labels⟩ := Option.isSome_iff_exists.mp labelled
    obtain ⟨declaration, checked⟩ := built
    have listed := build_labelling checked
    rw [labels] at listed
    exact (build_eq_ok checked).1.trans (kind_of_labels listed)
  · intro enumeration
    obtain ⟨labels, labelled, _⟩ := built.labels_exist enumeration
    rw [labelled, Option.isSome_some]

theorem Built.mem_members (built : field.Built) (enumeration : field.kind = .enumeration)
    (resolved : field.resolveMember? literal = some member) : member ∈ field.members := by
  obtain ⟨labels, labelled, members⟩ := built.labels_exist enumeration
  rw [resolveMember?, Option.or_eq_some_iff] at resolved
  rcases resolved with named | ⟨_, found⟩
  · exact List.mem_of_find?_eq_some named
  · rw [labelled, Option.bind_some] at found
    rw [members]
    exact List.mem_map_of_mem (f := Prod.snd) (Dictionary.mem_of_find? found)

/-- A literal names a member of a built field just if it is one of its labels or the member
of one. -/
theorem Built.resolveMember?_exists_iff (built : field.Built) (labelled : field.labels = some labels) :
    (∃ member, field.resolveMember? literal = some member) ↔
      ∃ entry ∈ labels.entries, literal = entry.1 ∨ literal = entry.2 := by
  have enumeration : field.kind = .enumeration := built.isSome_labels_iff.mp (by simp [labelled])
  obtain ⟨labels', labelled', members⟩ := built.labels_exist enumeration
  obtain rfl : labels = labels' := Option.some.inj (labelled.symm.trans labelled')
  have named : (field.members.find? (· = literal)).isSome = true ↔
      ∃ entry ∈ labels.entries, literal = entry.2 := by
    simp [members, @eq_comm _ literal]
  have found : (labels.find? literal).isSome = true ↔ ∃ entry ∈ labels.entries, literal = entry.1 := by
    rw [Dictionary.find?, List.lookup_isSome_iff]
    simp
  rw [← Option.isSome_iff_exists, resolveMember?, labelled, Option.isSome_or, Bool.or_eq_true,
    Option.bind_some, named, found, or_comm]
  simp only [← exists_or, ← and_or_left]

end Field

/-! A field to instantiate statements about enumerations with. -/

def bookFormats : Enumeration where
  accessors := ["name"]
  members := [⟨"PAPER", .ofList [("name", "Paper")]⟩, ⟨"AUDIO", .ofList [("name", "Audio book")]⟩]

def bookFormat : Field where
  name := "format"
  key := "format"
  kind := .enumeration
  operators := ValueKind.enumeration.operators
  groups := []
  description := ""
  labels := some bookFormats.dictionary
  members := ["PAPER", "AUDIO"]

theorem bookFormat_built : bookFormat.Built := by
  have sorted : Text.alphabetical [] = [] := List.mergeSort_nil
  refine ⟨{
    attributeName := "format"
    attributeType := .enumeration bookFormats
    name := some "format"
    key := some "format" }, ?_⟩
  rw [Field.build, List.eraseDups_nil, sorted]
  rfl

def FieldMap.formats : FieldMap :=
  ⟨[bookFormat], by decide⟩

theorem FieldMap.formats_built : FieldMap.formats.Built :=
  List.forall_mem_singleton.mpr bookFormat_built

def Registry.formats : Registry :=
  (Registry.register {} "book" [bookFormat]).1

end FilterQuery
