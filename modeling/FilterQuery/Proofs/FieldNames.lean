import FilterQuery.Proofs.Visibility

namespace FilterQuery

/-! The fields that a request sees are entered into a map under their names.  There is a map
just if the names differ, and otherwise an error about the first that is taken. -/

namespace FieldMap

variable {entity name : String} {fields : List Field} {seen : List String}
  {entered : Dictionary Field}

/-- Enters fields in their order, up to the first whose name is taken. -/
def enterAll (entity : String) (entered : Dictionary Field) :
    List Field → Except FilterError (Dictionary Field)
  | [] => .ok entered
  | field :: fields =>
      if entered.contains field.name then .error (.duplicateField entity field.name)
      else enterAll entity (entered.insert field.name field) fields

/-- The keys of a map with the fields that they stand for. -/
def entries (map : FieldMap) : List (String × Field) :=
  map.fields.map fun field => (field.name, field)

/-- The names that have been passed are those of the fields that have been entered. -/
theorem mem_keys_insert {field : Field} (new : field.name ∉ entered.keys)
    (same : ∀ other, other ∈ seen ↔ other ∈ entered.keys) (other : String) :
    other ∈ field.name :: seen ↔ other ∈ (entered.insert field.name field).keys := by
  rw [Dictionary.keys, Dictionary.entries_insert_of_new new, List.map_append, List.mem_append,
    ← Dictionary.keys, ← same, List.mem_cons]
  simp [or_comm]

theorem enterAll_of_taken {field : Field} (taken : field.name ∈ entered.keys) :
    enterAll entity entered (field :: fields) = .error (.duplicateField entity field.name) := by
  have known : entered.contains field.name = true := decide_eq_true taken
  rw [enterAll, if_pos known]

theorem enterAll_of_new {field : Field} (new : field.name ∉ entered.keys) :
    enterAll entity entered (field :: fields) =
      enterAll entity (entered.insert field.name field) fields := by
  have unknown : ¬ entered.contains field.name = true := fun taken => new (of_decide_eq_true taken)
  rw [enterAll, if_neg unknown]

theorem enterAll_fails (found : firstRepeated? seen (fields.map Field.name) = some name)
    (same : ∀ other, other ∈ seen ↔ other ∈ entered.keys) :
    enterAll entity entered fields = .error (.duplicateField entity name) := by
  induction fields generalizing seen entered with
  | nil => contradiction
  | cons field fields inductionHypothesis =>
      rw [List.map_cons, firstRepeated?] at found
      split at found
      · rename_i passed
        rw [enterAll_of_taken ((same _).mp passed), Option.some.inj found]
      · rename_i unpassed
        have new : field.name ∉ entered.keys := fun member => unpassed ((same _).mpr member)
        rw [enterAll_of_new new]
        exact inductionHypothesis found (mem_keys_insert new same)

theorem enterAll_exists (unrepeated : firstRepeated? seen (fields.map Field.name) = none)
    (same : ∀ other, other ∈ seen ↔ other ∈ entered.keys) :
    ∃ all, enterAll entity entered fields = .ok all ∧
      all.entries = entered.entries ++ fields.map fun field => (field.name, field) := by
  induction fields generalizing seen entered with
  | nil => exact ⟨entered, rfl, (List.append_nil _).symm⟩
  | cons field fields inductionHypothesis =>
      rw [List.map_cons, firstRepeated?] at unrepeated
      split at unrepeated
      · contradiction
      · rename_i unpassed
        have new : field.name ∉ entered.keys := fun member => unpassed ((same _).mpr member)
        obtain ⟨all, made, listed⟩ := inductionHypothesis unrepeated (mem_keys_insert new same)
        refine ⟨all, by rw [enterAll_of_new new, made], ?_⟩
        rw [listed, Dictionary.entries_insert_of_new new, List.append_assoc, List.map_cons,
          List.singleton_append]

theorem ofFields_eq_error_iff {error : FilterError} :
    ofFields entity fields = .error error ↔
      ∃ name, FirstRepeats (fields.map Field.name) name ∧ error = .duplicateField entity name := by
  unfold ofFields
  split
  · rename_i name found
    constructor
    · intro failed
      exact ⟨name, firstRepeats_of_found found, (Except.error.inj failed).symm⟩
    · intro refused
      obtain ⟨other, repeats, rfl⟩ := refused
      rw [(firstRepeats_of_found found).unique repeats]
  · rename_i unrepeated
    refine iff_of_false (fun failed => nomatch failed) ?_
    intro refused
    obtain ⟨name, repeats, _⟩ := refused
    rw [firstRepeated?_eq_some_iff.mpr repeats] at unrepeated
    contradiction

theorem enterAll_of_ok {map : FieldMap} (unique : ofFields entity fields = .ok map) :
    ∃ all, enterAll entity .empty fields = .ok all ∧ all.entries = map.entries := by
  have distinct : (fields.map Field.name).Nodup := by
    rw [← fields_ofFields unique]
    exact map.distinct
  rw [entries, fields_ofFields unique]
  exact enterAll_exists (firstRepeated?_eq_none_iff.mpr distinct) fun _ => Iff.rfl

end FieldMap

namespace Registry

variable {registry : Registry} {group : Option String}

theorem shows_of_same_groups {other : Registry} (same : other.groups = registry.groups)
    (field : Field) : other.Shows group field ↔ registry.Shows group field :=
  shows_congr (fun _ => by rw [same]) group field

/-- A request gets a map of its fields just if those that it sees have different names.  The
map has the visible fields in their order, each under its name, as they are entered one after
the other.  Otherwise the error is about the first name that repeats one in front of it.
Fields that the request does not see make no difference. -/
theorem maps_built_of_distinct_names (registry : Registry) (entity : String)
    (group : Option String) :
    registry.lookup entity group =
      ((registry.entities.find? entity).getD []).filter (registry.Shows group) ∧
    ((∃ fields, registry.lookupMap entity group = .ok fields) ↔
      ((registry.lookup entity group).map Field.name).Nodup) ∧
    (∀ fields, registry.lookupMap entity group = .ok fields →
      fields.entries = (registry.lookup entity group).map (fun field => (field.name, field)) ∧
      (∃ entered, FieldMap.enterAll entity .empty (registry.lookup entity group) = .ok entered ∧
        entered.entries = fields.entries) ∧
      ∀ name field, fields.find? name = some field ↔
        field ∈ registry.lookup entity group ∧ field.name = name) ∧
    (∀ error, registry.lookupMap entity group = .error error ↔
      ∃ name, FirstRepeats ((registry.lookup entity group).map Field.name) name ∧
        error = .duplicateField entity name) ∧
    (∀ error, registry.lookupMap entity group = .error error →
      FieldMap.enterAll entity .empty (registry.lookup entity group) = .error error) ∧
    ∀ other : Registry, other.groups = registry.groups →
      ((other.entities.find? entity).getD []).filter (registry.Shows group) =
        ((registry.entities.find? entity).getD []).filter (registry.Shows group) →
      other.lookupMap entity group = registry.lookupMap entity group := by
  refine ⟨lookup_eq_shown .., lookupMap_exists_iff, ?_, ?_, ?_, ?_⟩
  · intro fields unique
    have visible := FieldMap.fields_ofFields unique
    refine ⟨by rw [FieldMap.entries, visible], FieldMap.enterAll_of_ok unique, ?_⟩
    intro name field
    rw [FieldMap.find?_eq_some_iff, visible]
  · intro error
    exact FieldMap.ofFields_eq_error_iff
  · intro error failed
    obtain ⟨name, repeats, rfl⟩ := FieldMap.ofFields_eq_error_iff.mp failed
    exact FieldMap.enterAll_fails (firstRepeated?_eq_some_iff.mpr repeats) fun _ => Iff.rfl
  · intro other groups agree
    have sameFields : other.lookup entity group = registry.lookup entity group := by
      rw [lookup_eq_shown, lookup_eq_shown, ← agree]
      exact List.filter_congr fun field _ => decide_eq_decide.mpr (shows_of_same_groups groups field)
    rw [lookupMap, lookupMap, sameFields]

end Registry

end FilterQuery
