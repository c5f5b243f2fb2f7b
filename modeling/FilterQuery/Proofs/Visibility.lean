import FilterQuery.FieldSummary
import FilterQuery.Proofs.Ancestors
import FilterQuery.Proofs.BuiltFields
import FilterQuery.Proofs.Repetitions
import FilterQuery.Proofs.Translation
import Mathlib.Data.List.Nodup

namespace FilterQuery

/-! What requests see: the fields without groups, and those of the requested group
and of the groups above it.  Nothing that requests get depends on other fields. -/

namespace FieldMap

variable {entity name : String} {fields : List Field} {field : Field}

theorem ofFields_exists (distinct : (fields.map Field.name).Nodup) :
    ∃ map, ofFields entity fields = .ok map := by
  have unrepeated : firstRepeated? [] (fields.map Field.name) = none :=
    firstRepeated?_eq_none_of_nodup distinct fun _ _ => List.not_mem_nil
  unfold ofFields
  split
  · simp_all
  · exact ⟨_, rfl⟩

theorem find?_eq_some_iff {map : FieldMap} :
    map.find? name = some field ↔ field ∈ map.fields ∧ field.name = name := by
  constructor
  · intro found
    exact ⟨mem_of_find? found, name_of_find? found⟩
  · rintro ⟨member, rfl⟩
    obtain ⟨other, found⟩ : ∃ other, map.find? field.name = some other := by
      rw [← Option.isSome_iff_exists, find?, List.find?_isSome]
      exact ⟨field, member, by simp⟩
    rw [found, List.inj_on_of_nodup_map map.distinct (mem_of_find? found) member (name_of_find? found)]

end FieldMap

namespace Registry

variable {registry : Registry} {entity : String} {group : Option String} {field : Field}

/-- Whether requests for a group, or for none, see a field. -/
def Shows (registry : Registry) (group : Option String) (field : Field) : Prop :=
  field.groups = [] ∨
    ∃ requested ∈ group, ∃ declared ∈ field.groups, registry.groups.Reaches requested declared

theorem isVisible_iff : registry.isVisible group field = true ↔ registry.Shows group field := by
  rw [isVisible, Bool.or_eq_true, decide_eq_true_iff, Shows, Option.any_eq_true]
  simp only [List.any_eq_true, isAssignable, Groups.isAssignable_iff, Option.mem_def]

instance : DecidablePred (registry.Shows group) :=
  fun _ => decidable_of_iff _ isVisible_iff

/-- An entity that is not known has no fields to show. -/
theorem lookup_eq_shown (registry : Registry) (entity : String) (group : Option String) :
    registry.lookup entity group =
      ((registry.entities.find? entity).getD []).filter (registry.Shows group) := by
  refine List.filter_congr fun field _ => ?_
  rw [Bool.eq_iff_iff, isVisible_iff, decide_eq_true_iff]

theorem lookup_eq_filter {stored : List Field} (found : registry.entities.find? entity = some stored) :
    registry.lookup entity group = stored.filter (registry.Shows group) := by
  rw [lookup_eq_shown, found, Option.getD_some]

theorem lookupMap_exists_iff :
    (∃ fields, registry.lookupMap entity group = .ok fields) ↔
      ((registry.lookup entity group).map Field.name).Nodup := by
  constructor
  · rintro ⟨fields, unique⟩
    rw [← FieldMap.fields_ofFields unique]
    exact fields.distinct
  · exact FieldMap.ofFields_exists

theorem Shows.of_more {more : Registry} (shown : registry.Shows group field)
    (reached : ∀ requested ∈ group, ∀ declared, registry.groups.Reaches requested declared →
      more.groups.Reaches requested declared) : more.Shows group field := by
  rcases shown with ungrouped | ⟨requested, asked, declared, member, reaches⟩
  · exact .inl ungrouped
  · exact .inr ⟨requested, asked, declared, member, reached requested asked declared reaches⟩

end Registry

/-- A field that a map does not have is unknown, whatever else is asked of it. -/
theorem Target.translate_unknown {φ : Type} (target : Target φ) {fields : FieldMap}
    {selector : String} (absent : fields.find? selector = none) (unknown : UnknownMembers)
    (symbol : String) (arguments : List String) :
    target.translate ⟨fields, unknown⟩ (.comparison selector symbol arguments) =
      .error (.unknownField selector) := by
  rw [translate_comparison, Request.resolve]
  simp only [absent]
  rfl

namespace Registry

variable {first second : Registry} {entity : String} {group : Option String}
  {firstFields secondFields : List Field}

theorem shows_congr
    (hierarchy : ∀ name, first.groups.parents.find? name = second.groups.parents.find? name)
    (group : Option String) (field : Field) : first.Shows group field ↔ second.Shows group field := by
  constructor
  · exact fun shown => shown.of_more fun _ _ _ =>
      Groups.Reaches.mono fun name parents found => (hierarchy name).symm.trans found
  · exact fun shown => shown.of_more fun _ _ _ =>
      Groups.Reaches.mono fun name parents found => (hierarchy name).trans found

/-- A request selects by name among the fields that it sees. -/
theorem find?_eq_none_of_unseen {stored : List Field} {registry : Registry} {fields : FieldMap}
    {selector : String} (found : registry.entities.find? entity = some stored)
    (unique : registry.lookupMap entity group = .ok fields)
    (unseen : ∀ field ∈ stored, registry.Shows group field → field.name ≠ selector) :
    fields.find? selector = none := by
  rw [FieldMap.find?, List.find?_eq_none]
  intro field member
  rw [FieldMap.fields_ofFields unique, lookup_eq_filter found, List.mem_filter,
    decide_eq_true_iff] at member
  simpa using unseen field member.1 member.2

/-- Registries that agree on the fields that a request sees answer it alike.  Fields
that it does not see are unknown to it, and their names collide with none. -/
theorem hidden_fields_unobserved
    (hierarchy : ∀ name, first.groups.parents.find? name = second.groups.parents.find? name)
    (firstStored : first.entities.find? entity = some firstFields)
    (secondStored : second.entities.find? entity = some secondFields)
    (agree : firstFields.filter (first.Shows group) = secondFields.filter (first.Shows group)) :
    first.lookup entity group = second.lookup entity group ∧
    first.lookupMap entity group = second.lookupMap entity group ∧
    (first.lookup entity group).map FieldSummary.ofField =
      (second.lookup entity group).map FieldSummary.ofField ∧
    (∀ {φ : Type} (target : Target φ) (unknown : UnknownMembers) (expression : Expression),
      ((first.lookupMap entity group).bind fun fields =>
        target.translate ⟨fields, unknown⟩ expression) =
      (second.lookupMap entity group).bind fun fields =>
        target.translate ⟨fields, unknown⟩ expression) ∧
    (((firstFields.filter (first.Shows group)).map Field.name).Nodup →
      ∃ fields, first.lookupMap entity group = .ok fields) ∧
    (∀ fields, first.lookupMap entity group = .ok fields →
      ∀ selector, (∀ field ∈ firstFields, first.Shows group field → field.name ≠ selector) →
        ∀ {φ : Type} (target : Target φ) (unknown : UnknownMembers) (symbol : String)
          (arguments : List String),
          target.translate ⟨fields, unknown⟩ (.comparison selector symbol arguments) =
            .error (.unknownField selector)) := by
  have same : first.lookup entity group = second.lookup entity group := by
    rw [lookup_eq_filter firstStored, lookup_eq_filter secondStored, agree]
    exact List.filter_congr fun field _ => decide_eq_decide.mpr (shows_congr hierarchy group field)
  have sameMap : first.lookupMap entity group = second.lookupMap entity group := by
    rw [lookupMap, lookupMap, same]
  refine ⟨same, sameMap, by rw [same], fun _ _ _ => by rw [sameMap], fun distinct => ?_, ?_⟩
  · rw [lookupMap_exists_iff, lookup_eq_filter firstStored]
    exact distinct
  · intro fields unique selector unseen _ target unknown symbol arguments
    exact target.translate_unknown (find?_eq_none_of_unseen firstStored unique unseen) unknown
      symbol arguments

/-- The title of a book for staff, which hides behind the title for everyone. -/
def bookInternalTitle : Field :=
  { bookTitle with key := "internal", groups := ["staff"] }

/-- Staff are members. -/
def bookshop (fields : List Field) : Registry :=
  ((({} : Registry).declareGroup "staff" ["member"]).1.register "book" fields).1

theorem bookshop_stored (fields : List Field) :
    (bookshop fields).entities.find? "book" = some fields :=
  rfl

theorem internal_titles_unobserved :
    [bookTitle, bookInternalTitle].filter
        ((bookshop [bookTitle, bookInternalTitle]).Shows (some "member")) =
      [bookTitle].filter ((bookshop [bookTitle, bookInternalTitle]).Shows (some "member")) ∧
    (bookshop [bookTitle, bookInternalTitle]).lookupMap "book" (some "member") =
      (bookshop [bookTitle]).lookupMap "book" (some "member") := by
  have hidden : ¬ (bookshop [bookTitle, bookInternalTitle]).Shows (some "member") bookInternalTitle := by
    rintro (ungrouped | ⟨_, ⟨⟩, declared, member, path⟩)
    · contradiction
    · cases Groups.eq_of_undeclared rfl path
      exact absurd member (by decide)
  have agree : [bookTitle, bookInternalTitle].filter
      ((bookshop [bookTitle, bookInternalTitle]).Shows (some "member")) =
        [bookTitle].filter ((bookshop [bookTitle, bookInternalTitle]).Shows (some "member")) := by
    simp [List.filter_cons, hidden]
  have hierarchy : ∀ name, (bookshop [bookTitle, bookInternalTitle]).groups.parents.find? name =
      (bookshop [bookTitle]).groups.parents.find? name := fun _ => rfl
  have unobserved := hidden_fields_unobserved hierarchy (bookshop_stored _) (bookshop_stored _) agree
  exact ⟨agree, unobserved.2.1⟩

end Registry

end FilterQuery
