import FilterQuery.Proofs.Dictionaries
import FilterQuery.Proofs.Traversals
import FilterQuery.Registry

namespace FilterQuery

/-! What the checks of declarations promise of the fields that pass them. -/

/-- The field comes from a declaration that passed its checks. -/
def Field.Built (field : Field) : Prop :=
  ∃ declaration, Field.build declaration = .ok field

def FieldMap.Built (fields : FieldMap) : Prop :=
  ∀ field ∈ fields.fields, field.Built

def Registry.Built (registry : Registry) : Prop :=
  ∀ entity stored, registry.entities.find? entity = some stored →
    ∀ field ∈ stored, field.Built

theorem ValueKind.allows_canonical (kind : ValueKind) (operator : Operator) :
    kind.allows operator.canonical = kind.allows operator := by
  cases operator <;> cases kind <;> rfl

theorem Operator.mem_closeSpellings_iff {operators : List Operator} {operator : Operator} :
    operator ∈ closeSpellings operators ↔
      ∃ present ∈ operators, operator.canonical = present.canonical := by
  simp [closeSpellings, mem_all]

theorem Declaration.fieldOperators_allowed {declaration : Declaration} {operator : Operator}
    (member : operator ∈ declaration.fieldOperators) :
    declaration.valueKind.allows operator = true := by
  unfold fieldOperators at member
  split at member
  · exact (List.mem_filter.mp member).2
  · obtain ⟨present, listed, same⟩ := Operator.mem_closeSpellings_iff.mp member
    rw [← ValueKind.allows_canonical, same, ValueKind.allows_canonical]
    exact (List.mem_filter.mp listed).2

namespace Field

variable {field : Field} {operator : Operator}

theorem build_eq_ok {declaration : Declaration} (built : build declaration = .ok field) :
    field.kind = declaration.valueKind ∧ field.operators = declaration.fieldOperators := by
  simp only [build] at built
  split at built
  · contradiction
  · split at built
    · contradiction
    · cases built
      exact ⟨rfl, rfl⟩

theorem build_labelling {declaration : Declaration} (built : build declaration = .ok field) :
    labelling declaration = .ok (field.labels, field.members) := by
  simp only [build] at built
  split at built
  · contradiction
  · cases labelled : labelling declaration with
    | error fault => simp [labelled] at built
    | ok names =>
        simp only [labelled, Except.ok.injEq] at built
        subst built
        rfl

theorem Built.allows (built : field.Built) (supported : field.supports operator = true) :
    field.kind.allows operator = true := by
  obtain ⟨declaration, checked⟩ := built
  obtain ⟨kind, operators⟩ := build_eq_ok checked
  have member : operator ∈ field.operators := of_decide_eq_true supported
  rw [kind]
  rw [operators] at member
  exact Declaration.fieldOperators_allowed member

end Field

namespace FieldMap

variable {fields : FieldMap} {name : String} {field : Field}

theorem mem_of_find? (found : fields.find? name = some field) : field ∈ fields.fields :=
  List.mem_of_find?_eq_some found

theorem name_of_find? (found : fields.find? name = some field) : field.name = name := by
  simpa using List.find?_some found

theorem fields_ofFields {entity : String} {visible : List Field}
    (unique : ofFields entity visible = .ok fields) : fields.fields = visible := by
  unfold ofFields at unique
  split at unique
  · contradiction
  · cases unique
    rfl

end FieldMap

theorem Registry.lookup_built {registry : Registry} {entity : String} {group : Option String}
    {field : Field} (built : registry.Built) (visible : field ∈ registry.lookup entity group) :
    field.Built := by
  have listed := (List.mem_filter.mp visible).1
  cases stored : registry.entities.find? entity with
  | none => simp [stored] at listed
  | some fields =>
      rw [stored, Option.getD_some] at listed
      exact built entity fields stored field listed

theorem Registry.lookupMap_built {registry : Registry} {entity : String}
    {group : Option String} {fields : FieldMap} (built : registry.Built)
    (found : registry.lookupMap entity group = .ok fields) : fields.Built := by
  intro field member
  rw [FieldMap.fields_ofFields found] at member
  exact lookup_built built member

/-! An entity to instantiate statements with.  The key of the titles has parts and a
quote in it. -/

def bookTitle : Field where
  name := "title"
  key := "meta.ti\"tle"
  kind := .string
  operators := ValueKind.string.operators
  groups := []
  description := ""
  labels := none
  members := []

def bookPages : Field where
  name := "pages"
  key := "pages"
  kind := .integer
  operators := ValueKind.integer.operators
  groups := []
  description := ""
  labels := none
  members := []

theorem book_built : ∀ field ∈ [bookTitle, bookPages], field.Built := by
  have sorted : Text.alphabetical [] = [] := List.mergeSort_nil
  refine List.forall_mem_cons.mpr ⟨?_, List.forall_mem_singleton.mpr ?_⟩
  · refine ⟨{
      attributeName := "title"
      attributeType := .string
      name := some "title"
      key := some "meta.ti\"tle" }, ?_⟩
    rw [Field.build, List.eraseDups_nil, sorted]
    rfl
  · refine ⟨{
      attributeName := "pages"
      attributeType := .i64
      name := some "pages"
      key := some "pages" }, ?_⟩
    rw [Field.build, List.eraseDups_nil, sorted]
    rfl

def FieldMap.books : FieldMap :=
  ⟨[bookTitle, bookPages], by decide⟩

theorem FieldMap.books_built : FieldMap.books.Built :=
  book_built

def Registry.books : Registry :=
  (Registry.register {} "book" [bookTitle, bookPages]).1

theorem Registry.lookupMap_books : Registry.books.lookupMap "book" none = .ok .books :=
  rfl

end FilterQuery
