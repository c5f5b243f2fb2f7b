import FilterQuery.Proofs.Labels
import FilterQuery.Proofs.Refusals
import FilterQuery.Proofs.Registrations

namespace FilterQuery

/-! The summaries of the fields that a request sees tell which comparisons it may make. -/

namespace Field

variable {field : Field} {literal : String}

theorem casts_reject_iff (enumeration : field.kind = .enumeration) :
    field.Casts .reject literal ↔ ∃ member, field.resolveMember? literal = some member := by
  simp only [Casts, castArgument, enumeration, if_true]
  cases field.resolveMember? literal with
  | none => simp
  | some member => simp

theorem Built.labels_ofField (built : field.Built) : (FieldSummary.ofField field).labels = field.labels := by
  cases labelled : field.labels with
  | none => simp [FieldSummary.ofField, labelled]
  | some labels =>
      have enumeration : field.kind = .enumeration := built.isSome_labels_iff.mp (by simp [labelled])
      simp [FieldSummary.ofField, isEnumeration, enumeration, labelled]

end Field

namespace FieldSummary

variable {φ : Type}

/-- Whether comparisons that select the field of a summary are accepted as it tells: its
operators and null tests are those that are allowed, and labels and members of its
dictionary those that name something. -/
structure Describes (summary : FieldSummary) (target : Target φ) (fields : FieldMap) : Prop where
  operators : ∀ unknown symbol operator arguments, Operator.ofSymbol? symbol = some operator →
    operator.isNullTest = false →
    ((∃ field quoted, target.translate ⟨fields, unknown⟩
        (.comparison summary.field symbol arguments) = .error (.operatorNotAllowed field quoted)) ↔
      operator ∉ summary.operators)
  nullTests : ∀ unknown symbol operator arguments, Operator.ofSymbol? symbol = some operator →
    operator.isNullTest = true →
    target.Accepts ⟨fields, unknown⟩ (.comparison summary.field symbol arguments)
  labelled : summary.labels.isSome = true ↔
    ∃ field, fields.find? summary.field = some field ∧ field.kind = .enumeration
  members : ∀ labels, summary.labels = some labels →
    ∀ symbol operator arguments, Operator.ofSymbol? symbol = some operator →
    operator ∈ [Operator.equal, .oneOf] → operator ∈ summary.operators → operator.Takes arguments →
    (target.Accepts ⟨fields, .reject⟩ (.comparison summary.field symbol arguments) ↔
      ∀ literal ∈ arguments, ∃ entry ∈ labels.entries, literal = entry.1 ∨ literal = entry.2)

variable {target : Target φ} {fields : FieldMap} {field : Field} {operator : Operator}
  {unknown : UnknownMembers} {selector symbol : String} {arguments : List String}

theorem unknown_iff :
    (∃ name, target.translate ⟨fields, unknown⟩ (.comparison selector symbol arguments) =
        .error (.unknownField name)) ↔ fields.find? selector = none := by
  constructor
  · rintro ⟨name, failed⟩
    have refuses :=
      (Target.translate_comparison_eq_error_iff ⟨selector, symbol, arguments⟩).mp failed
    cases refuses with
    | unknownField absent => exact absent
  · intro absent
    exact ⟨selector, target.translate_unknown absent unknown symbol arguments⟩

theorem forbidden_iff
    (selects : Comparison.Selects ⟨selector, symbol, arguments⟩ fields field operator)
    (compares : operator.isNullTest = false) :
    (∃ name quoted, target.translate ⟨fields, unknown⟩ (.comparison selector symbol arguments) =
        .error (.operatorNotAllowed name quoted)) ↔ operator ∉ field.operators := by
  constructor
  · rintro ⟨name, quoted, failed⟩
    have refuses :=
      (Target.translate_comparison_eq_error_iff ⟨selector, symbol, arguments⟩).mp failed
    cases refuses with
    | operatorNotAllowed selects' _ forbidden =>
        obtain ⟨rfl, rfl⟩ := selects.unique selects'
        exact of_decide_eq_false forbidden
  · intro unlisted
    have refuses : Request.Refuses ⟨fields, unknown⟩ target.name target.supports
        ⟨selector, symbol, arguments⟩ (.operatorNotAllowed selector symbol) :=
      .operatorNotAllowed selects compares (decide_eq_false unlisted)
    exact ⟨selector, symbol, (Target.translate_comparison_eq_error_iff _).mpr refuses⟩

theorem members_iff {labels : Dictionary String} (built : field.Built)
    (labelled : field.labels = some labels) (supported : target.supports operator.canonical = true)
    (selects : Comparison.Selects ⟨selector, symbol, arguments⟩ fields field operator)
    (compares : operator.isNullTest = false) (listed : operator ∈ field.operators)
    (counted : operator.Takes arguments) :
    target.Accepts ⟨fields, .reject⟩ (.comparison selector symbol arguments) ↔
      ∀ literal ∈ arguments, ∃ entry ∈ labels.entries, literal = entry.1 ∨ literal = entry.2 := by
  have enumeration : field.kind = .enumeration := built.isSome_labels_iff.mp (by simp [labelled])
  have each : (∀ literal ∈ arguments, field.Casts .reject literal) ↔
      ∀ literal ∈ arguments, ∃ entry ∈ labels.entries, literal = entry.1 ∨ literal = entry.2 :=
    forall₂_congr fun literal _ =>
      (Field.casts_reject_iff enumeration).trans (built.resolveMember?_exists_iff labelled)
  rw [← each]
  refine (Target.accepts_comparison_iff_valid ⟨selector, symbol, arguments⟩).trans ?_
  constructor
  · rintro ⟨field', operator', selects', _, rules⟩
    obtain ⟨rfl, rfl⟩ := selects.unique selects'
    exact (rules.resolve_left (by simp [compares])).2.2
  · intro cast
    exact ⟨field, operator, selects, supported, .inr ⟨decide_eq_true listed, counted, cast⟩⟩

theorem ofField_describes (built : field.Built) (found : fields.find? field.name = some field)
    (supported : ∀ operator, target.supports operator = true) :
    (ofField field).Describes target fields where
  operators _ _ _ _ named compares := forbidden_iff ⟨found, named⟩ compares
  nullTests unknown symbol operator arguments named tests := by
    have valid : Request.Valid ⟨fields, unknown⟩ target.supports ⟨field.name, symbol, arguments⟩ :=
      ⟨field, operator, ⟨found, named⟩, supported _, .inl tests⟩
    exact (Target.accepts_comparison_iff_valid _).mpr valid
  labelled := by
    rw [built.labels_ofField, built.isSome_labels_iff]
    exact ⟨fun enumeration => ⟨field, found, enumeration⟩, fun ⟨other, found', enumeration⟩ =>
      Option.some.inj (found.symm.trans found') ▸ enumeration⟩
  members labels labelled symbol operator arguments named either listed counted := by
    rw [built.labels_ofField] at labelled
    have compares : operator.isNullTest = false := by
      cases operator <;> simp at either <;> rfl
    exact members_iff built labelled (supported _) ⟨found, named⟩ compares listed counted

/-- The summaries of what a request sees name the fields that it may select, and each tells
which comparisons of its field are accepted by targets that support all operators. -/
theorem summaries_describe {registry : Registry} (built : registry.Built) {entity : String}
    {group : Option String} {fields : FieldMap}
    (unique : registry.lookupMap entity group = .ok fields) (target : Target φ)
    (supported : ∀ operator, target.supports operator = true) :
    (∀ unknown selector symbol arguments,
      (∃ name, target.translate ⟨fields, unknown⟩ (.comparison selector symbol arguments) =
        .error (.unknownField name)) ↔
      ∀ summary ∈ (registry.lookup entity group).map ofField, summary.field ≠ selector) ∧
    ∀ summary ∈ (registry.lookup entity group).map ofField, summary.Describes target fields := by
  rw [← FieldMap.fields_ofFields unique]
  constructor
  · intro unknown selector symbol arguments
    rw [unknown_iff, List.forall_mem_map, FieldMap.find?, List.find?_eq_none]
    simp [ofField]
  · rw [List.forall_mem_map]
    intro field visible
    exact ofField_describes (Registry.lookupMap_built built unique field visible)
      (FieldMap.find?_eq_some_iff.mpr ⟨visible, rfl⟩) supported

theorem formats_described :
    Registry.formats.Built ∧ Registry.formats.lookupMap "book" none = .ok .formats ∧
    (∀ operator, Document.target.supports operator = true) ∧
    (ofField bookFormat).Describes Document.target .formats := by
  have built : Registry.formats.Built :=
    Registry.register_built "book" FieldMap.formats_built
  have unique : Registry.formats.lookupMap "book" none = .ok .formats := rfl
  obtain ⟨_, described⟩ := summaries_describe built unique Document.target fun _ => rfl
  exact ⟨built, unique, fun _ => rfl, described _ List.mem_cons_self⟩

end FieldSummary

end FilterQuery
