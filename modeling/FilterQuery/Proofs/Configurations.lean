import FilterQuery.Configuration
import FilterQuery.Proofs.Registrations

namespace FilterQuery

/-! What a configuration leaves of a registry: the groups and entities that it adds, also
where one of its entities is refused. -/

namespace Registry

variable {registry : Registry} {entity : String} {declarations : List Declaration}
  {fields : List Field} {entry : String × List Declaration}
  {entries accepted : List (String × List Declaration)} {stored : List (String × List Field)}
  {outcome : Except Failure Unit}

/-- Whether the entity of an entry is unknown and one of its declarations builds no field. -/
def Refuses (registry : Registry) (entry : String × List Declaration) : Prop :=
  registry.entities.find? entry.1 = none ∧
    ∃ declaration ∈ entry.2, ∃ error, Field.build declaration = .error error

/-- Which entries are accepted in their order, and how that ends: all of them, or those in
front of the first that is refused.  The error names its entity and has the first fault of
its declarations. -/
inductive Accepts (registry : Registry) : List (String × List Declaration) →
    List (String × List Declaration) → Except Failure Unit → Prop where
  | all {entries : List (String × List Declaration)}
      (accepted : ∀ entry ∈ entries, ¬ registry.Refuses entry) :
      Accepts registry entries entries (.ok ())
  | before {earlier later : List (String × List Declaration)} {entity : String}
      {checked unchecked : List Declaration} {declaration : Declaration} {cause : FilterError}
      (accepted : ∀ entry ∈ earlier, ¬ registry.Refuses entry)
      (unknown : registry.entities.find? entity = none)
      (build : ∀ other ∈ checked, ∃ field, Field.build other = .ok field)
      (fails : Field.build declaration = .error cause) :
      Accepts registry (earlier ++ (entity, checked ++ declaration :: unchecked) :: later) earlier
        (.error (.invalidDeclarations entity cause))

/-- What is stored for entries that are accepted: for each whose entity is unknown, the
fields of all of its declarations in their order. -/
def Stores (registry : Registry) (accepted : List (String × List Declaration))
    (stored : List (String × List Field)) : Prop :=
  List.Forall₂ (fun entry new => new.1 = entry.1 ∧
      List.Forall₂ (fun declaration field => Field.build declaration = .ok field) entry.2 new.2)
    (accepted.filter fun entry => (registry.entities.find? entry.1).isNone) stored

theorem Accepts.cons (accepts : registry.Accepts entries accepted outcome)
    (first : ¬ registry.Refuses entry) :
    registry.Accepts (entry :: entries) (entry :: accepted) outcome := by
  cases accepts with
  | all others => exact .all (List.forall_mem_cons.mpr ⟨first, others⟩)
  | before others unknown build fails =>
      exact .before (List.forall_mem_cons.mpr ⟨first, others⟩) unknown build fails

/-- Entries fail just if one of them is refused. -/
theorem Accepts.fails_iff (accepts : registry.Accepts entries accepted outcome) :
    (∃ failure, outcome = .error failure) ↔ ∃ entry ∈ entries, registry.Refuses entry := by
  cases accepts with
  | all accepted =>
      refine iff_of_false (fun ⟨_, failed⟩ => nomatch failed) ?_
      rintro ⟨entry, member, refused⟩
      exact accepted entry member refused
  | before _ unknown _ fails =>
      refine iff_of_true ⟨_, rfl⟩ ⟨_, List.mem_append_right _ List.mem_cons_self, unknown, ?_⟩
      exact ⟨_, List.mem_append_right _ List.mem_cons_self, _, fails⟩

theorem not_refuses_of_known (known : registry.entities.find? entity = some fields) :
    ¬ registry.Refuses (entity, declarations) := by
  rintro ⟨unknown, _⟩
  rw [known] at unknown
  contradiction

theorem not_refuses_of_built (built : Field.buildAll declarations = .ok fields) :
    ¬ registry.Refuses (entity, declarations) := by
  rintro ⟨_, declaration, member, error, fails⟩
  obtain ⟨field, builds⟩ := exists_mapM_ok_iff.mp ⟨fields, built⟩ declaration member
  rw [builds] at fails
  contradiction

theorem Stores.skip (stores : registry.Stores accepted stored)
    (known : registry.entities.find? entity = some fields) :
    registry.Stores ((entity, declarations) :: accepted) stored := by
  rwa [Stores, List.filter_cons_of_neg (by simp [known])]

theorem Stores.add (stores : registry.Stores accepted stored)
    (unknown : registry.entities.find? entity = none)
    (built : Field.buildAll declarations = .ok fields) :
    registry.Stores ((entity, declarations) :: accepted) ((entity, fields) :: stored) := by
  rw [Stores, List.filter_cons_of_pos (by simp [unknown])]
  exact .cons ⟨rfl, mapM_eq_ok_iff.mp built⟩ stores

theorem entries_register_of_unknown (unknown : registry.entities.find? entity = none) :
    (registry.register entity fields).1.entities.entries =
      registry.entities.entries ++ [(entity, fields)] :=
  Dictionary.entries_insertNew_of_new unknown

end Registry

namespace Configuration

open Registry

/-- How entries are registered one after the other, with what that leaves of a registry and
how it ends. -/
inductive Registers : Registry → List (String × List Declaration) → Registry →
    Except Failure Unit → Prop where
  | done {registry : Registry} : Registers registry [] registry (.ok ())
  | skips {registry left : Registry} {entity : String} {declarations : List Declaration}
      {entries : List (String × List Declaration)} {fields : List Field}
      {outcome : Except Failure Unit} (known : registry.entities.find? entity = some fields)
      (rest : Registers registry entries left outcome) :
      Registers registry ((entity, declarations) :: entries) left outcome
  | stops {registry : Registry} {entity : String} {declarations : List Declaration}
      {entries : List (String × List Declaration)} {cause : FilterError}
      (unknown : registry.entities.find? entity = none)
      (faulty : Field.buildAll declarations = .error cause) :
      Registers registry ((entity, declarations) :: entries) registry
        (.error (.invalidDeclarations entity cause))
  | stores {registry left : Registry} {entity : String} {declarations : List Declaration}
      {entries : List (String × List Declaration)} {fields : List Field}
      {outcome : Except Failure Unit} (unknown : registry.entities.find? entity = none)
      (built : Field.buildAll declarations = .ok fields)
      (rest : Registers (registry.register entity fields).1 entries left outcome) :
      Registers registry ((entity, declarations) :: entries) left outcome

variable {registry first left : Registry} {entries : List (String × List Declaration)}
  {groups : List (String × List String)} {entity : String} {declarations : List Declaration}
  {fields : List Field} {outcome : Except Failure Unit}

theorem registerDeclarations_of_known (known : registry.entities.find? entity = some fields) :
    registry.registerDeclarations entity declarations = .ok (registry, false) := by
  rw [registerDeclarations, hasEntity, Dictionary.contains_eq_isSome, known, Option.isSome_some,
    if_pos rfl]

theorem registerDeclarations_of_unknown (unknown : registry.entities.find? entity = none) :
    registry.registerDeclarations entity declarations =
      (Field.buildAll declarations).map (registry.register entity) := by
  rw [registerDeclarations, hasEntity, Dictionary.contains_eq_isSome, unknown, Option.isSome_none,
    if_neg Bool.false_ne_true]

theorem registers_registerEntities (registry : Registry) (entries : List (String × List Declaration)) :
    Registers registry entries (registerEntities registry entries).1
      (registerEntities registry entries).2 := by
  induction entries generalizing registry with
  | nil => exact .done
  | cons entry entries inductionHypothesis =>
      obtain ⟨entity, declarations⟩ := entry
      cases found : registry.entities.find? entity with
      | some fields =>
          simp only [registerEntities, registerDeclarations_of_known found]
          exact .skips found (inductionHypothesis registry)
      | none =>
          simp only [registerEntities, registerDeclarations_of_unknown found]
          cases made : Field.buildAll declarations with
          | error cause => exact .stops found made
          | ok fields => exact .stores found made (inductionHypothesis _)

theorem Registers.eq (registers : Registers registry entries left outcome) :
    registerEntities registry entries = (left, outcome) := by
  induction registers with
  | done => rfl
  | skips known _ rest => simp only [registerEntities, registerDeclarations_of_known known, rest]
  | stops unknown faulty =>
      simp only [registerEntities, registerDeclarations_of_unknown unknown, faulty, Except.map]
  | stores unknown built _ rest =>
      simp only [registerEntities, registerDeclarations_of_unknown unknown, built, Except.map, rest]

theorem Registers.groups_eq (registers : Registers registry entries left outcome) :
    left.groups = registry.groups := by
  induction registers with
  | done => rfl
  | skips _ _ rest => exact rest
  | stops _ _ => rfl
  | stores _ _ _ rest => exact rest

theorem Registers.find?_of_known (registers : Registers registry entries left outcome)
    (known : registry.entities.find? entity = some fields) :
    left.entities.find? entity = some fields := by
  induction registers with
  | done => exact known
  | skips _ _ rest => exact rest known
  | stops _ _ => exact known
  | stores _ _ _ rest =>
      apply rest
      rw [find?_register, known, Option.some_or]

/-- Entries that have been offered before are skipped up to the one that was refused, which
is refused again. -/
theorem Registers.again (registers : Registers registry entries left outcome) :
    Registers left entries left outcome := by
  induction registers with
  | done => exact .done
  | skips known registers rest => exact .skips (registers.find?_of_known known) rest
  | stops unknown faulty => exact .stops unknown faulty
  | @stores registry left entity declarations entries fields outcome unknown built registers rest =>
      have stored : (registry.register entity fields).1.entities.find? entity = some fields := by
        rw [find?_register, unknown, if_pos rfl, Option.none_or]
      exact .skips (registers.find?_of_known stored) rest

/-- What is accepted of entries is decided by the registry that they are offered to first,
since no entity has two of them. -/
theorem Registers.accepts (registers : Registers registry entries left outcome)
    (distinct : (entries.map Prod.fst).Nodup)
    (same : ∀ entry ∈ entries, registry.entities.find? entry.1 = first.entities.find? entry.1) :
    ∃ accepted stored, first.Accepts entries accepted outcome ∧ first.Stores accepted stored ∧
      left.entities.entries = registry.entities.entries ++ stored := by
  induction registers with
  | done => exact ⟨[], [], .all (List.forall_mem_nil _), .nil, (List.append_nil _).symm⟩
  | skips known _ rest =>
      obtain ⟨head, others⟩ := List.forall_mem_cons.mp same
      have present := head.symm.trans known
      obtain ⟨accepted, stored, accepts, stores, added⟩ := rest (List.nodup_cons.mp distinct).2 others
      exact ⟨_, stored, accepts.cons (not_refuses_of_known present), stores.skip present, added⟩
  | stops unknown faulty =>
      obtain ⟨head, _⟩ := List.forall_mem_cons.mp same
      obtain ⟨checked, declaration, unchecked, rfl, build, fails⟩ := mapM_eq_error_iff.mp faulty
      refine ⟨[], [], ?_, .nil, (List.append_nil _).symm⟩
      exact .before (List.forall_mem_nil _) (head.symm.trans unknown) build fails
  | @stores registry left entity declarations entries fields outcome unknown built _ rest =>
      obtain ⟨head, others⟩ := List.forall_mem_cons.mp same
      obtain ⟨single, distinct⟩ := List.nodup_cons.mp distinct
      -- the new entity has no other entry, so none is skipped that was not known at first
      have later : ∀ other ∈ entries, (registry.register entity fields).1.entities.find? other.1 =
          first.entities.find? other.1 := by
        intro other member
        have different : other.1 ≠ entity := fun equal =>
          single (List.mem_map.mpr ⟨other, member, equal⟩)
        rw [find?_register, if_neg different, Option.or_none, others other member]
      obtain ⟨accepted, stored, accepts, stores, added⟩ := rest distinct later
      refine ⟨_, _, accepts.cons (not_refuses_of_built built),
        stores.add (head.symm.trans unknown) built, ?_⟩
      rw [added, entries_register_of_unknown unknown, List.append_assoc, List.singleton_append]

theorem declareGroups_eq (registry : Registry) (groups : List (String × List String)) :
    declareGroups registry groups = { registry with
      groups := ⟨groups.foldl (fun parents group => (parents.insertNew group.1 group.2).1)
        registry.groups.parents⟩ } := by
  induction groups generalizing registry with
  | nil => rfl
  | cons group groups inductionHypothesis =>
      exact inductionHypothesis (registry.declareGroup group.1 group.2).1

theorem declareGroups_again {later : Registry}
    (same : later.groups = (declareGroups registry groups).groups) :
    declareGroups later groups = later := by
  have kept : later.groups = ⟨groups.foldl (fun parents group =>
      (parents.insertNew group.1 group.2).1) registry.groups.parents⟩ := by
    rw [same, declareGroups_eq]
  rw [declareGroups_eq, kept, Dictionary.foldl_insertNew_again, ← kept]

/-- Registering a configuration fails if an entity that is unknown has a declaration that
builds no field, and the error is about the first such entity.  All groups are declared and
the entities in front of it are stored, if they were unknown, with the fields of all of their
declarations; nothing else changes.  Registering it again has the same outcome and changes
nothing. -/
theorem registration_atomic (configuration : Configuration) (registry : Registry) :
    ((∃ failure, (configuration.register registry).2 = .error failure) ↔
      ∃ entry ∈ configuration.entities.entries, registry.Refuses entry) ∧
    (∃ accepted stored,
      registry.Accepts configuration.entities.entries accepted (configuration.register registry).2 ∧
      registry.Stores accepted stored ∧
      (configuration.register registry).1.entities.entries = registry.entities.entries ++ stored ∧
      (configuration.register registry).1.groups.parents.entries =
        registry.groups.parents.entries ++ configuration.groups.entries.filter fun group =>
          (registry.groups.parents.find? group.1).isNone) ∧
    configuration.register (configuration.register registry).1 = configuration.register registry := by
  have registers := registers_registerEntities
    (declareGroups registry configuration.groups.entries) configuration.entities.entries
  have same : ∀ entry ∈ configuration.entities.entries,
      (declareGroups registry configuration.groups.entries).entities.find? entry.1 =
        registry.entities.find? entry.1 := by
    intro entry _
    rw [declareGroups_eq]
  obtain ⟨accepted, stored, accepts, stores, added⟩ :=
    registers.accepts configuration.entities.distinct same
  refine ⟨accepts.fails_iff, ⟨accepted, stored, accepts, stores, ?_, ?_⟩, ?_⟩
  · rw [register, added, declareGroups_eq]
  · rw [register, registers.groups_eq, declareGroups_eq]
    exact Dictionary.entries_foldl_insertNew _ configuration.groups.distinct
  · rw [register, register, declareGroups_again registers.groups_eq, registers.again.eq]

end Configuration

end FilterQuery
