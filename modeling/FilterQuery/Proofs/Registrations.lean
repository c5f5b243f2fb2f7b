import FilterQuery.Proofs.Dictionaries
import FilterQuery.Proofs.NarrowerGroups

namespace FilterQuery

open scoped List

/-! Runs of calls that register entities and declare groups.  What is stored first
stays, so that views only grow. -/

inductive Registry.Call where
  | register (entity : String) (fields : List Field)
  | registerDeclarations (entity : String) (declarations : List Declaration)
  | declareGroup (group : String) (parents : List String)

namespace Registry

/-- What a call leaves of a registry, and what it answers. -/
def perform (registry : Registry) : Call → Registry × Except FilterError Bool
  | .register entity fields =>
      let (registered, stored) := registry.register entity fields
      (registered, .ok stored)
  | .registerDeclarations entity declarations =>
      match registry.registerDeclarations entity declarations with
      | .error error => (registry, .error error)
      | .ok (registered, stored) => (registered, .ok stored)
  | .declareGroup group parents =>
      let (declared, stored) := registry.declareGroup group parents
      (declared, .ok stored)

/-- What calls leave of a fresh registry. -/
def after (calls : List Call) : Registry :=
  calls.foldl (fun registry call => (registry.perform call).1) {}

namespace Call

/-- Whether a call offers these fields for an entity: those that it is made with, or those
that its declarations build, one for each of them in their order. -/
inductive Offers : Call → String → List Field → Prop where
  | register (entity : String) (fields : List Field) : Offers (.register entity fields) entity fields
  | registerDeclarations (entity : String) {declarations : List Declaration} {fields : List Field}
      (builds : List.Forall₂ (fun declaration field => Field.build declaration = .ok field)
        declarations fields) : Offers (.registerDeclarations entity declarations) entity fields

/-- Whether one of the calls offers these fields for an entity, and none in front of it offers
any. -/
def FirstOffers (calls : List Call) (entity : String) (fields : List Field) : Prop :=
  ∃ before call later, calls = before ++ call :: later ∧ call.Offers entity fields ∧
    ∀ other ∈ before, ∀ offered, ¬ other.Offers entity offered

/-- The parents that a call offers for a group. -/
def parentsFor (group : String) : Call → Option (List String)
  | .declareGroup named parents => if group = named then some parents else none
  | .register .. | .registerDeclarations .. => none

/-- Whether a call offers something that none of the others offered. -/
def IsNew (call : Call) (earlier : List Call) : Prop :=
  (∃ entity fields, call.Offers entity fields ∧
    ∀ other ∈ earlier, ∀ offered, ¬ other.Offers entity offered) ∨
  (∃ group parents, call.parentsFor group = some parents ∧
    ∀ other ∈ earlier, other.parentsFor group = none)

variable {call : Call} {calls : List Call} {named entity : String} {declarations : List Declaration}
  {fields stored : List Field}

theorem offers_register_iff :
    (register named fields).Offers entity stored ↔ entity = named ∧ stored = fields := by
  constructor
  · intro offers
    cases offers
    exact ⟨rfl, rfl⟩
  · intro ⟨same, sameFields⟩
    rw [same, sameFields]
    exact .register named fields

theorem offers_registerDeclarations_iff :
    (registerDeclarations named declarations).Offers entity stored ↔
      entity = named ∧ Field.buildAll declarations = .ok stored := by
  constructor
  · intro offers
    cases offers with
    | registerDeclarations _ builds => exact ⟨rfl, mapM_eq_ok_iff.mpr builds⟩
  · intro ⟨same, built⟩
    rw [same]
    exact .registerDeclarations named (mapM_eq_ok_iff.mp built)

theorem not_offers_declareGroup {group : String} {parents : List String} :
    ¬ (declareGroup group parents).Offers entity stored :=
  nofun

theorem firstOffers_cons : FirstOffers (call :: calls) entity fields ↔
    call.Offers entity fields ∨
      (∀ offered, ¬ call.Offers entity offered) ∧ FirstOffers calls entity fields := by
  constructor
  · intro ⟨before, first, later, parted, offers, lacking⟩
    cases before with
    | nil =>
        obtain ⟨rfl, rfl⟩ := List.cons.inj parted
        exact .inl offers
    | cons other before =>
        obtain ⟨rfl, rfl⟩ := List.cons.inj parted
        obtain ⟨head, others⟩ := List.forall_mem_cons.mp lacking
        exact .inr ⟨head, before, first, later, rfl, offers, others⟩
  · intro found
    rcases found with offers | ⟨head, before, first, later, rfl, offers, others⟩
    · exact ⟨[], call, calls, rfl, offers, List.forall_mem_nil _⟩
    · exact ⟨call :: before, first, later, rfl, offers, List.forall_mem_cons.mpr ⟨head, others⟩⟩

end Call

section Step

variable {registry : Registry} {call : Call} {entity group : String} {fields stored : List Field}
  {parents : List String}

theorem find?_register (registry : Registry) (entity : String) (fields : List Field) (other : String) :
    (registry.register entity fields).1.entities.find? other =
      (registry.entities.find? other).or (if other = entity then some fields else none) :=
  Dictionary.find?_insertNew ..

theorem find?_register_iff {named : String} :
    (registry.register named fields).1.entities.find? entity = some stored ↔
      registry.entities.find? entity = some stored ∨
        registry.entities.find? entity = none ∧ (Call.register named fields).Offers entity stored := by
  rw [find?_register, Option.or_eq_some_iff, Call.offers_register_iff,
    Option.ite_none_right_eq_some, Option.some_inj, eq_comm (a := stored)]

theorem register_stored_iff :
    (registry.register entity fields).2 = true ↔ registry.entities.find? entity = none :=
  Dictionary.insertNew_stored_iff

theorem register_unchanged (known : (registry.register entity fields).2 ≠ true) :
    (registry.register entity fields).1 = registry := by
  have same := Dictionary.insertNew_unchanged (Bool.eq_false_iff.mpr known)
  simp only [register, same]

theorem declareGroup_stored_iff :
    (registry.declareGroup group parents).2 = true ↔ registry.groups.parents.find? group = none :=
  Dictionary.insertNew_stored_iff

theorem declareGroup_unchanged (known : (registry.declareGroup group parents).2 ≠ true) :
    (registry.declareGroup group parents).1 = registry := by
  have same : (registry.groups.parents.insertNew group parents).1 = registry.groups.parents :=
    Dictionary.insertNew_unchanged (Bool.eq_false_iff.mpr known)
  simp only [declareGroup, Groups.declare, same]

/-- Declarations are registered as the fields that they build, unless the entity is
known already or they build none. -/
theorem perform_registerDeclarations (registry : Registry) (entity : String)
    (declarations : List Declaration) :
    (∃ fields, Field.buildAll declarations = .ok fields ∧
      registry.perform (.registerDeclarations entity declarations) =
        registry.perform (.register entity fields)) ∨
    ((∃ stored, registry.entities.find? entity = some stored) ∨
      ∃ error, Field.buildAll declarations = .error error) ∧
      ∃ answer, answer ≠ .ok true ∧
        registry.perform (.registerDeclarations entity declarations) = (registry, answer) := by
  by_cases known : registry.hasEntity entity = true
  · refine .inr ⟨.inl ?_, .ok false, by simp, ?_⟩
    · rwa [hasEntity, Dictionary.contains_eq_isSome, Option.isSome_iff_exists] at known
    · simp [perform, registerDeclarations, known]
  · cases built : Field.buildAll declarations with
    | error error =>
        refine .inr ⟨.inr ⟨error, rfl⟩, .error error, by simp, ?_⟩
        simp [perform, registerDeclarations, known, built, Except.map]
    | ok fields =>
        refine .inl ⟨fields, rfl, ?_⟩
        simp [perform, registerDeclarations, known, built, Except.map]

theorem find?_perform_iff : (registry.perform call).1.entities.find? entity = some stored ↔
    registry.entities.find? entity = some stored ∨
      registry.entities.find? entity = none ∧ call.Offers entity stored := by
  cases call with
  | register named fields => exact find?_register_iff
  | declareGroup group parents => simp [perform, declareGroup, Call.not_offers_declareGroup]
  | registerDeclarations named declarations =>
      rw [Call.offers_registerDeclarations_iff]
      rcases registry.perform_registerDeclarations named declarations with
        ⟨fields, built, same⟩ | ⟨reason, answer, _, same⟩
      · rw [same, perform, find?_register_iff, Call.offers_register_iff, built, Except.ok.injEq,
          eq_comm (a := stored)]
      · rw [same]
        refine (or_iff_left ?_).symm
        intro ⟨unknown, asked, built⟩
        rcases reason with ⟨known, found⟩ | ⟨error, failed⟩
        · rw [asked, found] at unknown
          contradiction
        · rw [failed] at built
          contradiction

theorem find?_perform_eq_none_iff : (registry.perform call).1.entities.find? entity = none ↔
    registry.entities.find? entity = none ∧ ∀ offered, ¬ call.Offers entity offered := by
  simp only [Option.eq_none_iff_forall_ne_some, ne_eq, find?_perform_iff, not_or]
  grind

theorem parents_perform (registry : Registry) (call : Call) (group : String) :
    (registry.perform call).1.groups.parents.find? group =
      (registry.groups.parents.find? group).or (call.parentsFor group) := by
  cases call with
  | register named fields => simp [perform, register, Call.parentsFor]
  | declareGroup named parents => exact Dictionary.find?_insertNew ..
  | registerDeclarations named declarations =>
      rcases registry.perform_registerDeclarations named declarations with
        ⟨fields, _, same⟩ | ⟨_, answer, _, same⟩
      · rw [same]
        simp [perform, register, Call.parentsFor]
      · rw [same]
        simp [Call.parentsFor]

/-- A call answers that it stored something just if it offers something that the
registry lacks. -/
theorem perform_stored_iff :
    (registry.perform call).2 = .ok true ↔
      (∃ entity fields, call.Offers entity fields ∧ registry.entities.find? entity = none) ∨
      (∃ group parents, call.parentsFor group = some parents ∧
        registry.groups.parents.find? group = none) := by
  cases call with
  | register named fields =>
      rw [perform, Except.ok.injEq, register_stored_iff]
      simp [Call.offers_register_iff, Call.parentsFor]
  | declareGroup named parents =>
      rw [perform, Except.ok.injEq, declareGroup_stored_iff]
      simp [Call.not_offers_declareGroup, Call.parentsFor]
  | registerDeclarations named declarations =>
      rcases registry.perform_registerDeclarations named declarations with
        ⟨fields, built, same⟩ | ⟨reason, answer, refused, same⟩
      · rw [same, perform, Except.ok.injEq, register_stored_iff]
        simp [Call.offers_registerDeclarations_iff, Call.parentsFor, built]
      · rw [same]
        refine iff_of_false refused ?_
        rintro (⟨entity, fields, offers, lacking⟩ | ⟨_, _, offered, _⟩)
        · obtain ⟨rfl, built⟩ := Call.offers_registerDeclarations_iff.mp offers
          rcases reason with ⟨stored, known⟩ | ⟨error, failed⟩
          · simp [lacking] at known
          · simp [failed] at built
        · simp [Call.parentsFor] at offered

theorem perform_unchanged (refused : (registry.perform call).2 ≠ .ok true) :
    (registry.perform call).1 = registry := by
  cases call with
  | register named fields => exact register_unchanged fun stored => refused (congrArg _ stored)
  | declareGroup named parents =>
      exact declareGroup_unchanged fun stored => refused (congrArg _ stored)
  | registerDeclarations named declarations =>
      rcases registry.perform_registerDeclarations named declarations with
        ⟨fields, _, same⟩ | ⟨_, answer, _, same⟩
      · rw [same] at refused ⊢
        exact register_unchanged fun stored => refused (congrArg _ stored)
      · rw [same]

end Step

section Run

variable {calls before later : List Call} {entity : String} {stored : List Field}

theorem find?_foldl_iff {registry : Registry} :
    (calls.foldl (fun registry call => (registry.perform call).1) registry).entities.find? entity =
        some stored ↔
      registry.entities.find? entity = some stored ∨
        registry.entities.find? entity = none ∧ Call.FirstOffers calls entity stored := by
  induction calls generalizing registry with
  | nil => simp [Call.FirstOffers]
  | cons call calls inductionHypothesis =>
      rw [List.foldl_cons, inductionHypothesis, find?_perform_iff, find?_perform_eq_none_iff,
        Call.firstOffers_cons]
      tauto

theorem find?_foldl_eq_none_iff {registry : Registry} :
    (calls.foldl (fun registry call => (registry.perform call).1) registry).entities.find? entity =
        none ↔
      registry.entities.find? entity = none ∧
        ∀ call ∈ calls, ∀ offered, ¬ call.Offers entity offered := by
  induction calls generalizing registry with
  | nil => simp
  | cons call calls inductionHypothesis =>
      rw [List.foldl_cons, inductionHypothesis, find?_perform_eq_none_iff, List.forall_mem_cons,
        and_assoc]

theorem parents_foldl (registry : Registry) (calls : List Call) (group : String) :
    (calls.foldl (fun registry call => (registry.perform call).1) registry).groups.parents.find?
        group =
      (registry.groups.parents.find? group).or (calls.findSome? (Call.parentsFor group)) := by
  induction calls generalizing registry with
  | nil => simp
  | cons call calls inductionHypothesis =>
      rw [List.foldl_cons, inductionHypothesis, parents_perform, Option.or_assoc,
        List.findSome?_cons]
      cases call.parentsFor group <;> rfl

theorem find?_after_iff :
    (after calls).entities.find? entity = some stored ↔ Call.FirstOffers calls entity stored := by
  have unknown : ({} : Registry).entities.find? entity = none := rfl
  rw [after, find?_foldl_iff, unknown]
  simp

theorem find?_after_eq_none_iff : (after calls).entities.find? entity = none ↔
    ∀ call ∈ calls, ∀ offered, ¬ call.Offers entity offered :=
  find?_foldl_eq_none_iff.trans (and_iff_right rfl)

theorem parents_after (calls : List Call) (group : String) :
    (after calls).groups.parents.find? group = calls.findSome? (Call.parentsFor group) :=
  parents_foldl {} calls group

theorem stored_iff_isNew {call : Call} :
    ((after before).perform call).2 = .ok true ↔ call.IsNew before := by
  simp only [perform_stored_iff, find?_after_eq_none_iff, parents_after, List.findSome?_eq_none_iff]
  rfl

theorem lookup_grows (before later : List Call)
    (found : (after before).entities.find? entity = some stored) (group : Option String) :
    (after before).lookup entity group <+ (after (before ++ later)).lookup entity group := by
  have kept : (after (before ++ later)).entities.find? entity = some stored := by
    rw [after, List.foldl_append]
    exact find?_foldl_iff.mpr (.inl found)
  rw [lookup_eq_filter found, lookup_eq_filter kept]
  refine List.monotone_filter_right _ fun field shown => ?_
  rw [decide_eq_true_iff] at shown ⊢
  refine shown.of_more fun _ _ _ => Groups.Reaches.mono fun name parents declared => ?_
  rw [parents_after, List.findSome?_append, ← parents_after, declared, Option.some_or]

/-- Declarations are checked when they are registered, so that nothing need be known of them. -/
theorem after_built (registered : ∀ entity fields, .register entity fields ∈ calls →
    ∀ field ∈ fields, field.Built) : (after calls).Built := by
  intro entity stored found
  obtain ⟨before, call, later, rfl, offers, _⟩ := find?_after_iff.mp found
  cases offers with
  | register => exact registered entity stored (by simp)
  | registerDeclarations entity builds =>
      clear registered found
      induction builds with
      | nil => exact List.forall_mem_nil _
      | cons build _ others => exact List.forall_mem_cons.mpr ⟨⟨_, build⟩, others⟩

theorem register_built (named : String) {fields : List Field}
    (each : ∀ field ∈ fields, field.Built) :
    (register {} named fields).1.Built := by
  have run : (register {} named fields).1 = after [.register named fields] := rfl
  rw [run]
  apply after_built
  intro entity offered member
  obtain ⟨rfl, rfl⟩ := Call.register.inj (List.mem_singleton.mp member)
  exact each

end Run

theorem entityNames_pairwise (registry : Registry) : registry.entityNames.Pairwise (· < ·) :=
  Text.alphabetical_pairwise registry.entities.distinct

theorem mem_entityNames_iff (registry : Registry) (entity : String) :
    entity ∈ registry.entityNames ↔ ∃ stored, registry.entities.find? entity = some stored := by
  rw [entityNames, Text.mem_alphabetical, Dictionary.mem_keys_iff]

/-- After any calls, an entity has the fields and a group has the parents that were
offered for it first; declarations offer the fields that they build, if all of them build one.
A call stores something just if it is the first to offer it, and any other call changes nothing.  The names of what is stored are listed in strictly
increasing order, and later calls hide none of the fields that a request saw. -/
theorem registrations_write_once (calls : List Call) :
    (∀ entity stored, (after calls).entities.find? entity = some stored ↔
      Call.FirstOffers calls entity stored) ∧
    (∀ group, (after calls).groups.parents.find? group =
      calls.findSome? (Call.parentsFor group)) ∧
    (∀ before call later, calls = before ++ call :: later →
      (((after before).perform call).2 = .ok true ↔ call.IsNew before) ∧
      (((after before).perform call).2 ≠ .ok true → ((after before).perform call).1 = after before)) ∧
    (after calls).entityNames.Pairwise (· < ·) ∧
    (∀ entity, entity ∈ (after calls).entityNames ↔
      ∃ stored, (after calls).entities.find? entity = some stored) ∧
    (∀ before later, calls = before ++ later →
      ∀ entity stored, (after before).entities.find? entity = some stored →
        ∀ group, (after before).lookup entity group <+ (after calls).lookup entity group) := by
  refine ⟨fun _ _ => find?_after_iff, parents_after calls, ?_, entityNames_pairwise _,
    mem_entityNames_iff _, ?_⟩
  · exact fun before call later _ => ⟨stored_iff_isNew, perform_unchanged⟩
  · rintro before later rfl entity stored found group
    exact lookup_grows before later found group

end Registry

end FilterQuery
