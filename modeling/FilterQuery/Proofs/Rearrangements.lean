import FilterQuery.Command
import FilterQuery.Proofs.Registrations
import Mathlib.Data.List.Sort

namespace FilterQuery

open scoped List

/-! Calls on a registry in another order.  What a call answers, and what it leaves,
depends only on the earlier calls about the same entity or group. -/

/-- The same elements, where those about one subject keep their order. -/
def Rearranged {α σ : Type} [DecidableEq σ] (subject : α → σ) (first second : List α) : Prop :=
  first ~ second ∧
    ∀ about, first.filter (subject · = about) = second.filter (subject · = about)

namespace Rearranged

variable {α σ : Type} [DecidableEq σ] {subject : α → σ} {first second : List α}

theorem of_filter_eq
    (same : ∀ about, first.filter (subject · = about) = second.filter (subject · = about)) :
    Rearranged subject first second := by
  classical
  refine ⟨List.perm_iff_count.mpr fun element => ?_, same⟩
  have counted : ∀ elements : List α,
      (elements.filter (subject · = subject element)).count element = elements.count element :=
    fun elements => List.count_filter (by simp)
  rw [← counted first, ← counted second, same]

theorem filter_filter_sort (subject : α → σ) (sort : σ → Bool) (about : σ) (elements : List α) :
    (elements.filter (fun element => sort (subject element))).filter (subject · = about) =
      if sort about then elements.filter (subject · = about) else [] := by
  rw [List.filter_filter]
  split
  · rename_i sorted
    refine List.filter_congr fun element _ => ?_
    by_cases asked : subject element = about <;> simp [asked, sorted]
  · rename_i unsorted
    rw [List.filter_eq_nil_iff]
    intro element _ kept
    rw [Bool.and_eq_true, decide_eq_true_eq] at kept
    exact unsorted (kept.1 ▸ kept.2)

/-- Subjects of one sort may all be taken first. -/
theorem sort_first (subject : α → σ) (sort : σ → Bool) (elements : List α) :
    Rearranged subject elements
      (elements.filter (fun element => sort (subject element)) ++
        elements.filter (fun element => !sort (subject element))) := by
  apply of_filter_eq
  intro about
  rw [List.filter_append, filter_filter_sort,
    filter_filter_sort subject (fun subject => !sort subject)]
  cases sort about <;> simp

end Rearranged

namespace Registry

/-- What a call is about. -/
inductive Subject where
  | entity (name : String)
  | group (name : String)
deriving DecidableEq

def Subject.isGroup : Subject → Bool
  | .entity _ => false
  | .group _ => true

def Call.subject : Call → Subject
  | .register entity _ | .registerDeclarations entity _ => .entity entity
  | .declareGroup group _ => .group group

theorem Call.Offers.subject_eq {call : Call} {entity : String} {fields : List Field}
    (offers : call.Offers entity fields) : call.subject = .entity entity := by
  cases offers <;> rfl

/-- Whether two registries hold the same for a subject. -/
def AgreeOn (first second : Registry) : Subject → Prop
  | .entity name => first.entities.find? name = second.entities.find? name
  | .group name => first.groups.parents.find? name = second.groups.parents.find? name

/-- The calls of a run in their order, each with its answer. -/
def answers (registry : Registry) : List Call → List (Call × Except FilterError Bool)
  | [] => []
  | call :: calls =>
      (call, (registry.perform call).2) :: answers (registry.perform call).1 calls

section Step

variable {first second : Registry} {call : Call} {subject : Subject}

theorem AgreeOn.answer (agree : first.AgreeOn second call.subject) :
    (first.perform call).2 = (second.perform call).2 := by
  cases call with
  | register entity fields =>
      have stored : (first.register entity fields).2 = (second.register entity fields).2 := by
        rw [Bool.eq_iff_iff, register_stored_iff, register_stored_iff, agree]
      simp only [perform, stored]
  | registerDeclarations entity declarations =>
      have known : first.hasEntity entity = second.hasEntity entity := by
        rw [hasEntity, hasEntity, Dictionary.contains_eq_isSome, Dictionary.contains_eq_isSome, agree]
      have stored : ∀ fields,
          (first.register entity fields).2 = (second.register entity fields).2 := by
        intro fields
        rw [Bool.eq_iff_iff, register_stored_iff, register_stored_iff, agree]
      cases built : Field.buildAll declarations <;>
        cases present : second.hasEntity entity <;>
          simp [perform, registerDeclarations, known, built, present, Except.map, stored]
  | declareGroup group parents =>
      have stored : (first.declareGroup group parents).2 = (second.declareGroup group parents).2 := by
        rw [Bool.eq_iff_iff, declareGroup_stored_iff, declareGroup_stored_iff, agree]
      simp only [perform, stored]

theorem AgreeOn.perform (agree : first.AgreeOn second subject) (call : Call) :
    (first.perform call).1.AgreeOn (second.perform call).1 subject := by
  cases subject with
  | entity name =>
      change first.entities.find? name = second.entities.find? name at agree
      change (first.perform call).1.entities.find? name = (second.perform call).1.entities.find? name
      ext stored
      rw [find?_perform_iff, find?_perform_iff, agree]
  | group name =>
      change first.groups.parents.find? name = second.groups.parents.find? name at agree
      change (first.perform call).1.groups.parents.find? name =
        (second.perform call).1.groups.parents.find? name
      rw [parents_perform, parents_perform, agree]

/-- A call about something else leaves what is held for a subject. -/
theorem AgreeOn.perform_left (agree : first.AgreeOn second subject)
    (other : call.subject ≠ subject) : (first.perform call).1.AgreeOn second subject := by
  cases subject with
  | entity name =>
      change (first.perform call).1.entities.find? name = second.entities.find? name
      ext stored
      rw [find?_perform_iff, ← show first.entities.find? name = second.entities.find? name from agree]
      exact or_iff_left fun ⟨_, offers⟩ => other offers.subject_eq
  | group name =>
      have offers : call.parentsFor name = none := by
        cases call <;> simp_all [Call.parentsFor, Call.subject, eq_comm]
      change (first.perform call).1.groups.parents.find? name = second.groups.parents.find? name
      rw [parents_perform, offers, Option.or_none]
      exact agree

end Step

section Run

variable {first second : Registry} {subject : Subject}

/-- For one subject a run is the run of the calls about it. -/
theorem AgreeOn.answers_filter (agree : first.AgreeOn second subject) (calls : List Call) :
    (first.answers calls).filter (·.1.subject = subject) =
      second.answers (calls.filter (·.subject = subject)) := by
  induction calls generalizing first second with
  | nil => rfl
  | cons call calls inductionHypothesis =>
      by_cases asked : call.subject = subject
      · have rest := inductionHypothesis (agree.perform call)
        have answer := AgreeOn.answer (asked ▸ agree)
        simp [answers, asked, rest, answer]
      · have rest := inductionHypothesis (agree.perform_left asked)
        simp [answers, asked, rest]

theorem AgreeOn.foldl_filter (agree : first.AgreeOn second subject) (calls : List Call) :
    (calls.foldl (fun registry call => (registry.perform call).1) first).AgreeOn
      ((calls.filter (·.subject = subject)).foldl
        (fun registry call => (registry.perform call).1) second) subject := by
  induction calls generalizing first second with
  | nil => exact agree
  | cons call calls inductionHypothesis =>
      by_cases asked : call.subject = subject
      · simpa [asked] using inductionHypothesis (agree.perform call)
      · simpa [asked] using inductionHypothesis (agree.perform_left asked)

theorem agreeOn_refl (registry : Registry) (subject : Subject) :
    registry.AgreeOn registry subject := by
  cases subject <;> rfl

theorem AgreeOn.symm (agree : first.AgreeOn second subject) : second.AgreeOn first subject := by
  cases subject <;> exact Eq.symm agree

theorem AgreeOn.trans {third : Registry} (agree : first.AgreeOn second subject)
    (agree' : second.AgreeOn third subject) : first.AgreeOn third subject := by
  cases subject <;> exact Eq.trans agree agree'

end Run

/-- Whether requests are answered alike by two registries. -/
structure SameViews (first second : Registry) : Prop where
  entityNames : first.entityNames = second.entityNames
  hasEntity : ∀ entity, first.hasEntity entity = second.hasEntity entity
  isAssignable : ∀ requested declared,
    first.isAssignable requested declared = second.isAssignable requested declared
  lookup : ∀ entity group, first.lookup entity group = second.lookup entity group
  lookupMap : ∀ entity group, first.lookupMap entity group = second.lookupMap entity group
  summaries : ∀ entity group, FieldSummary.listToJson (first.lookup entity group) =
    FieldSummary.listToJson (second.lookup entity group)
  commands : ∀ configuration (command : Command),
    command.execute configuration first = command.execute configuration second

section Views

variable {first second : Registry}

/-- Entries may be held in different orders; no view shows it. -/
theorem sameViews_of_agreeOn (agree : ∀ subject, first.AgreeOn second subject) :
    first.SameViews second := by
  have fields : ∀ entity, first.entities.find? entity = second.entities.find? entity :=
    fun entity => agree (.entity entity)
  have parents : ∀ group, first.groups.parents.find? group = second.groups.parents.find? group :=
    fun group => agree (.group group)
  have assignable : ∀ requested declared,
      first.isAssignable requested declared = second.isAssignable requested declared := by
    intro requested declared
    rw [Bool.eq_iff_iff, isAssignable, isAssignable, Groups.isAssignable_iff,
      Groups.isAssignable_iff]
    exact ⟨Groups.Reaches.mono fun group _ found => (parents group).symm.trans found,
      Groups.Reaches.mono fun group _ found => (parents group).trans found⟩
  have visible : ∀ group field, first.isVisible group field = second.isVisible group field := by
    intro group field
    rw [Bool.eq_iff_iff, isVisible_iff, isVisible_iff]
    exact shows_congr parents group field
  have known : ∀ entity, first.hasEntity entity = second.hasEntity entity := by
    intro entity
    rw [hasEntity, hasEntity, Dictionary.contains_eq_isSome, Dictionary.contains_eq_isSome, fields]
  have views : ∀ entity group, first.lookup entity group = second.lookup entity group := by
    intro entity group
    rw [lookup, lookup, fields]
    exact List.filter_congr fun field _ => visible group field
  have names : first.entityNames = second.entityNames := by
    apply (entityNames_pairwise first).eq_of_mem_iff (entityNames_pairwise second)
    intro entity
    rw [mem_entityNames_iff, mem_entityNames_iff, fields]
  have maps : ∀ entity group, first.lookupMap entity group = second.lookupMap entity group := by
    intro entity group
    rw [lookupMap, lookupMap, views]
  refine ⟨names, known, assignable, views, maps, fun entity group => by rw [views], ?_⟩
  intro configuration command
  have required : ∀ entity, first.requireEntity entity = second.requireEntity entity := by
    intro entity
    rw [requireEntity, requireEntity, known]
  cases command with
  | entities => simp only [Command.execute, names]
  | metadata entity group => simp only [Command.execute, required, views]
  | translate entity group text => simp only [Command.execute, required, maps]

end Views

variable {first second : List Call}

theorem answers_rearranged (registry : Registry) (rearranged : Rearranged Call.subject first second) :
    Rearranged (·.1.subject) (registry.answers first) (registry.answers second) := by
  apply Rearranged.of_filter_eq
  intro subject
  have same := agreeOn_refl registry subject
  rw [same.answers_filter, same.answers_filter, rearranged.2]

theorem sameViews_after (rearranged : Rearranged Call.subject first second) :
    (after first).SameViews (after second) := by
  apply sameViews_of_agreeOn
  intro subject
  have same := agreeOn_refl {} subject
  have projected := same.foldl_filter first
  rw [rearranged.2] at projected
  exact projected.trans (same.foldl_filter second).symm

/-- Calls may be made in any order that keeps the order of those about one entity and of
those about one group: each answers the same, and requests get the same views.  Groups
may be declared before all entities that mention them, or after them. -/
theorem independent_calls_commute (rearranged : Rearranged Call.subject first second) :
    Rearranged (·.1.subject) (answers {} first) (answers {} second) ∧
    (after first).SameViews (after second) ∧
    (after first).SameViews (after (first.filter (fun call => call.subject.isGroup) ++
      first.filter (fun call => !call.subject.isGroup))) ∧
    (after first).SameViews (after (first.filter (fun call => !call.subject.isGroup) ++
      first.filter (fun call => call.subject.isGroup))) := by
  refine ⟨answers_rearranged {} rearranged, sameViews_after rearranged, ?_, ?_⟩
  · exact sameViews_after (Rearranged.sort_first Call.subject Subject.isGroup first)
  · have last := Rearranged.sort_first Call.subject (fun subject => !subject.isGroup) first
    simp only [Bool.not_not] at last
    exact sameViews_after last

/-- Pages of books are registered for members before it is declared who belongs to
them; the calls behind are too late. -/
def booksThenGroups : List Call :=
  [.register "book" [bookPagesOfMembers], .declareGroup "staff" ["member"], .register "book" [],
    .declareGroup "staff" []]

def groupsThenBooks : List Call :=
  [.declareGroup "staff" ["member"], .declareGroup "staff" [], .register "book" [bookPagesOfMembers],
    .register "book" []]

theorem groups_then_books_same_views :
    Rearranged Call.subject booksThenGroups groupsThenBooks ∧
    Rearranged (·.1.subject) (answers {} booksThenGroups) (answers {} groupsThenBooks) ∧
    (after booksThenGroups).lookup "book" (some "staff") =
      (after groupsThenBooks).lookup "book" (some "staff") := by
  have rearranged : Rearranged Call.subject booksThenGroups groupsThenBooks :=
    Rearranged.sort_first Call.subject Subject.isGroup booksThenGroups
  obtain ⟨answered, views, _⟩ := independent_calls_commute rearranged
  exact ⟨rearranged, answered, views.lookup "book" (some "staff")⟩

end Registry

end FilterQuery
