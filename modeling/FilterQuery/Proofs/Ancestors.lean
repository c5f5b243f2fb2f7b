import FilterQuery.Groups
import Mathlib.Logic.Relation

namespace FilterQuery.Groups

/-! The groups above a group, and the search that finds them whatever circles the
declarations make. -/

open Relation

def IsParentIn (entries : List (String × List String)) (child parent : String) : Prop :=
  ∃ parents, entries.lookup child = some parents ∧ parent ∈ parents

def IsParent (groups : Groups) : String → String → Prop :=
  IsParentIn groups.parents.entries

/-- Whether a chain of declared parents, which may be empty, leads from one group to
another. -/
def Reaches (groups : Groups) : String → String → Prop :=
  ReflTransGen groups.IsParent

section Search

variable {entries : List (String × List String)} {group candidate : String}
  {parents pending : List String}

theorem lookup_withoutEntry (entries : List (String × List String)) (group other : String) :
    (withoutEntry entries group).lookup other =
      if other = group then none else entries.lookup other := by
  induction entries with
  | nil => simp [withoutEntry]
  | cons entry entries inductionHypothesis =>
      obtain ⟨name, parents⟩ := entry
      simp only [withoutEntry, List.filter_cons, List.lookup_cons] at inductionHypothesis ⊢
      grind

theorem IsParentIn.of_withoutEntry {child parent : String}
    (step : IsParentIn (withoutEntry entries group) child parent) :
    IsParentIn entries child parent := by
  obtain ⟨parents, found, member⟩ := step
  rw [lookup_withoutEntry] at found
  split at found
  · contradiction
  · exact ⟨parents, found, member⟩

/-- A group without an entry leads nowhere but to itself. -/
theorem eq_of_undeclared {start : String} (undeclared : entries.lookup start = none)
    (path : ReflTransGen (IsParentIn entries) start group) : start = group := by
  rcases path.cases_head with same | ⟨next, ⟨_, declared, _⟩, _⟩
  · exact same
  · rw [undeclared] at declared
    contradiction

/-- A path that visits a group can be cut behind its last visit there. -/
theorem path_avoids {start : String} (found : entries.lookup candidate = some parents)
    (path : ReflTransGen (IsParentIn entries) start group) :
    ReflTransGen (IsParentIn (withoutEntry entries candidate)) start group ∨
      ∃ parent ∈ parents,
        ReflTransGen (IsParentIn (withoutEntry entries candidate)) parent group := by
  induction path using ReflTransGen.head_induction_on with
  | refl => exact .inl .refl
  | @head child parent step _ inductionHypothesis =>
      rcases inductionHypothesis with avoiding | cut
      · obtain ⟨declared, listed, member⟩ := step
        by_cases visit : child = candidate
        · rw [visit, found, Option.some.injEq] at listed
          exact .inr ⟨parent, listed ▸ member, avoiding⟩
        · refine .inl (.head ⟨declared, ?_, member⟩ avoiding)
          rw [lookup_withoutEntry, if_neg visit, listed]
      · exact .inr cut

/-- Once the parents of a group are pending, its entry is not needed any more. -/
theorem expanded_iff (found : entries.lookup candidate = some parents)
    (different : candidate ≠ group) :
    (∃ start ∈ parents ++ pending,
        ReflTransGen (IsParentIn (withoutEntry entries candidate)) start group) ↔
      ∃ start ∈ candidate :: pending, ReflTransGen (IsParentIn entries) start group := by
  constructor
  · rintro ⟨start, member, path⟩
    have kept := ReflTransGen.mono (fun _ _ => IsParentIn.of_withoutEntry) _ _ path
    rcases List.mem_append.mp member with parent | waiting
    · exact ⟨candidate, List.mem_cons_self, .head ⟨parents, found, parent⟩ kept⟩
    · exact ⟨start, List.mem_cons_of_mem _ waiting, kept⟩
  · rintro ⟨start, member, path⟩
    rcases path_avoids found path with avoiding | ⟨parent, listed, avoiding⟩
    · rcases List.mem_cons.mp member with rfl | waiting
      · exact absurd (eq_of_undeclared (by simp [lookup_withoutEntry]) avoiding) different
      · exact ⟨start, List.mem_append_right _ waiting, avoiding⟩
    · exact ⟨parent, List.mem_append_left _ listed, avoiding⟩

theorem isAbove_iff (group : String) (entries : List (String × List String))
    (pending : List String) :
    isAbove group entries pending = true ↔
      ∃ start ∈ pending, ReflTransGen (IsParentIn entries) start group := by
  fun_induction isAbove group entries pending with
  | case1 => simp
  | case2 entries pending => exact ⟨fun _ => ⟨group, List.mem_cons_self, .refl⟩, fun _ => rfl⟩
  | case3 entries candidate pending different undeclared inductionHypothesis =>
      rw [inductionHypothesis]
      simp only [List.mem_cons, exists_eq_or_imp]
      exact (or_iff_right fun path => different (eq_of_undeclared undeclared path)).symm
  | case4 entries candidate pending different parents found inductionHypothesis =>
      rw [inductionHypothesis, expanded_iff found different]

end Search

/-- The search finds a group just if a chain of parents leads to it. -/
theorem isAssignable_iff {groups : Groups} {requested declared : String} :
    groups.isAssignable requested declared = true ↔ groups.Reaches requested declared := by
  rw [isAssignable, isAbove_iff]
  simp only [List.mem_singleton, exists_eq_left]
  rfl

/-- More declarations lead to no fewer groups. -/
theorem Reaches.mono {groups more : Groups} {requested declared : String}
    (kept : ∀ group parents, groups.parents.find? group = some parents →
      more.parents.find? group = some parents)
    (reaches : groups.Reaches requested declared) : more.Reaches requested declared := by
  refine ReflTransGen.mono (fun child _ step => ?_) _ _ reaches
  obtain ⟨parents, found, member⟩ := step
  exact ⟨parents, kept child parents found, member⟩

end FilterQuery.Groups
