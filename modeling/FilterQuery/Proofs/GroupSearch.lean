import FilterQuery.Proofs.Visibility
import Mathlib.Algebra.Ring.Nat

namespace FilterQuery

/-! The search for a group turn by turn, with a stack of the groups that wait and a
list of those that were expanded.  Circles and parents that are listed twice put a group
on the stack again, but no group is expanded twice; so the search ends within one turn
for every parent that is listed, and two more. -/

open Relation

namespace Groups

variable {groups : Groups} {requested declared group : String}

/-- A group that was never declared has no parents. -/
def parentsOf (groups : Groups) (group : String) : List String :=
  (groups.parents.find? group).getD []

/-- How many parents the declarations list. -/
def listedParents (groups : Groups) : Nat :=
  (groups.parents.entries.map (·.2.length)).sum

theorem isParent_iff {parent : String} :
    groups.IsParent group parent ↔ parent ∈ groups.parentsOf group := by
  rw [IsParent, IsParentIn, parentsOf, Dictionary.find?]
  cases groups.parents.entries.lookup group <;> simp

/-- The first group of the stack is looked at next. -/
structure Search where
  stack : List String
  expanded : List String

namespace Search

def start (requested : String) : Search :=
  ⟨[requested], []⟩

/-- One turn gives the answer or goes on. -/
def turn (groups : Groups) (declared : String) : Search → Bool ⊕ Search
  | ⟨[], _⟩ => .inl false
  | ⟨group :: stack, expanded⟩ =>
      if group = declared then .inl true
      else if group ∈ expanded then .inr ⟨stack, expanded⟩
      else .inr ⟨(groups.parentsOf group).reverse ++ stack, group :: expanded⟩

/-- The answer, if the search gives one in so many turns. -/
def answer? (groups : Groups) (declared : String) : Nat → Search → Option Bool
  | 0, _ => none
  | turns + 1, search =>
      match search.turn groups declared with
      | .inl answer => some answer
      | .inr next => next.answer? groups declared turns

/-- The groups on the stack, and the parents that groups not yet expanded may add. -/
def workLeft (groups : Groups) (search : Search) : Nat :=
  search.stack.length +
    ((groups.parents.entries.filter (·.1 ∉ search.expanded)).map (·.2.length)).sum

/-- What was reached and not expanded is still on the stack, and the group that is
searched for was not passed. -/
structure Covers (groups : Groups) (requested declared : String) (search : Search) : Prop where
  reached : ∀ group ∈ search.stack, groups.Reaches requested group
  begun : requested ∈ search.expanded ∨ requested ∈ search.stack
  followed : ∀ group ∈ search.expanded, ∀ parent ∈ groups.parentsOf group,
    parent ∈ search.expanded ∨ parent ∈ search.stack
  unmet : declared ∉ search.expanded

variable {search next : Search} {answer : Bool} {turns : Nat}

theorem covers_start (groups : Groups) (requested declared : String) :
    (start requested).Covers groups requested declared where
  reached := by
    intro group member
    rw [List.mem_singleton.mp member]
    exact .refl
  begun := .inr List.mem_cons_self
  followed := nofun
  unmet := List.not_mem_nil

/-- With an empty stack every group that can be reached was expanded. -/
theorem Covers.expanded_of_reaches (covers : search.Covers groups requested declared)
    (empty : search.stack = []) (reaches : groups.Reaches requested group) :
    group ∈ search.expanded := by
  induction reaches with
  | refl => simpa [empty] using covers.begun
  | tail _ step inductionHypothesis =>
      simpa [empty] using covers.followed _ inductionHypothesis _ (isParent_iff.mp step)

theorem Covers.answer_iff (covers : search.Covers groups requested declared)
    (answered : search.turn groups declared = .inl answer) :
    answer = true ↔ groups.Reaches requested declared := by
  obtain ⟨stack, expanded⟩ := search
  cases stack with
  | nil =>
      cases answered
      refine iff_of_false Bool.false_ne_true fun reaches => ?_
      exact covers.unmet (covers.expanded_of_reaches rfl reaches)
  | cons group stack =>
      rw [turn] at answered
      split at answered
      · rename_i found
        cases answered
        exact iff_of_true rfl (found ▸ covers.reached group List.mem_cons_self)
      · split at answered <;> contradiction

theorem Covers.skip {stack expanded : List String}
    (covers : Covers groups requested declared ⟨group :: stack, expanded⟩)
    (again : group ∈ expanded) : Covers groups requested declared ⟨stack, expanded⟩ := by
  have kept : ∀ other, other ∈ expanded ∨ other ∈ group :: stack →
      other ∈ expanded ∨ other ∈ stack := by
    rintro other (passed | waiting)
    · exact .inl passed
    · rcases List.mem_cons.mp waiting with rfl | waiting
      · exact .inl again
      · exact .inr waiting
  constructor
  · intro other member
    exact covers.reached other (List.mem_cons_of_mem group member)
  · exact kept _ covers.begun
  · intro other passed parent listed
    exact kept parent (covers.followed other passed parent listed)
  · exact covers.unmet

theorem Covers.expand {stack expanded : List String}
    (covers : Covers groups requested declared ⟨group :: stack, expanded⟩)
    (different : group ≠ declared) :
    Covers groups requested declared
      ⟨(groups.parentsOf group).reverse ++ stack, group :: expanded⟩ := by
  have kept : ∀ other, other ∈ expanded ∨ other ∈ group :: stack →
      other ∈ group :: expanded ∨ other ∈ (groups.parentsOf group).reverse ++ stack := by
    rintro other (passed | waiting)
    · exact .inl (List.mem_cons_of_mem group passed)
    · rcases List.mem_cons.mp waiting with rfl | waiting
      · exact .inl List.mem_cons_self
      · exact .inr (List.mem_append_right _ waiting)
  constructor
  · intro other member
    rcases List.mem_append.mp member with parent | waiting
    · have here := covers.reached group List.mem_cons_self
      exact here.tail (isParent_iff.mpr (List.mem_reverse.mp parent))
    · exact covers.reached other (List.mem_cons_of_mem group waiting)
  · exact kept _ covers.begun
  · intro other passed parent listed
    -- the parents of the group itself are on the stack now
    rcases List.mem_cons.mp passed with rfl | passed
    · exact .inr (List.mem_append_left _ (List.mem_reverse.mpr listed))
    · exact kept parent (covers.followed other passed parent listed)
  · rw [List.mem_cons, not_or]
    exact ⟨different.symm, covers.unmet⟩

theorem Covers.turn (covers : search.Covers groups requested declared)
    (continued : search.turn groups declared = .inr next) :
    next.Covers groups requested declared := by
  obtain ⟨stack, expanded⟩ := search
  cases stack with
  | nil => contradiction
  | cons group stack =>
      rw [Search.turn] at continued
      split at continued
      · contradiction
      · rename_i different
        split at continued
        · rename_i again
          cases continued
          exact covers.skip again
        · cases continued
          exact covers.expand different

theorem sum_expand {entries : List (String × List String)} {expanded : List String}
    (distinct : (entries.map Prod.fst).Nodup) (fresh : group ∉ expanded) :
    ((entries.lookup group).getD []).length +
        ((entries.filter (·.1 ∉ group :: expanded)).map (·.2.length)).sum =
      ((entries.filter (·.1 ∉ expanded)).map (·.2.length)).sum := by
  induction entries with
  | nil => rfl
  | cons entry entries inductionHypothesis =>
      obtain ⟨name, parents⟩ := entry
      obtain ⟨unrepeated, distinct⟩ := List.nodup_cons.mp distinct
      by_cases same : name = group
      · subst same
        have unaffected : entries.filter (·.1 ∉ name :: expanded) =
            entries.filter (·.1 ∉ expanded) := by
          refine List.filter_congr fun other member => ?_
          have different : other.1 ≠ name := by
            intro equal
            exact unrepeated (List.mem_map.mpr ⟨other, member, equal⟩)
          simp [different]
        simp only [List.lookup_cons_self, Option.getD_some, List.mem_cons_self, not_true,
          decide_false, fresh, not_false_eq_true, decide_true, List.filter_cons, Bool.false_eq_true,
          ↓reduceIte, List.map_cons, List.sum_cons, unaffected]
      · have other : (group == name) = false := beq_eq_false_iff_ne.mpr (Ne.symm same)
        have rest := inductionHypothesis distinct
        rw [List.lookup_cons, other]
        by_cases passed : name ∈ expanded
        · simpa [passed] using rest
        · simp only [List.mem_cons, same, passed, or_self, not_false_eq_true, decide_true,
            List.filter_cons_of_pos, List.map_cons, List.sum_cons] at rest ⊢
          omega

/-- Every turn takes one group from the stack, and adds only parents that were counted
as work. -/
theorem workLeft_turn (continued : search.turn groups declared = .inr next) :
    next.workLeft groups + 1 = search.workLeft groups := by
  obtain ⟨stack, expanded⟩ := search
  cases stack with
  | nil => contradiction
  | cons group stack =>
      rw [turn] at continued
      split at continued
      · contradiction
      · split at continued
        · cases continued
          simp only [workLeft, List.length_cons]
          omega
        · rename_i fresh
          cases continued
          have moved := sum_expand groups.parents.distinct fresh
          simp only [workLeft, parentsOf, Dictionary.find?, List.length_append,
            List.length_reverse, List.length_cons] at moved ⊢
          omega

theorem answer_exists (covers : search.Covers groups requested declared)
    (enough : search.workLeft groups < turns) :
    ∃ answer, search.answer? groups declared turns = some answer ∧
      (answer = true ↔ groups.Reaches requested declared) := by
  induction turns generalizing search with
  | zero => omega
  | succ turns inductionHypothesis =>
      cases result : search.turn groups declared with
      | inl answer => exact ⟨answer, by simp [answer?, result], covers.answer_iff result⟩
      | inr next =>
          have less := workLeft_turn result
          obtain ⟨answer, found, correct⟩ := inductionHypothesis (covers.turn result) (by omega)
          exact ⟨answer, by simpa only [answer?, result] using found, correct⟩

theorem workLeft_start (groups : Groups) (requested : String) :
    (start requested).workLeft groups = groups.listedParents + 1 := by
  simp only [workLeft, start, listedParents, List.not_mem_nil, not_false_eq_true, decide_true,
    List.filter_true, List.length_singleton]
  omega

end Search

/-- The search ends, with the answer of `isAssignable`. -/
theorem search_answers (groups : Groups) (requested declared : String) {turns : Nat}
    (enough : groups.listedParents + 1 < turns) :
    (Search.start requested).answer? groups declared turns =
      some (groups.isAssignable requested declared) := by
  rw [← Search.workLeft_start groups requested] at enough
  obtain ⟨answer, found, correct⟩ :=
    Search.answer_exists (Search.covers_start groups requested declared) enough
  rw [found, Option.some.injEq, Bool.eq_iff_iff, correct, isAssignable_iff]

end Groups

namespace Registry

/-- A request for one group may see what is declared for another just if it is the same
group or a chain of declared parents leads there.  The search for such a chain, which
expands no group twice, always ends. -/
theorem assignable_iff_reachable (registry : Registry) :
    (∀ requested declared turns, registry.groups.listedParents + 1 < turns →
      (Groups.Search.start requested).answer? registry.groups declared turns =
        some (registry.isAssignable requested declared)) ∧
    (∀ requested declared, registry.isAssignable requested declared = true ↔
      declared = requested ∨ TransGen registry.groups.IsParent requested declared) ∧
    (∀ group, registry.isAssignable group group = true) ∧
    (∀ first second third, registry.isAssignable first second = true →
      registry.isAssignable second third = true → registry.isAssignable first third = true) ∧
    (∀ entity requested field, field ∈ registry.lookup entity (some requested) ↔
      field ∈ (registry.entities.find? entity).getD [] ∧
        (field.groups = [] ∨ ∃ declared ∈ field.groups,
          declared = requested ∨ TransGen registry.groups.IsParent requested declared)) := by
  have reaches : ∀ requested declared, registry.groups.Reaches requested declared ↔
      declared = requested ∨ TransGen registry.groups.IsParent requested declared :=
    fun _ _ => reflTransGen_iff_eq_or_transGen
  refine ⟨?_, ?_, ?_, ?_, ?_⟩
  · intro requested declared turns enough
    exact Groups.search_answers registry.groups requested declared enough
  · intro requested declared
    exact Groups.isAssignable_iff.trans (reaches requested declared)
  · intro group
    exact Groups.isAssignable_iff.mpr .refl
  · intro first second third upper lower
    exact Groups.isAssignable_iff.mpr
      ((Groups.isAssignable_iff.mp upper).trans (Groups.isAssignable_iff.mp lower))
  · intro entity requested field
    rw [lookup, List.mem_filter, isVisible_iff, Shows]
    simp only [Option.mem_def, Option.some.injEq, exists_eq_left', reaches]

/-- Staff and members are above each other. -/
def staffCircle : Registry :=
  ((({} : Registry).declareGroup "staff" ["member", "member"]).1.declareGroup "member" ["staff"]).1

theorem staffCircle_ends :
    staffCircle.groups.listedParents + 1 < 5 ∧
    (Groups.Search.start "staff").answer? staffCircle.groups "guest" 5 = some false ∧
    staffCircle.isAssignable "staff" "guest" = false ∧
    staffCircle.isAssignable "staff" "member" = true ∧
    staffCircle.isAssignable "member" "staff" = true := by
  obtain ⟨ends, reachable, _⟩ := assignable_iff_reachable staffCircle
  have enough : staffCircle.groups.listedParents + 1 < 5 := by decide
  have searched : (Groups.Search.start "staff").answer? staffCircle.groups "guest" 5 = some false := by
    decide
  have found := ends "staff" "guest" 5 enough
  rw [searched, Option.some.injEq] at found
  have member : staffCircle.groups.IsParent "staff" "member" := ⟨_, rfl, List.mem_cons_self⟩
  have staff : staffCircle.groups.IsParent "member" "staff" := ⟨_, rfl, List.mem_cons_self⟩
  exact ⟨enough, searched, found.symm, (reachable _ _).mpr (.inr (.single member)),
    (reachable _ _).mpr (.inr (.single staff))⟩

end Registry

end FilterQuery
