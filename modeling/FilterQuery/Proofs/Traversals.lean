import Mathlib.Data.List.Forall2

namespace FilterQuery

open scoped List

/-! Lists whose members are worked on in order, up to the first error. -/

variable {α β ε : Type} {f : α → Except ε β} {members : List α} {results : List β}

theorem mapM_cons_eq_ok {member : α} (accepted : (member :: members).mapM f = .ok results) :
    ∃ result others, f member = .ok result ∧ members.mapM f = .ok others ∧
      results = result :: others := by
  rw [List.mapM_cons] at accepted
  cases first : f member with
  | error error => simp [first, bind, Except.bind] at accepted
  | ok result =>
      cases rest : members.mapM f with
      | error error => simp [first, rest, bind, Except.bind] at accepted
      | ok others =>
          simp only [first, rest, bind, Except.bind, pure, Except.pure,
            Except.ok.injEq] at accepted
          exact ⟨result, others, rfl, rfl, accepted.symm⟩

/-- What has results for all members has the result of each. -/
theorem mapM_eq_map {value : α → β} (each : ∀ member ∈ members, ∀ result,
      f member = .ok result → result = value member) (accepted : members.mapM f = .ok results) :
    results = members.map value ∧ ∀ member ∈ members, f member = .ok (value member) := by
  induction members generalizing results with
  | nil =>
      cases accepted
      simp
  | cons member members inductionHypothesis =>
      obtain ⟨result, others, first, rest, rfl⟩ := mapM_cons_eq_ok accepted
      obtain ⟨same, values⟩ := inductionHypothesis
        (fun other present => each other (List.mem_cons_of_mem _ present)) rest
      have head := each member List.mem_cons_self result first
      subst head
      exact ⟨by rw [same, List.map_cons], List.forall_mem_cons.mpr ⟨first, values⟩⟩

theorem mapM_eq_ok_iff : members.mapM f = .ok results ↔
    List.Forall₂ (fun member result => f member = .ok result) members results := by
  constructor
  · intro accepted
    induction members generalizing results with
    | nil =>
        cases accepted
        exact .nil
    | cons member members inductionHypothesis =>
        obtain ⟨result, others, first, rest, rfl⟩ := mapM_cons_eq_ok accepted
        exact .cons first (inductionHypothesis rest)
  · intro each
    induction each with
    | nil => rfl
    | cons first _ rest =>
        rw [List.mapM_cons, first, rest]
        rfl

/-- A traversal fails as the first member does that has no result. -/
theorem mapM_eq_error_iff {error : ε} :
    members.mapM f = .error error ↔ ∃ earlier member later, members = earlier ++ member :: later ∧
      (∀ other ∈ earlier, ∃ result, f other = .ok result) ∧ f member = .error error := by
  constructor
  · intro failed
    induction members with
    | nil => contradiction
    | cons member members inductionHypothesis =>
        rw [List.mapM_cons] at failed
        cases first : f member with
        | error reason =>
            simp only [first, bind, Except.bind, Except.error.injEq] at failed
            exact ⟨[], member, members, rfl, by simp, by rw [first, failed]⟩
        | ok result =>
            cases rest : members.mapM f with
            | ok others => simp [first, rest, bind, Except.bind, pure, Except.pure] at failed
            | error reason =>
                simp only [first, rest, bind, Except.bind, Except.error.injEq] at failed
                obtain ⟨earlier, other, later, rfl, each, reached⟩ :=
                  inductionHypothesis (by rw [rest, failed])
                exact ⟨member :: earlier, other, later, rfl,
                  List.forall_mem_cons.mpr ⟨⟨result, first⟩, each⟩, reached⟩
  · rintro ⟨earlier, member, later, rfl, each, reached⟩
    induction earlier with
    | nil =>
        rw [List.nil_append, List.mapM_cons, reached]
        rfl
    | cons other earlier inductionHypothesis =>
        obtain ⟨⟨result, first⟩, others⟩ := List.forall_mem_cons.mp each
        rw [List.cons_append, List.mapM_cons, first, inductionHypothesis others]
        rfl

theorem exists_error_of_mapM {error : ε} (failed : members.mapM f = .error error) :
    ∃ member ∈ members, f member = .error error := by
  obtain ⟨earlier, member, later, rfl, _, reached⟩ := mapM_eq_error_iff.mp failed
  exact ⟨member, List.mem_append_right earlier List.mem_cons_self, reached⟩

theorem exists_mapM_ok_iff :
    (∃ results, members.mapM f = .ok results) ↔ ∀ member ∈ members, ∃ result, f member = .ok result := by
  induction members with
  | nil => exact ⟨fun _ _ member => absurd member List.not_mem_nil, fun _ => ⟨[], rfl⟩⟩
  | cons member members inductionHypothesis =>
      rw [List.forall_mem_cons, ← inductionHypothesis, List.mapM_cons]
      cases first : f member with
      | error error => simp [bind, Except.bind]
      | ok result =>
          cases rest : members.mapM f with
          | error error => simp [bind, Except.bind]
          | ok others => simp [bind, Except.bind, pure, Except.pure]

theorem exists_map_ok_iff {γ : Type} {change : β → γ} {outcome : Except ε β} :
    (∃ result, outcome.map change = .ok result) ↔ ∃ result, outcome = .ok result := by
  cases outcome <;> simp [Except.map]

/-- What has a result for every member keeps it where each member does. -/
theorem mapM_eq_ok_mono {g : α → Except ε β}
    (each : ∀ member ∈ members, ∀ result, f member = .ok result → g member = .ok result)
    (accepted : members.mapM f = .ok results) : members.mapM g = .ok results := by
  induction members generalizing results with
  | nil => exact accepted
  | cons member members inductionHypothesis =>
      obtain ⟨result, others, first, rest, rfl⟩ := mapM_cons_eq_ok accepted
      obtain ⟨head, tail⟩ := List.forall_mem_cons.mp each
      rw [List.mapM_cons, head result first, inductionHypothesis tail rest]
      rfl

theorem map_eq_ok_mono {γ : Type} {change : β → γ} {outcome other : Except ε β} {result : γ}
    (mono : ∀ value, outcome = .ok value → other = .ok value)
    (accepted : outcome.map change = .ok result) : other.map change = .ok result := by
  cases made : outcome with
  | error error =>
      rw [made] at accepted
      contradiction
  | ok value => rwa [mono value made, ← made]

theorem mapError_map {γ δ : Type} (outcome : Except ε β) (change : β → γ) (blame : ε → δ) :
    (outcome.map change).mapError blame = (outcome.mapError blame).map change := by
  cases outcome <;> rfl

theorem mapError_mapM {δ : Type} (members : List α) (blame : ε → δ) :
    (members.mapM f).mapError blame = members.mapM fun member => (f member).mapError blame := by
  induction members with
  | nil => rfl
  | cons member members inductionHypothesis =>
      rw [List.mapM_cons, List.mapM_cons, ← inductionHypothesis]
      cases f member with
      | error error => rfl
      | ok result => cases members.mapM f <;> rfl

theorem map_mapM {γ : Type} (members : List α) (change : β → γ) :
    (members.mapM f).map (List.map change) = members.mapM fun member => (f member).map change := by
  induction members with
  | nil => rfl
  | cons member members inductionHypothesis =>
      rw [List.mapM_cons, List.mapM_cons, ← inductionHypothesis]
      cases f member with
      | error error => rfl
      | ok result => cases members.mapM f <;> rfl

theorem mapM_congr {g : α → Except ε β} (each : ∀ member ∈ members, f member = g member) :
    members.mapM f = members.mapM g := by
  induction members with
  | nil => rfl
  | cons member members inductionHypothesis =>
      obtain ⟨first, rest⟩ := List.forall_mem_cons.mp each
      rw [List.mapM_cons, List.mapM_cons, first, inductionHypothesis rest]

/-- Lists whose members fare alike but for their errors fare alike but for theirs. -/
theorem mapError_mapM_congr {δ : Type} {blame : ε → δ} {pairs : List (α × α)}
    (each : ∀ pair ∈ pairs, (f pair.1).mapError blame = (f pair.2).mapError blame) :
    ((pairs.map (·.1)).mapM f).mapError blame = ((pairs.map (·.2)).mapM f).mapError blame := by
  rw [mapError_mapM, mapError_mapM, List.mapM_map, List.mapM_map]
  exact mapM_congr each

/-- Of two places in a list one is in front of the other unless they are the same. -/
theorem places_compared {all earlier earlier' : List α} {member member' : α}
    (place : earlier ++ [member] <+: all) (place' : earlier' ++ [member'] <+: all) :
    earlier ++ [member] <+: earlier' ∨ (earlier = earlier' ∧ member = member') ∨
      earlier' ++ [member'] <+: earlier := by
  rcases List.prefix_or_prefix_of_prefix place place' with first | second
  · rcases List.prefix_concat_iff.mp first with same | within
    · exact .inr (.inl (by simpa using same))
    · exact .inl within
  · rcases List.prefix_concat_iff.mp second with same | within
    · exact .inr (.inl (by simpa [eq_comm] using same))
    · exact .inr (.inr within)

end FilterQuery
