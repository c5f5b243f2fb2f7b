import FilterQuery.Proofs.Refusals
import FilterQuery.Proofs.Values

namespace FilterQuery

/-! The making of a test in stages: arguments are counted and cast, and then their values
are handed to the operator.  Here null stands for a literal that names no member, and
something has to be at hand for a value that is missing, and for an operator that has no
test of values.  Neither is ever taken. -/

variable (missing : Value) (untested : Except FilterError Test)

/-- What an operator makes of the last of its values, or of all. -/
def Operator.applied (operator : Operator) (values : List Value) : Except FilterError Test :=
  match operator.form with
  | .nullTest _ => untested
  | .single test => .ok (test (values.getLast?.getD missing))
  | .list test => .ok (test values)

/-- Values with a null among them make no test, except that a list to choose from does
without. -/
def Operator.testOf? (operator : Operator) (values : List Value) :
    Except FilterError (Option Test) :=
  if .null ∉ values then (operator.applied missing untested values).map some
  else if operator = .oneOf then
    (operator.applied missing untested (values.filter (· ≠ .null))).map some
  else .ok none

def Field.stagedTest? (field : Field) (selector : String) (operator : Operator)
    (unknown : UnknownMembers) (arguments : List String) : Except FilterError (Option Test) :=
  match operator.form with
  | .nullTest test => .ok (some test)
  | .single _ | .list _ =>
      if operator.Takes arguments then
        (arguments.mapM fun literal =>
            (field.castArgument unknown literal).map (·.getD .null)).bind
          (operator.testOf? missing untested)
      else
        .error (.argumentCount selector operator arguments.length)

variable {missing : Value} {untested : Except FilterError Test} {operator : Operator}

theorem Operator.applied_eq {values : List Value} (compares : operator.isNullTest = false)
    (given : operator.takesList = true ∨ ∃ value, values = [value]) :
    operator.applied missing untested values = .ok (operator.test values) := by
  rcases operator.form_of_compares compares with ⟨single, test, shape⟩ | ⟨several, test, shape⟩
  · obtain ⟨value, rfl⟩ := given.resolve_left (by simp [single])
    simp only [applied, shape, (test_of_single shape).2]
    rfl
  · simp only [applied, shape, (test_of_list shape).2]

/-- Nulls that stand for what is missing can be told from values. -/
theorem map_getD_null {results : List (Option Value)} (stored : some .null ∉ results) :
    (.null ∈ results.map (·.getD .null) ↔ none ∈ results) ∧
      (results.map (·.getD .null)).filter (· ≠ .null) = results.reduceOption := by
  induction results with
  | nil => exact ⟨by simp, rfl⟩
  | cons result results inductionHypothesis =>
      obtain ⟨first, rest⟩ := not_or.mp (List.mem_cons.not.mp stored)
      obtain ⟨member, kept⟩ := inductionHypothesis rest
      cases result with
      | none => exact ⟨by simp, (List.filter_cons_of_neg (by simp)).trans kept⟩
      | some value =>
          have present : value ≠ .null := fun null => first (by rw [null])
          refine ⟨by simp [member, present.symm], ?_⟩
          rw [List.map_cons, Option.getD_some, List.filter_cons_of_pos (by simpa using present), kept]
          rfl

theorem Operator.testOf?_eq {results : List (Option Value)} (compares : operator.isNullTest = false)
    (stored : some .null ∉ results)
    (given : operator.takesList = true ∨ ∃ result, results = [result]) :
    operator.testOf? missing untested (results.map (·.getD .null)) =
      .ok (if operator = .oneOf || none ∉ results then some (operator.test results.reduceOption)
        else none) := by
  obtain ⟨member, kept⟩ := map_getD_null stored
  rw [testOf?, kept]
  by_cases unresolved : none ∈ results
  · rw [if_neg (not_not_intro (member.mpr unresolved))]
    split
    · rename_i listed
      rw [applied_eq compares (.inl (by rw [listed]; rfl))]
      simp [listed, Except.map]
    · rename_i unlisted
      simp [unlisted, unresolved]
  · have all : results.map (·.getD .null) = results.reduceOption := by
      rw [← kept, List.filter_eq_self.mpr]
      intro value among
      exact decide_eq_true fun null => unresolved (member.mp (null ▸ among))
    have single : operator.takesList = true ∨ ∃ value, results.map (·.getD .null) = [value] :=
      given.imp_right fun ⟨result, only⟩ => ⟨result.getD .null, by rw [only, List.map_singleton]⟩
    rw [if_pos (mt member.mp unresolved), applied_eq compares single, all]
    simp [unresolved, Except.map]

/-- In stages the same tests are made, whatever is at hand for what is missing. -/
theorem Field.stagedTest?_eq (field : Field) (selector : String) (operator : Operator)
    (unknown : UnknownMembers) (arguments : List String) :
    field.stagedTest? missing untested selector operator unknown arguments =
      field.test? selector operator unknown arguments := by
  cases compares : operator.isNullTest with
  | true => cases operator <;> first | contradiction | rfl
  | false =>
  have staged : field.stagedTest? missing untested selector operator unknown arguments =
      if operator.Takes arguments then
        ((field.castArguments unknown arguments).map (List.map (·.getD .null))).bind
          (operator.testOf? missing untested)
      else .error (.argumentCount selector operator arguments.length) := by
    rw [castArguments, map_mapM]
    rcases operator.form_of_compares compares with ⟨_, test, shape⟩ | ⟨_, test, shape⟩ <;>
      simp only [stagedTest?, shape]
  rw [staged]
  split
  · rename_i counted
    rw [test?_counted compares counted]
    cases cast : field.castArguments unknown arguments with
    | error error => rfl
    | ok results =>
        obtain ⟨rfl, _⟩ := castArguments_eq_ok cast
        -- no cast makes null, which marks what is unresolved and nothing else
        have stored : some .null ∉ arguments.map field.value? := by
          intro member
          obtain ⟨literal, _, valued⟩ := List.mem_map.mp member
          exact Value.ne_null_of_isOf (value?_isOf valued) rfl
        refine Operator.testOf?_eq compares stored ?_
        cases several : operator.takesList with
        | true => exact .inl rfl
        | false =>
            obtain ⟨literal, rfl⟩ :=
              List.length_eq_one_iff.mp (by simpa [Operator.Takes, several] using counted)
            exact .inr ⟨field.value? literal, rfl⟩
  · rename_i miscounted
    exact (test?_miscounted compares miscounted).symm

end FilterQuery
