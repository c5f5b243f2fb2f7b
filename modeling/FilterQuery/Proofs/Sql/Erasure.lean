import FilterQuery.Proofs.Erasure
import FilterQuery.Proofs.Sql.Symbols
import FilterQuery.Sql.Backend

namespace FilterQuery.Sql

/-! The text of a statement depends on its plan without the values alone. -/

def Symbol.erase : Symbol → Symbol
  | .character c => .character c
  | .parameter _ => .parameter .null

theorem Symbol.render_erase (placeholder : Nat → String) (next : Nat) (symbols : List Symbol) :
    render placeholder next (symbols.map erase) = render placeholder next symbols := by
  induction symbols generalizing next with
  | nil => rfl
  | cons symbol symbols inductionHypothesis =>
      cases symbol with
      | character c => exact congrArg (c :: ·) (inductionHypothesis next)
      | parameter value =>
          exact congrArg ((placeholder next).toList ++ ·) (inductionHypothesis (next + 1))

@[simp]
theorem Symbol.map_erase_ofChars (text : List Char) : (ofChars text).map erase = ofChars text := by
  simp [ofChars, Function.comp_def, erase]

namespace Fragment

def erased (fragment : Fragment) : List Symbol :=
  fragment.symbols.map Symbol.erase

theorem text_eq_of_erased {first second : Fragment} (same : first.erased = second.erased)
    (placeholder : Nat → String) :
    (first.render placeholder).text = (second.render placeholder).text := by
  rw [← String.toList_inj, toList_render_text, toList_render_text, ← Symbol.render_erase,
    ← Symbol.render_erase placeholder 1 second.symbols]
  exact congrArg (Symbol.render placeholder 1) same

@[simp]
theorem erased_ofText (text : String) : (ofText text).erased = Symbol.ofChars text.toList := by
  rw [erased, symbols_ofText, Symbol.map_erase_ofChars]

@[simp]
theorem erased_ofParameter (value : Value) : (ofParameter value).erased = [.parameter .null] := rfl

@[simp]
theorem erased_append (first second : Fragment) :
    (first ++ second).erased = first.erased ++ second.erased := by
  rw [erased, symbols_append, List.map_append]
  rfl

theorem erased_join (separator : String) (fragments : List Fragment) :
    (join separator fragments).erased =
      (Symbol.ofChars separator.toList).intercalate (fragments.map erased) := by
  induction fragments with
  | nil => rfl
  | cons first others inductionHypothesis =>
      cases others with
      | nil => simp [join]
      | cons second others =>
          rw [List.map_cons, List.map_cons, List.intercalate_cons_cons, join, erased_append,
            erased_append, erased_ofText, inductionHypothesis, List.map_cons]
          simp

end Fragment

namespace Backend

theorem erased_membership (column keyword whenEmpty : String) (values : List Value) :
    (membership column keyword whenEmpty values).erased =
      (membership column keyword whenEmpty (List.replicate values.length .null)).erased := by
  by_cases empty : values = []
  · rw [empty, List.length_nil, List.replicate_zero]
  · have nonempty : List.replicate values.length Value.null ≠ [] := by simpa using empty
    have parameters : ∀ values : List Value, (values.map Fragment.ofParameter).map Fragment.erased =
        List.replicate values.length [.parameter .null] := by
      intro values
      have constant : Fragment.erased ∘ Fragment.ofParameter = fun _ => [.parameter .null] :=
        funext Fragment.erased_ofParameter
      rw [List.map_map, constant, List.map_const']
    rw [membership, membership, if_neg empty, if_neg nonempty]
    simp only [Fragment.erased_append, Fragment.erased_join, parameters, List.length_replicate]

theorem erased_occurrence (backend : Backend) (column : String) (position : Position)
    (literal other : String) :
    (backend.occurrence column position literal).erased =
      (backend.occurrence column position other).erased := by
  cases backend with
  | postgres => simp [occurrence]
  | sqlite => cases position <;> simp [occurrence]

theorem erased_condition (backend : Backend) (leaf : Leaf) :
    (backend.condition leaf).erased = (backend.condition leaf.erase).erased := by
  obtain ⟨key, test⟩ := leaf
  cases test with
  | compare comparator value => simp [condition, Leaf.erase, Test.erase]
  | oneOf values => exact erased_membership ..
  | noneOf values => exact erased_membership ..
  | occurs position literal =>
      by_cases empty : literal = ""
      · simp [condition, Leaf.erase, Test.erase, empty]
      · simp only [condition, Leaf.erase, Test.erase, if_neg empty]
        exact erased_occurrence backend _ position literal " "
  | isNull => rfl
  | notNull => rfl

theorem erased_junction {word whenEmpty : String} {conditions others : List Fragment}
    (same : conditions.map Fragment.erased = others.map Fragment.erased) :
    (junction word whenEmpty conditions).erased = (junction word whenEmpty others).erased := by
  cases conditions with
  | nil =>
      rw [List.map_nil, eq_comm, List.map_eq_nil_iff] at same
      rw [same]
  | cons condition conditions =>
      cases others with
      | nil => simp at same
      | cons other others =>
          simp only [junction, Fragment.erased_append, Fragment.erased_join, same]

theorem erased_write (backend : Backend) (plan : Plan) :
    (plan.write backend.target).erased = (plan.erase.write backend.target).erased := by
  induction plan with
  | leaf predicate =>
      rw [Plan.erase]
      exact erased_condition backend predicate
  | all plans inductionHypothesis =>
      rw [Plan.erase, Plan.write_all, Plan.write_all]
      refine erased_junction ?_
      simp only [List.map_map]
      exact List.map_congr_left inductionHypothesis
  | any plans inductionHypothesis =>
      rw [Plan.erase, Plan.write_any, Plan.write_any]
      refine erased_junction ?_
      simp only [List.map_map]
      exact List.map_congr_left inductionHypothesis

/-- Plans that are the same without their values have the same text. -/
theorem text_eq_of_erase (backend : Backend) {first second : Plan} (same : first.erase = second.erase) :
    (backend.render (first.write backend.target)).text =
      (backend.render (second.write backend.target)).text := by
  refine Fragment.text_eq_of_erased ?_ backend.placeholder
  rw [erased_write, same, ← erased_write]

end Backend

end FilterQuery.Sql
