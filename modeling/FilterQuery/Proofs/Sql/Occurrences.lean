import FilterQuery.Proofs.Sql.Functions

namespace FilterQuery.Sql

/-! Patterns and functions of texts find a literal exactly where it occurs. -/

variable {call? : Calls} {text : String} {literal : List Char}

theorem Calls.AsDocumented.length_eq (documented : call?.AsDocumented)
    (unterminated : Unterminated text) :
    call? .length [.value (.string text)] = some (.count text.toList.length) := by
  have length := documented.length text
  rwa [← visible, visible_eq unterminated] at length

/-- What a text begins with, if it is that long. -/
theorem Calls.AsDocumented.front_exists (documented : call?.AsDocumented)
    (unterminated : Unterminated text) (literal : List Char) :
    ∃ part, call? .substr [.value (.string text), .count 1, .count literal.length] =
        some (.value (.string (.ofList part))) ∧ (literal = part ↔ literal <+: text.toList) := by
  by_cases within : literal.length ≤ text.toList.length
  · have whole : 0 + literal.length ≤ text.toList.length := by rwa [Nat.zero_add]
    exact ⟨_, documented.substr_front unterminated whole, List.prefix_iff_eq_take.symm⟩
  · obtain ⟨part, called, inside⟩ :=
      documented.substr_infix unterminated 1 [literal.length] (Nat.le_refl _)
    refine ⟨part, called, iff_of_false ?_ fun starts => within starts.length_le⟩
    intro same
    exact within (same ▸ inside.length_le)

/-- What a text ends with, if it is that long. -/
theorem Calls.AsDocumented.back_exists (documented : call?.AsDocumented)
    (unterminated : Unterminated text) (nonempty : literal ≠ []) :
    ∃ part, call? .substr [.value (.string text), .count (-literal.length)] =
        some (.value (.string (.ofList part))) ∧ (literal = part ↔ literal <:+ text.toList) := by
  by_cases within : literal.length ≤ text.toList.length
  · have called := documented.substr_back unterminated (List.length_pos_iff.mpr nonempty) within
    exact ⟨_, called, List.suffix_iff_eq_drop.symm⟩
  · obtain ⟨part, called, inside⟩ :=
      documented.substr_infix unterminated (-literal.length) [] (Nat.zero_le _)
    refine ⟨part, called, iff_of_false ?_ fun ends => within ends.length_le⟩
    intro same
    exact within (same ▸ inside.length_le)

theorem occurrencePlace_pos (text part : List Char) :
    0 < occurrencePlace text part ↔ part <:+: text := by
  rw [List.infix_iff_prefix_suffix]
  cases found : text.tails.findIdx? part.isPrefixOf with
  | none =>
      rw [List.findIdx?_eq_none_iff] at found
      simp only [occurrencePlace, List.findIdx?_eq_none_iff.mpr found]
      refine ⟨fun positive => absurd positive (Nat.lt_irrefl 0), ?_⟩
      rintro ⟨tail, starts, ends⟩
      have refused := found tail ((List.mem_tails _ _).mpr ends)
      rw [List.isPrefixOf_iff_prefix.mpr starts] at refused
      contradiction
  | some index =>
      simp only [occurrencePlace, found, Option.map_some, Option.getD_some, Nat.zero_lt_succ, true_iff]
      obtain ⟨inside, starts, _⟩ := List.findIdx?_eq_some_iff_getElem.mp found
      exact ⟨text.tails[index], List.isPrefixOf_iff_prefix.mp starts,
        (List.mem_tails _ _).mp (List.getElem_mem inside)⟩

namespace PatternItem

theorem read?_plain {escape c : Char} (plain : c ≠ escape) (pattern : List Char) :
    read? escape (c :: pattern) = (read? escape pattern).map (ofChar c :: ·) := by
  rw [read?.eq_def]
  simp only [if_neg plain]

theorem read?_escaped (literal rest : List Char) :
    read? '\\' (escapeLikeChars literal ++ rest) =
      (read? '\\' rest).map (literal.map exactly ++ ·) := by
  induction literal with
  | nil => simp [escapeLikeChars]
  | cons c literal inductionHypothesis =>
      rw [escapeLikeChars] at inductionHypothesis ⊢
      rw [List.flatMap_cons, List.append_assoc]
      cases special : isLikeSpecial c with
      | true =>
          simp [read?, inductionHypothesis, Function.comp_def]
      | false =>
          have plain : c ≠ '\\' ∧ c ≠ '%' ∧ c ≠ '_' := by
            simpa [isLikeSpecial, and_assoc] using special
          rw [if_neg (by decide), List.cons_append, read?_plain plain.1, List.nil_append,
            inductionHypothesis]
          simp [ofChar, plain, Function.comp_def]

variable {same : Char → Char → Bool} {items : List PatternItem} {literal text : List Char}

theorem accept_literal (exact : ∀ first second, same first second = true ↔ first = second) :
    accept same (literal.map exactly ++ items) text = true ↔
      ∃ rest, literal ++ rest = text ∧ accept same items rest = true := by
  induction literal generalizing text with
  | nil => simp
  | cons c literal inductionHypothesis =>
      cases text with
      | nil => simp [accept]
      | cons other text =>
          rw [List.map_cons, List.cons_append, accept, Bool.and_eq_true, exact,
            inductionHypothesis]
          simp only [List.cons_append, List.cons.injEq]
          constructor
          · rintro ⟨rfl, rest, rfl, accepted⟩
            exact ⟨rest, ⟨rfl, rfl⟩, accepted⟩
          · rintro ⟨rest, ⟨rfl, rfl⟩, accepted⟩
            exact ⟨rfl, rest, rfl, accepted⟩

theorem accept_many :
    accept same (.many :: items) text = true ↔
      ∃ rest, rest <:+ text ∧ accept same items rest = true := by
  simp only [accept, List.any_eq_true, List.mem_tails]

theorem accept_any : accept same [.many] text = true := by
  rw [accept_many]
  exact ⟨[], List.nil_suffix, rfl⟩

end PatternItem

theorem postgres_sameInPattern (first second : Char) :
    Backend.postgres.sameInPattern first second = true ↔ first = second :=
  decide_eq_true_iff

theorem toList_escapeLike (literal : String) :
    (escapeLike literal).toList = escapeLikeChars literal.toList := by
  rw [escapeLike, String.toList_ofList]

/-- The pattern of a literal at a position is accepted exactly where the literal occurs. -/
theorem likePattern_accepts (literal : String) (position : Position) :
    ∃ items, PatternItem.read? '\\' (likePattern literal position).toList = some items ∧
      ∀ text, PatternItem.accept Backend.postgres.sameInPattern items text = true ↔
        position.Occurs literal.toList text := by
  have exact := postgres_sameInPattern
  have escaped := toList_escapeLike literal
  cases position with
  | start =>
      refine ⟨literal.toList.map .exactly ++ [.many], ?_, fun text => ?_⟩
      · rw [likePattern, String.toList_append, escaped, PatternItem.read?_escaped]
        rfl
      · rw [PatternItem.accept_literal exact]
        simp [PatternItem.accept_any, Position.Occurs, List.IsPrefix]
  | finish =>
      refine ⟨.many :: (literal.toList.map .exactly ++ []), ?_, fun text => ?_⟩
      · have read := PatternItem.read?_escaped literal.toList []
        rw [List.append_nil] at read
        rw [likePattern, String.toList_append, escaped]
        change PatternItem.read? '\\' ('%' :: escapeLikeChars literal.toList) = _
        rw [PatternItem.read?_plain (by decide), read]
        rfl
      · rw [PatternItem.accept_many]
        simp only [PatternItem.accept_literal exact, PatternItem.accept, List.isEmpty_iff]
        simp [Position.Occurs]
  | anywhere =>
      refine ⟨.many :: (literal.toList.map .exactly ++ [.many]), ?_, fun text => ?_⟩
      · have read := PatternItem.read?_escaped literal.toList ['%']
        rw [likePattern, String.toList_append, String.toList_append, escaped, List.append_assoc]
        change PatternItem.read? '\\' ('%' :: (_ ++ ['%'])) = _
        rw [PatternItem.read?_plain (by decide), read]
        rfl
      · rw [PatternItem.accept_many, Position.Occurs, List.infix_iff_prefix_suffix]
        simp only [PatternItem.accept_literal exact, PatternItem.accept_any, and_true]
        exact exists_congr fun rest => and_comm

end FilterQuery.Sql
