import FilterQuery.Proofs.Sql.Occurrences

namespace FilterQuery.Sql

/-! Escaped literals are read back wherever they stand in a pattern, and they match what they
have been written for and nothing else. -/

/-- The text with another one in place of each occurrence of a character. -/
def replaceChar (old : Char) (new text : List Char) : List Char :=
  text.flatMap fun c => if c = old then new else [c]

/-- Escapes one character after the other, each in what has become of the text. -/
def escapeInTurn (specials text : List Char) : List Char :=
  specials.foldl (fun escaped special => replaceChar special ['\\', special] escaped) text

def escapeAtOnce (specials text : List Char) : List Char :=
  text.flatMap fun c => if c ∈ specials then ['\\', c] else [c]

section Escapes

variable {specials done : List Char} {special : Char}

/-- What is written for other characters is not replaced again, as long as the backslash is
one of them. -/
theorem replaceChar_escapeAtOnce (slash : '\\' ∈ done) (new : special ∉ done) (text : List Char) :
    replaceChar special ['\\', special] (escapeAtOnce done text) =
      escapeAtOnce (done ++ [special]) text := by
  have distinct : ∀ c ∈ done, c ≠ special := fun c member same => new (same ▸ member)
  rw [replaceChar, escapeAtOnce, List.flatMap_assoc]
  apply List.flatMap_congr
  intro c _
  by_cases known : c ∈ done
  · simp [known, distinct c known, distinct '\\' slash]
  · by_cases next : c = special <;> simp [known, next, new]

theorem escapeInTurn_escapeAtOnce (slash : '\\' ∈ done) (distinct : (done ++ specials).Nodup)
    (text : List Char) :
    escapeInTurn specials (escapeAtOnce done text) = escapeAtOnce (done ++ specials) text := by
  induction specials generalizing done with
  | nil => rw [List.append_nil]; rfl
  | cons special specials inductionHypothesis =>
      have new : special ∉ done := by
        intro known
        exact (List.nodup_append.mp distinct).2.2 special known special List.mem_cons_self rfl
      have regrouped : done ++ special :: specials = done ++ [special] ++ specials := by simp
      rw [regrouped] at distinct ⊢
      have rest := inductionHypothesis (List.mem_append_left _ slash) distinct
      rw [← rest, ← replaceChar_escapeAtOnce slash new]
      rfl

/-- Characters can be escaped one after the other if the backslash is the first of them. -/
theorem escapeInTurn_eq (distinct : ('\\' :: specials).Nodup) (text : List Char) :
    escapeInTurn ('\\' :: specials) text = escapeAtOnce ('\\' :: specials) text := by
  have first : replaceChar '\\' ['\\', '\\'] text = escapeAtOnce ['\\'] text := by
    apply List.flatMap_congr
    intro c _
    by_cases slash : c = '\\' <;> simp [slash]
  change escapeInTurn specials (replaceChar '\\' ['\\', '\\'] text) = _
  rw [first, escapeInTurn_escapeAtOnce (List.mem_singleton_self _) distinct]
  rfl

/-- What has been written for another character would be escaped again. -/
example : escapeInTurn ['%', '\\'] ['%'] = ['\\', '\\', '%'] := by decide

end Escapes

theorem escapeAtOnce_eq_escapeLikeChars (text : List Char) :
    escapeAtOnce ['\\', '%', '_'] text = escapeLikeChars text := by
  apply List.flatMap_congr
  intro c _
  have special : c ∈ ['\\', '%', '_'] ↔ isLikeSpecial c = true := by
    simp [isLikeSpecial, or_assoc]
  rw [if_congr special rfl rfl]

theorem escapeLike_append (first second : String) :
    escapeLike (first ++ second) = escapeLike first ++ escapeLike second := by
  rw [← String.toList_inj, String.toList_append, toList_escapeLike, toList_escapeLike,
    toList_escapeLike, String.toList_append]
  exact List.flatMap_append

namespace PatternItem

/-- The texts of a pattern: `many` stands for any characters, however many. -/
inductive Matches : List PatternItem → List Char → Prop where
  | nil : Matches [] []
  | exactly (c : Char) {items : List PatternItem} {text : List Char} (rest : Matches items text) :
      Matches (.exactly c :: items) (c :: text)
  | one (c : Char) {items : List PatternItem} {text : List Char} (rest : Matches items text) :
      Matches (.one :: items) (c :: text)
  | many (skipped : List Char) {items : List PatternItem} {text : List Char}
      (rest : Matches items text) : Matches (.many :: items) (skipped ++ text)

variable {same : Char → Char → Bool} {items : List PatternItem} {text literal : List Char}

theorem matches_nil_iff : Matches [] text ↔ text = [] := by
  constructor
  · intro matched
    cases matched
    rfl
  · intro empty
    rw [empty]
    exact .nil

theorem matches_exactly_iff {c : Char} :
    Matches (.exactly c :: items) text ↔ ∃ rest, text = c :: rest ∧ Matches items rest := by
  constructor
  · intro matched
    cases matched with
    | exactly _ rest => exact ⟨_, rfl, rest⟩
  · intro ⟨_, begins, rest⟩
    rw [begins]
    exact .exactly c rest

theorem matches_one_iff :
    Matches (.one :: items) text ↔ ∃ c rest, text = c :: rest ∧ Matches items rest := by
  constructor
  · intro matched
    cases matched with
    | one c rest => exact ⟨c, _, rfl, rest⟩
  · intro ⟨c, _, begins, rest⟩
    rw [begins]
    exact .one c rest

theorem matches_many_iff :
    Matches (.many :: items) text ↔ ∃ rest, rest <:+ text ∧ Matches items rest := by
  constructor
  · intro matched
    cases matched with
    | many skipped rest => exact ⟨_, List.suffix_append _ _, rest⟩
  · intro ⟨_, ⟨skipped, parted⟩, rest⟩
    rw [← parted]
    exact .many skipped rest

theorem accept_iff_matches (exact : ∀ first second, same first second = true ↔ first = second) :
    accept same items text = true ↔ Matches items text := by
  induction items generalizing text with
  | nil => rw [accept, List.isEmpty_iff, matches_nil_iff]
  | cons item items inductionHypothesis =>
      cases item with
      | many => simp only [accept_many, matches_many_iff, inductionHypothesis]
      | exactly c =>
          rw [matches_exactly_iff]
          cases text with
          | nil => simp [accept]
          | cons other text =>
              rw [accept, Bool.and_eq_true, exact, inductionHypothesis]
              simp [and_assoc, eq_comm]
      | one =>
          rw [matches_one_iff]
          cases text with
          | nil => simp [accept]
          | cons other text =>
              rw [accept, inductionHypothesis]
              simp

end PatternItem

/-- Whether a text is one of the pattern, in which a backslash is the escape character. -/
def Likes (pattern text : String) : Prop :=
  ∃ items, PatternItem.read? '\\' pattern.toList = some items ∧
    PatternItem.Matches items text.toList

theorem likes_iff_like? (pattern text : String) : Likes pattern text ↔
    Backend.postgres.like? ['\\'] (.value (.string text)) (.value (.string pattern)) = some .holds := by
  simp only [Likes, Backend.like?, Option.map_eq_some_iff, Truth.ofBool_eq_holds,
    PatternItem.accept_iff_matches postgres_sameInPattern]

theorem likes_likePattern_iff (literal : String) (position : Position) (text : String) :
    Likes (likePattern literal position) text ↔ position.Occurs literal.toList text.toList := by
  obtain ⟨items, read, accepts⟩ := likePattern_accepts literal position
  rw [← accepts, PatternItem.accept_iff_matches postgres_sameInPattern, Likes, read]
  simp only [Option.some.injEq, exists_eq_left']

theorem read?_escapeLike (literal : String) (rest : List Char) :
    PatternItem.read? '\\' ((escapeLike literal).toList ++ rest) =
      (PatternItem.read? '\\' rest).map (literal.toList.map .exactly ++ ·) := by
  rw [toList_escapeLike, PatternItem.read?_escaped]

theorem read?_escapeLike_alone (literal : String) :
    PatternItem.read? '\\' (escapeLike literal).toList = some (literal.toList.map .exactly) := by
  have read := read?_escapeLike literal []
  simpa [PatternItem.read?] using read

theorem likes_escapeLike_iff (literal text : String) :
    Likes (escapeLike literal) text ↔ literal = text := by
  rw [Likes, read?_escapeLike_alone]
  simp only [Option.some.injEq, exists_eq_left',
    ← PatternItem.accept_iff_matches postgres_sameInPattern]
  have whole : PatternItem.accept Backend.postgres.sameInPattern
      (literal.toList.map .exactly ++ []) text.toList = true ↔
        ∃ rest, literal.toList ++ rest = text.toList ∧
          PatternItem.accept Backend.postgres.sameInPattern [] rest = true :=
    PatternItem.accept_literal postgres_sameInPattern
  simpa [PatternItem.accept, String.toList_inj] using whole

/-- Characters can be escaped one after the other or at once, and texts at once or one after the
other.  An escaped literal is read as its characters, in front of whatever follows; as a pattern
it has one text, and with wildcards around it those in which it occurs there. -/
theorem escapes_lossless (literal : String) :
    escapeInTurn ['\\', '%', '_'] literal.toList = (escapeLike literal).toList ∧
    (∀ other : String, escapeLike (literal ++ other) = escapeLike literal ++ escapeLike other) ∧
    PatternItem.read? '\\' (escapeLike literal).toList = some (literal.toList.map .exactly) ∧
    (∀ rest : List Char, PatternItem.read? '\\' ((escapeLike literal).toList ++ rest) =
      (PatternItem.read? '\\' rest).map (literal.toList.map .exactly ++ ·)) ∧
    (∀ text : String, Likes (escapeLike literal) text ↔ literal = text) ∧
    (∀ (position : Position) (text : String),
      Likes (likePattern literal position) text ↔ position.Occurs literal.toList text.toList) ∧
    ∀ pattern text : String, Likes pattern text ↔
      Backend.postgres.like? ['\\'] (.value (.string text)) (.value (.string pattern)) =
        some .holds := by
  refine ⟨?_, escapeLike_append literal, read?_escapeLike_alone literal, read?_escapeLike literal,
    likes_escapeLike_iff literal, likes_likePattern_iff literal, likes_iff_like?⟩
  rw [escapeInTurn_eq (by decide), escapeAtOnce_eq_escapeLikeChars, toList_escapeLike]

end FilterQuery.Sql
