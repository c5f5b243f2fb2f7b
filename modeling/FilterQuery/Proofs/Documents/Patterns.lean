import FilterQuery.Document
import FilterQuery.Proofs.Refusals
import FilterQuery.Proofs.Sql.Selection

namespace FilterQuery

namespace Document

/-! Where the store finds the expressions that are written for literals.  At the end of
values it finds more than the literal: a last line break does not count. -/

/-- What the written expressions are made of. -/
inductive SearchItem where
  | exactly (c : Char)
  | start
  | finish
deriving DecidableEq

namespace SearchItem

/-- Groups, classes, repetitions and alternatives are not read. -/
def ofChar? (c : Char) : Option SearchItem :=
  if c = '^' then some .start
  else if c = '$' then some .finish
  else if c ∈ ".*+?()[\x7b|".toList then none
  else some (.exactly c)

/-- A backslash takes the meaning from the character behind it, and gives one to letters
and digits. -/
def read? : List Char → Option (List SearchItem)
  | [] => some []
  | c :: expression =>
      if c = '\\' then
        match expression with
        | [] => none
        | literal :: expression =>
            if literal.isAlphanum then none else (read? expression).map (.exactly literal :: ·)
      else (ofChar? c).bind fun item => (read? expression).map (item :: ·)

/-- Whether the items match from a place on, which may be the start of the value.  Both
the end of the value and the place in front of a last line break pass for the finish. -/
def accept : List SearchItem → Bool → List Char → Bool
  | [], _, _ => true
  | .exactly _ :: _, _, [] => false
  | .exactly c :: items, _, other :: text => c == other && accept items false text
  | .start :: items, atStart, text => atStart && accept items atStart text
  | .finish :: items, atStart, text => (text = [] || text = ['\n']) && accept items atStart text

/-- Whether the items match from some place on. -/
def search (items : List SearchItem) (atStart : Bool) : List Char → Bool
  | [] => accept items atStart []
  | c :: text => accept items atStart (c :: text) || search items false text

variable {items : List SearchItem} {atStart : Bool} {literal text : List Char}

theorem read?_plain {c : Char} {item : SearchItem} (plain : c ≠ '\\')
    (read : ofChar? c = some item) (expression : List Char) :
    read? (c :: expression) = (read? expression).map (item :: ·) := by
  rw [read?.eq_def]
  simp only [if_neg plain, read, Option.bind_some]

theorem isAlphanum_of_special {c : Char} (special : isPatternSpecial c = true) :
    c.isAlphanum = false := by
  have marks : "\\.+*?()|[]\x7b\x7d^$#&-~".toList.all (fun c => !c.isAlphanum) = true := rfl
  rw [← Bool.not_eq_true']
  exact List.all_eq_true.mp marks c (of_decide_eq_true special)

theorem ofChar?_of_plain {c : Char} (plain : isPatternSpecial c = false) :
    c ≠ '\\' ∧ ofChar? c = some (exactly c) := by
  simp only [isPatternSpecial, decide_eq_false_iff_not] at plain
  simp_all [ofChar?]

/-- What is escaped stands for the literal, whatever follows. -/
theorem read?_escapePatternChars (literal rest : List Char) :
    read? (escapePatternChars literal ++ rest) = (read? rest).map (literal.map exactly ++ ·) := by
  induction literal with
  | nil => simp [escapePatternChars]
  | cons c literal inductionHypothesis =>
      rw [escapePatternChars] at inductionHypothesis ⊢
      rw [List.flatMap_cons, List.append_assoc]
      cases special : isPatternSpecial c with
      | true =>
          have mark := isAlphanum_of_special special
          simp [read?, mark, inductionHypothesis, Function.comp_def]
      | false =>
          obtain ⟨unescaped, item⟩ := ofChar?_of_plain special
          rw [if_neg Bool.false_ne_true, List.cons_append, read?_plain unescaped item,
            List.nil_append, inductionHypothesis]
          simp [Function.comp_def]

theorem accept_literal :
    accept (literal.map exactly ++ items) atStart text = true ↔
      ∃ rest, literal ++ rest = text ∧ accept items (atStart && literal.isEmpty) rest = true := by
  induction literal generalizing atStart text with
  | nil => simp
  | cons c literal inductionHypothesis =>
      cases text with
      | nil => simp [accept]
      | cons other text =>
          rw [List.map_cons, List.cons_append, accept, Bool.and_eq_true, beq_iff_eq,
            inductionHypothesis]
          simp only [List.cons_append, List.cons.injEq, Bool.false_and, List.isEmpty_cons,
            Bool.and_false]
          constructor
          · intro matched
            obtain ⟨rfl, rest, rfl, accepted⟩ := matched
            exact ⟨rest, ⟨rfl, rfl⟩, accepted⟩
          · intro matched
            obtain ⟨rest, ⟨rfl, rfl⟩, accepted⟩ := matched
            exact ⟨rfl, rest, rfl, accepted⟩

theorem search_eq_true :
    search items atStart text = true ↔
      ∃ before rest, before ++ rest = text ∧ accept items (atStart && before.isEmpty) rest = true := by
  induction text generalizing atStart with
  | nil => simp [search]
  | cons c text inductionHypothesis =>
      rw [search, Bool.or_eq_true, inductionHypothesis]
      constructor
      · intro found
        rcases found with here | ⟨before, rest, rfl, accepted⟩
        · exact ⟨[], c :: text, rfl, by simpa using here⟩
        · exact ⟨c :: before, rest, rfl, by simpa using accepted⟩
      · intro found
        obtain ⟨before, rest, split, accepted⟩ := found
        cases before with
        | nil =>
            rw [← split]
            exact .inl (by simpa using accepted)
        | cons first before =>
            obtain ⟨rfl, rfl⟩ := List.cons.inj split
            exact .inr ⟨before, rest, rfl, by simpa using accepted⟩

end SearchItem

/-- What the store answers when it searches a value, if it can read the expression. -/
def finds? (expression text : String) : Option Bool :=
  (SearchItem.read? expression.toList).map fun items => SearchItem.search items true text.toList

/-- Whether a value has the literal at the position, or behind it only a line break. -/
def OccursInLine (position : Position) (literal text : List Char) : Prop :=
  position.Occurs literal text ∨
    position = .finish ∧ ∃ front, text = front ++ ['\n'] ∧ literal <:+ front

/-- The expression that is written for a literal at a position can be read. -/
theorem pattern_read (literal : String) (position : Position) :
    ∃ items, SearchItem.read? (pattern literal position).toList = some items ∧
      ∀ text, SearchItem.search items true text = true ↔
        OccursInLine position literal.toList text := by
  have escaped := SearchItem.read?_escapePatternChars literal.toList
  cases position with
  | start =>
      refine ⟨.start :: (literal.toList.map .exactly ++ []), ?_, fun text => ?_⟩
      · have read := escaped []
        rw [List.append_nil] at read
        simp only [pattern, String.toList_append, String.toList_ofList]
        change SearchItem.read? ('^' :: escapePatternChars literal.toList) = _
        rw [SearchItem.read?_plain (by decide) rfl, read]
        rfl
      · rw [SearchItem.search_eq_true]
        simp only [SearchItem.accept, Bool.and_eq_true, SearchItem.accept_literal]
        simp [OccursInLine, Position.Occurs, List.IsPrefix]
  | finish =>
      refine ⟨literal.toList.map .exactly ++ [.finish], ?_, fun text => ?_⟩
      · rw [pattern, String.toList_append, String.toList_ofList, escaped]
        rfl
      · rw [SearchItem.search_eq_true]
        simp only [SearchItem.accept, Bool.and_true, SearchItem.accept_literal, Bool.or_eq_true,
          decide_eq_true_eq, OccursInLine, Position.Occurs, true_and]
        constructor
        · intro found
          obtain ⟨before, rest, rfl, behind, rfl, ended⟩ := found
          -- what is behind the literal tells the two cases apart
          rcases ended with rfl | rfl
          · exact .inl ⟨before, by rw [List.append_nil]⟩
          · exact .inr ⟨before ++ literal.toList, by rw [List.append_assoc], before, rfl⟩
        · intro occurs
          rcases occurs with ⟨before, rfl⟩ | ⟨front, rfl, before, rfl⟩
          · exact ⟨before, literal.toList, rfl, [], List.append_nil _, .inl rfl⟩
          · exact ⟨before, literal.toList ++ ['\n'], by rw [List.append_assoc], ['\n'], rfl, .inr rfl⟩
  | anywhere =>
      refine ⟨literal.toList.map .exactly ++ [], ?_, fun text => ?_⟩
      · have read := escaped []
        rw [List.append_nil] at read
        rw [pattern, String.toList_ofList, read]
        rfl
      · rw [SearchItem.search_eq_true]
        simp only [SearchItem.accept, SearchItem.accept_literal]
        simp [OccursInLine, Position.Occurs, List.IsInfix]

end Document

namespace Field

/-- Whether texts of the field can be searched at a position with an operator. -/
structure Searches (field : Field) (operator : Operator) (position : Position) : Prop where
  texts : field.kind = .string
  supported : field.supports operator = true
  shape : operator.form = .single fun value => .occurs position value.text

variable {field : Field} {operator : Operator} {position : Position} {selector symbol literal : String}

theorem Searches.test?_eq (searches : field.Searches operator position) (selector : String)
    (unknown : UnknownMembers) (literal : String) :
    field.test? selector operator unknown [literal] = .ok (some (.occurs position literal)) := by
  simp only [test?, searches.shape, castArgument_of_texts searches.texts]
  rfl

theorem Searches.translate_eq {φ : Type} (searches : field.Searches operator position)
    (target : Target φ) (expressible : target.supports operator.canonical = true)
    {request : Request}
    (selects : Comparison.Selects ⟨selector, symbol, [literal]⟩ request.fields field operator) :
    target.translate request (.comparison selector symbol [literal]) =
      .ok (target.leaf ⟨field.key, .occurs position literal⟩) := by
  have resolved : request.resolve target.name target.supports selector symbol [literal] = _ :=
    Request.resolve_of_allowed selects (.inr searches.supported)
  rw [if_pos expressible, searches.test?_eq] at resolved
  rw [Target.translate_comparison, resolved]
  rfl

theorem Searches.decided (searches : field.Searches operator position) (backend : Sql.Backend)
    {request : Request} {call? : Sql.Calls} {row : List (List Char) → Value} {text : String}
    (selects : Comparison.Selects ⟨selector, symbol, [literal]⟩ request.fields field operator)
    (documented : call?.AsDocumented) (unterminated : Unterminated literal)
    (unterminatedText : Unterminated text)
    (column : row (field.key.toList.splitOn '.') = .string text) :
    ∃ fragment condition truth,
      backend.target.translate request (.comparison selector symbol [literal]) = .ok fragment ∧
      (backend.render fragment).condition? = some condition ∧
      condition.truth? backend call? row = some truth ∧
      (truth = .holds ↔ position.Occurs literal.toList text.toList) := by
  have translated := searches.translate_eq backend.target rfl selects
  have planned := Target.recorded_eq_plan <|
    searches.translate_eq (Plan.target "" fun _ => true) rfl selects
  have suits : (Test.occurs position literal).Suits .string := rfl
  have texts : ∀ other, Value.string text = .string other → Unterminated other := by
    intro other same
    cases same
    exact unterminatedText
  obtain ⟨truth, evaluated, same⟩ : Sql.Decides
      ((Leaf.condition backend ⟨field.key, .occurs position literal⟩).truth? backend call? row) _ :=
    Sql.leaf_decides documented _ column texts (.inr rfl) suits unterminated
  refine ⟨_, _, truth, translated, Sql.condition?_render translated, ?_, ?_⟩
  · rw [← planned, Plan.target, Plan.condition]
    exact evaluated
  · exact same.trans (Sql.occurs_string_iff position literal text)

end Field

/-- The document filter of a search in texts has an expression that the store finds in every
value that has the literal at the position.  It finds the expression in no other value,
except that behind the literal at the end there may be a line break.  Both databases select
just the values that have the literal at the position, where U+0000 is in neither of them. -/
theorem Document.searches_find_occurrences {fields : FieldMap} {field : Field}
    {operator : Operator} {position : Position} {selector symbol literal : String}
    (searches : field.Searches operator position)
    (selects : Comparison.Selects ⟨selector, symbol, [literal]⟩ fields field operator)
    (unknown : UnknownMembers) :
    (∃ expression,
      target.translate ⟨fields, unknown⟩ (.comparison selector symbol [literal]) =
        .ok (clause field.key "$regex" (.string expression)) ∧
      ∀ text : String, ∃ found, finds? expression text = some found ∧
        (found = true ↔ OccursInLine position literal.toList text.toList)) ∧
    ∀ (backend : Sql.Backend) (call? : Sql.Calls) (row : List (List Char) → Value) (text : String),
      call?.AsDocumented → Unterminated literal → Unterminated text →
      row (field.key.toList.splitOn '.') = .string text →
        ∃ fragment condition truth,
          backend.target.translate ⟨fields, unknown⟩ (.comparison selector symbol [literal]) =
            .ok fragment ∧
          (backend.render fragment).condition? = some condition ∧
          condition.truth? backend call? row = some truth ∧
          (truth = .holds ↔ position.Occurs literal.toList text.toList) := by
  obtain ⟨items, read, accepted⟩ := pattern_read literal position
  have translated : target.translate ⟨fields, unknown⟩ _ = _ :=
    searches.translate_eq target rfl selects
  refine ⟨⟨_, translated, fun text => ?_⟩, ?_⟩
  · exact ⟨_, by rw [finds?, read, Option.map_some], accepted text.toList⟩
  · intro backend call? row text documented unterminated unterminatedText column
    exact searches.decided backend selects documented unterminated unterminatedText column

theorem Document.title_endings_found :
    (∃ expression,
      target.translate ⟨.books, .reject⟩ (.comparison "title" "=suffix=" ["(2nd)"]) =
        .ok (clause "meta.ti\"tle" "$regex" (.string expression)) ∧
      finds? expression "Lists (2nd)" = some true) ∧
    ∃ fragment condition,
      Sql.Backend.sqlite.target.translate ⟨.books, .reject⟩
        (.comparison "title" "=suffix=" ["(2nd)"]) = .ok fragment ∧
      (Sql.Backend.sqlite.render fragment).condition? = some condition ∧
      condition.truth? .sqlite .sqlite (fun _ => .string "Lists (2nd)") = some .holds := by
  have searches : bookTitle.Searches .endsWith .finish := ⟨rfl, rfl, rfl⟩
  have selects : Comparison.Selects ⟨"title", "=suffix=", ["(2nd)"]⟩ .books bookTitle .endsWith :=
    ⟨rfl, rfl⟩
  have ends : Position.finish.Occurs "(2nd)".toList "Lists (2nd)".toList := ⟨"Lists ".toList, rfl⟩
  obtain ⟨⟨expression, translated, answers⟩, decided⟩ :=
    searches_find_occurrences searches selects .reject
  refine ⟨⟨expression, translated, ?_⟩, ?_⟩
  · obtain ⟨found, answered, same⟩ := answers "Lists (2nd)"
    rw [answered, same.mpr (.inl ends)]
  · obtain ⟨fragment, condition, truth, written, read, evaluated, same⟩ :=
      decided .sqlite .sqlite (fun _ => .string "Lists (2nd)") "Lists (2nd)"
        Sql.Calls.sqlite_asDocumented (by decide) (by decide) rfl
    exact ⟨fragment, condition, written, read, by rw [evaluated, same.mpr ends]⟩

/-- The store finds an ending in a value that has a line break behind it. -/
theorem Document.title_endings_found_before_line_break :
    target.translate ⟨.books, .reject⟩ (.comparison "title" "=suffix=" ["x"]) =
      .ok (clause "meta.ti\"tle" "$regex" (.string "x$")) ∧
    finds? "x$" "x\n" = some true ∧
    ¬ Position.finish.Occurs "x".toList "x\n".toList := by
  refine ⟨rfl, rfl, ?_⟩
  rw [Position.Occurs]
  decide

end FilterQuery
