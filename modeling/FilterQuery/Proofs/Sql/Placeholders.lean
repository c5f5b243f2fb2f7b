import FilterQuery.Proofs.Sql.Binding
import FilterQuery.Proofs.Trees

namespace FilterQuery.Sql

/-! Placeholders in the text of statements.  The text is read without regard to its
grammar: all that counts is what stands in quotes. -/

inductive Piece where
  | character (c : Char)
  | placeholder (number : Option Nat)
deriving DecidableEq

namespace Piece

def number? : Piece → Option (Option Nat)
  | .character _ => none
  | .placeholder number => some number

/-- The character that is left if placeholders lose their numbers. -/
def unnumbered : Piece → Char
  | .character c => c
  | .placeholder _ => '?'

end Piece

/-- Where a character stands.  Digits behind a dollar sign are those of a number. -/
inductive Region where
  | plain
  | quoted (quote : Char)
  | numbered (digits : List Char)

namespace Region

def enter (c : Char) : List Piece × Region :=
  if c = '?' then ([.placeholder none], .plain)
  else if c = '$' then ([], .numbered [])
  else ([.character c], if c = '"' || c = '\'' then .quoted c else .plain)

def leave : Region → List Piece
  | .numbered digits => [.placeholder (some (Nat.ofDigitChars 10 digits 0))]
  | _ => []

/-- A quote that is written twice inside of quotes leaves and enters them again. -/
def step : Region → Char → List Piece × Region
  | .plain, c => enter c
  | .quoted quote, c => ([.character c], if c = quote then .plain else .quoted quote)
  | .numbered digits, c =>
      if c.isDigit then ([], .numbered (digits ++ [c]))
      else ((numbered digits).leave ++ (enter c).1, (enter c).2)

def pieces (region : Region) : List Char → List Piece
  | [] => region.leave
  | c :: text => (region.step c).1 ++ pieces (region.step c).2 text

end Region

/-- The numbers of the placeholders outside of quotes, in order. -/
def placeholders (text : String) : List (Option Nat) :=
  (Region.plain.pieces text.toList).filterMap Piece.number?

/-- The text in which the placeholders outside of quotes have no numbers. -/
def unnumbered (text : String) : String :=
  String.ofList ((Region.plain.pieces text.toList).map Piece.unnumbered)

/-- The text has no placeholders, and closes all quotes that it opens. -/
def Verbatim (text : List Char) : Prop :=
  ∀ rest, Region.plain.pieces (text ++ rest) = text.map .character ++ Region.plain.pieces rest

theorem Verbatim.append {first second : List Char} (verbatim : Verbatim first)
    (verbatimToo : Verbatim second) : Verbatim (first ++ second) := by
  intro rest
  rw [List.append_assoc, verbatim, verbatimToo, List.map_append, List.append_assoc]

namespace Region

theorem pieces_name (name rest : List Char) :
    (quoted '"').pieces ((name.flatMap fun c => if c = '"' then ['"', '"'] else [c]) ++ rest) =
      (name.flatMap fun c => if c = '"' then ['"', '"'] else [c]).map .character ++
        (quoted '"').pieces rest := by
  induction name with
  | nil => rfl
  | cons c name inductionHypothesis =>
      rw [List.flatMap_cons, List.append_assoc, List.map_append, List.append_assoc]
      by_cases quote : c = '"'
      · rw [if_pos quote, List.cons_append, pieces, List.cons_append, pieces]
        exact congrArg (Piece.character '"' :: Piece.character '"' :: ·) inductionHypothesis
      · rw [if_neg quote, List.cons_append, pieces, step, if_neg quote]
        exact congrArg (Piece.character c :: ·) inductionHypothesis

theorem pieces_numbered (started : List Char) {digits rest : List Char}
    (each : ∀ c ∈ digits, c.isDigit = true) (separated : Separated rest) :
    (numbered started).pieces (digits ++ rest) =
      .placeholder (some (Nat.ofDigitChars 10 (started ++ digits) 0)) :: plain.pieces rest := by
  induction digits generalizing started with
  | nil =>
      rw [List.nil_append, List.append_nil]
      cases rest with
      | nil => rfl
      | cons c rest =>
          have ends : separators.all (fun c => !c.isDigit) = true := rfl
          have plain := List.all_eq_true.mp ends c (separated c rfl)
          rw [pieces, step, if_neg (by simpa using plain)]
          rfl
  | cons c digits inductionHypothesis =>
      obtain ⟨first, others⟩ := List.forall_mem_cons.mp each
      rw [List.cons_append, pieces, step, if_pos first]
      have read := inductionHypothesis (started ++ [c]) others
      rw [List.append_assoc] at read
      exact read

end Region

theorem verbatim_quoteName (name : List Char) : Verbatim (quoteName name) := by
  intro rest
  have inside := Region.pieces_name name ('"' :: rest)
  rw [quoteName, List.append_assoc, List.cons_append, Region.pieces, List.map_append,
    List.append_assoc, List.map_cons]
  exact congrArg (Piece.character '"' :: ·) inside

theorem verbatim_quoteKey (key : String) : Verbatim (quoteKey key).toList := by
  rw [quoteKey, String.toList_ofList, quoteKeyChars]
  induction key.toList.splitOn '.' with
  | nil => exact fun _ => rfl
  | cons name names inductionHypothesis =>
      cases names with
      | nil => simpa using verbatim_quoteName name
      | cons other names =>
          have dot : Verbatim ['.'] := fun _ => rfl
          rw [List.map_cons, List.map_cons, List.intercalate_cons_cons]
          simpa using ((verbatim_quoteName name).append dot).append inductionHypothesis

theorem verbatim_column (key : String) {words : String} (verbatim : Verbatim words.toList) :
    Verbatim (quoteKey key ++ words).toList := by
  rw [String.toList_append]
  exact (verbatim_quoteKey key).append verbatim

theorem toList_placeholder_sqlite (number : Nat) :
    (Backend.placeholder .sqlite number).toList = ['?'] := by
  rw [Backend.placeholder]
  rfl

/-- The pieces of what symbols are rendered to. -/
def Symbol.pieces (backend : Backend) (next : Nat) : List Symbol → List Piece
  | [] => []
  | .character c :: symbols => .character c :: pieces backend next symbols
  | .parameter _ :: symbols =>
      .placeholder (backend.number? next) :: pieces backend (next + 1) symbols

namespace Symbol

variable {backend : Backend} {next : Nat}

theorem pieces_append (first second : List Symbol) :
    pieces backend next (first ++ second) =
      pieces backend next first ++ pieces backend (next + (values first).length) second := by
  induction first generalizing next with
  | nil => rfl
  | cons symbol first inductionHypothesis =>
      cases symbol with
      | character c => exact congrArg (Piece.character c :: ·) inductionHypothesis
      | parameter value =>
          rw [List.cons_append, pieces, inductionHypothesis, pieces, values_parameter,
            List.length_cons, Nat.add_assoc next 1, Nat.add_comm 1]
          rfl

@[simp]
theorem pieces_ofChars (text : List Char) :
    pieces backend next (ofChars text) = text.map .character := by
  induction text with
  | nil => rfl
  | cons c text inductionHypothesis => exact congrArg (Piece.character c :: ·) inductionHypothesis

theorem numbers_pieces (symbols : List Symbol) :
    (pieces backend next symbols).filterMap Piece.number? =
      (List.range' next (values symbols).length).map backend.number? := by
  induction symbols generalizing next with
  | nil => rfl
  | cons symbol symbols inductionHypothesis =>
      cases symbol with
      | character c => exact inductionHypothesis
      | parameter value =>
          rw [pieces, values_parameter, List.length_cons, List.range'_succ, List.map_cons,
            ← inductionHypothesis]
          rfl

theorem unnumbered_pieces (symbols : List Symbol) (other : Nat) :
    (pieces backend next symbols).map Piece.unnumbered =
      render Backend.sqlite.placeholder other symbols := by
  induction symbols generalizing next other with
  | nil => rfl
  | cons symbol symbols inductionHypothesis =>
      cases symbol with
      | character c => exact congrArg (c :: ·) (inductionHypothesis other)
      | parameter value =>
          rw [pieces, render, toList_placeholder_sqlite, List.map_cons,
            inductionHypothesis (other + 1)]
          rfl

end Symbol

/-- The placeholders of the rendered symbols are those of their parameters, whatever has
been written before, if a separator follows. -/
def Marked (backend : Backend) (symbols : List Symbol) : Prop :=
  ∀ next rest, Separated rest →
    Region.plain.pieces (Symbol.render backend.placeholder next symbols ++ rest) =
      Symbol.pieces backend next symbols ++ Region.plain.pieces rest

namespace Marked

variable {backend : Backend} {first second : List Symbol} {text : List Char}

theorem nil : Marked backend [] :=
  fun _ _ _ => rfl

theorem afterText (verbatim : Verbatim text) (marked : Marked backend second) :
    Marked backend (Symbol.ofChars text ++ second) := by
  intro next rest separated
  rw [Symbol.render_append, Symbol.render_ofChars, List.append_assoc, verbatim,
    marked _ rest separated, Symbol.pieces_append, Symbol.pieces_ofChars, List.append_assoc]

theorem ofText (verbatim : Verbatim text) : Marked backend (Symbol.ofChars text) := by
  simpa using afterText verbatim nil

theorem ofParameter (value : Value) : Marked backend [.parameter value] := by
  intro next rest separated
  cases backend with
  | sqlite =>
      rw [Symbol.render, toList_placeholder_sqlite]
      rfl
  | postgres =>
      have digits : ∀ c ∈ Nat.toDigits 10 next, c.isDigit = true :=
        fun c => Nat.isDigit_of_mem_toDigits (by decide) (by decide)
      have read := Region.pieces_numbered [] digits separated
      rw [List.nil_append, Nat.ofDigitChars_ten_toDigits] at read
      simp only [Symbol.render, toList_placeholder, List.append_nil]
      exact read

/-- Separators end the number of a placeholder in front of them. -/
theorem append (marked : Marked backend first)
    (parted : ∃ c ∈ separators, ∃ rest, second = .character c :: rest)
    (markedToo : Marked backend second) : Marked backend (first ++ second) := by
  intro next rest separated
  obtain ⟨c, separator, others, rfl⟩ := parted
  have ends : Separated (Symbol.render backend.placeholder (next + (Symbol.values first).length)
      (.character c :: others) ++ rest) := by
    intro other starts
    cases starts
    exact separator
  rw [Symbol.render_append, List.append_assoc, marked next _ ends, markedToo _ rest separated,
    Symbol.pieces_append, List.append_assoc]

theorem beforeText (marked : Marked backend first) (begins : parted text = true)
    (verbatim : Verbatim text) : Marked backend (first ++ Symbol.ofChars text) := by
  refine marked.append ?_ (ofText verbatim)
  obtain ⟨c, separator, rest, rfl⟩ := exists_of_parted begins
  exact ⟨c, separator, Symbol.ofChars rest, rfl⟩

theorem aroundText (marked : Marked backend first) (begins : parted text = true)
    (verbatim : Verbatim text) (markedToo : Marked backend second) :
    Marked backend (first ++ (Symbol.ofChars text ++ second)) := by
  refine marked.append ?_ (markedToo.afterText verbatim)
  obtain ⟨c, separator, rest, rfl⟩ := exists_of_parted begins
  exact ⟨c, separator, Symbol.ofChars rest ++ second, rfl⟩

theorem join {separator : String} (begins : parted separator.toList = true)
    (verbatim : Verbatim separator.toList) {fragments : List Fragment}
    (each : ∀ fragment ∈ fragments, Marked backend fragment.symbols) :
    Marked backend (Fragment.join separator fragments).symbols := by
  induction fragments with
  | nil => exact nil
  | cons first fragments inductionHypothesis =>
      obtain ⟨markedFirst, markedOthers⟩ := List.forall_mem_cons.mp each
      cases fragments with
      | nil => exact markedFirst
      | cons second fragments =>
          rw [Fragment.symbols_join_cons_cons, List.append_assoc]
          exact markedFirst.aroundText begins verbatim (inductionHypothesis markedOthers)

theorem pieces_render {fragment : Fragment} (marked : Marked backend fragment.symbols) :
    Region.plain.pieces (backend.render fragment).text.toList =
      Symbol.pieces backend 1 fragment.symbols := by
  have whole := marked 1 [] (by simp [Separated])
  rw [List.append_nil] at whole
  rw [Backend.render, Fragment.toList_render_text, whole]
  exact List.append_nil _

end Marked

variable {backend : Backend}

theorem membership_marked (key keyword whenEmpty : String) (values : List Value)
    (constant : Verbatim whenEmpty.toList) (verbatim : Verbatim (" " ++ keyword ++ " (").toList) :
    Marked backend (Backend.membership (quoteKey key) keyword whenEmpty values).symbols := by
  by_cases empty : values = []
  · rw [Backend.membership, if_pos empty, Fragment.symbols_ofText]
    exact .ofText constant
  · have comma : Verbatim ", ".toList := fun _ => rfl
    have listed : Marked backend (Fragment.join ", " (values.map .ofParameter)).symbols :=
      .join rfl comma (List.forall_mem_map.mpr fun value _ => .ofParameter value)
    have closing : Verbatim ")".toList := fun _ => rfl
    have marked := (listed.beforeText rfl closing).afterText (verbatim_column key verbatim)
    rw [Backend.membership, if_neg empty]
    simpa using marked

theorem occurrence_marked (key : String) (position : Position) (literal : String) :
    Marked backend (backend.occurrence (quoteKey key) position literal).symbols := by
  have bound {backend : Backend} (text : String) : Marked backend [.parameter (.string text)] :=
    .ofParameter _
  have column (before behind : String) (verbatim : Verbatim before.toList)
      (verbatimToo : Verbatim behind.toList) :
      Verbatim (before ++ quoteKey key ++ behind).toList := by
    rw [String.append_assoc, String.toList_append]
    exact verbatim.append (verbatim_column key verbatimToo)
  have equals : Verbatim ")) = ".toList := fun _ => rfl
  cases backend with
  | postgres =>
      have like : Verbatim " LIKE ".toList := fun _ => rfl
      have escape : Verbatim " ESCAPE '\\'".toList := fun _ => rfl
      have marked : Marked .postgres _ := ((bound (likePattern literal position)).beforeText rfl
        escape).afterText (verbatim_column key like)
      simpa [Backend.occurrence] using marked
  | sqlite =>
      cases position with
      | start =>
          have opened := column "substr(" ", 1, length(" (fun _ => rfl) fun _ => rfl
          have marked : Marked .sqlite _ :=
            ((bound literal).aroundText rfl equals (bound literal)).afterText opened
          simpa [Backend.occurrence] using marked
      | finish =>
          have opened := column "substr(" ", -length(" (fun _ => rfl) fun _ => rfl
          have marked : Marked .sqlite _ :=
            ((bound literal).aroundText rfl equals (bound literal)).afterText opened
          simpa [Backend.occurrence] using marked
      | anywhere =>
          have opened := column "instr(" ", " (fun _ => rfl) fun _ => rfl
          have positive : Verbatim ") > 0".toList := fun _ => rfl
          have marked : Marked .sqlite _ :=
            ((bound literal).beforeText rfl positive).afterText opened
          simpa [Backend.occurrence] using marked

theorem condition_marked (leaf : Leaf) : Marked backend (backend.condition leaf).symbols := by
  obtain ⟨key, test⟩ := leaf
  have always : Verbatim Backend.always.toList := fun _ => rfl
  have never : Verbatim Backend.never.toList := fun _ => rfl
  have isNull : Verbatim " IS NULL".toList := fun _ => rfl
  have notNull : Verbatim " IS NOT NULL".toList := fun _ => rfl
  cases test with
  | compare comparator value =>
      have sign : Verbatim (" " ++ Backend.comparisonSign comparator ++ " ").toList := by
        cases comparator <;> exact fun _ => rfl
      have marked : Marked backend _ := (Marked.ofParameter value).afterText (verbatim_column key sign)
      simpa [Backend.condition] using marked
  | oneOf values => exact membership_marked key "IN" Backend.never values never fun _ => rfl
  | noneOf values => exact membership_marked key "NOT IN" Backend.always values always fun _ => rfl
  | occurs position literal =>
      by_cases empty : literal = ""
      · simpa [Backend.condition, empty] using Marked.ofText (verbatim_column key notNull)
      · simpa [Backend.condition, empty] using occurrence_marked key position literal
  | isNull => simpa [Backend.condition] using Marked.ofText (verbatim_column key isNull)
  | notNull => simpa [Backend.condition] using Marked.ofText (verbatim_column key notNull)

theorem junction_marked {word whenEmpty : String} (constant : Verbatim whenEmpty.toList)
    (verbatim : Verbatim (" " ++ word ++ " ").toList) (begins : parted (" " ++ word ++ " ").toList = true)
    {fragments : List Fragment} (each : ∀ fragment ∈ fragments, Marked backend fragment.symbols) :
    Marked backend (Backend.junction word whenEmpty fragments).symbols := by
  have opening : Verbatim "(".toList := fun _ => rfl
  have closing : Verbatim ")".toList := fun _ => rfl
  have marked := ((Marked.join begins verbatim each).beforeText rfl closing).afterText opening
  unfold Backend.junction
  split
  · simpa using Marked.ofText constant
  · simpa using marked

/-- Keys may contain what looks like placeholders; they are in quotes. -/
theorem write_marked (plan : Plan) : Marked backend (plan.write backend.target).symbols := by
  induction plan with
  | leaf predicate => exact condition_marked predicate
  | all plans inductionHypothesis =>
      rw [Plan.write_all]
      exact junction_marked (fun _ => rfl) (fun _ => rfl) rfl (List.forall_mem_map.mpr inductionHypothesis)
  | any plans inductionHypothesis =>
      rw [Plan.write_any]
      exact junction_marked (fun _ => rfl) (fun _ => rfl) rfl (List.forall_mem_map.mpr inductionHypothesis)

theorem placeholders_render (plan : Plan) :
    placeholders (backend.render (plan.write backend.target)).text =
      (List.range' 1 (backend.render (plan.write backend.target)).parameters.length).map
        backend.number? := by
  rw [placeholders, (write_marked plan).pieces_render, Symbol.numbers_pieces, Backend.render,
    Fragment.render_parameters]

theorem unnumbered_render {fragment : Fragment} (marked : Marked backend fragment.symbols) :
    unnumbered (backend.render fragment).text = (Backend.sqlite.render fragment).text := by
  rw [unnumbered, marked.pieces_render, Symbol.unnumbered_pieces _ 1, ← String.toList_inj,
    String.toList_ofList, Backend.render, Fragment.toList_render_text]

end FilterQuery.Sql
