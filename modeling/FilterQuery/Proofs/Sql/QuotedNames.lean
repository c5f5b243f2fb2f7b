import FilterQuery.Sql.Backend

namespace FilterQuery.Sql

/-! Quoted names with dots between them are read back, in front of any text that does not go on
with them.  So no key can be taken for another one, and none reaches out of its quotes. -/

/-- The characters in front of a closing quote, and the text behind it.  Two quotes stand for
one that is part of the name. -/
def nameEnd? : List Char → Option (List Char × List Char)
  | [] => none
  | c :: text =>
      if c = '"' then
        match text with
        | '"' :: text => (nameEnd? text).map fun (name, rest) => ('"' :: name, rest)
        | rest => some ([], rest)
      else
        (nameEnd? text).map fun (name, rest) => (c :: name, rest)

def quotedName? : List Char → Option (List Char × List Char)
  | '"' :: text => nameEnd? text
  | _ => none

/-- What a name is written as between its quotes. -/
def doubleQuotes (name : List Char) : List Char :=
  name.flatMap fun c => if c = '"' then ['"', '"'] else [c]

variable {text name rest : List Char} {names : List (List Char)}

theorem doubleQuotes_quote (name : List Char) :
    doubleQuotes ('"' :: name) = '"' :: '"' :: doubleQuotes name := rfl

theorem doubleQuotes_plain {c : Char} (plain : c ≠ '"') (name : List Char) :
    doubleQuotes (c :: name) = c :: doubleQuotes name := by
  rw [doubleQuotes, List.flatMap_cons, if_neg plain]
  rfl

theorem nameEnd?_closing (stops : rest.head? ≠ some '"') :
    nameEnd? ('"' :: rest) = some ([], rest) := by
  rw [nameEnd?, if_pos rfl]
  intro text continued
  rw [continued] at stops
  exact stops rfl

theorem nameEnd?_plain {c : Char} (plain : c ≠ '"') (text : List Char) :
    nameEnd? (c :: text) = (nameEnd? text).map fun (name, rest) => (c :: name, rest) := by
  rw [nameEnd?.eq_def]
  exact if_neg plain

theorem nameEnd?_doubleQuotes (stops : rest.head? ≠ some '"') (name : List Char) :
    nameEnd? (doubleQuotes name ++ '"' :: rest) = some (name, rest) := by
  induction name with
  | nil => exact nameEnd?_closing stops
  | cons c name inductionHypothesis =>
      by_cases quote : c = '"'
      · rw [quote, doubleQuotes_quote, List.cons_append, List.cons_append, nameEnd?, if_pos rfl]
        simp only [inductionHypothesis, Option.map_some]
      · rw [doubleQuotes_plain quote, List.cons_append, nameEnd?_plain quote, inductionHypothesis]
        rfl

theorem nameEnd?_eq_some (read : nameEnd? text = some (name, rest)) :
    text = doubleQuotes name ++ '"' :: rest ∧ rest.head? ≠ some '"' := by
  fun_induction nameEnd? text generalizing name with
  | case1 => contradiction
  | case2 text inductionHypothesis =>
      obtain ⟨⟨inner, behind⟩, readInner, ⟨⟩⟩ := Option.map_eq_some_iff.mp read
      obtain ⟨rfl, stops⟩ := inductionHypothesis readInner
      exact ⟨rfl, stops⟩
  | case3 text other =>
      cases read
      refine ⟨rfl, fun quoted => ?_⟩
      obtain ⟨more, begins⟩ := List.head?_eq_some_iff.mp quoted
      exact other more begins
  | case4 c text plain inductionHypothesis =>
      obtain ⟨⟨inner, behind⟩, readInner, ⟨⟩⟩ := Option.map_eq_some_iff.mp read
      obtain ⟨rfl, stops⟩ := inductionHypothesis readInner
      exact ⟨by rw [doubleQuotes_plain plain, List.cons_append], stops⟩

theorem quoteName_append (name rest : List Char) :
    quoteName name ++ rest = '"' :: (doubleQuotes name ++ '"' :: rest) := by
  simp [quoteName, doubleQuotes]

theorem quotedName?_eq_some_iff : quotedName? text = some (name, rest) ↔
    text = quoteName name ++ rest ∧ rest.head? ≠ some '"' := by
  rw [quoteName_append]
  constructor
  · intro read
    unfold quotedName? at read
    split at read
    · obtain ⟨rfl, stops⟩ := nameEnd?_eq_some read
      exact ⟨rfl, stops⟩
    · contradiction
  · intro ⟨written, stops⟩
    rw [written]
    exact nameEnd?_doubleQuotes stops name

theorem length_lt_of_quotedName? (read : quotedName? text = some (name, rest)) :
    rest.length < text.length := by
  rw [(quotedName?_eq_some_iff.mp read).1, quoteName_append]
  simp only [List.length_cons, List.length_append]
  omega

/-- All of the quoted names that a text begins with, and the text behind them; behind a dot there
has to be another name. -/
def quotedNames? (text : List Char) : Option (List (List Char) × List Char) :=
  match _read : quotedName? text with
  | none => none
  | some (name, '.' :: rest) => (quotedNames? rest).map fun (names, rest) => (name :: names, rest)
  | some (name, rest) => some ([name], rest)
termination_by text.length
decreasing_by
  have shorter := length_lt_of_quotedName? _read
  exact Nat.lt_trans (Nat.lt_succ_self _) shorter

/-- Whether a text does not go on with names in front of it. -/
def EndsNames (rest : List Char) : Prop :=
  ∀ c ∈ rest.head?, c ≠ '"' ∧ c ≠ '.'

def quoteNames (names : List (List Char)) : List Char :=
  ['.'].intercalate (names.map quoteName)

theorem quoteNames_cons_cons (name other : List Char) (names : List (List Char)) :
    quoteNames (name :: other :: names) = quoteName name ++ '.' :: quoteNames (other :: names) := by
  simp [quoteNames]

theorem quotedNames?_of_dot (read : quotedName? text = some (name, '.' :: rest)) :
    quotedNames? text = (quotedNames? rest).map fun (names, rest) => (name :: names, rest) := by
  rw [quotedNames?.eq_def]
  split
  next unread => cases unread.symm.trans read
  next readAgain => cases readAgain.symm.trans read; rfl
  next undotted readAgain =>
    cases readAgain.symm.trans read
    exact (undotted rest rfl).elim

theorem quotedNames?_of_end (read : quotedName? text = some (name, rest))
    (ends : rest.head? ≠ some '.') : quotedNames? text = some ([name], rest) := by
  rw [quotedNames?.eq_def]
  split
  next unread => cases unread.symm.trans read
  next readAgain => cases readAgain.symm.trans read; exact absurd rfl ends
  next readAgain => cases readAgain.symm.trans read; rfl

theorem quotedNames?_quoteNames (ends : EndsNames rest) (nonempty : names ≠ []) :
    quotedNames? (quoteNames names ++ rest) = some (names, rest) := by
  induction names with
  | nil => contradiction
  | cons name names inductionHypothesis =>
      cases names with
      | nil =>
          have read : quotedName? (quoteName name ++ rest) = some (name, rest) :=
            quotedName?_eq_some_iff.mpr ⟨rfl, fun quoted => (ends '"' quoted).1 rfl⟩
          rw [quoteNames, List.map_singleton, List.intercalate_singleton]
          exact quotedNames?_of_end read fun dotted => (ends '.' dotted).2 rfl
      | cons other names =>
          have behind := inductionHypothesis (List.cons_ne_nil _ _)
          rw [quoteNames_cons_cons, List.append_assoc, List.cons_append]
          rw [quotedNames?_of_dot (quotedName?_eq_some_iff.mpr ⟨rfl, by simp⟩), behind]
          rfl

theorem quotedNames?_eq_some (read : quotedNames? text = some (names, rest)) :
    names ≠ [] ∧ text = quoteNames names ++ rest ∧ EndsNames rest := by
  fun_induction quotedNames? text generalizing names with
  | case1 => contradiction
  | case2 text name behind readName inductionHypothesis =>
      obtain ⟨⟨others, last⟩, readOthers, ⟨⟩⟩ := Option.map_eq_some_iff.mp read
      obtain ⟨nonempty, rfl, ends⟩ := inductionHypothesis readOthers
      obtain ⟨other, others, rfl⟩ := List.exists_cons_of_ne_nil nonempty
      rw [(quotedName?_eq_some_iff.mp readName).1, quoteNames_cons_cons]
      exact ⟨List.cons_ne_nil _ _, by simp, ends⟩
  | case3 text name behind undotted readName =>
      cases read
      obtain ⟨rfl, stops⟩ := quotedName?_eq_some_iff.mp readName
      refine ⟨List.cons_ne_nil _ _, by simp [quoteNames], fun c first => ⟨?_, ?_⟩⟩
      · intro quote
        rw [quote] at first
        exact stops first
      · intro dot
        rw [dot] at first
        obtain ⟨more, begins⟩ := List.head?_eq_some_iff.mp first
        exact undotted more begins

theorem quotedNames?_eq_some_iff : quotedNames? text = some (names, rest) ↔
    names ≠ [] ∧ text = quoteNames names ++ rest ∧ EndsNames rest := by
  constructor
  · exact quotedNames?_eq_some
  · intro ⟨nonempty, written, ends⟩
    rw [written]
    exact quotedNames?_quoteNames ends nonempty

theorem toList_quoteKey (key : String) :
    (quoteKey key).toList = quoteNames (key.toList.splitOn '.') := by
  rw [quoteKey, String.toList_ofList]
  rfl

theorem quotedNames?_quoteKey_iff (key : String) (rest : List Char) :
    quotedNames? ((quoteKey key).toList ++ rest) = some (key.toList.splitOn '.', rest) ↔
      EndsNames rest := by
  rw [quotedNames?_eq_some_iff, toList_quoteKey]
  constructor
  · exact fun ⟨_, _, ends⟩ => ends
  · exact fun ends => ⟨List.splitOn_ne_nil _ _, rfl, ends⟩

theorem quoteKey_injective {key other : String} (same : quoteKey key = quoteKey other) :
    key = other := by
  have ends : EndsNames [] := fun _ first => by contradiction
  have readKey := (quotedNames?_quoteKey_iff key []).mpr ends
  have readOther := (quotedNames?_quoteKey_iff other []).mpr ends
  rw [same, readOther, Option.some_inj, Prod.mk.injEq] at readKey
  have parts : other.toList.splitOn '.' = key.toList.splitOn '.' := readKey.1
  have joined := congrArg (List.intercalate ['.']) parts
  rw [List.intercalate_splitOn, List.intercalate_splitOn] at joined
  exact (String.toList_inj.mp joined).symm

/-- The column of a key ends where its parts have been read, in front of every text that names do
not go on with, whatever quotes and dots there are in the key. -/
theorem quoteKey_reads_back (key : String) :
    (∀ rest, quotedNames? ((quoteKey key).toList ++ rest) = some (key.toList.splitOn '.', rest) ↔
      EndsNames rest) ∧
    ['.'].intercalate (key.toList.splitOn '.') = key.toList ∧
    ∀ other, quoteKey key = quoteKey other ↔ key = other := by
  refine ⟨quotedNames?_quoteKey_iff key, List.intercalate_splitOn _, fun other => ?_⟩
  exact ⟨quoteKey_injective, congrArg quoteKey⟩

end FilterQuery.Sql
