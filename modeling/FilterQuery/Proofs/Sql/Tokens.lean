import FilterQuery.Sql.Backend

namespace FilterQuery.Sql

/-! Tokens of SQL text.  The text is read character by character; the mode tells
which token has been started, and a token ends where the next character cannot be
part of it. -/

inductive Keyword where
  | and
  | or
  | not
  | elementOf
  | is
  | null
  | like
  | escape
deriving DecidableEq

inductive Function where
  | substr
  | length
  | instr
deriving DecidableEq

inductive Lexeme where
  | name (text : List Char)
  | literal (text : List Char)
  | number (value : Nat)
  | sign (comparator : Comparator)
  | keyword (keyword : Keyword)
  | function (function : Function)
  | opening
  | closing
  | comma
  | dot
  | minus
deriving DecidableEq

inductive Token (α : Type) where
  | lexeme (lexeme : Lexeme)
  | placeholder (content : α)
deriving DecidableEq

def fixed {α : Type} (lexemes : List Lexeme) : List (Token α) :=
  lexemes.map .lexeme

def path (names : List (List Char)) : List Lexeme :=
  [.dot].intercalate (names.map fun name => [.name name])

/-- A placeholder as it is written: with a number or without one. -/
abbrev Written := Token (Option Nat)

/-- A quote inside quotes is written twice: `closed` tells that the last character
was a quote, which ends the token unless another one follows. -/
inductive Mode where
  | between
  | name (text : List Char) (closed : Bool)
  | literal (text : List Char) (closed : Bool)
  | word (letters : List Char)
  | number (digits : List Char)
  | dollar (digits : List Char)
  | sign (characters : List Char)
deriving DecidableEq

def comparisonSigns : List (List Char × Comparator) :=
  [("=".toList, .equal), ("<>".toList, .notEqual), (">".toList, .greater),
    (">=".toList, .atLeast), ("<".toList, .less), ("<=".toList, .atMost)]

def words : List (List Char × Lexeme) :=
  [("AND".toList, .keyword .and), ("OR".toList, .keyword .or), ("NOT".toList, .keyword .not),
    ("IN".toList, .keyword .elementOf), ("IS".toList, .keyword .is),
    ("NULL".toList, .keyword .null), ("LIKE".toList, .keyword .like),
    ("ESCAPE".toList, .keyword .escape), ("substr".toList, .function .substr),
    ("length".toList, .function .length), ("instr".toList, .function .instr)]

def marks : List (Char × Lexeme) :=
  [('(', .opening), (')', .closing), (',', .comma), ('.', .dot), ('-', .minus)]

namespace Mode

def ended? : Mode → Option (List Written)
  | .between => some []
  | .name text closed => if closed then some [.lexeme (.name text)] else none
  | .literal text closed => if closed then some [.lexeme (.literal text)] else none
  | .word letters => (words.lookup letters).map fun word => [.lexeme word]
  | .number digits => some [.lexeme (.number (Nat.ofDigitChars 10 digits 0))]
  | .dollar digits =>
      if digits = [] then none else some [.placeholder (some (Nat.ofDigitChars 10 digits 0))]
  | .sign characters =>
      (comparisonSigns.lookup characters).map fun comparator => [.lexeme (.sign comparator)]

/-- The mode in which the started token goes on. -/
def continued? : Mode → Char → Option Mode
  | .between, _ => none
  | .name text false, c => some (if c = '"' then .name text true else .name (text ++ [c]) false)
  | .name text true, c => if c = '"' then some (.name (text ++ ['"']) false) else none
  | .literal text false, c =>
      some (if c = '\'' then .literal text true else .literal (text ++ [c]) false)
  | .literal text true, c => if c = '\'' then some (.literal (text ++ ['\'']) false) else none
  | .word letters, c => if c.isAlphanum || c = '_' then some (.word (letters ++ [c])) else none
  | .number digits, c => if c.isDigit then some (.number (digits ++ [c])) else none
  | .dollar digits, c => if c.isDigit then some (.dollar (digits ++ [c])) else none
  | .sign characters, c =>
      if c ∈ ['=', '<', '>'] then some (.sign (characters ++ [c])) else none

/-- Tokens of one character, and the mode after the first character of others. -/
def begun? (c : Char) : Option (List Written × Mode) :=
  match marks.lookup c with
  | some mark => some ([.lexeme mark], .between)
  | none =>
      if c = ' ' then some ([], .between)
      else if c = '"' then some ([], .name [] false)
      else if c = '\'' then some ([], .literal [] false)
      else if c = '$' then some ([], .dollar [])
      else if c = '?' then some ([.placeholder none], .between)
      else if c.isDigit then some ([], .number [c])
      else if c.isAlpha then some ([], .word [c])
      else if c ∈ ['=', '<', '>'] then some ([], .sign [c])
      else none

def step (mode : Mode) (c : Char) : Option (List Written × Mode) :=
  match mode.continued? c with
  | some next => some ([], next)
  | none => do
      let last ← mode.ended?
      let (tokens, next) ← begun? c
      some (last ++ tokens, next)

/-- The tokens that end within a text, and the mode behind it. -/
def run (mode : Mode) : List Char → Option (List Written × Mode)
  | [] => some ([], mode)
  | c :: text => do
      let (tokens, next) ← mode.step c
      let (others, last) ← run next text
      some (tokens ++ others, last)

end Mode

def scan (mode : Mode) (text : List Char) : Option (List Written) := do
  let (tokens, last) ← mode.run text
  let ended ← last.ended?
  some (tokens ++ ended)

theorem Mode.run_append (mode : Mode) (first second : List Char) :
    mode.run (first ++ second) =
      (mode.run first).bind fun before =>
        (before.2.run second).map fun behind => (before.1 ++ behind.1, behind.2) := by
  induction first generalizing mode with
  | nil => cases run : mode.run second <;> simp [Mode.run, run]
  | cons c first inductionHypothesis =>
      rw [List.cons_append, Mode.run, Mode.run]
      cases mode.step c with
      | none => rfl
      | some stepped =>
          obtain ⟨tokens, next⟩ := stepped
          simp only [Option.bind_eq_bind, Option.bind_some, inductionHypothesis]
          cases next.run first with
          | none => rfl
          | some before => cases run : before.2.run second <;> simp [run]

theorem scan_append (mode : Mode) (first second : List Char) :
    scan mode (first ++ second) =
      (mode.run first).bind fun before => (scan before.2 second).map (before.1 ++ ·) := by
  simp only [scan, Mode.run_append]
  cases mode.run first with
  | none => rfl
  | some before =>
      cases run : before.2.run second with
      | none => simp [run]
      | some behind => cases ended : behind.2.ended? <;> simp [run, ended]

theorem scan_of_ended {mode : Mode} {tokens : List Written} {text : List Char}
    (ended : mode.ended? = some tokens) (stops : ∀ c ∈ text.head?, mode.continued? c = none) :
    scan mode text = (scan .between text).map (tokens ++ ·) := by
  have betweenEnded : Mode.ended? .between = some [] := rfl
  cases text with
  | nil => simp [scan, Mode.run, ended, betweenEnded]
  | cons c text =>
      -- from here on both sides start the same token with `c`
      have stopped := stops c rfl
      have betweenStopped : Mode.continued? .between c = none := rfl
      simp only [scan, Mode.run, Mode.step, stopped, ended, betweenStopped, betweenEnded,
        Option.bind_eq_bind, Option.bind_some]
      cases Mode.begun? c with
      | none => rfl
      | some begun =>
          simp only [Option.bind_some]
          cases begun.2.run text with
          | none => rfl
          | some behind => cases last : behind.2.ended? <;> simp [last]

/-- The characters behind which every token ends. -/
def separators : List Char := [' ', ')', ',', '.']

def parted (text : List Char) : Bool :=
  text.head?.any separators.contains

def Separated (text : List Char) : Prop := ∀ c ∈ text.head?, c ∈ separators

theorem exists_of_parted {text : List Char} (begins : parted text = true) :
    ∃ c ∈ separators, ∃ rest, text = c :: rest := by
  cases text with
  | nil => contradiction
  | cons c rest => exact ⟨c, List.contains_iff_mem.mp begins, rest, rfl⟩

/-- The text stands for the tokens if a separator follows. -/
def Reads (text : List Char) (tokens : List Written) : Prop :=
  ∀ rest, Separated rest → scan .between (text ++ rest) = (scan .between rest).map (tokens ++ ·)

/-- The text stands for the tokens whatever follows. -/
def Closes (text : List Char) (tokens : List Written) : Prop :=
  ∀ rest, scan .between (text ++ rest) = (scan .between rest).map (tokens ++ ·)

section Composition

variable {first second : List Char} {tokens others : List Written}

theorem Closes.reads (closes : Closes first tokens) : Reads first tokens :=
  fun rest _ => closes rest

theorem Closes.append_reads (closes : Closes first tokens) (reads : Reads second others) :
    Reads (first ++ second) (tokens ++ others) := by
  intro rest separated
  rw [List.append_assoc, closes, reads rest separated, Option.map_map]
  simp [Function.comp_def]

theorem Separated.append (separated : Separated second) (nonempty : second ≠ []) (rest : List Char) :
    Separated (second ++ rest) := by
  cases second with
  | nil => contradiction
  | cons c second => exact separated

theorem Reads.append_reads (reads : Reads first tokens) (separated : Separated second)
    (nonempty : second ≠ []) (readsToo : Reads second others) :
    Reads (first ++ second) (tokens ++ others) := by
  intro rest follows
  rw [List.append_assoc, reads _ (separated.append nonempty rest), readsToo rest follows,
    Option.map_map]
  simp [Function.comp_def]

theorem closes_of_run (run : Mode.run .between first = some (tokens, .between)) :
    Closes first tokens := by
  intro rest
  rw [scan_append, run, Option.bind_some]

theorem reads_of_run (tokens : List Written) (mode : Mode) {last : List Written}
    (run : Mode.run .between first = some (tokens, mode)) (ended : mode.ended? = some last)
    (stops : separators.all (fun c => (mode.continued? c).isNone) = true) :
    Reads first (tokens ++ last) := by
  intro rest separated
  have stopped : ∀ c ∈ rest.head?, mode.continued? c = none := fun c first =>
    Option.isNone_iff_eq_none.mp (List.all_eq_true.mp stops c (separated c first))
  rw [scan_append, run, Option.bind_some, scan_of_ended ended stopped, Option.map_map]
  simp [Function.comp_def]

theorem Reads.scan (reads : Reads first tokens) : scan .between first = some tokens := by
  have whole := reads [] (by simp [Separated])
  rw [List.append_nil] at whole
  simpa [Sql.scan, Mode.run, Mode.ended?] using whole

end Composition

end FilterQuery.Sql
