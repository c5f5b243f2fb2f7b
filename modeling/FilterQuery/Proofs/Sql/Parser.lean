import FilterQuery.Proofs.Sql.Grammar

namespace FilterQuery.Sql

/-! A parser of conditions, which finds every reading that the grammar allows: there
is at most one. -/

/-- What tokens begin with, and the tokens behind it. -/
abbrev Reader (α : Type) := Tokens → Option (α × Tokens)

def furtherNames : Tokens → List (List Char) × Tokens
  | .lexeme .dot :: .lexeme (.name name) :: tokens =>
      (name :: (furtherNames tokens).1, (furtherNames tokens).2)
  | tokens => ([], tokens)

/-- As many members as there are separators between them, but no more than one
more than `further`. -/
def members? {α : Type} (separator : Lexeme) (member? : Reader α) : Nat → Reader (List α)
  | 0, tokens => do
      let (first, rest) ← member? tokens
      some ([first], rest)
  | further + 1, tokens => do
      let (first, rest) ← member? tokens
      if rest.head? = some (.lexeme separator) then
        let (others, rest) ← members? separator member? further rest.tail
        some (first :: others, rest)
      else some ([first], rest)

def closed? {α : Type} (inner? : Reader α) : Reader α := fun tokens => do
  let (inner, rest) ← inner? tokens
  match rest with
  | .lexeme .closing :: rest => some (inner, rest)
  | _ => none

def separated? {α : Type} (separator : Lexeme) (member? : Reader α) : Reader (List α) :=
  fun tokens => members? separator member? tokens.length tokens

def scalar? : Nat → Reader Scalar
  | 0, _ => none
  | depth + 1, tokens =>
      match tokens with
      | .placeholder value :: rest => some (.bound value, rest)
      | .lexeme (.number value) :: rest => some (.number value, rest)
      | .lexeme (.name name) :: rest =>
          some (.column (name :: (furtherNames rest).1), (furtherNames rest).2)
      | .lexeme .minus :: rest => do
          let (operand, rest) ← scalar? depth rest
          some (.negative operand, rest)
      | .lexeme (.function function) :: .lexeme .opening :: rest => do
          let (arguments, rest) ← closed? (separated? .comma (scalar? depth)) rest
          some (.call function arguments, rest)
      | _ => none

def saying? (depth : Nat) (subject : Scalar) : Reader Predicate
  | .lexeme (.sign comparator) :: rest => do
      let (other, rest) ← scalar? depth rest
      some (.compare comparator subject other, rest)
  | .lexeme (.keyword .like) :: rest => do
      let (pattern, rest) ← scalar? depth rest
      match rest with
      | .lexeme (.keyword .escape) :: .lexeme (.literal escape) :: rest =>
          some (.like subject pattern escape, rest)
      | _ => none
  | .lexeme (.keyword .elementOf) :: .lexeme .opening :: rest => do
      let (choices, rest) ← closed? (separated? .comma (scalar? depth)) rest
      some (.elementOf false subject choices, rest)
  | .lexeme (.keyword .not) :: .lexeme (.keyword .elementOf) :: .lexeme .opening :: rest => do
      let (choices, rest) ← closed? (separated? .comma (scalar? depth)) rest
      some (.elementOf true subject choices, rest)
  | .lexeme (.keyword .is) :: .lexeme (.keyword .null) :: rest =>
      some (.isNull false subject, rest)
  | .lexeme (.keyword .is) :: .lexeme (.keyword .not) :: .lexeme (.keyword .null) :: rest =>
      some (.isNull true subject, rest)
  | _ => none

def predicate? (depth : Nat) : Reader Predicate := fun tokens => do
  let (subject, rest) ← scalar? depth tokens
  saying? depth subject rest

def conjunction? (operand? : Reader Condition) : Reader Condition := fun tokens => do
  let (factors, rest) ← separated? (.keyword .and) operand? tokens
  some (.junction .all factors, rest)

def disjunction? (operand? : Reader Condition) : Reader Condition := fun tokens => do
  let (alternatives, rest) ← separated? (.keyword .or) (conjunction? operand?) tokens
  some (.junction .any alternatives, rest)

def operand? : Nat → Reader Condition
  | 0, _ => none
  | depth + 1, tokens =>
      match tokens with
      | .lexeme .opening :: rest => closed? (disjunction? (operand? depth)) rest
      | tokens => do
          let (predicate, rest) ← predicate? (depth + 1) tokens
          some (.predicate predicate, rest)

/-- The condition that all of the tokens stand for.  What is nested is shorter, so
the number of tokens bounds the depth. -/
def Condition.parse? (tokens : Tokens) : Option Condition := do
  let (condition, rest) ← disjunction? (operand? (tokens.length + 1)) tokens
  if rest = [] then some condition else none

/-- The reader takes the phrase for the thing unless one of the given tokens
follows. -/
def Takes {α : Type} (stops : List Lexeme) (read? : Reader α) (thing : α) (phrase : Tokens) :
    Prop :=
  ∀ rest : Tokens, (∀ stop ∈ stops, rest.head? ≠ some (.lexeme stop)) →
    read? (phrase ++ rest) = some (thing, rest)

theorem separated_cons_cons (separator : Lexeme) (first second : Tokens) (others : List Tokens) :
    separated separator (first :: second :: others) =
      first ++ .lexeme separator :: separated separator (second :: others) := by
  rw [separated, List.intercalate_cons_cons, List.append_assoc]
  rfl

theorem length_le_separated (separator : Lexeme) (phrases : List Tokens) :
    phrases.length ≤ (separated separator phrases).length + 1 := by
  induction phrases with
  | nil => simp
  | cons first others inductionHypothesis =>
      cases others with
      | nil => simp
      | cons second others =>
          simp only [separated_cons_cons, List.length_append, List.length_cons] at *
          omega

theorem length_member_le (separator : Lexeme) {α : Type} {member : α × Tokens}
    {members : List (α × Tokens)} (present : member ∈ members) :
    member.2.length ≤ (separated separator (members.map (·.2))).length := by
  induction members with
  | nil => contradiction
  | cons first others inductionHypothesis =>
      cases others with
      | nil =>
          rw [List.mem_singleton.mp present]
          simp [separated]
      | cons second others =>
          simp only [List.map_cons, separated_cons_cons, List.length_append,
            List.length_cons] at *
          rcases List.mem_cons.mp present with rfl | later
          · omega
          · have shorter := inductionHypothesis later
            omega

section Readers

variable {α : Type} {stops others : List Lexeme} {read? : Reader α} {thing : α} {phrase : Tokens}

theorem members?_takes {separator : Lexeme} (distinct : separator ∉ stops)
    {members : List (α × Tokens)} (nonempty : members ≠ [])
    (each : ∀ member ∈ members, Takes stops read? member.1 member.2) {further : Nat}
    (enough : members.length ≤ further + 1) :
    Takes (separator :: stops) (members? separator read? further) (members.map (·.1))
      (separated separator (members.map (·.2))) := by
  induction members generalizing further with
  | nil => contradiction
  | cons first members inductionHypothesis =>
      obtain ⟨takesFirst, takesOthers⟩ := List.forall_mem_cons.mp each
      intro rest ends
      obtain ⟨parted, ended⟩ := List.forall_mem_cons.mp ends
      cases members with
      | nil =>
          have took := takesFirst rest ended
          cases further <;> simp [members?, separated, took, parted]
      | cons second members =>
          cases further with
          | zero => simp at enough
          | succ further =>
              -- the first member is followed by the separator, which it does not take in
              have took := takesFirst (.lexeme separator ::
                (separated separator ((second :: members).map (·.2)) ++ rest)) fun stop member => by
                  simp only [List.head?_cons, ne_eq, Option.some.injEq, Token.lexeme.injEq]
                  rintro rfl
                  exact distinct member
              have tookOthers := inductionHypothesis (List.cons_ne_nil _ _) takesOthers
                (Nat.le_of_succ_le_succ enough) rest ends
              rw [List.map_cons, List.map_cons, List.map_cons, separated_cons_cons, List.append_assoc,
                List.cons_append, members?]
              simp only [List.map_cons] at took tookOthers
              simp [took, tookOthers]

theorem separated?_takes {separator : Lexeme} (distinct : separator ∉ stops)
    {members : List (α × Tokens)} (nonempty : members ≠ [])
    (each : ∀ member ∈ members, Takes stops read? member.1 member.2) :
    Takes (separator :: stops) (separated? separator read?) (members.map (·.1))
      (separated separator (members.map (·.2))) := by
  intro rest
  refine members?_takes distinct nonempty each ?_ rest
  have bound := length_le_separated separator (members.map (·.2))
  rw [List.length_map] at bound
  rw [List.length_append]
  omega

theorem closed?_takes (inside : .closing ∉ stops) (takes : Takes stops read? thing phrase) :
    Takes others (closed? read?) thing (phrase ++ fixed [.closing]) := by
  intro rest _
  have took := takes (.lexeme .closing :: rest) fun stop member => by
    simp only [List.head?_cons, ne_eq, Option.some.injEq, Token.lexeme.injEq]
    rintro rfl
    exact inside member
  rw [List.append_assoc]
  simp [closed?, fixed, took]

theorem list_takes {members : List (α × Tokens)} (nonempty : members ≠ [])
    (each : ∀ member ∈ members, Takes [.dot] read? member.1 member.2) :
    Takes others (closed? (separated? .comma read?)) (members.map (·.1))
      (separated .comma (members.map (·.2)) ++ fixed [.closing]) := by
  have distinct : Lexeme.comma ∉ [Lexeme.dot] := by decide
  have inside : Lexeme.closing ∉ [Lexeme.comma, .dot] := by decide
  exact closed?_takes inside (separated?_takes distinct nonempty each)

end Readers

theorem furtherNames_append {names : List (List Char)} {rest : Tokens}
    (ends : rest.head? ≠ some (.lexeme .dot)) :
    furtherNames (fixed (names.flatMap fun name => [.dot, .name name]) ++ rest) = (names, rest) := by
  induction names with
  | nil =>
      change furtherNames rest = ([], rest)
      unfold furtherNames
      split
      · simp at ends
      · rfl
  | cons name names inductionHypothesis =>
      rw [List.flatMap_cons, fixed, List.map_append]
      change furtherNames (.lexeme .dot :: .lexeme (.name name) :: (fixed _ ++ rest)) = _
      rw [furtherNames, inductionHypothesis]

theorem path_cons (name : List Char) (names : List (List Char)) :
    path (name :: names) = .name name :: names.flatMap fun name => [.dot, .name name] := by
  induction names generalizing name with
  | nil => simp [path]
  | cons other names inductionHypothesis =>
      have rest := inductionHypothesis other
      rw [path, List.map_cons] at rest
      rw [path, List.map_cons, List.map_cons, List.intercalate_cons_cons, rest]
      rfl

theorem Scalar.Derives.takes {scalar : Scalar} {tokens : Tokens} (derives : scalar.Derives tokens)
    (depth : Nat) (enough : tokens.length ≤ depth) :
    Takes [.dot] (scalar? (depth + 1)) scalar tokens := by
  induction derives generalizing depth with
  | @column names nonempty =>
      obtain ⟨name, names, rfl⟩ := List.exists_cons_of_ne_nil nonempty
      intro rest ends
      rw [path_cons]
      change scalar? (depth + 1) (.lexeme (.name name) :: (fixed _ ++ rest)) = _
      rw [scalar?, furtherNames_append (ends .dot List.mem_cons_self)]
  | bound value => exact fun rest _ => rfl
  | number value => exact fun rest _ => rfl
  | @negative operand tokens derives inductionHypothesis =>
      cases depth with
      | zero => simp [fixed] at enough
      | succ depth =>
          intro rest ends
          have took := inductionHypothesis depth (Nat.le_of_succ_le_succ enough) rest ends
          change scalar? (depth + 1 + 1) (.lexeme .minus :: (tokens ++ rest)) = _
          rw [scalar?, took]
          rfl
  | @call function arguments nonempty derives inductionHypothesis =>
      -- the name and the parentheses leave less than `depth` tokens for each argument
      cases depth with
      | zero => simp [fixed] at enough
      | succ depth =>
          intro rest ends
          have each : ∀ argument ∈ arguments,
              Takes [.dot] (scalar? (depth + 1)) argument.1 argument.2 := by
            intro argument member
            have shorter := length_member_le .comma member
            simp only [fixed, List.map_cons, List.map_nil, List.length_append, List.length_cons,
              List.length_nil] at enough
            exact inductionHypothesis argument member depth (by omega)
          have took := list_takes nonempty each rest ends
          change scalar? (depth + 1 + 1) (.lexeme (.function function) :: .lexeme .opening ::
            (separated .comma (arguments.map (·.2)) ++ fixed [.closing] ++ rest)) = _
          rw [scalar?, took]
          rfl

theorem members_take {members : List (Scalar × Tokens)}
    (derives : ∀ member ∈ members, member.1.Derives member.2) (depth : Nat)
    (enough : (separated .comma (members.map (·.2))).length ≤ depth) :
    ∀ member ∈ members, Takes [.dot] (scalar? (depth + 1)) member.1 member.2 :=
  fun member present => (derives member present).takes depth
    (Nat.le_trans (length_member_le .comma present) enough)

theorem predicate?_append {subject : Scalar} {first : Tokens} {depth : Nat}
    (takes : Takes [.dot] (scalar? depth) subject first) {lexeme : Lexeme} (other : lexeme ≠ .dot)
    (tokens : Tokens) :
    predicate? depth (first ++ .lexeme lexeme :: tokens) =
      saying? depth subject (.lexeme lexeme :: tokens) := by
  rw [predicate?, takes (.lexeme lexeme :: tokens) (by simpa using other)]
  rfl

theorem Predicate.Derives.takes {predicate : Predicate} {tokens : Tokens}
    (derives : predicate.Derives tokens) (depth : Nat) (enough : tokens.length ≤ depth) :
    Takes [.dot] (predicate? (depth + 1)) predicate tokens := by
  intro rest ends
  cases derives with
  | @compare comparator left right first second leftDerives rightDerives =>
      simp only [List.length_append] at enough
      have takes := leftDerives.takes depth (by omega)
      have took := rightDerives.takes depth (by omega) rest ends
      rw [List.append_assoc, List.append_assoc]
      change predicate? (depth + 1) (first ++ .lexeme (.sign comparator) :: (second ++ rest)) = _
      rw [predicate?_append takes (by simp), saying?, took]
      rfl
  | @like escape subject pattern first second subjectDerives patternDerives =>
      simp only [List.length_append] at enough
      have takes := subjectDerives.takes depth (by omega)
      have took := patternDerives.takes depth (by omega)
        (.lexeme (.keyword .escape) :: .lexeme (.literal escape) :: rest) (by simp)
      rw [List.append_assoc, List.append_assoc, List.append_assoc]
      change predicate? (depth + 1) (first ++ .lexeme (.keyword .like) ::
        (second ++ .lexeme (.keyword .escape) :: .lexeme (.literal escape) :: rest)) = _
      rw [predicate?_append takes (by simp), saying?, took]
      rfl
  | @elementOf negated subject first choices subjectDerives nonempty derives =>
      simp only [List.length_append] at enough
      have takes := subjectDerives.takes depth (by omega)
      have took := list_takes nonempty (members_take derives depth (by omega)) rest ends
      rw [List.append_assoc, List.append_assoc]
      cases negated with
      | false =>
          change predicate? (depth + 1) (first ++ .lexeme (.keyword .elementOf) ::
            .lexeme .opening :: (_ ++ fixed [.closing] ++ rest)) = _
          rw [predicate?_append takes (by simp), saying?, took]
          rfl
      | true =>
          change predicate? (depth + 1) (first ++ .lexeme (.keyword .not) ::
            .lexeme (.keyword .elementOf) :: .lexeme .opening ::
              (_ ++ fixed [.closing] ++ rest)) = _
          rw [predicate?_append takes (by simp), saying?, took]
          rfl
  | @isNull negated subject first subjectDerives =>
      simp only [List.length_append] at enough
      have takes := subjectDerives.takes depth (by omega)
      rw [List.append_assoc]
      cases negated with
      | false =>
          change predicate? (depth + 1) (first ++ .lexeme (.keyword .is) ::
            .lexeme (.keyword .null) :: rest) = _
          rw [predicate?_append takes (by simp)]
          rfl
      | true =>
          change predicate? (depth + 1) (first ++ .lexeme (.keyword .is) ::
            .lexeme (.keyword .not) :: .lexeme (.keyword .null) :: rest) = _
          rw [predicate?_append takes (by simp)]
          rfl

theorem Scalar.Derives.begins {scalar : Scalar} {tokens : Tokens} (derives : scalar.Derives tokens) :
    ∃ token others, tokens = token :: others ∧ token ≠ .lexeme .opening := by
  cases derives with
  | @column names nonempty =>
      obtain ⟨name, names, rfl⟩ := List.exists_cons_of_ne_nil nonempty
      exact ⟨_, _, by rw [path_cons, fixed, List.map_cons], by simp⟩
  | bound value => exact ⟨_, _, rfl, by simp⟩
  | number value => exact ⟨_, _, rfl, by simp⟩
  | negative derives => exact ⟨_, _, rfl, by simp⟩
  | call function nonempty derives => exact ⟨_, _, rfl, by simp⟩

theorem Predicate.Derives.begins {predicate : Predicate} {tokens : Tokens}
    (derives : predicate.Derives tokens) :
    ∃ token others, tokens = token :: others ∧ token ≠ .lexeme .opening := by
  have subject : ∃ scalar first others, Scalar.Derives scalar first ∧ tokens = first ++ others := by
    cases derives with
    | compare comparator leftDerives rightDerives => exact ⟨_, _, _, leftDerives, rfl⟩
    | like escape subjectDerives patternDerives => exact ⟨_, _, _, subjectDerives, rfl⟩
    | elementOf negated subjectDerives nonempty derives => exact ⟨_, _, _, subjectDerives, rfl⟩
    | isNull negated subjectDerives => exact ⟨_, _, _, subjectDerives, rfl⟩
  obtain ⟨scalar, first, others, scalarDerives, rfl⟩ := subject
  obtain ⟨token, _, rfl, other⟩ := scalarDerives.begins
  exact ⟨token, _, List.cons_append, other⟩

section Junctions

variable {operand? : Reader Condition}

theorem conjunction?_takes {factors : List (Condition × Tokens)} (nonempty : factors ≠ [])
    (each : ∀ operand ∈ factors, Takes [.dot] operand? operand.1 operand.2) :
    Takes [.keyword .and, .dot] (conjunction? operand?) (conjunction factors).1
      (conjunction factors).2 := by
  have distinct : Lexeme.keyword .and ∉ [Lexeme.dot] := by decide
  intro rest ends
  rw [conjunction, conjunction?, separated?_takes distinct nonempty each rest ends]
  rfl

theorem disjunction?_takes {alternatives : List (List (Condition × Tokens))}
    (nonempty : alternatives ≠ [] ∧ ∀ factors ∈ alternatives, factors ≠ [])
    (each : ∀ factors ∈ alternatives, ∀ operand ∈ factors,
      Takes [.dot] operand? operand.1 operand.2) :
    Takes [.keyword .or, .keyword .and, .dot] (disjunction? operand?) (disjunction alternatives).1
      (disjunction alternatives).2 := by
  have distinct : Lexeme.keyword .or ∉ [Lexeme.keyword .and, .dot] := by decide
  have takes : ∀ member ∈ alternatives.map conjunction,
      Takes [.keyword .and, .dot] (conjunction? operand?) member.1 member.2 := by
    rw [List.forall_mem_map]
    exact fun factors member =>
      conjunction?_takes (nonempty.2 factors member) (each factors member)
  intro rest ends
  rw [disjunction, disjunction?, separated?_takes distinct (by simpa using nonempty.1) takes rest ends]
  rfl

end Junctions

theorem Condition.DerivesOperand.takes {condition : Condition} {tokens : Tokens}
    (derives : condition.DerivesOperand tokens) (depth : Nat) (enough : tokens.length ≤ depth) :
    Takes [.dot] (operand? (depth + 1)) condition tokens := by
  induction derives generalizing depth with
  | @predicate predicate tokens derives =>
      intro rest ends
      have took := derives.takes depth enough rest ends
      -- no predicate begins with a parenthesis, so the other branch is taken
      obtain ⟨token, others, rfl, other⟩ := derives.begins
      unfold operand?
      split
      · rename_i opens
        cases opens
        contradiction
      · rw [took]
        rfl
  | @parentheses alternatives nonempty derives inductionHypothesis =>
      cases depth with
      | zero => simp [fixed] at enough
      | succ depth =>
          intro rest ends
          have each : ∀ factors ∈ alternatives, ∀ operand ∈ factors,
              Takes [.dot] (operand? (depth + 1)) operand.1 operand.2 := by
            intro factors member operand present
            have shorter := length_member_le (.keyword .and) present
            have shorterToo := length_member_le (.keyword .or)
              (List.mem_map_of_mem (f := conjunction) member)
            simp only [fixed, List.map_cons, List.map_nil, List.length_append, List.length_cons,
              List.length_nil, disjunction, conjunction] at enough shorterToo
            exact inductionHypothesis factors member operand present depth (by omega)
          have inside : Lexeme.closing ∉ [Lexeme.keyword .or, .keyword .and, .dot] := by decide
          exact closed?_takes inside (disjunction?_takes nonempty each) rest ends

namespace Condition

/-- The parser finds every reading. -/
theorem Derives.parse? {condition : Condition} {tokens : Tokens}
    (derives : condition.Derives tokens) : Condition.parse? tokens = some condition := by
  obtain ⟨alternatives, nonempty, operands, rfl, rfl⟩ := derives
  have each : ∀ factors ∈ alternatives, ∀ operand ∈ factors, Takes [.dot]
      (operand? ((disjunction alternatives).2.length + 1)) operand.1 operand.2 := by
    intro factors member operand present
    have shorter := length_member_le (.keyword .and) present
    have shorterToo := length_member_le (.keyword .or)
      (List.mem_map_of_mem (f := conjunction) member)
    exact (operands factors member operand present).takes _ (Nat.le_trans shorter shorterToo)
  have took := disjunction?_takes nonempty each [] (by simp)
  rw [List.append_nil] at took
  rw [Condition.parse?, took]
  rfl

/-- `AND` binds tighter than `OR` without parentheses. -/
example : Condition.parse? (fixed [.number 1, .sign .equal, .number 2, .keyword .or,
      .number 3, .sign .equal, .number 4, .keyword .and, .number 5, .sign .equal, .number 6]) =
    some (.any [.predicate (.compare .equal (.number 1) (.number 2)),
      .all [.predicate (.compare .equal (.number 3) (.number 4)),
        .predicate (.compare .equal (.number 5) (.number 6))]]) := rfl

theorem Derives.unique {first second : Condition} {tokens : Tokens}
    (derivesFirst : first.Derives tokens) (derivesSecond : second.Derives tokens) :
    first = second := by
  rw [← Option.some.injEq, ← derivesFirst.parse?, ← derivesSecond.parse?]

theorem DerivesOperand.derives {condition : Condition} {tokens : Tokens}
    (derives : condition.DerivesOperand tokens) : condition.Derives tokens :=
  ⟨[[(condition, tokens)]], by simp, by simpa using derives, rfl,
    by simp [disjunction, conjunction, separated]⟩

end Condition

end FilterQuery.Sql
