import FilterQuery.Proofs.Sql.Tokens

namespace FilterQuery.Sql

/-! How quoted names and placeholders are read. -/

namespace Mode

theorem run_continued {mode : Mode} (next : Mode) {c : Char} {text : List Char}
    (continued : mode.continued? c = some next) : mode.run (c :: text) = next.run text := by
  rw [run, step, continued]
  cases run : next.run text <;> simp [run]

theorem run_begun (mode : Mode) {c : Char} {text : List Char}
    (begun : begun? c = some ([], mode)) : run .between (c :: text) = mode.run text := by
  have stepped : step .between c = some ([], mode) := by
    change (begun? c).bind _ = _
    rw [begun]
    rfl
  rw [run, stepped]
  cases run : mode.run text <;> simp [run]

theorem run_name (text name rest : List Char) :
    run (.name text false) ((name.flatMap fun c => if c = '"' then ['"', '"'] else [c]) ++ rest) =
      run (.name (text ++ name) false) rest := by
  induction name generalizing text with
  | nil => simp
  | cons c name inductionHypothesis =>
      rw [List.flatMap_cons, List.append_assoc]
      by_cases quote : c = '"'
      · rw [if_pos quote, List.cons_append, run_continued (.name text true) (by simp [continued?]),
          List.cons_append, run_continued (.name (text ++ ['"']) false) (by simp [continued?]),
          List.nil_append, inductionHypothesis, quote, List.append_assoc]
        rfl
      · rw [if_neg quote, List.cons_append,
          run_continued (.name (text ++ [c]) false) (by simp [continued?, quote]),
          List.nil_append, inductionHypothesis, List.append_assoc]
        rfl

theorem run_dollar {started digits : List Char} (each : ∀ c ∈ digits, c.isDigit = true) :
    run (.dollar started) digits = some ([], .dollar (started ++ digits)) := by
  induction digits generalizing started with
  | nil => simp [run]
  | cons c digits inductionHypothesis =>
      obtain ⟨first, others⟩ := List.forall_mem_cons.mp each
      rw [run_continued (.dollar (started ++ [c])) (by simp [continued?, first]),
        inductionHypothesis others, List.append_assoc]
      rfl

end Mode

/-- Whatever a name consists of, it is read back. -/
theorem reads_quoteName (name : List Char) : Reads (quoteName name) (fixed [.name name]) := by
  refine reads_of_run [] (.name name true) ?_ rfl rfl
  rw [quoteName, List.cons_append, Mode.run_begun (.name [] false) rfl, Mode.run_name]
  rfl

theorem closes_dot : Closes ['.'] (fixed [.dot]) :=
  closes_of_run rfl

theorem reads_names {names : List (List Char)} (nonempty : names ≠ []) :
    Reads (['.'].intercalate (names.map quoteName)) (fixed (path names)) := by
  induction names with
  | nil => contradiction
  | cons name names inductionHypothesis =>
      cases names with
      | nil => simpa [path, fixed] using reads_quoteName name
      | cons other names =>
          have rest := closes_dot.append_reads (inductionHypothesis (List.cons_ne_nil _ _))
          have whole := (reads_quoteName name).append_reads (by simp [Separated, separators])
            (by simp) rest
          simpa [path, fixed] using whole

theorem reads_quoteKey (key : String) :
    Reads (quoteKey key).toList (fixed (path (key.toList.splitOn '.'))) := by
  rw [quoteKey, String.toList_ofList]
  exact reads_names (List.splitOn_ne_nil _ _)

def Backend.number? : Backend → Nat → Option Nat
  | .postgres, number => some number
  | .sqlite, _ => none

theorem toList_placeholder (number : Nat) :
    (Backend.placeholder .postgres number).toList = '$' :: Nat.toDigits 10 number := by
  rw [Backend.placeholder, String.toList_append, Nat.toString_eq_ofList_toDigits,
    String.toList_ofList (l := Nat.toDigits 10 number)]
  rfl

theorem reads_placeholder (backend : Backend) (number : Nat) :
    Reads (backend.placeholder number).toList [.placeholder (backend.number? number)] := by
  cases backend with
  | sqlite =>
      have run : Mode.run .between "?".toList = some ([.placeholder none], .between) := rfl
      exact (closes_of_run run).reads
  | postgres =>
      rw [toList_placeholder]
      refine reads_of_run [] (.dollar (Nat.toDigits 10 number)) ?_ ?_ ?_
      · rw [Mode.run_begun (.dollar []) rfl]
        exact Mode.run_dollar fun c => Nat.isDigit_of_mem_toDigits (by decide) (by decide)
      · simp [Mode.ended?, Nat.toDigits_ne_nil, Backend.number?]
      · rfl

end FilterQuery.Sql
