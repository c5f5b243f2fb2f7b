import FilterQuery.Sql.Fragment

namespace FilterQuery.Sql

/-! Fragments as sequences of characters and bound values.  What a fragment renders
to depends on this view alone. -/

inductive Symbol where
  | character (c : Char)
  | parameter (value : Value)
deriving DecidableEq

namespace Symbol

def ofChars (text : List Char) : List Symbol :=
  text.map .character

def value? : Symbol → Option Value
  | .character _ => none
  | .parameter value => some value

/-- The bound values in order. -/
def values (symbols : List Symbol) : List Value :=
  symbols.filterMap value?

/-- The characters, where `next` is the number of the next placeholder. -/
def render (placeholder : Nat → String) (next : Nat) : List Symbol → List Char
  | [] => []
  | .character c :: symbols => c :: render placeholder next symbols
  | .parameter _ :: symbols =>
      (placeholder next).toList ++ render placeholder (next + 1) symbols

variable {placeholder : Nat → String} {next : Nat}

@[simp]
theorem ofChars_append (first second : List Char) :
    ofChars (first ++ second) = ofChars first ++ ofChars second :=
  List.map_append

@[simp]
theorem values_nil : values [] = [] := rfl

@[simp]
theorem values_ofChars (text : List Char) : values (ofChars text) = [] := by
  simp [values, ofChars, List.filterMap_map, Function.comp_def, value?]

@[simp]
theorem values_append (first second : List Symbol) :
    values (first ++ second) = values first ++ values second :=
  List.filterMap_append

@[simp]
theorem values_parameter (value : Value) (symbols : List Symbol) :
    values (.parameter value :: symbols) = value :: values symbols := rfl

theorem render_append (first second : List Symbol) :
    render placeholder next (first ++ second) =
      render placeholder next first ++ render placeholder (next + (values first).length) second := by
  induction first generalizing next with
  | nil => rfl
  | cons symbol first inductionHypothesis =>
      cases symbol with
      | character c => exact congrArg (c :: ·) inductionHypothesis
      | parameter value =>
          rw [List.cons_append, render, inductionHypothesis, render, values_parameter,
            List.length_cons, List.append_assoc, Nat.add_assoc next 1, Nat.add_comm 1]

@[simp]
theorem render_ofChars (text : List Char) : render placeholder next (ofChars text) = text := by
  induction text with
  | nil => rfl
  | cons c text inductionHypothesis => exact congrArg (c :: ·) inductionHypothesis

end Symbol

namespace Fragment

def partSymbols : Part → List Symbol
  | .text text => Symbol.ofChars text.toList
  | .parameter value => [.parameter value]

def symbols (fragment : Fragment) : List Symbol :=
  fragment.parts.flatMap partSymbols

@[simp]
theorem symbols_empty : empty.symbols = [] := rfl

theorem symbols_prependText (text : String) (fragment : Fragment) :
    (prependText text fragment).symbols = Symbol.ofChars text.toList ++ fragment.symbols := by
  unfold prependText
  split
  · rename_i nothing
    rw [nothing]
    rfl
  · split
    · rename_i next parts known
      simp [symbols, known, partSymbols, Symbol.ofChars]
    · simp [symbols, partSymbols]

@[simp]
theorem symbols_ofText (text : String) : (ofText text).symbols = Symbol.ofChars text.toList := by
  rw [ofText, symbols_prependText, symbols_empty, List.append_nil]

@[simp]
theorem symbols_ofParameter (value : Value) : (ofParameter value).symbols = [.parameter value] := rfl

theorem symbols_prepend (part : Part) (fragment : Fragment) :
    (prepend part fragment).symbols = partSymbols part ++ fragment.symbols := by
  cases part with
  | text text => exact symbols_prependText text fragment
  | parameter value => rfl

@[simp]
theorem symbols_append (first second : Fragment) :
    (first ++ second).symbols = first.symbols ++ second.symbols := by
  change (first.parts.foldr prepend second).symbols =
    first.parts.flatMap partSymbols ++ second.symbols
  induction first.parts with
  | nil => rfl
  | cons part parts inductionHypothesis =>
      rw [List.foldr_cons, symbols_prepend, inductionHypothesis, List.flatMap_cons,
        List.append_assoc]

@[simp]
theorem symbols_join_cons_cons (separator : String) (first second : Fragment)
    (others : List Fragment) :
    (join separator (first :: second :: others)).symbols =
      first.symbols ++ Symbol.ofChars separator.toList ++
        (join separator (second :: others)).symbols := by
  rw [join, symbols_append, symbols_append, symbols_ofText]
  simp

theorem symbols_join (separator : String) (fragments : List Fragment) :
    (join separator fragments).symbols =
      (Symbol.ofChars separator.toList).intercalate (fragments.map symbols) := by
  induction fragments with
  | nil => rfl
  | cons first fragments inductionHypothesis =>
      cases fragments with
      | nil => simp [join]
      | cons second fragments =>
          rw [symbols_join_cons_cons, inductionHypothesis]
          simp only [List.map_cons, List.intercalate_cons_cons]

variable {placeholder : Nat → String}

theorem renderParts_eq_render (next : Nat) (parts : List Part) :
    (renderParts placeholder next parts).flatMap String.toList =
      Symbol.render placeholder next (parts.flatMap partSymbols) := by
  induction parts generalizing next with
  | nil => rfl
  | cons part parts inductionHypothesis =>
      cases part with
      | text text =>
          simp [renderParts, partSymbols, Symbol.render_append, inductionHypothesis]
      | parameter value =>
          simp [renderParts, partSymbols, Symbol.render, inductionHypothesis]

theorem toList_render_text (fragment : Fragment) :
    (fragment.render placeholder).text.toList = Symbol.render placeholder 1 fragment.symbols := by
  rw [render, String.toList_join, renderParts_eq_render]
  rfl

theorem render_parameters (fragment : Fragment) :
    (fragment.render placeholder).parameters = Symbol.values fragment.symbols := by
  change fragment.parts.filterMap _ = Symbol.values (fragment.parts.flatMap partSymbols)
  induction fragment.parts with
  | nil => rfl
  | cons part parts inductionHypothesis =>
      cases part with
      | text text => simpa [partSymbols] using inductionHypothesis
      | parameter value => simpa [partSymbols] using inductionHypothesis

end Fragment

theorem values_join (separator : String) (fragments : List Fragment) :
    Symbol.values (Fragment.join separator fragments).symbols =
      fragments.flatMap fun fragment => Symbol.values fragment.symbols := by
  induction fragments with
  | nil => rfl
  | cons first fragments inductionHypothesis =>
      cases fragments with
      | nil => simp [Fragment.join]
      | cons second fragments =>
          rw [Fragment.symbols_join_cons_cons, Symbol.values_append, Symbol.values_append,
            Symbol.values_ofChars, List.append_nil, inductionHypothesis]
          rfl

end FilterQuery.Sql
