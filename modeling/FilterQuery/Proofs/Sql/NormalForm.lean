import FilterQuery.Proofs.Sql.Symbols
import Mathlib.Data.List.Chain
import Mathlib.Data.List.Forall2

namespace FilterQuery.Sql

/-! Fragments in normal form, which their symbols determine.  All that can be put together
from texts and values is in normal form, so that the way in which it is done leaves no trace. -/

def Part.isText : Part → Bool
  | .text _ => true
  | .parameter _ => false

/-- No text is empty, and texts are not adjacent. -/
structure Fragment.Normal (fragment : Fragment) : Prop where
  nonempty : .text "" ∉ fragment.parts
  apart : fragment.parts.IsChain fun first second => ¬(first.isText ∧ second.isText)

structure Fragment.IsFormOf (fragment : Fragment) (symbols : List Symbol) : Prop where
  normal : fragment.Normal
  symbols_eq : fragment.symbols = symbols

def Symbol.part : Symbol → Part
  | .character c => .text (String.singleton c)
  | .parameter value => .parameter value

/-- The normal form of a sequence of symbols. -/
def Fragment.ofSymbols (symbols : List Symbol) : Fragment :=
  symbols.foldr (fun symbol => prepend symbol.part) empty

/-- Parts that differ in their values only, and there by related ones. -/
inductive Part.Related (related : Value → Value → Prop) : Part → Part → Prop where
  | text (text : String) : Related related (.text text) (.text text)
  | parameter {first second : Value} (values : related first second) :
      Related related (.parameter first) (.parameter second)

inductive Symbol.Related (related : Value → Value → Prop) : Symbol → Symbol → Prop where
  | character (c : Char) : Related related (.character c) (.character c)
  | parameter {first second : Value} (values : related first second) :
      Related related (.parameter first) (.parameter second)

namespace Fragment

variable {first second fragment : Fragment}

theorem normal_cons {part : Part} {parts : List Part} :
    Normal ⟨part :: parts⟩ ↔ part ≠ .text "" ∧ (∀ next ∈ parts.head?, ¬(part.isText ∧ next.isText)) ∧
      Normal ⟨parts⟩ := by
  constructor
  · intro normal
    obtain ⟨first, others⟩ := not_or.mp (List.mem_cons.not.mp normal.nonempty)
    obtain ⟨head, tail⟩ := List.isChain_cons.mp normal.apart
    exact ⟨Ne.symm first, head, others, tail⟩
  · rintro ⟨first, head, tail⟩
    exact ⟨List.mem_cons.not.mpr (not_or.mpr ⟨Ne.symm first, tail.nonempty⟩), List.isChain_cons.mpr ⟨head, tail.apart⟩⟩

theorem normal_empty : empty.Normal :=
  ⟨List.not_mem_nil, .nil⟩

theorem normal_prependText (normal : fragment.Normal) (text : String) :
    (prependText text fragment).Normal := by
  unfold prependText
  split
  · exact normal
  · rename_i nonempty
    obtain ⟨parts⟩ := fragment
    match parts with
    | [] => exact normal_cons.mpr ⟨by simpa using nonempty, by simp, normal⟩
    | .text next :: parts =>
        obtain ⟨_, apart, rest⟩ := normal_cons.mp normal
        exact normal_cons.mpr ⟨by simp [nonempty], apart, rest⟩
    | .parameter value :: parts =>
        exact normal_cons.mpr ⟨by simpa using nonempty, by simp [Part.isText], normal⟩

theorem normal_prepend (normal : fragment.Normal) (part : Part) : (prepend part fragment).Normal := by
  cases part with
  | text text => exact normal_prependText normal text
  | parameter value => exact normal_cons.mpr ⟨by simp, by simp [Part.isText], normal⟩

theorem normal_ofText (text : String) : (ofText text).Normal :=
  normal_prependText normal_empty text

theorem normal_ofParameter (value : Value) : (ofParameter value).Normal :=
  normal_prepend normal_empty (.parameter value)

theorem normal_append (first : Fragment) (normal : second.Normal) : (first ++ second).Normal := by
  change (first.parts.foldr prepend second).Normal
  induction first.parts with
  | nil => exact normal
  | cons part parts inductionHypothesis => exact normal_prepend inductionHypothesis part

theorem normal_join (separator : String) {fragments : List Fragment}
    (each : ∀ fragment ∈ fragments, fragment.Normal) : (join separator fragments).Normal := by
  induction fragments with
  | nil => exact normal_empty
  | cons fragment fragments inductionHypothesis =>
      obtain ⟨first, others⟩ := List.forall_mem_cons.mp each
      cases fragments with
      | nil => exact first
      | cons next fragments => exact normal_append _ (inductionHypothesis others)

/-! ### The symbols determine the normal form -/

@[simp]
theorem prependText_empty (fragment : Fragment) : prependText "" fragment = fragment :=
  if_pos rfl

theorem prependText_prependText (before text : String) :
    prependText before (prependText text fragment) = prependText (before ++ text) fragment := by
  by_cases empty : text = ""
  · simp [empty]
  · by_cases emptyBefore : before = ""
    · simp [emptyBefore]
    · have joined : before ++ text ≠ "" := by simp [emptyBefore]
      obtain ⟨parts⟩ := fragment
      simp only [prependText, if_neg empty, if_neg emptyBefore, if_neg joined]
      match parts with
      | [] => rfl
      | .text next :: parts => simp [String.append_assoc]
      | .parameter value :: parts => rfl

theorem ofSymbols_append_ofChars (text : List Char) (symbols : List Symbol) :
    ofSymbols (Symbol.ofChars text ++ symbols) = prependText (String.ofList text) (ofSymbols symbols) := by
  induction text with
  | nil => rfl
  | cons c text inductionHypothesis =>
      change prependText (String.singleton c) (ofSymbols (Symbol.ofChars text ++ symbols)) = _
      rw [inductionHypothesis, prependText_prependText, String.singleton_eq_ofList, ← String.ofList_append]
      rfl

theorem Normal.ofSymbols_symbols (normal : fragment.Normal) : ofSymbols fragment.symbols = fragment := by
  obtain ⟨parts⟩ := fragment
  induction parts with
  | nil => rfl
  | cons part parts inductionHypothesis =>
      obtain ⟨nonempty, apart, rest⟩ := normal_cons.mp normal
      change ofSymbols (partSymbols part ++ symbols ⟨parts⟩) = _
      cases part with
      | parameter value => exact congrArg (prependParameter value) (inductionHypothesis rest)
      | text text =>
          rw [partSymbols, ofSymbols_append_ofChars, inductionHypothesis rest, String.ofList_toList,
            prependText, if_neg (by simpa using nonempty)]
          cases parts with
          | nil => rfl
          | cons next parts =>
              cases next with
              | text next => simp [Part.isText] at apart
              | parameter value => rfl

theorem Normal.eq_of_symbols (normal : first.Normal) (normalToo : second.Normal)
    (same : first.symbols = second.symbols) : first = second := by
  rw [← normal.ofSymbols_symbols, ← normalToo.ofSymbols_symbols, same]

section Related

variable {related : Value → Value → Prop}

theorem symbols_related {parts others : List Part}
    (each : List.Forall₂ (Part.Related related) parts others) :
    List.Forall₂ (Symbol.Related related) (symbols ⟨parts⟩) (symbols ⟨others⟩) := by
  induction each with
  | nil => exact .nil
  | cons part _ inductionHypothesis =>
      refine List.rel_append ?_ inductionHypothesis
      cases part with
      | text text => exact List.forall₂_map_left_iff.mpr (List.forall₂_map_right_iff.mpr
          (List.forall₂_same.mpr fun c _ => .character c))
      | parameter values => exact .cons (.parameter values) .nil

theorem prepend_related {part other : Part} (parts : Part.Related related part other)
    (rest : List.Forall₂ (Part.Related related) first.parts second.parts) :
    List.Forall₂ (Part.Related related) (prepend part first).parts (prepend other second).parts := by
  cases parts with
  | parameter values => exact .cons (.parameter values) rest
  | text text =>
      obtain ⟨parts⟩ := first
      obtain ⟨others⟩ := second
      change List.Forall₂ _ (prependText text ⟨parts⟩).parts (prependText text ⟨others⟩).parts
      unfold prependText
      split
      · exact rest
      · cases rest with
        | nil => exact .cons (.text text) .nil
        | cons next rest =>
            cases next with
            | text next => exact .cons (.text _) rest
            | parameter values => exact .cons (.text text) (.cons (.parameter values) rest)

theorem ofSymbols_related {symbols others : List Symbol}
    (each : List.Forall₂ (Symbol.Related related) symbols others) :
    List.Forall₂ (Part.Related related) (ofSymbols symbols).parts (ofSymbols others).parts := by
  induction each with
  | nil => exact .nil
  | cons symbol _ inductionHypothesis =>
      refine prepend_related ?_ inductionHypothesis
      cases symbol with
      | character c => exact .text _
      | parameter values => exact .parameter values

theorem Normal.related_iff (normal : first.Normal) (normalToo : second.Normal) :
    List.Forall₂ (Part.Related related) first.parts second.parts ↔
      List.Forall₂ (Symbol.Related related) first.symbols second.symbols := by
  refine ⟨symbols_related, fun each => ?_⟩
  rw [← normal.ofSymbols_symbols, ← normalToo.ofSymbols_symbols]
  exact ofSymbols_related each

end Related

end Fragment

end FilterQuery.Sql
