import FilterQuery.Proofs.Sql.NormalForm

namespace FilterQuery.Sql

/-! How fragments are put together.  Whatever the way, a fragment is the normal form of the
characters and values that have gone into it, and so is one that grows at its end. -/

namespace Fragment

/-- The fragment with more text at its end, which goes on with the last part if that is a text. -/
def pushText (fragment : Fragment) (text : String) : Fragment :=
  if text = "" then
    fragment
  else
    match fragment.parts.getLast? with
    | some (.text last) => ⟨fragment.parts.dropLast ++ [.text (last ++ text)]⟩
    | _ => ⟨fragment.parts ++ [.text text]⟩

def pushParameter (fragment : Fragment) (value : Value) : Fragment :=
  ⟨fragment.parts ++ [.parameter value]⟩

def pushPart (fragment : Fragment) : Part → Fragment
  | .text text => fragment.pushText text
  | .parameter value => fragment.pushParameter value

/-- The parts of the second fragment are put behind the first one by one. -/
def push (first second : Fragment) : Fragment :=
  second.parts.foldl pushPart first

/-- Puts a fragment with its index behind others, and a separator in front of all but the first. -/
def pushNext (separator : String) (joined : Fragment) : Fragment × Nat → Fragment
  | (fragment, 0) => joined.push fragment
  | (fragment, _ + 1) => (joined.pushText separator).push fragment

def pushAll (separator : String) (fragments : List Fragment) : Fragment :=
  fragments.zipIdx.foldl (pushNext separator) empty

variable {fragment first second : Fragment} {symbols others : List Symbol}

theorem normal_concat {parts : List Part} {part : Part} :
    Normal ⟨parts ++ [part]⟩ ↔ Normal ⟨parts⟩ ∧ part ≠ .text "" ∧
      ∀ last ∈ parts.getLast?, ¬(last.isText ∧ part.isText) := by
  constructor
  · intro normal
    obtain ⟨before, _, apart⟩ := List.isChain_append.mp normal.apart
    refine ⟨⟨fun member => normal.nonempty (List.mem_append_left _ member), before⟩, ?_, ?_⟩
    · rintro rfl
      exact normal.nonempty (List.mem_append_right _ (List.mem_singleton_self _))
    · intro last final
      exact apart last final part rfl
  · rintro ⟨normal, nonempty, apart⟩
    refine ⟨?_, List.isChain_append.mpr ⟨normal.apart, .singleton _, ?_⟩⟩
    · intro member
      rcases List.mem_append.mp member with before | last
      · exact normal.nonempty before
      · exact nonempty (List.mem_singleton.mp last).symm
    · rintro last final _ ⟨rfl⟩
      exact apart last final

theorem symbols_concat (parts : List Part) (part : Part) :
    Fragment.symbols ⟨parts ++ [part]⟩ = Fragment.symbols ⟨parts⟩ ++ partSymbols part := by
  simp [Fragment.symbols]

/-! ### What has gone into a fragment -/

theorem IsFormOf.unique (form : first.IsFormOf symbols) (formToo : second.IsFormOf symbols) :
    first = second :=
  form.normal.eq_of_symbols formToo.normal (form.symbols_eq.trans formToo.symbols_eq.symm)

theorem empty_form : empty.IsFormOf [] :=
  ⟨normal_empty, rfl⟩

theorem ofText_form (text : String) : (ofText text).IsFormOf (Symbol.ofChars text.toList) :=
  ⟨normal_ofText text, symbols_ofText text⟩

theorem ofParameter_form (value : Value) : (ofParameter value).IsFormOf [.parameter value] :=
  ⟨normal_ofParameter value, symbols_ofParameter value⟩

theorem IsFormOf.append (form : first.IsFormOf symbols) (formToo : second.IsFormOf others) :
    (first ++ second).IsFormOf (symbols ++ others) := by
  refine ⟨normal_append first formToo.normal, ?_⟩
  rw [symbols_append, form.symbols_eq, formToo.symbols_eq]

theorem IsFormOf.pushText (form : fragment.IsFormOf symbols) (text : String) :
    (fragment.pushText text).IsFormOf (symbols ++ Symbol.ofChars text.toList) := by
  obtain ⟨normal, rfl⟩ := form
  obtain ⟨parts⟩ := fragment
  unfold Fragment.pushText
  split
  · rename_i empty
    exact ⟨normal, by simp [empty, Symbol.ofChars]⟩
  · rename_i nonempty
    split
    · rename_i last final
      obtain ⟨before, rfl⟩ := List.getLast?_eq_some_iff.mp final
      obtain ⟨beforeNormal, _, apart⟩ := normal_concat.mp normal
      rw [List.dropLast_concat]
      refine ⟨normal_concat.mpr ⟨beforeNormal, by simp [nonempty], apart⟩, ?_⟩
      rw [symbols_concat, symbols_concat]
      simp [partSymbols]
    · rename_i other
      refine ⟨normal_concat.mpr ⟨normal, by simpa using nonempty, ?_⟩, symbols_concat _ _⟩
      intro last final
      cases last with
      | text text => exact absurd final (other text)
      | parameter value => simp [Part.isText]

theorem IsFormOf.pushParameter (form : fragment.IsFormOf symbols) (value : Value) :
    (fragment.pushParameter value).IsFormOf (symbols ++ [.parameter value]) := by
  obtain ⟨normal, rfl⟩ := form
  exact ⟨normal_concat.mpr ⟨normal, by simp, by simp [Part.isText]⟩, symbols_concat _ _⟩

theorem IsFormOf.pushPart (form : fragment.IsFormOf symbols) (part : Part) :
    (fragment.pushPart part).IsFormOf (symbols ++ partSymbols part) := by
  cases part with
  | text text => exact form.pushText text
  | parameter value => exact form.pushParameter value

theorem IsFormOf.push (form : first.IsFormOf symbols) (formToo : second.IsFormOf others) :
    (first.push second).IsFormOf (symbols ++ others) := by
  rw [← formToo.symbols_eq]
  obtain ⟨parts⟩ := second
  clear formToo
  induction parts generalizing first symbols with
  | nil => simpa [Fragment.push, Fragment.symbols] using form
  | cons part parts inductionHypothesis =>
      have pushed := inductionHypothesis (form.pushPart part)
      rw [List.append_assoc] at pushed
      exact pushed

theorem IsFormOf.pushNexts {fragments : List Fragment} (each : ∀ fragment ∈ fragments, fragment.Normal)
    (separator : String) (form : fragment.IsFormOf symbols) (index : Nat) :
    ((fragments.zipIdx (index + 1)).foldl (pushNext separator) fragment).IsFormOf
      ((Symbol.ofChars separator.toList).intercalate (symbols :: fragments.map Fragment.symbols)) := by
  induction fragments generalizing fragment symbols index with
  | nil => simpa using form
  | cons next fragments inductionHypothesis =>
      obtain ⟨normal, others⟩ := List.forall_mem_cons.mp each
      have pushed : (pushNext separator fragment (next, index + 1)).IsFormOf
          (symbols ++ Symbol.ofChars separator.toList ++ next.symbols) :=
        (form.pushText separator).push ⟨normal, rfl⟩
      have all := inductionHypothesis others pushed (index + 1)
      rw [List.zipIdx_cons, List.foldl_cons]
      cases fragments <;> simpa using all

theorem pushAll_form {fragments : List Fragment} (each : ∀ fragment ∈ fragments, fragment.Normal)
    (separator : String) : (pushAll separator fragments).IsFormOf
      ((Symbol.ofChars separator.toList).intercalate (fragments.map Fragment.symbols)) := by
  cases fragments with
  | nil => exact empty_form
  | cons fragment fragments =>
      obtain ⟨normal, others⟩ := List.forall_mem_cons.mp each
      exact IsFormOf.pushNexts others separator (empty_form.push ⟨normal, rfl⟩) 0

theorem join_form {fragments : List Fragment} (each : ∀ fragment ∈ fragments, fragment.Normal)
    (separator : String) : (join separator fragments).IsFormOf
      ((Symbol.ofChars separator.toList).intercalate (fragments.map Fragment.symbols)) :=
  ⟨normal_join separator each, symbols_join separator fragments⟩

theorem parameters_eq (fragment : Fragment) :
    fragment.parameters = Symbol.values fragment.symbols := by
  have rendered : (fragment.render fun _ => "").parameters = Symbol.values fragment.symbols :=
    render_parameters fragment
  exact rendered

theorem render_eq (placeholder : Nat → String) (fragment : Fragment) :
    fragment.render placeholder = ⟨String.ofList (Symbol.render placeholder 1 fragment.symbols),
      Symbol.values fragment.symbols⟩ := by
  rw [← toList_render_text, String.ofList_toList, ← parameters_eq]
  rfl

end Fragment

/-- A way to put a fragment together. -/
inductive Assembly where
  | nothing
  | text (text : String)
  | withText (start : Assembly) (text : String)
  | withParameter (start : Assembly) (value : Value)
  | followed (first second : Assembly)
  | joined (separator : String) (pieces : List Assembly)

namespace Assembly

@[induction_eliminator, elab_as_elim]
theorem induction {motive : Assembly → Prop} (nothing : motive .nothing)
    (text : ∀ text, motive (.text text))
    (withText : ∀ start text, motive start → motive (.withText start text))
    (withParameter : ∀ start value, motive start → motive (.withParameter start value))
    (followed : ∀ first second, motive first → motive second → motive (.followed first second))
    (joined : ∀ separator pieces, (∀ piece ∈ pieces, motive piece) →
      motive (.joined separator pieces)) : (assembly : Assembly) → motive assembly
  | .nothing => nothing
  | .text written => text written
  | .withText start added =>
      withText start added (induction nothing text withText withParameter followed joined start)
  | .withParameter start value =>
      withParameter start value (induction nothing text withText withParameter followed joined start)
  | .followed first second =>
      followed first second (induction nothing text withText withParameter followed joined first)
        (induction nothing text withText withParameter followed joined second)
  | .joined separator pieces =>
      joined separator pieces fun piece _ =>
        induction nothing text withText withParameter followed joined piece

def fragment : Assembly → Fragment
  | .nothing => .empty
  | .text written => .ofText written
  | .withText start added => start.fragment ++ .ofText added
  | .withParameter start value => start.fragment ++ .ofParameter value
  | .followed first second => first.fragment ++ second.fragment
  | .joined separator pieces => .join separator (pieces.map fun piece => piece.fragment)

/-- The fragment that is made by putting one thing after the other at its end. -/
def grown : Assembly → Fragment
  | .nothing => .empty
  | .text written => Fragment.empty.pushText written
  | .withText start added => start.grown.pushText added
  | .withParameter start value => start.grown.pushParameter value
  | .followed first second => first.grown.push second.grown
  | .joined separator pieces => .pushAll separator (pieces.map fun piece => piece.grown)

/-- What goes into the fragment. -/
def symbols : Assembly → List Symbol
  | .nothing => []
  | .text written => Symbol.ofChars written.toList
  | .withText start added => start.symbols ++ Symbol.ofChars added.toList
  | .withParameter start value => start.symbols ++ [.parameter value]
  | .followed first second => first.symbols ++ second.symbols
  | .joined separator pieces =>
      (Symbol.ofChars separator.toList).intercalate (pieces.map fun piece => piece.symbols)

section Forms

variable {build : Assembly → Fragment} {pieces : List Assembly}

theorem normal_of_forms (forms : ∀ piece ∈ pieces, (build piece).IsFormOf piece.symbols) :
    ∀ fragment ∈ pieces.map build, fragment.Normal :=
  List.forall_mem_map.mpr fun piece member => (forms piece member).normal

theorem symbols_of_forms (forms : ∀ piece ∈ pieces, (build piece).IsFormOf piece.symbols) :
    (pieces.map build).map Fragment.symbols = pieces.map symbols := by
  rw [List.map_map]
  exact List.map_congr_left fun piece member => (forms piece member).symbols_eq

end Forms

theorem fragment_form (assembly : Assembly) : assembly.fragment.IsFormOf assembly.symbols := by
  induction assembly with
  | nothing => simpa only [fragment, symbols] using Fragment.empty_form
  | text written => simpa only [fragment, symbols] using Fragment.ofText_form written
  | withText start added form =>
      simpa only [fragment, symbols] using form.append (Fragment.ofText_form added)
  | withParameter start value form =>
      simpa only [fragment, symbols] using form.append (Fragment.ofParameter_form value)
  | followed first second form formToo =>
      simpa only [fragment, symbols] using form.append formToo
  | joined separator pieces forms =>
      have joined := Fragment.join_form (normal_of_forms forms) separator
      rw [symbols_of_forms forms] at joined
      simpa only [fragment, symbols] using joined

theorem grown_form (assembly : Assembly) : assembly.grown.IsFormOf assembly.symbols := by
  induction assembly with
  | nothing => simpa only [grown, symbols] using Fragment.empty_form
  | text written =>
      simpa only [grown, symbols, List.nil_append] using Fragment.empty_form.pushText written
  | withText start added form => simpa only [grown, symbols] using form.pushText added
  | withParameter start value form =>
      simpa only [grown, symbols] using form.pushParameter value
  | followed first second form formToo => simpa only [grown, symbols] using form.push formToo
  | joined separator pieces forms =>
      have joined := Fragment.pushAll_form (normal_of_forms forms) separator
      rw [symbols_of_forms forms] at joined
      simpa only [grown, symbols] using joined

/-- Fragments are the normal forms of what has gone into them, and together with the empty one
they are a monoid.  What has gone into a fragment decides what it is rendered to, in whatever
pieces it has been put together. -/
theorem fragments_normal (assembly : Assembly) :
    assembly.fragment.Normal ∧ assembly.grown = assembly.fragment ∧
    assembly.fragment.symbols = assembly.symbols ∧
    (∀ other : Assembly,
      assembly.fragment = other.fragment ↔ assembly.symbols = other.symbols) ∧
    (∀ (related : Value → Value → Prop) (other : Assembly),
      List.Forall₂ (Part.Related related) assembly.fragment.parts other.fragment.parts ↔
        List.Forall₂ (Symbol.Related related) assembly.symbols other.symbols) ∧
    (∀ second third : Assembly,
      assembly.fragment ++ second.fragment ++ third.fragment =
        assembly.fragment ++ (second.fragment ++ third.fragment)) ∧
    assembly.fragment ++ Fragment.empty = assembly.fragment ∧
    Fragment.empty ++ assembly.fragment = assembly.fragment ∧
    (∀ second : Assembly, (assembly.fragment ++ second.fragment).parameters =
      assembly.fragment.parameters ++ second.fragment.parameters) ∧
    (∀ (separator : String) (pieces : List Assembly),
      (Fragment.join separator (pieces.map fragment)).parameters =
        pieces.flatMap fun piece => piece.fragment.parameters) ∧
    ∀ placeholder : Nat → String, assembly.fragment.render placeholder =
      ⟨String.ofList (Symbol.render placeholder 1 assembly.symbols),
        Symbol.values assembly.symbols⟩ := by
  have form := assembly.fragment_form
  refine ⟨form.normal, assembly.grown_form.unique form, form.symbols_eq, ?_, ?_, ?_, ?_, rfl, ?_, ?_, ?_⟩
  · intro other
    rw [← form.symbols_eq, ← other.fragment_form.symbols_eq]
    exact ⟨congrArg Fragment.symbols, form.normal.eq_of_symbols other.fragment_form.normal⟩
  · intro related other
    rw [← form.symbols_eq, ← other.fragment_form.symbols_eq]
    exact form.normal.related_iff other.fragment_form.normal
  · intro second third
    have left := (form.append second.fragment_form).append third.fragment_form
    rw [List.append_assoc] at left
    exact left.unique (form.append (second.fragment_form.append third.fragment_form))
  · have right := form.append Fragment.empty_form
    rw [List.append_nil] at right
    exact right.unique form
  · intro second
    rw [Fragment.parameters_eq, Fragment.symbols_append, Symbol.values_append,
      Fragment.parameters_eq, Fragment.parameters_eq]
  · intro separator pieces
    rw [Fragment.parameters_eq, values_join, List.flatMap_map]
    simp only [Fragment.parameters_eq]
  · intro placeholder
    rw [Fragment.render_eq, form.symbols_eq]

end Assembly

end FilterQuery.Sql
