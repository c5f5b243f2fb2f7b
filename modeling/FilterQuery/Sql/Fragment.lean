import FilterQuery.Value

namespace FilterQuery.Sql

/-! Pieces of SQL text with the values bound in them, which are only given
placeholders once the text is complete. -/

inductive Part where
  | text (text : String)
  | parameter (value : Value)
deriving DecidableEq

/-- The operations below keep texts apart by parameters and leave out empty
ones, so there is one way to write a fragment. -/
structure Fragment where
  parts : List Part
deriving DecidableEq

/-- Text with numbered or plain placeholders, and the values for them in order. -/
structure Statement where
  text : String
  parameters : List Value
deriving DecidableEq

def Statement.toJson (statement : Statement) : Json :=
  .object [("sql", .string statement.text),
    ("params", .array (statement.parameters.map Value.toJson))]

namespace Fragment

def empty : Fragment := ⟨[]⟩

instance : Inhabited Fragment := ⟨empty⟩

def prependText (text : String) (fragment : Fragment) : Fragment :=
  if text = "" then
    fragment
  else
    match fragment.parts with
    | .text next :: parts => ⟨.text (text ++ next) :: parts⟩
    | parts => ⟨.text text :: parts⟩

def prependParameter (value : Value) (fragment : Fragment) : Fragment :=
  ⟨.parameter value :: fragment.parts⟩

def prepend : Part → Fragment → Fragment
  | .text text => prependText text
  | .parameter value => prependParameter value

def ofText (text : String) : Fragment :=
  prependText text empty

def ofParameter (value : Value) : Fragment :=
  prependParameter value empty

def append (first second : Fragment) : Fragment :=
  first.parts.foldr prepend second

instance : Append Fragment := ⟨append⟩

/-- Fragments with a text between each two. -/
def join (separator : String) : List Fragment → Fragment
  | [] => empty
  | [fragment] => fragment
  | fragment :: fragments => fragment ++ ofText separator ++ join separator fragments

/-- The bound values in order. -/
def parameters (fragment : Fragment) : List Value :=
  fragment.parts.filterMap fun
    | .text _ => none
    | .parameter value => some value

/-- The texts of the parts, where `next` is the number of the next placeholder. -/
def renderParts (placeholder : Nat → String) (next : Nat) : List Part → List String
  | [] => []
  | .text text :: parts => text :: renderParts placeholder next parts
  | .parameter _ :: parts => placeholder next :: renderParts placeholder (next + 1) parts

/-- Placeholders are numbered from 1 on. -/
def render (placeholder : Nat → String) (fragment : Fragment) : Statement where
  text := String.join (renderParts placeholder 1 fragment.parts)
  parameters := fragment.parameters

end Fragment

end FilterQuery.Sql
