import FilterQuery.Dictionary

namespace FilterQuery

/-! Enumerations: named members, each with a label for display.  Literals need not name one. -/

/-- A member and the texts that the accessors of its type give for it. -/
structure EnumerationMember where
  name : String
  accessors : Dictionary String := Dictionary.empty
deriving DecidableEq

/-- The accessors that a type exposes are independent of those for which its
members have texts. -/
structure Enumeration where
  accessors : List String := []
  members : List EnumerationMember
deriving DecidableEq

namespace Enumeration

/-- Accessors that give labels, the preferred one first. -/
def labelAccessors : List String :=
  ["name", "description", "desc"]

/-- The preferred accessor among those that the type exposes. -/
def labelAccessor? (enumeration : Enumeration) : Option String :=
  labelAccessors.find? (· ∈ enumeration.accessors)

/-- The text of the label accessor, or else the member's own name. -/
def label (enumeration : Enumeration) (member : EnumerationMember) : String :=
  (enumeration.labelAccessor?.bind member.accessors.find?).getD member.name

/-- Labels with the names of their members, in the order of the members. -/
def labels (enumeration : Enumeration) : List (String × String) :=
  enumeration.members.map fun member => (enumeration.label member, member.name)

def names (enumeration : Enumeration) : List String :=
  enumeration.members.map (·.name)

/-- The first label that an earlier member already has. -/
def repeatedLabel? (enumeration : Enumeration) : Option String :=
  firstRepeated? [] (enumeration.labels.map Prod.fst)

/-- From labels to names of members. -/
def dictionary (enumeration : Enumeration) : Dictionary String :=
  Dictionary.ofList enumeration.labels

end Enumeration

/-- What becomes of a literal that names no member of an enumeration: it equals
no stored value, or it is an error. -/
inductive UnknownMembers where
  | matchNothing
  | reject
deriving DecidableEq, Repr

namespace UnknownMembers

def all : List UnknownMembers :=
  [.matchNothing, .reject]

def name : UnknownMembers → String
  | .matchNothing => "null"
  | .reject => "reject"

def ofName? (name : String) : Option UnknownMembers :=
  all.find? fun unknown => unknown.name = name

end UnknownMembers

end FilterQuery
