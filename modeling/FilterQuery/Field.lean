import FilterQuery.Declaration
import FilterQuery.FilterError
import FilterQuery.Text.SnakeCase

namespace FilterQuery

/-! Fields: checked declarations, which expressions are translated against, and the maps of
them that requests use. -/

/-- `labels` and `members` belong to enumerations; other fields have neither. -/
structure Field where
  name : String
  key : String
  kind : ValueKind
  operators : List Operator
  groups : List String
  description : String
  labels : Option (Dictionary String)
  members : List String
deriving DecidableEq

namespace Declaration

/-- A name that is blank does not count. -/
def fieldName (declaration : Declaration) : String :=
  (declaration.name.filter fun name => !Text.allBlank name).getD declaration.attributeName

/-- A key that is blank does not count. -/
def fieldKey (declaration : Declaration) : String :=
  (declaration.key.filter fun key => !Text.allBlank key).getD
    (Text.snakeCase declaration.attributeName)

/-- Operators that do not apply to the kind are dropped before the spellings are
completed. -/
def fieldOperators (declaration : Declaration) : List Operator :=
  if declaration.operators = [] then
    declaration.valueKind.operators
  else
    Operator.closeSpellings (declaration.operators.filter declaration.valueKind.allows)

end Declaration

namespace Field

/-- The labels and members of a field, if it is an enumeration. -/
def labelling (declaration : Declaration) :
    Except DeclarationFault (Option (Dictionary String) × List String) :=
  match declaration.valueKind, declaration.attributeType with
  | .enumeration, .enumeration enumeration =>
      match enumeration.repeatedLabel? with
      | some label => .error (.repeatedLabel label)
      | none => .ok (some enumeration.dictionary, enumeration.names)
  | .enumeration, _ => .error .notAnEnumeration
  | _, _ => .ok (none, [])

/-- Checks a declaration.  Operators are checked before labels. -/
def build (declaration : Declaration) : Except FilterError Field :=
  let name := declaration.fieldName
  let operators := declaration.fieldOperators
  if operators = [] then
    .error (.invalidDeclaration name
      (.noApplicableOperator declaration.operators declaration.valueKind))
  else
    match labelling declaration with
    | .error fault => .error (.invalidDeclaration name fault)
    | .ok (labels, members) =>
        .ok {
          name := name
          key := declaration.fieldKey
          kind := declaration.valueKind
          operators := operators
          groups := Text.alphabetical declaration.groups.eraseDups
          description := declaration.description
          labels := labels
          members := members }

/-- Builds fields up to the first declaration that is refused. -/
def buildAll (declarations : List Declaration) : Except FilterError (List Field) :=
  declarations.mapM build

def supports (field : Field) (operator : Operator) : Bool :=
  operator ∈ field.operators

def isEnumeration (field : Field) : Bool :=
  field.kind = .enumeration

/-- Names of members are matched before labels. -/
def resolveMember? (field : Field) (literal : String) : Option String :=
  (field.members.find? (· = literal)).or (field.labels.bind (·.find? literal))

end Field

/-- The fields that one request may use, found by their names. -/
structure FieldMap where
  fields : List Field
  distinct : (fields.map Field.name).Nodup
deriving DecidableEq

namespace FieldMap

theorem firstRepeated?_eq_none {seen names : List String}
    (unrepeated : firstRepeated? seen names = none) :
    names.Nodup ∧ ∀ name ∈ names, name ∉ seen := by
  induction names generalizing seen with
  | nil => simp
  | cons name names inductionHypothesis =>
      unfold firstRepeated? at unrepeated
      split at unrepeated
      · contradiction
      · rename_i fresh
        obtain ⟨distinct, unseen⟩ := inductionHypothesis unrepeated
        refine ⟨List.nodup_cons.mpr ⟨fun member => unseen name member (by simp), distinct⟩, ?_⟩
        intro other member
        rcases List.mem_cons.mp member with rfl | later
        · exact fresh
        · exact fun earlier => unseen other later (List.mem_cons_of_mem name earlier)

/-- Fails with the first name that repeats an earlier one. -/
def ofFields (entity : String) (fields : List Field) : Except FilterError FieldMap :=
  match found : firstRepeated? [] (fields.map Field.name) with
  | some name => .error (.duplicateField entity name)
  | none => .ok ⟨fields, (firstRepeated?_eq_none found).1⟩

def find? (map : FieldMap) (name : String) : Option Field :=
  map.fields.find? fun field => field.name = name

end FieldMap

end FilterQuery
