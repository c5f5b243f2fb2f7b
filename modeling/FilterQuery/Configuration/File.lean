import FilterQuery.Declaration.Reader
import FilterQuery.TargetName

namespace FilterQuery

/-! Configuration files and their content. -/

/-- What is found at a path. -/
inductive FileContent where
  | missing
  | unreadable (reason : String)
  | text (content : String)
deriving DecidableEq, Repr

/-- Files hold text in UTF-8. -/
def FileContent.ofBytes (bytes : ByteArray) : FileContent :=
  match String.fromUTF8? bytes with
  | some content => .text content
  | none => .unreadable "stream did not contain valid UTF-8"

def FileContent.directory : FileContent :=
  .unreadable "Is a directory (os error 21)"

open Json (Written)

/-- The section on translation may be missing, or be there without a policy. -/
structure ConfigurationFile where
  entities : Dictionary (List Declaration) := .empty
  groups : Dictionary (List String) := .empty
  translation : Option (Option UnknownMembers) := none
  target : Option TargetName := none
  unknownKeys : Dictionary Json := .empty

namespace ConfigurationFile

def fieldNames : List String :=
  ["entities", "groups", "translate", "target"]

/-- An array must hold the policy; only an object may leave it out. -/
def translationOfWritten? : Written → Option (Option UnknownMembers)
  | .array [] => none
  | written => do
      let fields ← written.record? ["unknown_enum"]
      Written.fieldOr? fields "unknown_enum" none
        (Written.optional? (Written.choice? UnknownMembers.ofName?))

/-- A value inside the file, which itself is one level of nesting. -/
def unknownValue? (written : Written) : Option Json :=
  written.toJson?.filter fun value => value.depth + 1 ≤ Json.maxDepth

/-- Unlike a record, the file must be an object, and the values of unknown keys
are kept. -/
def ofWritten? (written : Written) : Option ConfigurationFile := do
  let members ← written.members?
  let fields ← written.record? fieldNames
  let entities ← Written.fieldOr? fields "entities" .empty
    (Written.dictionary? (Written.list? Declaration.ofWritten?))
  let groups ← Written.fieldOr? fields "groups" .empty
    (Written.dictionary? (Written.list? Written.text?))
  let translation ← Written.fieldOr? fields "translate" none
    (Written.optional? translationOfWritten?)
  let target ← Written.fieldOr? fields "target" none
    (Written.optional? (Written.choice? TargetName.ofName?))
  let unknown ← (members.filter fun member => member.1 ∉ fieldNames).mapM
    fun (key, value) => (unknownValue? value).map (key, ·)
  some { entities, groups, translation, target, unknownKeys := Dictionary.ofList unknown }

/-- Reads the text of a file. -/
def parse? (text : String) : Option ConfigurationFile :=
  (Written.parse? text).bind ofWritten?

end ConfigurationFile

end FilterQuery
