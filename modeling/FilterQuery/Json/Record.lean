import FilterQuery.Dictionary
import FilterQuery.Json.Written

namespace FilterQuery.Json.Written

/-! Records, lists and choices in JSON as it is written.  What a record does not
ask for is skipped and need only be well formed. -/

variable {α : Type}

def text? : Written → Option String
  | .string text => text
  | _ => none

def list? (read : Written → Option α) : Written → Option (List α)
  | .array items => items.mapM read
  | _ => none

/-- The word `null` stands for no value. -/
def optional? (read : Written → Option α) : Written → Option (Option α)
  | .null => some none
  | written => (read written).map some

/-- One of several names; a name may also be the only key of an object, with the
value `null`. -/
def choice? (ofName? : String → Option α) : Written → Option α
  | .string (some name) => ofName? name
  | .object [(some name, .null)] => ofName? name
  | _ => none

/-- The members of an object, if all its keys are texts. -/
def members? : Written → Option (List (String × Written))
  | .object members => members.mapM fun (key, value) => key.map (·, value)
  | _ => none

def dictionary? (read : Written → Option α) (written : Written) :
    Option (Dictionary α) := do
  let members ← written.members?
  let entries ← members.mapM fun (key, value) => (read value).map (key, ·)
  some (Dictionary.ofList entries)

/-- The fields of a record that are present.  They are the members of an object,
where other members are skipped and no field may be repeated, or the items of an
array in the order of the names, where the last ones may be missing. -/
def record? (names : List String) : Written → Option (List (String × Written))
  | .array items =>
      if items.length ≤ names.length then some (names.zip items) else none
  | written => do
      let members ← written.members?
      let fields := members.filter fun member => member.1 ∈ names
      if (fields.map Prod.fst).Nodup then some fields else none

/-- The value of a field that must be present. -/
def field? (fields : List (String × Written)) (name : String)
    (read : Written → Option α) : Option α :=
  (fields.lookup name).bind read

/-- The value of a field, or the given one if the field is missing. -/
def fieldOr? (fields : List (String × Written)) (name : String) (missing : α)
    (read : Written → Option α) : Option α :=
  match fields.lookup name with
  | none => some missing
  | some written => read written

end FilterQuery.Json.Written
