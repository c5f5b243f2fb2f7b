import FilterQuery.Expression
import FilterQuery.Json.Reader

namespace FilterQuery.Expression

/-! From JSON to expressions.  An expression is an object with a member that tells
its kind, or an array of the kind and the fields of that kind in order. -/

inductive Kind where
  | all
  | any
  | comparison
deriving DecidableEq, Repr

/-- Inside another expression a kind may also be given by its number. -/
def Kind.ofJson? (inner : Bool) : Json → Option Kind
  | .string name =>
      if name = "and" then some .all
      else if name = "or" then some .any
      else if name = "comparison" then some .comparison
      else none
  | .integer number =>
      if !inner then none
      else if number = 0 then some .all
      else if number = 1 then some .any
      else if number = 2 then some .comparison
      else none
  | _ => none

/-- The values of members with this name. -/
def valuesOf (name : String) (members : List (String × Json)) : List Json :=
  (members.filter fun member => member.1 = name).map Prod.snd

def Kind.requiredFields : Kind → List String
  | .all | .any => ["children"]
  | .comparison => ["selector", "operator"]

def Kind.optionalFields : Kind → List String
  | .all | .any => []
  | .comparison => ["arguments"]

/-- The values of the fields of a kind in order.  Other members are skipped, and
no field may be repeated. -/
def fieldsOf? (kind : Kind) (members : List (String × Json)) : Option (List Json) :=
  if (kind.requiredFields.all fun name => (valuesOf name members).length = 1) &&
      (kind.optionalFields.all fun name => (valuesOf name members).length ≤ 1) then
    some ((kind.requiredFields ++ kind.optionalFields).flatMap (valuesOf · members))
  else
    none

/-- The kind of an expression and its fields. -/
def parts? (inner : Bool) : Json → Option (Kind × List Json)
  | .array (kind :: fields) => (Kind.ofJson? inner kind).map (·, fields)
  | .object members =>
      match valuesOf "type" members with
      | [value] => do
          let kind ← Kind.ofJson? inner value
          let fields ← fieldsOf? kind members
          some (kind, fields)
      | _ => none
  | _ => none

theorem sizeOf_lt_of_mem_valuesOf {name : String} {members : List (String × Json)}
    {value : Json} (present : value ∈ valuesOf name members) :
    sizeOf value < sizeOf members := by
  obtain ⟨⟨key, _⟩, kept, rfl⟩ := List.mem_map.mp present
  have smaller := List.sizeOf_lt_of_mem (List.mem_filter.mp kept).1
  simp only [Prod.mk.sizeOf_spec] at smaller
  simp only
  omega

theorem sizeOf_lt_of_fieldsOf? {kind : Kind} {members : List (String × Json)}
    {fields : List Json} (found : fieldsOf? kind members = some fields)
    {field : Json} (member : field ∈ fields) : sizeOf field < sizeOf members := by
  unfold fieldsOf? at found
  split at found
  · obtain rfl := Option.some.inj found
    obtain ⟨name, _, present⟩ := List.mem_flatMap.mp member
    exact sizeOf_lt_of_mem_valuesOf present
  · contradiction

/-- The fields of an expression are smaller than the expression. -/
theorem sizeOf_lt_of_parts? {inner : Bool} {value : Json} {kind : Kind}
    {fields : List Json} (found : parts? inner value = some (kind, fields))
    {field : Json} (member : field ∈ fields) : sizeOf field < sizeOf value := by
  unfold parts? at found
  split at found
  · obtain ⟨_, _, same⟩ := Option.map_eq_some_iff.mp found
    obtain ⟨rfl, rfl⟩ := Prod.mk.inj same
    have smaller := List.sizeOf_lt_of_mem member
    simp only [Json.array.sizeOf_spec, List.cons.sizeOf_spec]
    omega
  · split at found
    · obtain ⟨_, _, rest⟩ := Option.bind_eq_some_iff.mp found
      obtain ⟨_, listed, same⟩ := Option.bind_eq_some_iff.mp rest
      obtain ⟨rfl, rfl⟩ := Prod.mk.inj (Option.some.inj same)
      have smaller := sizeOf_lt_of_fieldsOf? listed member
      simp only [Json.object.sizeOf_spec]
      omega
    · contradiction
  · contradiction

def argument? : Json → Option String
  | .string text => some text
  | _ => none

mutual

def ofJson? (inner : Bool) (value : Json) : Option Expression :=
  match _found : parts? inner value with
  | some (.all, [.array children]) => (ofJsonList? children).map .all
  | some (.any, [.array children]) => (ofJsonList? children).map .any
  | some (.comparison, [.string selector, .string symbol]) =>
      some (.comparison selector symbol [])
  | some (.comparison, [.string selector, .string symbol, .array arguments]) =>
      (arguments.mapM argument?).map (.comparison selector symbol)
  | _ => none
termination_by sizeOf value
decreasing_by
  all_goals
    have smaller := sizeOf_lt_of_parts? _found (List.mem_singleton_self _)
    simp only [Json.array.sizeOf_spec] at smaller
    omega

def ofJsonList? : List Json → Option (List Expression)
  | [] => some []
  | value :: values => do
      let expression ← ofJson? true value
      let expressions ← ofJsonList? values
      some (expression :: expressions)
termination_by values => sizeOf values

end

/-- Reads the JSON text of an expression. -/
def parse? (text : String) : Option Expression :=
  (Json.parse? text).bind (ofJson? false)

end FilterQuery.Expression
