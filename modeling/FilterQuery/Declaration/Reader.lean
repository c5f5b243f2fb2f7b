import FilterQuery.Declaration
import FilterQuery.Json.Reader
import FilterQuery.Json.Record

namespace FilterQuery

/-! From JSON to declarations. -/

open Json (Written)

def EnumerationMember.ofWritten? (written : Written) : Option EnumerationMember := do
  let fields ← written.record? ["name", "accessors"]
  let name ← Written.field? fields "name" Written.text?
  let accessors ← Written.fieldOr? fields "accessors" .empty (Written.dictionary? Written.text?)
  some { name, accessors }

def Enumeration.ofWritten? (written : Written) : Option Enumeration := do
  let fields ← written.record? ["accessors", "members"]
  let accessors ← Written.fieldOr? fields "accessors" [] (Written.list? Written.text?)
  let members ← Written.field? fields "members" (Written.list? EnumerationMember.ofWritten?)
  some { accessors, members }

/-- Types that carry more than their name are objects with the name as their only
key. -/
def AttributeType.ofWritten? : Written → Option AttributeType
  | .object [(some "enumeration", written)] =>
      (Enumeration.ofWritten? written).map .enumeration
  | .object [(some "other", written)] => written.text?.map .other
  | written => written.choice? AttributeType.ofPlainName?

namespace Declaration

def fieldNames : List String :=
  ["attribute", "type", "description", "name", "key", "value_type", "operators", "groups"]

def ofWritten? (written : Written) : Option Declaration := do
  let fields ← written.record? fieldNames
  let attributeName ← Written.field? fields "attribute" Written.text?
  let attributeType ← Written.field? fields "type" AttributeType.ofWritten?
  let description ← Written.fieldOr? fields "description" "" Written.text?
  let name ← Written.fieldOr? fields "name" none (Written.optional? Written.text?)
  let key ← Written.fieldOr? fields "key" none (Written.optional? Written.text?)
  let kind ← Written.fieldOr? fields "value_type" none
    (Written.optional? (Written.choice? ValueKind.ofName?))
  let operators ← Written.fieldOr? fields "operators" []
    (Written.list? (Written.choice? Operator.ofExactSymbol?))
  let groups ← Written.fieldOr? fields "groups" [] (Written.list? Written.text?)
  some { attributeName, attributeType, description, name, key, kind, operators, groups }

/-- Reads the JSON text of a declaration. -/
def parse? (text : String) : Option Declaration :=
  (Written.parse? text).bind ofWritten?

end Declaration

end FilterQuery
