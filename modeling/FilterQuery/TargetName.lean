import FilterQuery.Document
import FilterQuery.Sql.Backend
import FilterQuery.Translation

namespace FilterQuery

/-! The targets that a caller may choose by name. -/

inductive TargetName where
  | sql (backend : Sql.Backend)
  | document
deriving DecidableEq, Repr

namespace TargetName

def all : List TargetName :=
  [.sql .postgres, .sql .sqlite, .document]

def name : TargetName → String
  | .sql backend => backend.name
  | .document => "document"

def ofName? (name : String) : Option TargetName :=
  all.find? fun target => target.name = name

/-- The filter that an expression stands for, as JSON. -/
def translate (target : TargetName) (request : Request) (expression : Expression) :
    Except FilterError Json :=
  match target with
  | .sql backend =>
      (backend.target.translate request expression).map fun condition =>
        (backend.render condition).toJson
  | .document => Document.target.translate request expression

end TargetName

end FilterQuery
