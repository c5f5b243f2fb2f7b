import FilterQuery.Expression
import FilterQuery.Predicate
import FilterQuery.Resolution

namespace FilterQuery

/-! Translation of expressions into the filters of a target. -/

/-- The leaves that a target was asked to write, in order, and what came of it.
Leaves in front of an error have been written already. -/
structure Traced (α : Type) where
  leaves : List Leaf
  outcome : Except FilterError α

namespace Traced

variable {α β : Type}

def map (change : α → β) (traced : Traced α) : Traced β :=
  ⟨traced.leaves, traced.outcome.map change⟩

/-- Goes on with another computation unless this one failed. -/
def andThen (traced : Traced α) (next : α → Traced β) : Traced β :=
  match traced.outcome with
  | .error error => ⟨traced.leaves, .error error⟩
  | .ok value => ⟨traced.leaves ++ (next value).leaves, (next value).outcome⟩

end Traced

namespace Target

variable {φ : Type}

/-- A single filter stands for its junction. -/
def junction (combine : List φ → φ) : List φ → φ
  | [filter] => filter
  | filters => combine filters

/-- A comparison that matches nothing is written as an empty disjunction. -/
def comparison (target : Target φ) (request : Request) (selector symbol : String)
    (arguments : List String) : Traced φ :=
  match request.resolve target.name target.supports selector symbol arguments with
  | .error error => ⟨[], .error error⟩
  | .ok none => ⟨[], .ok (target.any [])⟩
  | .ok (some leaf) => ⟨[leaf], .ok (target.leaf leaf)⟩

mutual

/-- Children are translated in order, up to the first error. -/
def trace (target : Target φ) (request : Request) : Expression → Traced φ
  | .all children => (target.traceList request children).map (junction target.all)
  | .any children => (target.traceList request children).map (junction target.any)
  | .comparison selector symbol arguments =>
      target.comparison request selector symbol arguments

def traceList (target : Target φ) (request : Request) : List Expression → Traced (List φ)
  | [] => ⟨[], .ok []⟩
  | child :: children =>
      (target.trace request child).andThen fun filter =>
        (target.traceList request children).map (filter :: ·)

end

/-- The filter that an expression stands for. -/
def translate (target : Target φ) (request : Request) (expression : Expression) :
    Except FilterError φ :=
  (target.trace request expression).outcome

end Target

end FilterQuery
