namespace FilterQuery

/-! Finite maps from names that remember the order in which the names first
appeared. -/

structure Dictionary (α : Type) where
  entries : List (String × α)
  distinct : (entries.map Prod.fst).Nodup
deriving DecidableEq

namespace Dictionary

variable {α : Type}

def empty : Dictionary α :=
  ⟨[], List.nodup_nil⟩

instance : Inhabited (Dictionary α) := ⟨empty⟩

def keys (dictionary : Dictionary α) : List String :=
  dictionary.entries.map Prod.fst

def find? (dictionary : Dictionary α) (key : String) : Option α :=
  dictionary.entries.lookup key

def contains (dictionary : Dictionary α) (key : String) : Bool :=
  decide (key ∈ dictionary.keys)

/-- Adds an entry at the end; the key must be new. -/
def add (dictionary : Dictionary α) (key : String) (value : α)
    (fresh : dictionary.contains key = false) : Dictionary α where
  entries := dictionary.entries ++ [(key, value)]
  distinct := by
    have unused : key ∉ dictionary.entries.map Prod.fst :=
      of_decide_eq_false fresh
    rw [List.map_append, List.nodup_append]
    refine ⟨dictionary.distinct, by simp, ?_⟩
    intro present member other last
    simp only [List.map_cons, List.map_nil, List.mem_singleton] at last
    subst last
    exact fun equal => unused (equal ▸ member)

/-- Changes the value of one key, and nothing else. -/
def replace (dictionary : Dictionary α) (key : String) (value : α) : Dictionary α where
  entries := dictionary.entries.map fun entry =>
    if entry.1 = key then (entry.1, value) else entry
  distinct := by
    rw [List.map_map]
    have unchanged : (Prod.fst ∘ fun entry : String × α =>
        if entry.1 = key then (entry.1, value) else entry) = Prod.fst := by
      funext entry
      by_cases same : entry.1 = key <;> simp [same]
    rw [unchanged]
    exact dictionary.distinct

/-- A key that is present keeps its place and takes the new value. -/
def insert (dictionary : Dictionary α) (key : String) (value : α) : Dictionary α :=
  if fresh : dictionary.contains key = false then
    dictionary.add key value fresh
  else
    dictionary.replace key value

/-- A key that is present keeps its value.  The flag tells whether the entry was
stored. -/
def insertNew (dictionary : Dictionary α) (key : String) (value : α) :
    Dictionary α × Bool :=
  if fresh : dictionary.contains key = false then
    (dictionary.add key value fresh, true)
  else
    (dictionary, false)

/-- Later values of a repeated key replace earlier ones. -/
def ofList (entries : List (String × α)) : Dictionary α :=
  entries.foldl (fun dictionary entry => dictionary.insert entry.1 entry.2) empty

end Dictionary

/-- The first element that repeats one before it; `seen` holds those already
passed. -/
def firstRepeated? (seen : List String) : List String → Option String
  | [] => none
  | name :: names =>
      if name ∈ seen then some name else firstRepeated? (name :: seen) names

end FilterQuery
