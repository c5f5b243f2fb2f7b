import FilterQuery.Dictionary

namespace FilterQuery

/-! Groups scope what a request sees.  A group may have parents, which may have
parents of their own, in circles too. -/

/-- The declared parents of groups. -/
structure Groups where
  parents : Dictionary (List String) := Dictionary.empty
deriving DecidableEq

namespace Groups

/-- The first declaration of a group is kept; the flag tells whether it is this
one. -/
def declare (groups : Groups) (group : String) (parents : List String) : Groups × Bool :=
  let (stored, added) := groups.parents.insertNew group parents
  (⟨stored⟩, added)

/-- The entries of all other groups. -/
def withoutEntry (entries : List (String × List String)) (group : String) :
    List (String × List String) :=
  entries.filter fun entry => entry.1 ≠ group

theorem length_withoutEntry_lt {entries : List (String × List String)} {group : String}
    {parents : List String} (found : entries.lookup group = some parents) :
    (withoutEntry entries group).length < entries.length := by
  obtain ⟨earlier, later, split, _⟩ := List.lookup_eq_some_iff.mp found
  rw [withoutEntry, List.length_filter_lt_length_iff_exists]
  exact ⟨(group, parents), by simp [split], by simp⟩

/-- Whether a group is among the pending ones or above one of them.  The entry of
a group is dropped once its parents are pending, so the search ends whatever
circles there are. -/
def isAbove (group : String) (entries : List (String × List String)) :
    List String → Bool
  | [] => false
  | candidate :: pending =>
      if candidate = group then
        true
      else
        match _found : entries.lookup candidate with
        | none => isAbove group entries pending
        | some parents =>
            isAbove group (withoutEntry entries candidate) (parents ++ pending)
termination_by pending => (entries.length, pending.length)
decreasing_by
  · exact Prod.Lex.right _ (Nat.lt_succ_self _)
  · exact Prod.Lex.left _ _ (length_withoutEntry_lt _found)

/-- Whether a request for one group may see what is declared for another: the
group itself or any group above it. -/
def isAssignable (groups : Groups) (requested declared : String) : Bool :=
  isAbove declared groups.parents.entries [requested]

end Groups

end FilterQuery
