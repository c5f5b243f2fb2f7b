import FilterQuery.Field
import FilterQuery.Proofs.Traversals

namespace FilterQuery

open scoped List

/-! Lists of names in which one repeats another. -/

variable {seen names : List String} {name : String}

/-- Whether a name repeats one in front of it, and is the first in the list to do so. -/
def FirstRepeats (names : List String) (name : String) : Prop :=
  ∃ earlier, earlier ++ [name] <+: names ∧ earlier.Nodup ∧ name ∈ earlier

theorem firstRepeated?_eq_none_of_nodup (distinct : names.Nodup)
    (unseen : ∀ name ∈ names, name ∉ seen) : firstRepeated? seen names = none := by
  induction names generalizing seen with
  | nil => rfl
  | cons name names inductionHypothesis =>
      obtain ⟨fresh, others⟩ := List.forall_mem_cons.mp unseen
      obtain ⟨single, rest⟩ := List.nodup_cons.mp distinct
      rw [firstRepeated?, if_neg fresh]
      refine inductionHypothesis rest fun other member => ?_
      rw [List.mem_cons, not_or]
      exact ⟨fun equal => single (equal ▸ member), others other member⟩

theorem firstRepeated?_eq_none_iff : firstRepeated? [] names = none ↔ names.Nodup :=
  ⟨fun unrepeated => (FieldMap.firstRepeated?_eq_none unrepeated).1,
    fun distinct => firstRepeated?_eq_none_of_nodup distinct fun _ _ => List.not_mem_nil⟩

/-- With names seen before, those in front of the one that is found are new and distinct. -/
theorem place_of_firstRepeated? (found : firstRepeated? seen names = some name) :
    ∃ earlier, earlier ++ [name] <+: names ∧ earlier.Nodup ∧
      (∀ other ∈ earlier, other ∉ seen) ∧ (name ∈ seen ∨ name ∈ earlier) := by
  induction names generalizing seen with
  | nil => contradiction
  | cons head names inductionHypothesis =>
      rw [firstRepeated?] at found
      split at found
      · rename_i known
        obtain rfl : head = name := Option.some.inj found
        exact ⟨[], List.prefix_append [head] names, List.nodup_nil, List.forall_mem_nil _, .inl known⟩
      · rename_i fresh
        obtain ⟨earlier, place, distinct, unseen, repeated⟩ := inductionHypothesis found
        have single : head ∉ earlier := fun member => unseen head member List.mem_cons_self
        refine ⟨head :: earlier, List.cons_prefix_cons.mpr ⟨rfl, place⟩,
          List.nodup_cons.mpr ⟨single, distinct⟩, ?_, ?_⟩
        · refine List.forall_mem_cons.mpr ⟨fresh, fun other member known => ?_⟩
          exact unseen other member (List.mem_cons_of_mem head known)
        · rcases repeated with known | member
          · rcases List.mem_cons.mp known with rfl | known
            · exact .inr List.mem_cons_self
            · exact .inl known
          · exact .inr (List.mem_cons_of_mem head member)

theorem firstRepeats_of_found (found : firstRepeated? [] names = some name) :
    FirstRepeats names name := by
  obtain ⟨earlier, place, distinct, _, repeated⟩ := place_of_firstRepeated? found
  exact ⟨earlier, place, distinct, repeated.resolve_left List.not_mem_nil⟩

theorem not_nodup_of_place {earlier : List String} (place : earlier ++ [name] <+: names)
    (member : name ∈ earlier) : ¬ names.Nodup := by
  intro distinct
  have apart := (List.nodup_append.mp (distinct.sublist place.sublist)).2.2
  exact apart name member name List.mem_cons_self rfl

/-- A list has one first repetition at most. -/
theorem FirstRepeats.unique {other : String} (repeats : FirstRepeats names name)
    (repeatsToo : FirstRepeats names other) : name = other := by
  obtain ⟨earlier, place, distinct, member⟩ := repeats
  obtain ⟨earlier', place', distinct', member'⟩ := repeatsToo
  rcases places_compared place place' with within | ⟨_, same⟩ | within
  · exact absurd distinct' (not_nodup_of_place within member)
  · exact same
  · exact absurd distinct (not_nodup_of_place within member')

theorem firstRepeated?_eq_some_iff : firstRepeated? [] names = some name ↔ FirstRepeats names name := by
  refine ⟨firstRepeats_of_found, fun repeats => ?_⟩
  cases found : firstRepeated? [] names with
  | none =>
      obtain ⟨earlier, place, _, member⟩ := repeats
      exact absurd (firstRepeated?_eq_none_iff.mp found) (not_nodup_of_place place member)
  | some other => rw [(firstRepeats_of_found found).unique repeats]

theorem not_nodup_iff : ¬ names.Nodup ↔ ∃ name, FirstRepeats names name := by
  rw [← firstRepeated?_eq_none_iff, ← Ne, Option.ne_none_iff_exists']
  simp only [firstRepeated?_eq_some_iff]

end FilterQuery
