import FilterQuery.Dictionary

namespace FilterQuery.Dictionary

/-! What a dictionary holds once an entry has been offered to it. -/

variable {α : Type} {dictionary : Dictionary α} {key : String} {value : α}

theorem mem_keys_iff : key ∈ dictionary.keys ↔ ∃ value, dictionary.find? key = some value := by
  rw [← Option.isSome_iff_exists, find?, List.lookup_isSome_iff]
  simp [keys]

theorem contains_eq_isSome (dictionary : Dictionary α) (key : String) :
    dictionary.contains key = (dictionary.find? key).isSome := by
  rw [Bool.eq_iff_iff, contains, decide_eq_true_iff, mem_keys_iff, Option.isSome_iff_exists]

/-- The offered value is found under its key if nothing was found there before. -/
theorem find?_insertNew (dictionary : Dictionary α) (key : String) (value : α) (other : String) :
    (dictionary.insertNew key value).1.find? other =
      (dictionary.find? other).or (if other = key then some value else none) := by
  unfold insertNew
  split
  · simp only [find?, add, List.lookup_append, List.lookup_cons, List.lookup_nil]
    by_cases same : other = key
    · simp [same]
    · simp [same, beq_eq_false_iff_ne.mpr same]
  · rename_i present
    have found : (dictionary.find? key).isSome = true := by
      rw [← contains_eq_isSome]
      exact Bool.of_not_eq_false present
    by_cases same : other = key
    · rw [same, Option.or_of_isSome found]
    · rw [if_neg same, Option.or_none]

theorem insertNew_stored_iff :
    (dictionary.insertNew key value).2 = true ↔ dictionary.find? key = none := by
  rw [← Option.isNone_iff_eq_none, ← Option.not_isSome, ← contains_eq_isSome]
  unfold insertNew
  split <;> simp_all

theorem insertNew_unchanged (present : (dictionary.insertNew key value).2 = false) :
    (dictionary.insertNew key value).1 = dictionary := by
  unfold insertNew at present ⊢
  split at present
  · contradiction
  · rename_i held
    rw [dif_neg held]

theorem entries_insertNew_of_new (new : dictionary.find? key = none) :
    (dictionary.insertNew key value).1.entries = dictionary.entries ++ [(key, value)] := by
  have fresh : dictionary.contains key = false := by
    rw [contains_eq_isSome, new, Option.isSome_none]
  rw [insertNew, dif_pos fresh, add]

theorem insertNew_of_known {known : α} (found : dictionary.find? key = some known) :
    (dictionary.insertNew key value).1 = dictionary := by
  refine insertNew_unchanged (Bool.eq_false_iff.mpr fun stored => ?_)
  rw [insertNew_stored_iff.mp stored] at found
  contradiction

/-- Of entries with different keys, those are stored that have new ones. -/
theorem entries_foldl_insertNew (dictionary : Dictionary α) {entries : List (String × α)}
    (distinct : (entries.map Prod.fst).Nodup) :
    (entries.foldl (fun dictionary entry => (dictionary.insertNew entry.1 entry.2).1)
        dictionary).entries =
      dictionary.entries ++ entries.filter fun entry => (dictionary.find? entry.1).isNone := by
  induction entries generalizing dictionary with
  | nil => exact (List.append_nil _).symm
  | cons entry entries inductionHypothesis =>
      obtain ⟨single, others⟩ := List.nodup_cons.mp distinct
      rw [List.foldl_cons, inductionHypothesis _ others]
      cases found : dictionary.find? entry.1 with
      | some known =>
          rw [insertNew_of_known found, List.filter_cons_of_neg (by simp [found])]
      | none =>
          have same : ∀ other ∈ entries,
              (dictionary.insertNew entry.1 entry.2).1.find? other.1 = dictionary.find? other.1 := by
            intro other member
            have different : other.1 ≠ entry.1 := fun equal =>
              single (List.mem_map.mpr ⟨other, member, equal⟩)
            rw [find?_insertNew, if_neg different, Option.or_none]
          rw [entries_insertNew_of_new found, List.filter_cons_of_pos (by simp [found]),
            List.append_assoc, List.singleton_append]
          congr 2
          exact List.filter_congr fun other member => by rw [same other member]

theorem find?_foldl_insertNew_of_known (entries : List (String × α))
    (known : dictionary.find? key = some value) :
    (entries.foldl (fun dictionary entry => (dictionary.insertNew entry.1 entry.2).1)
      dictionary).find? key = some value := by
  induction entries generalizing dictionary with
  | nil => exact known
  | cons entry entries inductionHypothesis =>
      refine inductionHypothesis ?_
      rw [find?_insertNew, known, Option.some_or]

/-- Entries that have been offered before change nothing. -/
theorem foldl_insertNew_again (dictionary : Dictionary α) (entries : List (String × α)) :
    entries.foldl (fun dictionary entry => (dictionary.insertNew entry.1 entry.2).1)
        (entries.foldl (fun dictionary entry => (dictionary.insertNew entry.1 entry.2).1) dictionary) =
      entries.foldl (fun dictionary entry => (dictionary.insertNew entry.1 entry.2).1) dictionary := by
  induction entries generalizing dictionary with
  | nil => rfl
  | cons entry entries inductionHypothesis =>
      obtain ⟨known, found⟩ : ∃ known,
          (dictionary.insertNew entry.1 entry.2).1.find? entry.1 = some known := by
        rw [find?_insertNew, if_pos rfl]
        cases dictionary.find? entry.1 <;> simp
      rw [List.foldl_cons, List.foldl_cons,
        insertNew_of_known (find?_foldl_insertNew_of_known entries found), inductionHypothesis]

theorem mem_of_find? (found : dictionary.find? key = some value) :
    (key, value) ∈ dictionary.entries := by
  obtain ⟨earlier, later, split, _⟩ := List.lookup_eq_some_iff.mp found
  rw [split]
  exact List.mem_append_right earlier List.mem_cons_self

theorem find?_eq_some_iff : dictionary.find? key = some value ↔ (key, value) ∈ dictionary.entries := by
  refine ⟨mem_of_find?, fun member => ?_⟩
  obtain ⟨earlier, later, split⟩ := List.append_of_mem member
  have distinct := dictionary.distinct
  rw [split, List.map_append, List.map_cons, List.nodup_append] at distinct
  refine List.lookup_eq_some_iff.mpr ⟨earlier, later, split, fun entry within => ?_⟩
  rw [bne_iff_ne]
  exact (distinct.2.2 _ (List.mem_map_of_mem within) _ List.mem_cons_self).symm

theorem entries_insert_of_new (new : key ∉ dictionary.keys) (value : α) :
    (dictionary.insert key value).entries = dictionary.entries ++ [(key, value)] := by
  have fresh : dictionary.contains key = false := decide_eq_false new
  rw [insert, dif_pos fresh, add]

theorem entries_foldl_insert (dictionary : Dictionary α) {entries : List (String × α)}
    (distinct : (dictionary.keys ++ entries.map Prod.fst).Nodup) :
    (entries.foldl (fun dictionary entry => dictionary.insert entry.1 entry.2) dictionary).entries =
      dictionary.entries ++ entries := by
  induction entries generalizing dictionary with
  | nil => simp
  | cons entry entries inductionHypothesis =>
      rw [List.map_cons, List.append_cons] at distinct
      have new : entry.1 ∉ dictionary.keys := by
        have first := (List.nodup_append.mp (List.nodup_append.mp distinct).1).2.2
        exact fun present => first _ present _ List.mem_cons_self rfl
      have added := entries_insert_of_new new entry.2
      rw [List.foldl_cons, inductionHypothesis _ (by simpa [keys, added] using distinct), added,
        List.append_assoc, List.singleton_append]

/-- Entries with different keys are kept as they are listed. -/
theorem entries_ofList {entries : List (String × α)} (distinct : (entries.map Prod.fst).Nodup) :
    (ofList entries).entries = entries :=
  entries_foldl_insert empty distinct

end FilterQuery.Dictionary
