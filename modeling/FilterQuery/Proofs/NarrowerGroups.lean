import FilterQuery.Proofs.Visibility

namespace FilterQuery

open scoped List

/-! A group sees what the groups above it see.  Filters that could be written with
fewer fields are written alike with more. -/

/-- Whether each field of one map is found by its name in another. -/
def FieldMap.Within (fewer more : FieldMap) : Prop :=
  ∀ name field, fewer.find? name = some field → more.find? name = some field

theorem FieldMap.within_of_subset {fewer more : FieldMap} (subset : fewer.fields ⊆ more.fields) :
    fewer.Within more := by
  intro name field found
  rw [find?_eq_some_iff] at found ⊢
  exact ⟨subset found.1, found.2⟩

variable {fewer more : FieldMap} {unknown : UnknownMembers}

theorem Request.resolve_within (within : fewer.Within more) {target selector symbol : String}
    {supports : Operator → Bool} {arguments : List String} {leaf : Option Leaf}
    (resolved : Request.resolve ⟨fewer, unknown⟩ target supports selector symbol arguments =
      .ok leaf) :
    Request.resolve ⟨more, unknown⟩ target supports selector symbol arguments = .ok leaf := by
  unfold resolve at resolved ⊢
  cases found : fewer.find? selector with
  | none => simp [found] at resolved
  | some field =>
      simp only [found] at resolved
      simp only [within selector field found]
      exact resolved

theorem Target.translate_within {φ : Type} {target : Target φ} (within : fewer.Within more)
    {expression : Expression} {filter : φ}
    (accepted : target.translate ⟨fewer, unknown⟩ expression = .ok filter) :
    target.translate ⟨more, unknown⟩ expression = .ok filter := by
  induction expression generalizing filter with
  | all children inductionHypothesis =>
      rw [translate_all] at accepted ⊢
      exact map_eq_ok_mono (fun _ => mapM_eq_ok_mono inductionHypothesis) accepted
  | any children inductionHypothesis =>
      rw [translate_any] at accepted ⊢
      exact map_eq_ok_mono (fun _ => mapM_eq_ok_mono inductionHypothesis) accepted
  | comparison selector symbol arguments =>
      rw [translate_comparison] at accepted ⊢
      exact map_eq_ok_mono (fun _ => Request.resolve_within within) accepted

namespace Registry

variable {registry : Registry} {entity : String} {fewer more : Option String}

theorem lookup_sublist (sees : ∀ field, registry.Shows fewer field → registry.Shows more field) :
    registry.lookup entity fewer <+ registry.lookup entity more := by
  refine List.monotone_filter_right _ fun field visible => ?_
  rw [isVisible_iff] at visible ⊢
  exact sees field visible

/-- Where names are unique among the fields of one view, they are so in any part of
it. -/
theorem lookupMap_within {fields : FieldMap}
    (part : registry.lookup entity fewer <+ registry.lookup entity more)
    (unique : registry.lookupMap entity more = .ok fields) :
    ∃ fields', registry.lookupMap entity fewer = .ok fields' ∧ fields'.Within fields := by
  have distinct := lookupMap_exists_iff.mp ⟨fields, unique⟩
  obtain ⟨fields', unique'⟩ := lookupMap_exists_iff.mpr (distinct.sublist (part.map Field.name))
  refine ⟨fields', unique', FieldMap.within_of_subset ?_⟩
  rw [FieldMap.fields_ofFields unique, FieldMap.fields_ofFields unique']
  exact part.subset

/-- A request for a group sees at least what requests for the groups above it see, and
those for no group; what they can translate it translates to the same filter. -/
theorem narrower_group_keeps_filters {narrower broader : String}
    (assignable : registry.isAssignable narrower broader = true) (entity : String) :
    registry.lookup entity none <+ registry.lookup entity (some broader) ∧
    registry.lookup entity (some broader) <+ registry.lookup entity (some narrower) ∧
    ∀ fields, registry.lookupMap entity (some narrower) = .ok fields →
      ∀ group ∈ [none, some broader],
        ∃ fewer, registry.lookupMap entity group = .ok fewer ∧
          ∀ {φ : Type} (target : Target φ) (unknown : UnknownMembers) (expression : Expression)
            (filter : φ),
            target.translate ⟨fewer, unknown⟩ expression = .ok filter →
              target.translate ⟨fields, unknown⟩ expression = .ok filter := by
  have reaches : registry.groups.Reaches narrower broader := Groups.isAssignable_iff.mp assignable
  have unasked : ∀ group, registry.lookup entity none <+ registry.lookup entity group := by
    refine fun group => lookup_sublist fun field shown => .inl ?_
    exact shown.resolve_right nofun
  have above : registry.lookup entity (some broader) <+ registry.lookup entity (some narrower) := by
    refine lookup_sublist fun field shown => ?_
    rcases shown with ungrouped | ⟨requested, asked, declared, member, path⟩
    · exact .inl ungrouped
    · obtain rfl : broader = requested := Option.mem_some.mp asked
      exact .inr ⟨narrower, rfl, declared, member, reaches.trans path⟩
  refine ⟨unasked (some broader), above, fun fields unique group listed => ?_⟩
  have part : registry.lookup entity group <+ registry.lookup entity (some narrower) := by
    rcases List.mem_cons.mp listed with rfl | listed
    · exact unasked (some narrower)
    · rwa [List.mem_singleton.mp listed]
  obtain ⟨fewer, unique', within⟩ := lookupMap_within part unique
  exact ⟨fewer, unique', fun target unknown expression filter => Target.translate_within within⟩

/-- Books whose pages are counted for members. -/
def bookPagesOfMembers : Field :=
  { bookPages with groups := ["member"] }

theorem staff_keep_filters_of_members :
    (bookshop [bookTitle, bookPagesOfMembers]).isAssignable "staff" "member" = true ∧
    (bookshop [bookTitle, bookPagesOfMembers]).lookupMap "book" (some "staff") =
      .ok ⟨[bookTitle, bookPagesOfMembers], by decide⟩ ∧
    ∃ fewer, (bookshop [bookTitle, bookPagesOfMembers]).lookupMap "book" (some "member") = .ok fewer ∧
      ∀ filter, Document.target.translate ⟨fewer, .reject⟩ (.comparison "pages" ">" ["100"]) =
          .ok filter →
        Document.target.translate ⟨⟨[bookTitle, bookPagesOfMembers], by decide⟩, .reject⟩
          (.comparison "pages" ">" ["100"]) = .ok filter := by
  have reaches : (bookshop [bookTitle, bookPagesOfMembers]).groups.Reaches "staff" "member" :=
    .single ⟨["member"], rfl, List.mem_cons_self⟩
  have assignable := Groups.isAssignable_iff.mpr reaches
  have visible : (bookshop [bookTitle, bookPagesOfMembers]).lookup "book" (some "staff") =
      [bookTitle, bookPagesOfMembers] := by
    rw [lookup_eq_filter (bookshop_stored _), List.filter_eq_self]
    simp only [decide_eq_true_eq]
    exact List.forall_mem_cons.mpr ⟨.inl rfl, List.forall_mem_singleton.mpr
      (.inr ⟨"staff", rfl, "member", List.mem_cons_self, reaches⟩)⟩
  have unique : (bookshop [bookTitle, bookPagesOfMembers]).lookupMap "book" (some "staff") =
      .ok ⟨[bookTitle, bookPagesOfMembers], by decide⟩ := by
    rw [lookupMap, visible]
    rfl
  obtain ⟨_, _, keeps⟩ := narrower_group_keeps_filters assignable "book"
  obtain ⟨fewer, found, same⟩ := keeps _ unique (some "member") (by simp)
  exact ⟨assignable, unique, fewer, found, fun filter => same Document.target .reject _ filter⟩

end Registry

end FilterQuery
