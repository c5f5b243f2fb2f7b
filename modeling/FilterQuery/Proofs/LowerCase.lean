import FilterQuery.Text.SnakeCase

namespace FilterQuery.Text

/-! Lower-casing a text twice is lower-casing it once: no character that others are mapped to
is mapped itself. -/

namespace CaseRun

/-- The dotted capital I and the first of its counterparts. -/
def dottedCapital : CaseRun := ⟨0x0130, 0x0130, 1, 0x0069⟩

/-- Whether the first run maps nothing into the second: their code points are apart, or ones are
even and the others odd. -/
def avoids (run other : CaseRun) : Bool :=
  Nat.blt other.last run.target || Nat.blt (run.target + (run.last - run.first)) other.first ||
    (Nat.beq other.step 2 && (Nat.beq run.step 2 || Nat.beq run.first run.last) &&
      Nat.beq ((run.target + other.first) % 2) 1)

/-- Whether all code points that the run maps to are those of characters. -/
def isValid (run : CaseRun) : Bool :=
  (run.target + (run.last - run.first)) < 0xD800 ||
    (0xDFFF < run.target && run.target + (run.last - run.first) < 0x110000)

variable {run other : CaseRun} {code target : Nat}

theorem map?_eq_some_iff : run.map? code = some target ↔
    (run.first ≤ code ∧ code ≤ run.last ∧ (code - run.first) % run.step = 0) ∧
      run.target + (code - run.first) = target := by
  simp [map?, and_assoc]

theorem map?_of_avoids (avoids : run.avoids other = true) (mapped : run.map? code = some target) :
    other.map? target = none := by
  rw [Option.eq_none_iff_forall_ne_some]
  intro again mappedAgain
  obtain ⟨⟨lower, upper, spaced⟩, rfl⟩ := map?_eq_some_iff.mp mapped
  obtain ⟨⟨lowerAgain, upperAgain, spacedAgain⟩, _⟩ := map?_eq_some_iff.mp mappedAgain
  simp only [CaseRun.avoids, Bool.or_eq_true, Bool.and_eq_true, Nat.blt_eq, Nat.beq_eq] at avoids
  obtain (before | behind) | ⟨⟨spread, spreadToo | single⟩, parity⟩ := avoids
  · omega
  · omega
  · rw [spread] at spacedAgain
    rw [spreadToo] at spaced
    omega
  · rw [spread] at spacedAgain
    omega

theorem toNat_of_isValid (valid : run.isValid = true) (mapped : run.map? code = some target) :
    (Char.ofNat target).toNat = target := by
  obtain ⟨⟨_, upper, _⟩, rfl⟩ := map?_eq_some_iff.mp mapped
  simp only [isValid, Bool.or_eq_true, Bool.and_eq_true, decide_eq_true_eq] at valid
  have isChar : (run.target + (code - run.first)).isValidChar := by
    unfold Nat.isValidChar
    omega
  rw [Char.ofNat, dif_pos isChar]
  rfl

end CaseRun

/-- All characters that are not their own lower-case forms. -/
def capitalRuns : List CaseRun := .dottedCapital :: lowerCaseRuns

def isLowered (c : Char) : Bool :=
  capitalRuns.all fun run => (run.map? c.toNat).isNone

theorem capitalRuns_avoid : (capitalRuns.all fun run => capitalRuns.all run.avoids) = true := by
  decide +kernel

theorem capitalRuns_valid : capitalRuns.all CaseRun.isValid = true := by
  decide +kernel

variable {c : Char} {run : CaseRun}

theorem map?_of_isLowered (lowered : isLowered c = true) (member : run ∈ capitalRuns) :
    run.map? c.toNat = none :=
  Option.isNone_iff_eq_none.mp (List.all_eq_true.mp lowered run member)

theorem isLowered_of_map? {code target : Nat} (member : run ∈ capitalRuns)
    (mapped : run.map? code = some target) : isLowered (Char.ofNat target) = true := by
  have valid := List.all_eq_true.mp capitalRuns_valid run member
  have avoids := List.all_eq_true.mp (List.all_eq_true.mp capitalRuns_avoid run member)
  refine List.all_eq_true.mpr fun other memberToo => ?_
  rw [CaseRun.toNat_of_isValid valid mapped]
  exact Option.isNone_iff_eq_none.mpr (CaseRun.map?_of_avoids (avoids other memberToo) mapped)

theorem ne_of_isLowered (lowered : isLowered c = true) : c ≠ 'İ' ∧ c ≠ 'Σ' := by
  refine ⟨?_, ?_⟩
  · rintro rfl
    exact absurd lowered (by decide +kernel)
  · rintro rfl
    exact absurd lowered (by decide +kernel)

theorem isUpper_iff : c.isUpper = true ↔ 65 ≤ c.toNat ∧ c.toNat ≤ 90 := by
  change decide (65 ≤ c.toNat ∧ c.toNat ≤ 90) = true ↔ _
  rw [decide_eq_true_iff]

theorem isUpper_of_isLowered (lowered : isLowered c = true) : c.isUpper = false := by
  have letters : (⟨0x0041, 0x005A, 1, 0x0061⟩ : CaseRun) ∈ capitalRuns :=
    List.mem_cons_of_mem _ List.mem_cons_self
  have unmapped := map?_of_isLowered lowered letters
  rw [Bool.eq_false_iff]
  intro upper
  have bounds := isUpper_iff.mp upper
  have mapped : (⟨0x0041, 0x005A, 1, 0x0061⟩ : CaseRun).map? c.toNat =
      some (0x0061 + (c.toNat - 0x0041)) :=
    CaseRun.map?_eq_some_iff.mpr ⟨⟨bounds.1, bounds.2, Nat.mod_one _⟩, rfl⟩
  rw [unmapped] at mapped
  contradiction

theorem lowerChar_of_isLowered (lowered : isLowered c = true) : lowerChar c = [c] := by
  have unmapped : lowerCaseRuns.findSome? (fun run => run.map? c.toNat) = none :=
    List.findSome?_eq_none_iff.mpr fun run member =>
      map?_of_isLowered lowered (List.mem_cons_of_mem _ member)
  rw [lowerChar, if_neg (ne_of_isLowered lowered).1, unmapped]

theorem isLowered_of_mem_lowerChar {lower : Char} (member : lower ∈ lowerChar c) :
    isLowered lower = true := by
  unfold lowerChar at member
  split at member
  · rcases List.mem_cons.mp member with rfl | member
    · decide +kernel
    · rw [List.mem_singleton.mp member]
      decide +kernel
  · rename_i undotted
    split at member
    · rename_i code found
      obtain ⟨run, listed, mapped⟩ := List.exists_of_findSome?_eq_some found
      rw [List.mem_singleton.mp member]
      exact isLowered_of_map? (List.mem_cons_of_mem _ listed) mapped
    · rename_i missing
      rw [List.mem_singleton.mp member]
      refine List.all_eq_true.mpr (List.forall_mem_cons.mpr ⟨?_, fun run listed => ?_⟩)
      · rw [Option.isNone_iff_eq_none, Option.eq_none_iff_forall_ne_some]
        intro target mapped
        obtain ⟨⟨lower, upper, _⟩, _⟩ := CaseRun.map?_eq_some_iff.mp mapped
        exact undotted (Char.toNat_inj.mp (Nat.le_antisymm upper lower))
      · exact Option.isNone_iff_eq_none.mpr (List.findSome?_eq_none_iff.mp missing run listed)

/-! ### Whole texts -/

variable {before text : List Char}

theorem lowerCaseAfter_eq_self (lowered : ∀ c ∈ text, isLowered c = true) :
    lowerCaseAfter before text = text := by
  induction text generalizing before with
  | nil => rfl
  | cons c text inductionHypothesis =>
      obtain ⟨first, others⟩ := List.forall_mem_cons.mp lowered
      rw [lowerCaseAfter, if_neg (ne_of_isLowered first).2, lowerChar_of_isLowered first,
        inductionHypothesis others]
      rfl

theorem isLowered_of_mem_lowerCaseAfter : ∀ c ∈ lowerCaseAfter before text, isLowered c = true := by
  induction text generalizing before with
  | nil => exact List.forall_mem_nil _
  | cons c text inductionHypothesis =>
      intro lower member
      rw [lowerCaseAfter] at member
      rcases List.mem_append.mp member with first | others
      · split at first
        · -- both forms of a sigma are their own lower-case forms
          split at first <;> rw [List.mem_singleton.mp first] <;> decide +kernel
        · exact isLowered_of_mem_lowerChar first
      · exact inductionHypothesis lower others

theorem isLowered_of_mem_lowerCase : ∀ c ∈ lowerCase text, isLowered c = true :=
  isLowered_of_mem_lowerCaseAfter

theorem lowerCase_eq_self (lowered : ∀ c ∈ text, isLowered c = true) : lowerCase text = text :=
  lowerCaseAfter_eq_self lowered

end FilterQuery.Text
