import FilterQuery.Proofs.Documents.Store
import FilterQuery.Proofs.TimestampLiterals

namespace FilterQuery

/-! The operands that are written for values tell them apart: what has the same text is
written in different ways if it is of different kinds. -/

/-- Equality as programs have it: zeros of either sign are equal, and members have no order. -/
inductive Json.Equals : Json → Json → Prop where
  | null : Equals .null .null
  | bool (value : Bool) : Equals (.bool value) (.bool value)
  | integer (value : Int) : Equals (.integer value) (.integer value)
  | float {first second : Float} (equal : (first == second) = true) :
      Equals (.float first) (.float second)
  | string (text : String) : Equals (.string text) (.string text)
  | array {items others : List Json} (each : List.Forall₂ Equals items others) :
      Equals (.array items) (.array others)
  | object {members others arranged : List (String × Json)}
      (names : members.map Prod.fst = arranged.map Prod.fst)
      (each : List.Forall₂ Equals (members.map Prod.snd) (arranged.map Prod.snd))
      (order : arranged.Perm others) : Equals (.object members) (.object others)

def Value.Equals : Value → Value → Prop
  | .float first, .float second => (first == second) = true
  | first, second => first = second

theorem Decimal.text_inj {first second : Decimal} (written : first.text = second.text) :
    first = second := by
  have read := first.parse_text
  rw [written, second.parse_text] at read
  exact (Except.ok.inj read).symm

namespace Document

variable {value first second : Value} {json : Json} {mark text : String}

theorem eq_of_equals_string (equal : Json.Equals (.string text) json) : json = .string text := by
  cases equal
  rfl

theorem equals_marked (mark text : String) :
    Json.Equals (.object [(mark, .string text)]) (.object [(mark, .string text)]) :=
  .object rfl (.cons (.string text) .nil) (List.Perm.refl _)

theorem eq_of_equals_marked (equal : Json.Equals (.object [(mark, .string text)]) json) :
    json = .object [(mark, .string text)] := by
  cases equal with
  | @object _ _ arranged names each order =>
      obtain ⟨⟨name, value⟩, rfl⟩ : ∃ member, arranged = [member] := by
        rw [← List.length_eq_one_iff]
        simpa using congrArg List.length names.symm
      cases each with
      | cons same _ =>
          have kept : value = .string text := eq_of_equals_string same
          obtain rfl : mark = name := List.singleton_inj.mp names
          rw [← List.singleton_perm.mp order, kept]

theorem operand_float {number : Float} (finite : number.isFinite = true) :
    operand (.float number) = .float number :=
  if_pos finite

/-- Numbers apart, what is written for a value equals nothing but itself. -/
theorem cases_of_equals (finite : value.isFinite = true) (equal : (operand value).Equals json) :
    (json = operand value ∧ value.Equals value) ∨
      ∃ number other, value = .float number ∧ json = .float other ∧ (number == other) = true := by
  cases value with
  | float number =>
      rw [operand_float finite] at equal
      cases equal with
      | float same => exact .inr ⟨number, _, rfl, rfl, same⟩
  | decimal number => exact .inl ⟨eq_of_equals_marked equal, rfl⟩
  | dateTime instant => exact .inl ⟨eq_of_equals_marked equal, rfl⟩
  | null | boolean _ | integer _ | string _ =>
      cases equal
      exact .inl ⟨rfl, rfl⟩

theorem operand_inj (finite : first.isFinite = true) (finiteToo : second.isFinite = true)
    (written : operand first = operand second) : first = second := by
  have read := value?_operand finite
  rw [written, value?_operand finiteToo] at read
  exact (Option.some.inj read).symm

theorem equals_of_operand (finite : first.isFinite = true) (finiteToo : second.isFinite = true)
    (equal : (operand first).Equals (operand second)) : first.Equals second := by
  rcases cases_of_equals finite equal with ⟨written, reflexive⟩ | ⟨number, other, rfl, written, same⟩
  · rwa [operand_inj finiteToo finite written]
  · have read := value?_operand finiteToo
    rw [written] at read
    obtain rfl : Value.float other = second := Option.some.inj read
    exact same

theorem operand_equals (finite : first.isFinite = true) (finiteToo : second.isFinite = true)
    (equal : first.Equals second) : (operand first).Equals (operand second) := by
  cases first with
  | float number =>
      cases second with
      | float other =>
          rw [operand_float finite, operand_float finiteToo]
          exact .float equal
      | _ => contradiction
  | null =>
      cases equal
      exact .null
  | boolean value =>
      cases equal
      exact .bool value
  | integer number =>
      cases equal
      exact .integer _
  | string text =>
      cases equal
      exact .string text
  | decimal number =>
      cases equal
      exact equals_marked _ _
  | dateTime instant =>
      cases equal
      exact equals_marked _ _

/-- An operand is read as the value it was written for, so that equal operands stand for equal
values, whatever their texts are.  All values of literals are finite. -/
theorem operands_determine_values (finite : first.isFinite = true)
    (finiteToo : second.isFinite = true) :
    value? (operand first) = some first ∧
      (operand first = operand second ↔ first = second) ∧
      ((operand first).Equals (operand second) ↔ first.Equals second) ∧
      (∀ number other : Decimal, number.text = other.text ↔ number = other) ∧
      (∀ instant other : Calendar.Instant, instant.text = other.text ↔ instant = other) ∧
      ∀ (field : Field) (unknown : UnknownMembers) (literal : String) (value : Value),
        field.castArgument unknown literal = .ok (some value) → value.isFinite = true := by
  refine ⟨value?_operand finite, ⟨operand_inj finite finiteToo, congrArg operand⟩,
    ⟨equals_of_operand finite finiteToo, operand_equals finite finiteToo⟩, ?_, ?_, ?_⟩
  · intro number other
    exact ⟨Decimal.text_inj, congrArg Decimal.text⟩
  · intro instant other
    exact ⟨Calendar.Instant.text_inj, congrArg Calendar.Instant.text⟩
  · intro field unknown literal value cast
    obtain ⟨valued, _⟩ := Field.castArgument_eq_ok cast
    exact Field.value?_isFinite valued.symm

theorem prices_kept_apart :
    (Value.decimal ⟨15, 1⟩).text = (Value.string "1.5").text ∧
      ¬(operand (.decimal ⟨15, 1⟩)).Equals (operand (.string "1.5")) ∧
      ¬(operand (.decimal ⟨15, 1⟩)).Equals (operand (.decimal ⟨150, 2⟩)) := by
  have price : (Value.decimal ⟨15, 1⟩).isFinite = true := rfl
  have name : (Value.string "1.5").isFinite = true := rfl
  have padded : (Value.decimal ⟨150, 2⟩).isFinite = true := rfl
  obtain ⟨_, _, spelled, _⟩ := operands_determine_values price name
  obtain ⟨_, _, scaled, _⟩ := operands_determine_values price padded
  refine ⟨by decide, ?_, ?_⟩
  · intro equal
    cases spelled.mp equal
  · intro equal
    have same : Value.decimal ⟨15, 1⟩ = .decimal ⟨150, 2⟩ := scaled.mp equal
    exact absurd same (by decide)

end Document

end FilterQuery
