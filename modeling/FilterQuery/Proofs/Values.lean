import FilterQuery.Proofs.Comparisons

namespace FilterQuery

/-! The kinds of stored values, and how values of one kind are ordered. -/

/-- Not-a-number equals itself and follows every number. -/
def Binary64.order (first second : Float) : Ordering :=
  if first < second || (second.isNaN && !first.isNaN) then .lt
  else if second < first || (first.isNaN && !second.isNaN) then .gt
  else .eq

/-- The order of magnitudes, whatever the number of written places. -/
def Decimal.order (first second : Decimal) : Ordering :=
  compare (first.mantissa * Nat.pow 10 second.scale) (second.mantissa * Nat.pow 10 first.scale)

def Calendar.Instant.order (first second : Instant) : Ordering :=
  (compare first.date.year second.date.year).then <|
    (compare first.date.month second.date.month).then <|
    (compare first.date.day second.date.day).then <|
    (compare first.time.hour second.time.hour).then <|
    (compare first.time.minute second.time.minute).then <|
    (compare first.time.second second.time.second).then <|
    compare first.time.nanosecond second.time.nanosecond

namespace Value

/-- Whether fields of a kind hold such values.  Members of enumerations are stored
by their names. -/
def isOf : Value → ValueKind → Bool
  | .integer _, .integer | .float _, .float | .decimal _, .decimal => true
  | .boolean _, .boolean | .dateTime _, .dateTime => true
  | .string _, .string | .string _, .enumeration => true
  | _, _ => false

/-- Whether a value is none of the floating-point numbers that JSON has no notation
for. -/
def isFinite : Value → Bool
  | .float value => value.isFinite
  | _ => true

/-- How two values of one kind are ordered; others cannot be compared. -/
def compare? : Value → Value → Option Ordering
  | .integer first, .integer second => some (compare first.toInt second.toInt)
  | .float first, .float second => some (Binary64.order first second)
  | .decimal first, .decimal second => some (first.order second)
  | .boolean first, .boolean second => some (compare first second)
  | .dateTime first, .dateTime second => some (first.order second)
  | .string first, .string second => some (compare first second)
  | _, _ => none

theorem compare?_exists {first second : Value} {kind : ValueKind}
    (firstOf : first.isOf kind = true) (secondOf : second.isOf kind = true) :
    ∃ order, first.compare? second = some order := by
  cases first <;> cases kind <;> cases firstOf <;> cases second <;> cases secondOf <;>
    exact ⟨_, rfl⟩

@[simp]
theorem compare?_null (second : Value) : Value.null.compare? second = none := by
  cases second <;> rfl

@[simp]
theorem compare?_string_eq_iff (first second : String) :
    (Value.string first).compare? (.string second) = some .eq ↔ first = second := by
  rw [compare?, Option.some.injEq, Std.compare_eq_iff_eq]

theorem ne_null_of_isOf {value : Value} {kind : ValueKind} (valueOf : value.isOf kind = true) :
    value ≠ .null := by
  rintro rfl
  cases kind <;> contradiction

theorem exists_string_of_isOf {value : Value} (valueOf : value.isOf .string = true) :
    ∃ text, value = .string text := by
  cases value <;> first | contradiction | exact ⟨_, rfl⟩

end Value

namespace Field

variable {field : Field} {literal : String} {value : Value}

theorem readLiteral?_isOf {kind : ValueKind} (read : readLiteral? kind literal = some value) :
    value.isOf kind = true := by
  cases kind with
  | integer =>
      obtain ⟨number, _, rfl⟩ := Option.map_eq_some_iff.mp read
      rfl
  | float =>
      obtain ⟨number, _, rfl⟩ := Option.map_eq_some_iff.mp read
      rfl
  | decimal =>
      obtain ⟨number, _, rfl⟩ := Option.map_eq_some_iff.mp read
      rfl
  | dateTime =>
      obtain ⟨instant, _, rfl⟩ := Option.map_eq_some_iff.mp read
      rfl
  | boolean =>
      simp only [readLiteral?] at read
      split at read
      · cases read
        rfl
      · split at read <;> cases read
        rfl
  | string =>
      cases read
      rfl
  | enumeration =>
      cases read
      rfl

theorem value?_isOf (valued : field.value? literal = some value) :
    value.isOf field.kind = true := by
  unfold value? at valued
  split at valued
  · rename_i enumeration
    obtain ⟨name, _, rfl⟩ := Option.map_eq_some_iff.mp valued
    rw [of_decide_eq_true enumeration]
    rfl
  · exact readLiteral?_isOf valued

theorem readLiteral?_isFinite {kind : ValueKind} (read : readLiteral? kind literal = some value) :
    value.isFinite = true := by
  have valueOf := readLiteral?_isOf read
  cases value with
  | float number =>
      cases kind <;> cases valueOf
      obtain ⟨_, checked, ⟨⟩⟩ := Option.map_eq_some_iff.mp read
      exact (Option.filter_eq_some_iff.mp checked).2
  | _ => rfl

theorem value?_isFinite (valued : field.value? literal = some value) : value.isFinite = true := by
  unfold value? at valued
  split at valued
  · obtain ⟨name, _, rfl⟩ := Option.map_eq_some_iff.mp valued
    rfl
  · exact readLiteral?_isFinite valued

theorem mem_values_isFinite {literals : List String} (member : value ∈ field.values literals) :
    value.isFinite = true := by
  obtain ⟨literal, _, valued⟩ := List.mem_filterMap.mp member
  exact value?_isFinite valued

theorem mem_values_isOf {literals : List String} (member : value ∈ field.values literals) :
    value.isOf field.kind = true := by
  obtain ⟨literal, _, valued⟩ := List.mem_filterMap.mp member
  exact value?_isOf valued

end Field

end FilterQuery
