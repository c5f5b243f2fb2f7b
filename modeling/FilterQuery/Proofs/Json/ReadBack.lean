import FilterQuery.Proofs.Json.Strings

namespace FilterQuery.Json

/-! Values without numbers are read back from their texts, on one line or on many.  The
reader bounds its steps by the length of the text, which is always enough. -/

/-- Whether no number occurs in a value. -/
inductive Numberless : Json → Prop where
  | null : Numberless .null
  | bool (value : Bool) : Numberless (.bool value)
  | string (text : String) : Numberless (.string text)
  | array {items : List Json} (each : ∀ item ∈ items, Numberless item) : Numberless (.array items)
  | object {members : List (String × Json)} (each : ∀ member ∈ members, Numberless member.2) :
      Numberless (.object members)

section Space

variable {front text : List Char} {c : Char} {steps : Nat}

theorem skipSpace_append (blank : ∀ c ∈ front, isSpace c = true) (text : List Char) :
    skipSpace (front ++ text) = skipSpace text :=
  List.dropWhile_append_of_pos blank

theorem skipSpace_cons (solid : isSpace c = false) (text : List Char) :
    skipSpace (c :: text) = c :: text :=
  List.dropWhile_cons_of_neg (by simp [solid])

theorem value?_skip (blank : ∀ c ∈ front, isSpace c = true) (steps : Nat) (text : List Char) :
    value? steps (front ++ text) = value? steps text := by
  cases steps with
  | zero => rw [value?, value?]
  | succ steps => rw [value?.eq_2, value?.eq_2, skipSpace_append blank]

theorem items?_skip (blank : ∀ c ∈ front, isSpace c = true) (steps : Nat) (text : List Char) :
    items? steps (front ++ text) = items? steps text := by
  cases steps with
  | zero => rw [items?, items?]
  | succ steps => rw [items?.eq_2, items?.eq_2, value?_skip blank]

theorem members?_skip (blank : ∀ c ∈ front, isSpace c = true) (steps : Nat) (text : List Char) :
    members? steps (front ++ text) = members? steps text := by
  cases steps with
  | zero => rw [members?, members?]
  | succ steps => rw [members?.eq_2, members?.eq_2, skipSpace_append blank]

theorem isSpace_of_mem_lineBreak {layout : Layout} (member : c ∈ layout.lineBreak) :
    isSpace c = true := by
  cases layout with
  | none => contradiction
  | some level =>
      rcases List.mem_cons.mp member with rfl | space
      · rfl
      · rw [List.eq_of_mem_replicate space]
        rfl

theorem colon_inner (layout : Layout) : layout.inner.colon = layout.colon := by
  cases layout <;> rfl

theorem colon_cons (layout : Layout) :
    ∃ gap, layout.colon = ':' :: gap ∧ ∀ c ∈ gap, isSpace c = true := by
  cases layout with
  | none => exact ⟨[], rfl, nofun⟩
  | some level => exact ⟨[' '], rfl, by simp [isSpace]⟩

end Space

/-- Whether the text of a value is read as the value, in any layout and whatever follows. -/
def ReadsBack (value : Json) : Prop :=
  ∃ written : Written, written.toJson? = some value ∧
    ∀ layout steps rest, 2 * (value.chars layout).length ≤ steps →
      value? steps (value.chars layout ++ rest) = some (written, rest)

section Composition

variable {value item : Json} {items : List Json} {members : List (String × Json)} {written : Written}
  {layout : Layout}

theorem chars_array_cons (layout : Layout) (item : Json) (items : List Json) :
    chars layout (.array (item :: items)) =
      '[' :: (layout.inner.lineBreak ++ (item.chars layout.inner ++
        (itemsChars layout.inner items ++ (layout.lineBreak ++ [']'])))) := by
  simp [chars]

theorem chars_object_cons (layout : Layout) (key : String) (value : Json)
    (members : List (String × Json)) :
    chars layout (.object ((key, value) :: members)) =
      '{' :: (layout.inner.lineBreak ++ (stringChars key ++ (layout.colon ++
        (value.chars layout.inner ++ (membersChars layout.inner members ++
          (layout.lineBreak ++ ['}'])))))) := by
  simp [chars]

theorem itemsChars_cons (layout : Layout) (item : Json) (items : List Json) :
    itemsChars layout (item :: items) =
      ',' :: (layout.lineBreak ++ (item.chars layout ++ itemsChars layout items)) := by
  simp [itemsChars]

theorem membersChars_cons (layout : Layout) (key : String) (value : Json)
    (members : List (String × Json)) :
    membersChars layout ((key, value) :: members) =
      ',' :: (layout.lineBreak ++ (stringChars key ++ (layout.colon ++
        (value.chars layout ++ membersChars layout members)))) := by
  simp [membersChars]

/-- No value begins like the end of an array or with space. -/
theorem Numberless.begins (numberless : value.Numberless) (layout : Layout) :
    ∃ c text, value.chars layout = c :: text ∧ isSpace c = false ∧ c ≠ ']' := by
  cases numberless with
  | null => exact ⟨'n', _, rfl, rfl, by decide⟩
  | bool value =>
      cases value with
      | true => exact ⟨'t', _, rfl, rfl, by decide⟩
      | false => exact ⟨'f', _, rfl, rfl, by decide⟩
  | string text => exact ⟨'"', _, rfl, rfl, by decide⟩
  | @array items =>
      cases items with
      | nil => exact ⟨'[', [']'], by rw [chars], rfl, by decide⟩
      | cons item items => exact ⟨'[', _, chars_array_cons .., rfl, by decide⟩
  | @object members =>
      cases members with
      | nil => exact ⟨'{', ['}'], by rw [chars], rfl, by decide⟩
      | cons member members => exact ⟨'{', _, chars_object_cons .., rfl, by decide⟩

theorem value?_array {front text : List Char} {c : Char}
    (blank : ∀ c ∈ front, isSpace c = true) (solid : isSpace c = false) (more : c ≠ ']')
    (steps : Nat) :
    value? (steps + 1) ('[' :: (front ++ c :: text)) =
      (items? steps (c :: text)).map fun (items, rest) => (.array items, rest) := by
  rw [value?, skipSpace_cons rfl]
  simp only
  rw [skipSpace_append blank, skipSpace_cons solid]
  split
  · rename_i same
    exact absurd (List.cons.inj same).1 more
  · rfl

theorem value?_object {front text : List Char} (blank : ∀ c ∈ front, isSpace c = true)
    (steps : Nat) :
    value? (steps + 1) ('{' :: (front ++ '"' :: text)) =
      (members? steps ('"' :: text)).map fun (members, rest) => (.object members, rest) := by
  rw [value?, skipSpace_cons rfl]
  simp only
  rw [skipSpace_append blank, skipSpace_cons rfl]
  rfl

theorem items?_last {steps : Nat} {text closing rest : List Char}
    (read : value? steps text = some (written, closing ++ ']' :: rest))
    (blank : ∀ c ∈ closing, isSpace c = true) :
    items? (steps + 1) text = some ([written], rest) := by
  rw [items?, read]
  simp only [Option.bind_eq_bind, Option.bind_some]
  rw [skipSpace_append blank, skipSpace_cons rfl]
  rfl

theorem items?_more {steps : Nat} {text rest : List Char}
    (read : value? steps text = some (written, ',' :: rest)) :
    items? (steps + 1) text =
      (items? steps rest).map fun (items, rest) => (written :: items, rest) := by
  rw [items?, read]
  simp only [Option.bind_eq_bind, Option.bind_some]
  rw [skipSpace_cons rfl]
  rfl

theorem members?_last {steps : Nat} {key : String} {text closing rest : List Char}
    (read : value? steps text = some (written, closing ++ '}' :: rest))
    (blank : ∀ c ∈ closing, isSpace c = true) (layout : Layout) :
    members? (steps + 1) (stringChars key ++ (layout.colon ++ text)) =
      some ([(some key, written)], rest) := by
  obtain ⟨gap, colon, space⟩ := colon_cons layout
  rw [stringChars_append, members?, skipSpace_cons rfl]
  simp only [string?_escaped, Option.bind_eq_bind, Option.bind_some, colon, List.cons_append]
  rw [skipSpace_cons rfl]
  simp only [value?_skip space, read, Option.bind_some]
  rw [skipSpace_append blank, skipSpace_cons rfl]
  rfl

theorem members?_more {steps : Nat} {key : String} {text rest : List Char}
    (read : value? steps text = some (written, ',' :: rest)) (layout : Layout) :
    members? (steps + 1) (stringChars key ++ (layout.colon ++ text)) =
      (members? steps rest).map fun (members, rest) => ((some key, written) :: members, rest) := by
  obtain ⟨gap, colon, space⟩ := colon_cons layout
  rw [stringChars_append, members?, skipSpace_cons rfl]
  simp only [string?_escaped, Option.bind_eq_bind, Option.bind_some, colon, List.cons_append]
  rw [skipSpace_cons rfl]
  simp only [value?_skip space, read, Option.bind_some]
  rw [skipSpace_cons rfl]
  rfl

end Composition

section Induction

theorem items?_reads {item : Json} {items : List Json}
    (each : ∀ other ∈ item :: items, other.ReadsBack) :
    ∃ written, Written.itemsToJson? written = some (item :: items) ∧
      ∀ layout steps closing rest, (∀ c ∈ closing, isSpace c = true) →
        2 * ((item.chars layout).length + (itemsChars layout items).length) < steps →
        items? steps (item.chars layout ++ (itemsChars layout items ++ (closing ++ ']' :: rest))) =
          some (written, rest) := by
  induction items generalizing item with
  | nil =>
      obtain ⟨written, meant, reads⟩ := each item List.mem_cons_self
      refine ⟨[written], by simp [Written.itemsToJson?, meant], ?_⟩
      intro layout steps closing rest blank enough
      obtain ⟨steps, rfl⟩ := Nat.exists_eq_succ_of_ne_zero (Nat.ne_zero_of_lt enough)
      rw [itemsChars] at enough ⊢
      rw [List.nil_append]
      exact items?_last (reads layout steps _ (by omega)) blank
  | cons next items inductionHypothesis =>
      obtain ⟨written, meant, reads⟩ := each item List.mem_cons_self
      obtain ⟨others, othersMeant, othersRead⟩ :=
        inductionHypothesis fun other member => each other (List.mem_cons_of_mem item member)
      refine ⟨written :: others, by simp [Written.itemsToJson?, meant, othersMeant], ?_⟩
      intro layout steps closing rest blank enough
      obtain ⟨steps, rfl⟩ := Nat.exists_eq_succ_of_ne_zero (Nat.ne_zero_of_lt enough)
      rw [itemsChars_cons] at enough ⊢
      simp only [List.length_cons, List.length_append] at enough
      simp only [List.cons_append, List.append_assoc]
      rw [items?_more (reads layout steps _ (by omega)), items?_skip fun _ => isSpace_of_mem_lineBreak,
        othersRead layout steps closing rest blank (by omega)]
      rfl

theorem members?_reads {key : String} {value : Json} {members : List (String × Json)}
    (each : ∀ member ∈ (key, value) :: members, member.2.ReadsBack) :
    ∃ written, Written.membersToJson? written = some ((key, value) :: members) ∧
      ∀ layout steps closing rest, (∀ c ∈ closing, isSpace c = true) →
        2 * ((value.chars layout).length + (membersChars layout members).length) < steps →
        members? steps (stringChars key ++ (layout.colon ++ (value.chars layout ++
          (membersChars layout members ++ (closing ++ '}' :: rest))))) = some (written, rest) := by
  induction members generalizing key value with
  | nil =>
      have first : value.ReadsBack := each (key, value) List.mem_cons_self
      obtain ⟨written, meant, reads⟩ := first
      refine ⟨[(some key, written)], by simp [Written.membersToJson?, meant], ?_⟩
      intro layout steps closing rest blank enough
      obtain ⟨steps, rfl⟩ := Nat.exists_eq_succ_of_ne_zero (Nat.ne_zero_of_lt enough)
      rw [membersChars] at enough ⊢
      rw [List.nil_append]
      exact members?_last (reads layout steps _ (by omega)) blank layout
  | cons next members inductionHypothesis =>
      obtain ⟨name, following⟩ := next
      have first : value.ReadsBack := each (key, value) List.mem_cons_self
      obtain ⟨written, meant, reads⟩ := first
      obtain ⟨others, othersMeant, othersRead⟩ :=
        inductionHypothesis fun other member => each other (List.mem_cons_of_mem _ member)
      refine ⟨(some key, written) :: others,
        by simp [Written.membersToJson?, meant, othersMeant], ?_⟩
      intro layout steps closing rest blank enough
      obtain ⟨steps, rfl⟩ := Nat.exists_eq_succ_of_ne_zero (Nat.ne_zero_of_lt enough)
      rw [membersChars_cons] at enough ⊢
      simp only [List.length_cons, List.length_append] at enough
      simp only [List.cons_append, List.append_assoc]
      rw [members?_more (reads layout steps _ (by omega)) layout,
        members?_skip fun _ => isSpace_of_mem_lineBreak,
        othersRead layout steps closing rest blank (by omega)]
      rfl

theorem Numberless.step_exists {value : Json} (numberless : value.Numberless) {layout : Layout}
    {steps : Nat} (enough : 2 * (value.chars layout).length ≤ steps) :
    ∃ fewer, steps = fewer + 1 := by
  obtain ⟨c, text, begins, _⟩ := numberless.begins layout
  rw [begins, List.length_cons] at enough
  exact Nat.exists_eq_succ_of_ne_zero (by omega)

theorem readsBack_array {item : Json} {items : List Json}
    (numberless : (Json.array (item :: items)).Numberless)
    (each : ∀ other ∈ item :: items, other.ReadsBack) :
    (Json.array (item :: items)).ReadsBack := by
  obtain ⟨written, meant, reads⟩ := items?_reads each
  refine ⟨.array written, by simp [Written.toJson?, meant], ?_⟩
  intro layout steps rest enough
  obtain ⟨steps, rfl⟩ := numberless.step_exists enough
  rw [chars_array_cons] at enough ⊢
  simp only [List.length_cons, List.length_append] at enough
  have read := reads layout.inner steps layout.lineBreak rest
    (fun _ => isSpace_of_mem_lineBreak) (by omega)
  cases numberless with
  | array items =>
      obtain ⟨c, text, begins, solid, more⟩ := (items item List.mem_cons_self).begins layout.inner
      rw [begins] at read ⊢
      simp only [List.cons_append, List.append_assoc, List.nil_append] at read ⊢
      rw [value?_array (fun _ => isSpace_of_mem_lineBreak) solid more, read]
      rfl

theorem readsBack_object {key : String} {value : Json} {members : List (String × Json)}
    (numberless : (Json.object ((key, value) :: members)).Numberless)
    (each : ∀ member ∈ (key, value) :: members, member.2.ReadsBack) :
    (Json.object ((key, value) :: members)).ReadsBack := by
  obtain ⟨written, meant, reads⟩ := members?_reads each
  refine ⟨.object written, by simp [Written.toJson?, meant], ?_⟩
  intro layout steps rest enough
  obtain ⟨steps, rfl⟩ := numberless.step_exists enough
  rw [chars_object_cons] at enough ⊢
  simp only [List.length_cons, List.length_append] at enough
  have read := reads layout.inner steps layout.lineBreak rest
    (fun _ => isSpace_of_mem_lineBreak) (by omega)
  simp only [List.cons_append, List.append_assoc, List.nil_append, stringChars_append,
    colon_inner] at read ⊢
  rw [value?_object fun _ => isSpace_of_mem_lineBreak, read]
  rfl

theorem Numberless.readsBack {value : Json} (numberless : value.Numberless) : value.ReadsBack := by
  induction numberless with
  | null =>
      refine ⟨.null, rfl, ?_⟩
      intro layout steps rest enough
      obtain ⟨steps, rfl⟩ := Numberless.null.step_exists enough
      change value? (steps + 1) ('n' :: 'u' :: 'l' :: 'l' :: rest) = _
      rw [value?, skipSpace_cons rfl]
      rfl
  | bool value =>
      refine ⟨.bool value, rfl, ?_⟩
      intro layout steps rest enough
      obtain ⟨steps, rfl⟩ := (Numberless.bool value).step_exists enough
      cases value with
      | true =>
          change value? (steps + 1) ('t' :: 'r' :: 'u' :: 'e' :: rest) = _
          rw [value?, skipSpace_cons rfl]
          rfl
      | false =>
          change value? (steps + 1) ('f' :: 'a' :: 'l' :: 's' :: 'e' :: rest) = _
          rw [value?, skipSpace_cons rfl]
          rfl
  | string text =>
      refine ⟨.string (some text), rfl, ?_⟩
      intro layout steps rest enough
      obtain ⟨steps, rfl⟩ := (Numberless.string text).step_exists enough
      rw [chars, stringChars_append, value?, skipSpace_cons rfl]
      simp only [string?_escaped, Option.map_some]
  | @array items each inductionHypothesis =>
      cases items with
      | cons item items => exact readsBack_array (.array each) inductionHypothesis
      | nil =>
          refine ⟨.array [], rfl, ?_⟩
          intro layout steps rest enough
          obtain ⟨steps, rfl⟩ := (Numberless.array each).step_exists enough
          change value? (steps + 1) ('[' :: ']' :: rest) = _
          rw [value?, skipSpace_cons rfl]
          rfl
  | @object members each inductionHypothesis =>
      cases members with
      | cons member members => exact readsBack_object (.object each) inductionHypothesis
      | nil =>
          refine ⟨.object [], rfl, ?_⟩
          intro layout steps rest enough
          obtain ⟨steps, rfl⟩ := (Numberless.object each).step_exists enough
          change value? (steps + 1) ('{' :: '}' :: rest) = _
          rw [value?, skipSpace_cons rfl]
          rfl

end Induction

/-- The text of a value without numbers is read as the value, unless it is nested too
deeply. -/
theorem Numberless.parse?_chars {value : Json} (numberless : value.Numberless) (layout : Layout) :
    parse? (String.ofList (value.chars layout)) =
      if value.depth ≤ maxDepth then some value else none := by
  obtain ⟨written, meant, reads⟩ := numberless.readsBack
  have read := reads layout (stepsFor (value.chars layout).length) [] (by rw [stepsFor]; omega)
  rw [List.append_nil] at read
  have parsed : Written.parse? (String.ofList (value.chars layout)) = some written := by
    rw [Written.parse?, String.length_ofList, String.toList_ofList, read]
    rfl
  rw [parse?, parsed]
  simp only [Option.bind_eq_bind, Option.bind_some, meant]

end FilterQuery.Json
