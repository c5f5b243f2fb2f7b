import FilterQuery.Expression.Reader
import FilterQuery.Proofs.Json.ReadBack
import FilterQuery.Proofs.Trees
import Mathlib.Data.List.Basic

namespace FilterQuery

/-! The JSON forms of expressions.  Members of an object may stand in any order and among
members that are skipped, and a list of arguments that is empty may be left out; every such
form is read as the expression, as long as it is not nested too deeply. -/

namespace Json

theorem depthOfItems_le_iff {items : List Json} {bound : Nat} :
    depthOfItems items ≤ bound ↔ ∀ item ∈ items, item.depth ≤ bound := by
  induction items with
  | nil => simp [depthOfItems]
  | cons item items inductionHypothesis =>
      rw [depthOfItems, Nat.max_le, inductionHypothesis, List.forall_mem_cons]

theorem depthOfMembers_le_iff {members : List (String × Json)} {bound : Nat} :
    depthOfMembers members ≤ bound ↔ ∀ member ∈ members, member.2.depth ≤ bound := by
  induction members with
  | nil => simp [depthOfMembers]
  | cons member members inductionHypothesis =>
      rw [depthOfMembers, Nat.max_le, inductionHypothesis, List.forall_mem_cons]

inductive Plain : Json → Prop where
  | null : Plain .null
  | bool (value : Bool) : Plain (.bool value)
  | string (text : String) : Plain (.string text)

theorem Plain.numberless {value : Json} (plain : value.Plain) : value.Numberless := by
  cases plain with
  | null => exact .null
  | bool value => exact .bool value
  | string text => exact .string text

theorem Plain.depth {value : Json} (plain : value.Plain) : value.depth = 0 := by
  cases plain <;> rw [Json.depth] <;> nofun

theorem ofStrings_numberless (values : List String) : (ofStrings values).Numberless := by
  refine .array fun item member => ?_
  obtain ⟨text, _, rfl⟩ := List.mem_map.mp member
  exact .string text

theorem depth_ofStrings (values : List String) : (ofStrings values).depth = 1 := by
  have flat : depthOfItems (values.map Json.string) ≤ 0 := by
    rw [depthOfItems_le_iff]
    intro item member
    obtain ⟨text, _, rfl⟩ := List.mem_map.mp member
    exact Nat.le_of_eq (Plain.string text).depth
  rw [ofStrings, Json.depth, Nat.le_zero.mp flat]

end Json

namespace Expression

mutual

def levels : Expression → Nat
  | .all children | .any children => levelsOfList children + 1
  | .comparison .. => 1

def levelsOfList : List Expression → Nat
  | [] => 0
  | expression :: expressions => max expression.levels (levelsOfList expressions)

end

namespace Kind

def name : Kind → String
  | .all => "and"
  | .any => "or"
  | .comparison => "comparison"

def tag (kind : Kind) : String × Json :=
  ("type", .string kind.name)

def names (kind : Kind) : List String :=
  "type" :: (kind.requiredFields ++ kind.optionalFields)

/-- Whether the members are the tag and the fields in any order, among plain values under
names that the kind does not have. -/
def Lists (kind : Kind) (fields members : List (String × Json)) : Prop :=
  ∃ skipped : List (String × Json),
    (∀ member ∈ skipped, member.1 ∉ kind.names ∧ member.2.Plain) ∧
      members.Perm (kind.tag :: fields ++ skipped)

end Kind

/-- The forms of an expression.  Children are paired with their own forms. -/
inductive WrittenAs : Expression → Json → Prop where
  | all {children : List (Expression × Json)} {members : List (String × Json)}
      (each : ∀ child ∈ children, WrittenAs child.1 child.2)
      (listed : Kind.all.Lists [("children", .array (children.map Prod.snd))] members) :
      WrittenAs (.all (children.map Prod.fst)) (.object members)
  | any {children : List (Expression × Json)} {members : List (String × Json)}
      (each : ∀ child ∈ children, WrittenAs child.1 child.2)
      (listed : Kind.any.Lists [("children", .array (children.map Prod.snd))] members) :
      WrittenAs (.any (children.map Prod.fst)) (.object members)
  | comparison {selector symbol : String} {arguments : List String}
      {members : List (String × Json)}
      (listed : Kind.comparison.Lists [("selector", .string selector),
        ("operator", .string symbol), ("arguments", Json.ofStrings arguments)] members) :
      WrittenAs (.comparison selector symbol arguments) (.object members)
  | unargued {selector symbol : String} {members : List (String × Json)}
      (listed : Kind.comparison.Lists
        [("selector", .string selector), ("operator", .string symbol)] members) :
      WrittenAs (.comparison selector symbol []) (.object members)

section Form

variable {kind : Kind} {fields members : List (String × Json)} {expression : Expression}
  {value : Json}

theorem Kind.Lists.cases (listed : kind.Lists fields members) {member : String × Json}
    (present : member ∈ members) : member ∈ fields ∨ member.2.Plain := by
  obtain ⟨skipped, plain, shuffled⟩ := listed
  rcases List.mem_append.mp (shuffled.mem_iff.mp present) with known | other
  · rcases List.mem_cons.mp known with rfl | field
    · exact .inr (.string kind.name)
    · exact .inl field
  · exact .inr (plain member other).2

theorem Kind.Lists.numberless (listed : kind.Lists fields members)
    (each : ∀ field ∈ fields, field.2.Numberless) : (Json.object members).Numberless := by
  refine .object fun member present => ?_
  rcases listed.cases present with field | plain
  · exact each member field
  · exact plain.numberless

theorem Kind.Lists.depth_le (listed : kind.Lists fields members) {bound : Nat}
    (each : ∀ field ∈ fields, field.2.depth ≤ bound) :
    (Json.object members).depth ≤ bound + 1 := by
  rw [Json.depth]
  refine Nat.succ_le_succ (Json.depthOfMembers_le_iff.mpr fun member present => ?_)
  rcases listed.cases present with field | plain
  · exact each member field
  · rw [plain.depth]
    exact Nat.zero_le bound

theorem levels_le_levelsOfList {children : List Expression} {child : Expression}
    (present : child ∈ children) : child.levels ≤ levelsOfList children := by
  induction children with
  | nil => contradiction
  | cons first others inductionHypothesis =>
      rw [levelsOfList]
      rcases List.mem_cons.mp present with rfl | later
      · exact Nat.le_max_left ..
      · exact Nat.le_trans (inductionHypothesis later) (Nat.le_max_right ..)

theorem children_numberless {children : List (Expression × Json)}
    (each : ∀ child ∈ children, child.2.Numberless) :
    ∀ field ∈ [("children", Json.array (children.map Prod.snd))], field.2.Numberless := by
  refine List.forall_mem_singleton.mpr (.array fun item present => ?_)
  obtain ⟨child, among, rfl⟩ := List.mem_map.mp present
  exact each child among

theorem children_depth_le {children : List (Expression × Json)}
    (each : ∀ child ∈ children, child.2.depth ≤ 2 * child.1.levels) :
    ∀ field ∈ [("children", Json.array (children.map Prod.snd))],
      field.2.depth ≤ 2 * levelsOfList (children.map Prod.fst) + 1 := by
  refine List.forall_mem_singleton.mpr ?_
  rw [Json.depth]
  refine Nat.succ_le_succ (Json.depthOfItems_le_iff.mpr fun item present => ?_)
  obtain ⟨child, among, rfl⟩ := List.mem_map.mp present
  exact Nat.le_trans (each child among)
    (Nat.mul_le_mul_left 2 (levels_le_levelsOfList (List.mem_map_of_mem among)))

theorem WrittenAs.numberless (written : expression.WrittenAs value) : value.Numberless := by
  induction written with
  | all _ listed inductionHypothesis | any _ listed inductionHypothesis =>
      exact listed.numberless (children_numberless inductionHypothesis)
  | comparison listed =>
      exact listed.numberless (by simp [Json.Numberless.string, Json.ofStrings_numberless])
  | unargued listed => exact listed.numberless (by simp [Json.Numberless.string])

theorem WrittenAs.depth_le (written : expression.WrittenAs value) :
    value.depth ≤ 2 * expression.levels := by
  induction written with
  | all _ listed inductionHypothesis | any _ listed inductionHypothesis =>
      exact listed.depth_le (children_depth_le inductionHypothesis)
  | comparison listed => exact listed.depth_le (by simp [Json.depth, Json.depth_ofStrings])
  | unargued listed => exact listed.depth_le (by simp [Json.depth])

end Form

section Reading

variable {kind : Kind} {fields members : List (String × Json)} {expression : Expression}
  {value : Json} {name : String}

theorem valuesOf_cons (name : String) (member : String × Json) (members : List (String × Json)) :
    valuesOf name (member :: members) =
      if member.1 = name then member.2 :: valuesOf name members else valuesOf name members := by
  by_cases same : member.1 = name <;> simp [valuesOf, same]

theorem valuesOf_append (name : String) (first second : List (String × Json)) :
    valuesOf name (first ++ second) = valuesOf name first ++ valuesOf name second := by
  rw [valuesOf, List.filter_append, List.map_append, valuesOf, valuesOf]

theorem valuesOf_perm {others : List (String × Json)} (shuffled : members.Perm others)
    (name : String) : (valuesOf name members).Perm (valuesOf name others) :=
  (shuffled.filter _).map _

theorem Kind.Lists.valuesOf_eq (listed : kind.Lists fields members) (known : name ∈ kind.names)
    (once : (valuesOf name (kind.tag :: fields)).length ≤ 1) :
    valuesOf name members = valuesOf name (kind.tag :: fields) := by
  obtain ⟨skipped, other, shuffled⟩ := listed
  have absent : valuesOf name skipped = [] := by
    rw [valuesOf, List.map_eq_nil_iff, List.filter_eq_nil_iff]
    intro member present same
    exact (other member present).1 (of_decide_eq_true same ▸ known)
  have same := valuesOf_perm shuffled name
  rw [valuesOf_append, absent, List.append_nil] at same
  -- at most one value has only one order
  generalize valuesOf name (kind.tag :: fields) = values at once same ⊢
  match values with
  | [] => exact same.eq_nil
  | [_] => exact List.perm_singleton.mp same
  | _ :: _ :: _ => simp at once

theorem Kind.ofJson?_name (inner : Bool) (kind : Kind) :
    Kind.ofJson? inner (.string kind.name) = some kind := by
  cases kind <;> simp [Kind.ofJson?, Kind.name]

theorem Kind.Lists.valuesOf_type (listed : kind.Lists fields members)
    (untyped : valuesOf "type" fields = []) : valuesOf "type" members = [.string kind.name] := by
  have only : valuesOf "type" (kind.tag :: fields) = [.string kind.name] := by
    rw [valuesOf_cons, untyped]
    rfl
  rw [listed.valuesOf_eq List.mem_cons_self (by rw [only]; exact Nat.le_refl 1), only]

theorem Kind.Lists.valuesOf_field (listed : kind.Lists fields members)
    (known : name ∈ kind.requiredFields ++ kind.optionalFields)
    (once : (valuesOf name fields).length ≤ 1) : valuesOf name members = valuesOf name fields := by
  -- no field has the name of the tag
  have later : valuesOf name (kind.tag :: fields) = valuesOf name fields := by
    rw [valuesOf_cons, if_neg]
    rintro rfl
    cases kind <;> simp [Kind.tag, Kind.requiredFields, Kind.optionalFields] at known
  rw [← later] at once ⊢
  exact listed.valuesOf_eq (List.mem_cons_of_mem _ known) once

theorem Kind.Lists.parts?_eq (listed : kind.Lists fields members) (inner : Bool)
    (untyped : valuesOf "type" fields = [])
    (required : ∀ name ∈ kind.requiredFields, (valuesOf name fields).length = 1)
    (optional : ∀ name ∈ kind.optionalFields, (valuesOf name fields).length ≤ 1) :
    parts? inner (.object members) = some (kind,
      (kind.requiredFields ++ kind.optionalFields).flatMap (valuesOf · fields)) := by
  have same : ∀ name ∈ kind.requiredFields ++ kind.optionalFields,
      valuesOf name members = valuesOf name fields := by
    intro name known
    apply listed.valuesOf_field known
    rcases List.mem_append.mp known with necessary | possible
    · exact Nat.le_of_eq (required name necessary)
    · exact optional name possible
  have found : fieldsOf? kind members =
      some ((kind.requiredFields ++ kind.optionalFields).flatMap (valuesOf · fields)) := by
    rw [fieldsOf?, if_pos, List.flatMap_congr same]
    simp only [Bool.and_eq_true, List.all_eq_true, decide_eq_true_eq]
    refine ⟨?_, ?_⟩
    · intro name known
      rw [same name (List.mem_append_left _ known)]
      exact required name known
    · intro name known
      rw [same name (List.mem_append_right _ known)]
      exact optional name known
  simp only [parts?, listed.valuesOf_type untyped, Kind.ofJson?_name, found,
    Option.bind_eq_bind, Option.bind_some]

theorem Kind.Lists.children_parts (listed : kind.Lists [("children", value)] members)
    (junction : kind ≠ .comparison) (inner : Bool) :
    parts? inner (.object members) = some (kind, [value]) := by
  cases kind with
  | comparison => contradiction
  | _ =>
      rw [listed.parts?_eq inner] <;> simp [Kind.requiredFields, Kind.optionalFields, valuesOf]

theorem Kind.Lists.argued_parts {selector symbol arguments : Json}
    (listed : Kind.comparison.Lists
      [("selector", selector), ("operator", symbol), ("arguments", arguments)] members)
    (inner : Bool) :
    parts? inner (.object members) = some (.comparison, [selector, symbol, arguments]) := by
  rw [listed.parts?_eq inner] <;> simp [Kind.requiredFields, Kind.optionalFields, valuesOf]

theorem Kind.Lists.unargued_parts {selector symbol : Json}
    (listed : Kind.comparison.Lists [("selector", selector), ("operator", symbol)] members)
    (inner : Bool) :
    parts? inner (.object members) = some (.comparison, [selector, symbol]) := by
  rw [listed.parts?_eq inner] <;> simp [Kind.requiredFields, Kind.optionalFields, valuesOf]

theorem ofJsonList?_eq {children : List (Expression × Json)}
    (each : ∀ child ∈ children, ofJson? true child.2 = some child.1) :
    ofJsonList? (children.map Prod.snd) = some (children.map Prod.fst) := by
  induction children with
  | nil => rw [List.map_nil, ofJsonList?, List.map_nil]
  | cons child children inductionHypothesis =>
      obtain ⟨first, others⟩ := List.forall_mem_cons.mp each
      rw [List.map_cons, ofJsonList?, first, inductionHypothesis others]
      rfl

theorem mapM_argument? (arguments : List String) :
    (arguments.map Json.string).mapM argument? = some arguments := by
  induction arguments with
  | nil => rfl
  | cons argument arguments inductionHypothesis =>
      rw [List.map_cons, List.mapM_cons, inductionHypothesis]
      rfl

theorem ofJson?_all {inner : Bool} {children : List Json}
    (parts : parts? inner value = some (.all, [.array children])) :
    ofJson? inner value = (ofJsonList? children).map .all := by
  rw [ofJson?]
  split <;> simp_all

theorem ofJson?_any {inner : Bool} {children : List Json}
    (parts : parts? inner value = some (.any, [.array children])) :
    ofJson? inner value = (ofJsonList? children).map .any := by
  rw [ofJson?]
  split <;> simp_all

theorem ofJson?_comparison {inner : Bool} {selector symbol : String} {arguments : List String}
    (parts : parts? inner value = some (.comparison,
      [.string selector, .string symbol, Json.ofStrings arguments])) :
    ofJson? inner value = some (.comparison selector symbol arguments) := by
  have texts := mapM_argument? arguments
  rw [ofJson?]
  split <;> simp_all [Json.ofStrings]

theorem ofJson?_unargued {inner : Bool} {selector symbol : String}
    (parts : parts? inner value = some (.comparison, [.string selector, .string symbol])) :
    ofJson? inner value = some (.comparison selector symbol []) := by
  rw [ofJson?]
  split <;> simp_all

theorem WrittenAs.ofJson?_eq (written : expression.WrittenAs value) (inner : Bool) :
    ofJson? inner value = some expression := by
  induction written generalizing inner with
  | all _ listed inductionHypothesis =>
      rw [ofJson?_all (listed.children_parts nofun inner),
        ofJsonList?_eq fun child among => inductionHypothesis child among true]
      rfl
  | any _ listed inductionHypothesis =>
      rw [ofJson?_any (listed.children_parts nofun inner),
        ofJsonList?_eq fun child among => inductionHypothesis child among true]
      rfl
  | comparison listed => exact ofJson?_comparison (listed.argued_parts inner)
  | unargued listed => exact ofJson?_unargued (listed.unargued_parts inner)

end Reading

section Writing

theorem listToJson_eq_map (expressions : List Expression) :
    listToJson expressions = expressions.map toJson := by
  induction expressions with
  | nil => rfl
  | cons expression expressions inductionHypothesis =>
      rw [listToJson, inductionHypothesis, List.map_cons]

theorem Kind.lists_alone (kind : Kind) (fields : List (String × Json)) :
    kind.Lists fields (kind.tag :: fields) :=
  ⟨[], nofun, by rw [List.append_nil]⟩

theorem writtenAs_toJson (expression : Expression) : expression.WrittenAs expression.toJson := by
  induction expression with
  | all children inductionHypothesis =>
      have each : ∀ child ∈ children.map (fun child => (child, child.toJson)),
          child.1.WrittenAs child.2 := by simpa using inductionHypothesis
      simpa [toJson, listToJson_eq_map, Kind.tag, Kind.name, Function.comp_def]
        using WrittenAs.all each (Kind.all.lists_alone _)
  | any children inductionHypothesis =>
      have each : ∀ child ∈ children.map (fun child => (child, child.toJson)),
          child.1.WrittenAs child.2 := by simpa using inductionHypothesis
      simpa [toJson, listToJson_eq_map, Kind.tag, Kind.name, Function.comp_def]
        using WrittenAs.any each (Kind.any.lists_alone _)
  | comparison selector symbol arguments =>
      rw [toJson]
      exact .comparison (Kind.comparison.lists_alone _)

theorem depthOfItems_listToJson {children : List Expression}
    (each : ∀ child ∈ children, child.toJson.depth = 2 * child.levels) :
    Json.depthOfItems (listToJson children) = 2 * levelsOfList children := by
  induction children with
  | nil => rfl
  | cons child children inductionHypothesis =>
      obtain ⟨first, others⟩ := List.forall_mem_cons.mp each
      rw [listToJson, Json.depthOfItems, levelsOfList, first, inductionHypothesis others]
      omega

/-- Every level of an expression is an object and an array. -/
theorem depth_toJson (expression : Expression) :
    expression.toJson.depth = 2 * expression.levels := by
  induction expression with
  | all children inductionHypothesis | any children inductionHypothesis =>
      rw [toJson, levels]
      simp only [Json.depth, Json.depthOfMembers, depthOfItems_listToJson inductionHypothesis]
      omega
  | comparison selector symbol arguments =>
      rw [toJson, levels]
      simp only [Json.depth, Json.depthOfMembers, Json.depth_ofStrings]
      omega

end Writing

theorem WrittenAs.parse?_chars {expression : Expression} {value : Json}
    (written : expression.WrittenAs value) (layout : Json.Layout) :
    parse? (String.ofList (value.chars layout)) =
      if value.depth ≤ Json.maxDepth then some expression else none := by
  rw [parse?, written.numberless.parse?_chars layout]
  split
  · exact written.ofJson?_eq false
  · rfl

/-- Expressions of up to 63 levels are read from each of their forms, and no written text of
a higher one is read. -/
theorem forms_read_back (expression : Expression) :
    (expression.levels ≤ 63 →
      parse? expression.toJson.compact = some expression ∧
      ∀ value, expression.WrittenAs value → ∀ layout,
        parse? (String.ofList (value.chars layout)) = some expression) ∧
    (64 ≤ expression.levels →
      parse? expression.toJson.compact = none ∧
      ∀ layout, parse? (String.ofList (expression.toJson.chars layout)) = none) := by
  have reads : expression.levels ≤ 63 → ∀ value, expression.WrittenAs value → ∀ layout,
      parse? (String.ofList (value.chars layout)) = some expression := by
    intro shallow value written layout
    rw [written.parse?_chars layout, if_pos]
    exact Nat.le_trans written.depth_le (by rw [Json.maxDepth]; omega)
  have refuses : 64 ≤ expression.levels → ∀ layout,
      parse? (String.ofList (expression.toJson.chars layout)) = none := by
    intro deep layout
    rw [expression.writtenAs_toJson.parse?_chars layout, if_neg]
    rw [depth_toJson, Json.maxDepth]
    omega
  refine ⟨fun shallow => ⟨?_, reads shallow⟩, fun deep => ⟨?_, refuses deep⟩⟩
  · exact reads shallow expression.toJson expression.writtenAs_toJson none
  · exact refuses deep none

/-- Long books without a title. -/
def untitledBooks : Expression :=
  .all [.comparison "title" "=null=" [], .comparison "pages" ">" ["300"]]

def untitledForm : Json :=
  .object [("operator", .string "=null="), ("selector", .string "title"),
    ("type", .string "comparison")]

def longForm : Json :=
  .object [("hint", .null), ("arguments", Json.ofStrings ["300"]), ("operator", .string ">"),
    ("selector", .string "pages"), ("type", .string "comparison")]

def untitledBooksForm : Json :=
  .object [("note", .string "long \u2265 \"300\"\n"),
    ("children", .array [untitledForm, longForm]), ("type", .string "and")]

def nested : Nat → Expression
  | 0 => .any []
  | count + 1 => .any [nested count]

theorem levels_nested (count : Nat) : (nested count).levels = count + 1 := by
  induction count with
  | zero => rfl
  | succ count inductionHypothesis =>
      rw [nested, levels, levelsOfList, levelsOfList, inductionHypothesis, Nat.max_zero]

theorem untitledBooks_read_back :
    untitledBooks.WrittenAs untitledBooksForm ∧
    parse? untitledBooksForm.indented = some untitledBooks ∧
    (nested 62).levels = 63 ∧ parse? (nested 62).toJson.compact = some (nested 62) ∧
    (nested 63).levels = 64 ∧ parse? (nested 63).toJson.compact = none := by
  have untitled : (comparison "title" "=null=" []).WrittenAs untitledForm :=
    .unargued ⟨[], nofun, List.reverse_perm [_, _, _]⟩
  have long : (comparison "pages" ">" ["300"]).WrittenAs longForm := by
    refine .comparison ⟨[("hint", .null)], ?_, List.reverse_perm [_, _, _, _, _]⟩
    exact List.forall_mem_singleton.mpr ⟨by decide, .null⟩
  have each : ∀ child ∈ [(comparison "title" "=null=" [], untitledForm),
      (comparison "pages" ">" ["300"], longForm)], child.1.WrittenAs child.2 :=
    List.forall_mem_cons.mpr ⟨untitled, List.forall_mem_singleton.mpr long⟩
  have books : untitledBooks.WrittenAs untitledBooksForm := by
    refine .all each ⟨[("note", .string _)], ?_, List.reverse_perm [_, _, _]⟩
    exact List.forall_mem_singleton.mpr ⟨by decide, .string _⟩
  exact ⟨books, ((forms_read_back untitledBooks).1 (by decide)).2 _ books (some 0),
    levels_nested 62, ((forms_read_back (nested 62)).1 (Nat.le_of_eq (levels_nested 62))).1,
    levels_nested 63, ((forms_read_back (nested 63)).2 (Nat.le_of_eq (levels_nested 63).symm)).1⟩

end Expression

end FilterQuery
