import PlcLint.Proofs.Lint.Order
import PlcLint.Proofs.TypeName

/-!
The types of array elements. Each list of subscripts takes off one array, but it has to be one
shorter than the list of ranges: the commas between the ranges are counted, not the ranges. Where
subscripts follow a type that is no array, the inference fails.
-/

namespace PlcLint

/-- Arrays of arrays: the ranges of each, the outermost first, and what the innermost one holds. -/
inductive TypeName.Nested : List (List String) → String → String → Prop where
  | element (typeName : String) : Nested [] typeName typeName
  | array {ranges : List String} {shapes : List (List String)} {inner element typeName : String}
      (outer : ArrayOf ranges inner typeName) (rest : Nested shapes element inner) :
      Nested (ranges :: shapes) element typeName

namespace Scope

/-- The selection that takes the lists of subscripts one after the other. -/
def subscripted (lists : List (List Expr × Bool)) : List Element :=
  lists.map fun (indices, deref) => .subscripts indices deref

/-- The subscripts that the inference accepts for these arrays: a list for each array, with one
subscript less than the array has ranges. -/
def Accepted (shapes : List (List String)) (lists : List (List Expr × Bool)) : Prop :=
  lists.map (fun list => list.1.length + 1) = shapes.map List.length

instance (shapes : List (List String)) (lists : List (List Expr × Bool)) :
    Decidable (Accepted shapes lists) :=
  inferInstanceAs (Decidable (_ = _))

theorem accepted_cons {ranges : List String} {shapes : List (List String)} {indices : List Expr}
    {deref : Bool} {lists : List (List Expr × Bool)} :
    Accepted (ranges :: shapes) ((indices, deref) :: lists) ↔
      indices.length + 1 = ranges.length ∧ Accepted shapes lists :=
  List.cons_eq_cons

section

variable {scope : Scope} {typeName element : String}

theorem result_selectedType_of_array {ranges : List String}
    (array : TypeName.ArrayOf ranges element typeName) (indices : List Expr) (deref : Bool)
    (rest : List Element) :
    (scope.selectedType (some (.named typeName)) (.subscripts indices deref :: rest)).result =
      if indices.length + 1 = ranges.length then
        (scope.selectedType (some (.named element)) rest).result
      else .ok none := by
  have positive : 0 < ranges.length := List.length_pos_iff.mpr array.someRange
  rw [selectedType, array.arrayShape_eq, Logged.result_bind]
  change (if (ranges.length - 1 != indices.length) = true then _ else _ : Logged _).result = _
  by_cases fits : indices.length + 1 = ranges.length
  · rw [if_neg (by rw [bne_iff_ne]; omega), if_pos fits]
  · rw [if_pos (by rw [bne_iff_ne]; omega), if_neg fits]
    rfl

theorem result_selectedType_of_not_isArray (noArray : TypeName.isArray typeName = false)
    (indices : List Expr) (deref : Bool) (rest : List Element) :
    (scope.selectedType (some (.named typeName)) (.subscripts indices deref :: rest)).result =
      .error .notAnArray := by
  rw [selectedType, TypeName.arrayShape_of_not_isArray noArray]
  rfl

theorem result_selectedType_of_nested {shapes : List (List String)}
    (nested : TypeName.Nested shapes element typeName) {lists : List (List Expr × Bool)}
    (sameDepth : lists.length = shapes.length) (rest : List Element) :
    (scope.selectedType (some (.named typeName)) (subscripted lists ++ rest)).result =
      if Accepted shapes lists then (scope.selectedType (some (.named element)) rest).result
      else .ok none := by
  induction nested generalizing lists with
  | element typeName =>
      cases List.length_eq_zero_iff.mp sameDepth
      rfl
  | array outer _ inductionHypothesis =>
      obtain ⟨⟨indices, deref⟩, others, rfl⟩ := List.exists_cons_of_length_eq_add_one sameDepth
      have later := inductionHypothesis (Nat.succ.inj sameDepth)
      change (scope.selectedType _ (.subscripts indices deref :: (_ ++ rest))).result = _
      simp only [result_selectedType_of_array outer, accepted_cons]
      split
      · next fits => simp only [fits, true_and]; exact later
      · next unfit => simp only [unfit, false_and, if_false]

end

theorem selectedType_of_not_named {scope : Scope} {type : Option TypeRef}
    (notNamed : ∀ typeName, type ≠ some (.named typeName)) (elements : List Element) :
    scope.selectedType type elements = pure type := by
  rw [selectedType.eq_def]
  split
  · rfl
  · exact absurd rfl (notNamed _)
  · exact absurd rfl (notNamed _)
  · rfl

theorem result_pathType {scope : Scope} {name : String} {type : Option TypeRef}
    (found : (scope.varType name).result = .ok type) (elements : List Element) :
    (scope.pathType name elements).result = (scope.selectedType type elements).result := by
  rw [pathType, Logged.result_bind, found]
  rfl

/-- An array with `n` ranges takes `n - 1` subscripts to its elements; any other number, `n` among
them, leaves the type unknown. Nested arrays are taken off by one list of subscripts each.
Subscripts behind the last array, or of a variable that is no array at all, end the inference with a
fault. A type that is not given by name stays as it is. -/
theorem array_takes_one_subscript_less {scope : Scope} {name : String} {type : Option TypeRef}
    (found : (scope.varType name).result = .ok type) :
    (∀ typeName ranges element, type = some (.named typeName) →
      TypeName.ArrayOf ranges element typeName → ∀ indices deref,
        (scope.pathType name [.subscripts indices deref]).result =
          .ok (if indices.length + 1 = ranges.length then some (.named element) else none)) ∧
    (∀ typeName shapes element, type = some (.named typeName) →
      TypeName.Nested shapes element typeName → ∀ lists, lists.length = shapes.length →
        (scope.pathType name (subscripted lists)).result =
          .ok (if Accepted shapes lists then some (.named element) else none)) ∧
    (∀ typeName shapes element, type = some (.named typeName) →
      TypeName.Nested shapes element typeName →
      (¬ ∃ ranges inner, TypeName.ArrayOf ranges inner element) →
      ∀ lists, Accepted shapes lists → ∀ indices deref rest,
        (scope.pathType name (subscripted lists ++ .subscripts indices deref :: rest)).result =
          .error .notAnArray) ∧
    ((∀ typeName, type ≠ some (.named typeName)) → ∀ elements,
      (scope.pathType name elements).result = .ok type) := by
  refine ⟨?_, ?_, ?_, fun notNamed elements => ?_⟩
  · rintro typeName ranges element rfl array indices deref
    rw [result_pathType found, result_selectedType_of_array array, apply_ite Except.ok]
    rfl
  · rintro typeName shapes element rfl nested lists sameDepth
    rw [result_pathType found, ← List.append_nil (subscripted lists),
      result_selectedType_of_nested nested sameDepth, apply_ite Except.ok]
    rfl
  · rintro typeName shapes element rfl nested noArray lists accepted indices deref rest
    have sameDepth : lists.length = shapes.length := by
      simpa using congrArg List.length accepted
    rw [result_pathType found, result_selectedType_of_nested nested sameDepth, if_pos accepted]
    rw [← TypeName.isArray_iff, Bool.not_eq_true] at noArray
    exact result_selectedType_of_not_isArray noArray indices deref rest
  · rw [result_pathType found, selectedType_of_not_named notNamed]
    rfl

/-! Limits for ten valves, readings by row and column, and a single level. -/

def plantDeclaration (name type : String) : String × Declaration :=
  (name, { name := name, type := type, block := "VAR_GLOBAL" })

def firstIndex : Expr := .literal ⟨1, none, none⟩ (.integer .decimal "1" none)

def plantScope : Scope where
  code := {}
  settings := {}
  layers := [⟨[plantDeclaration "limits" "ARRAY [0..9] OF INT",
    plantDeclaration "readings" "ARRAY [0..9,0..4] OF ARRAY [1..3,1..2] OF REAL",
    plantDeclaration "level" "REAL"]⟩]

theorem plantScope_varType {name type : String}
    (declared : (name, type) ∈ [("limits", "ARRAY [0..9] OF INT"),
      ("readings", "ARRAY [0..9,0..4] OF ARRAY [1..3,1..2] OF REAL"), ("level", "REAL")]) :
    (plantScope.varType name).result = .ok (some (.named type)) := by
  simp only [List.mem_cons, Prod.mk.injEq, List.not_mem_nil, or_false] at declared
  rcases declared with ⟨rfl, rfl⟩ | ⟨rfl, rfl⟩ | ⟨rfl, rfl⟩ <;>
    rw [varType, lookup, complexName?, TypeName.seek_conversions_eq_none (by decide)] <;> rfl

theorem limits_array : TypeName.ArrayOf ["0..9"] "INT" "ARRAY [0..9] OF INT" :=
  TypeName.arrayOf_written (by decide) (by decide) (by decide) (by decide) (by decide)

theorem readings_array : TypeName.ArrayOf ["0..9", "0..4"] "ARRAY [1..3,1..2] OF REAL"
    "ARRAY [0..9,0..4] OF ARRAY [1..3,1..2] OF REAL" :=
  TypeName.arrayOf_written (by decide) (by decide) (by decide) (by decide) (by decide)

theorem readings_nested : TypeName.Nested [["0..9", "0..4"], ["1..3", "1..2"]] "REAL"
    "ARRAY [0..9,0..4] OF ARRAY [1..3,1..2] OF REAL" := by
  refine .array readings_array (.array ?_ (.element "REAL"))
  exact TypeName.arrayOf_written (by decide) (by decide) (by decide) (by decide) (by decide)

theorem readings_take_one_subscript_each :
    (plantScope.varType "readings").result =
      .ok (some (.named "ARRAY [0..9,0..4] OF ARRAY [1..3,1..2] OF REAL")) ∧
    TypeName.ArrayOf ["0..9", "0..4"] "ARRAY [1..3,1..2] OF REAL"
      "ARRAY [0..9,0..4] OF ARRAY [1..3,1..2] OF REAL" ∧
    (plantScope.pathType "readings" [.subscripts [firstIndex] false]).result =
      .ok (some (.named "ARRAY [1..3,1..2] OF REAL")) ∧
    (plantScope.pathType "readings" [.subscripts [firstIndex, firstIndex] false]).result =
      .ok none ∧
    (plantScope.pathType "readings"
      (subscripted [([firstIndex], false), ([firstIndex], false)])).result =
        .ok (some (.named "REAL")) ∧
    (plantScope.pathType "readings" (subscripted [([firstIndex], false), ([firstIndex], false)]
      ++ [.subscripts [firstIndex] false])).result = .error .notAnArray := by
  have found : (plantScope.varType "readings").result =
      .ok (some (.named "ARRAY [0..9,0..4] OF ARRAY [1..3,1..2] OF REAL")) :=
    plantScope_varType (by simp)
  have noArray : ¬ ∃ ranges inner, TypeName.ArrayOf ranges inner "REAL" := by
    rw [← TypeName.isArray_iff]
    decide
  have accepted : Accepted [["0..9", "0..4"], ["1..3", "1..2"]]
      [([firstIndex], false), ([firstIndex], false)] := rfl
  obtain ⟨oneList, manyLists, behind, -⟩ := array_takes_one_subscript_less found
  exact ⟨found, readings_array, oneList _ _ _ rfl readings_array [firstIndex] false,
    oneList _ _ _ rfl readings_array [firstIndex, firstIndex] false,
    manyLists _ _ _ rfl readings_nested [([firstIndex], false), ([firstIndex], false)] rfl,
    behind _ _ _ rfl readings_nested noArray _ accepted [firstIndex] false []⟩

/-- One subscript for one range leaves the type of the element unknown, and a subscript of a number
is not just unknown, but ends the inference. -/
theorem one_range_refuses_one_subscript :
    (plantScope.varType "limits").result = .ok (some (.named "ARRAY [0..9] OF INT")) ∧
    TypeName.ArrayOf ["0..9"] "INT" "ARRAY [0..9] OF INT" ∧
    (plantScope.pathType "limits" [.subscripts [firstIndex] false]).result = .ok none ∧
    (plantScope.varType "level").result = .ok (some (.named "REAL")) ∧
    (plantScope.pathType "level" [.subscripts [firstIndex] false]).result = .error .notAnArray := by
  have limits : (plantScope.varType "limits").result = .ok (some (.named "ARRAY [0..9] OF INT")) :=
    plantScope_varType (by simp)
  have level : (plantScope.varType "level").result = .ok (some (.named "REAL")) :=
    plantScope_varType (by simp)
  refine ⟨limits, limits_array, ?_, level, ?_⟩
  · rw [result_pathType limits, result_selectedType_of_array limits_array]
    rfl
  · rw [result_pathType level]
    exact result_selectedType_of_not_isArray (by decide) _ _ _

end Scope

end PlcLint
