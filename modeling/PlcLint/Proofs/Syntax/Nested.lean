import PlcLint.Proofs.Syntax.Rearranged

/-!
All that is nested in an expression, whether the walk through it goes there or not. The walk leaves
out the subscripts of callees, of the names of arguments, of fields and of a path that another path
goes on from; in a call it also leaves out the variables that take values out and the values passed
in behind the first of them. What is nested is given by the walk or lies in such a place.
-/

namespace PlcLint

open Relation

/-- The expression is a subscript in the variable, at any depth of paths in it. -/
inductive Variable.HasIndex : Variable → Expr → Prop
  | here {origin base elements indices deref index} (element : .subscripts indices deref ∈ elements)
      (membership : index ∈ indices) : Variable.HasIndex (.path origin base elements) index
  | inField {origin base elements selected deref index} (element : .field selected deref ∈ elements)
      (inside : Variable.HasIndex selected index) :
      Variable.HasIndex (.path origin base elements) index
  | inBase {origin base elements index} (inside : Variable.HasIndex base index) :
      Variable.HasIndex (.path origin base elements) index

/-- The second expression stands directly in the first one. -/
inductive Expr.Holds : Expr → Expr → Prop
  | subscript {value index} (inside : value.HasIndex index) : Expr.Holds (.var value) index
  | operand {origin op operand} : Expr.Holds (.unary origin op operand) operand
  | left {origin left op right} : Expr.Holds (.binary origin left op right) left
  | right {origin left op right} : Expr.Holds (.binary origin left op right) right
  | paren {origin inner} : Expr.Holds (.paren origin inner) inner
  | bracket {origin inner} : Expr.Holds (.bracket origin inner) inner
  | callee {origin asStatement callee arguments index} (inside : callee.HasIndex index) :
      Expr.Holds (.call origin asStatement callee arguments) index
  | argumentName {origin asStatement callee arguments argument name index}
      (membership : argument ∈ arguments) (named : argument.name = some name)
      (inside : name.HasIndex index) : Expr.Holds (.call origin asStatement callee arguments) index
  | argument {origin asStatement callee arguments argument value}
      (membership : argument ∈ arguments) (valued : argument.value = some value) :
      Expr.Holds (.call origin asStatement callee arguments) value
  | chained {origin calls inner} (membership : inner ∈ calls) :
      Expr.Holds (.chain origin calls) inner

/-- The second expression is the first one or nested in it. -/
def Expr.Nests : Expr → Expr → Prop := ReflTransGen Expr.Holds

/-- The second expression stands directly in the first one, where the walk does not go. -/
inductive Expr.Skips : Expr → Expr → Prop
  | subscript {value index} (inside : value.HasIndex index) (deeper : index ∉ value.indices) :
      Expr.Skips (.var value) index
  | callee {origin asStatement callee arguments index} (inside : callee.HasIndex index) :
      Expr.Skips (.call origin asStatement callee arguments) index
  | argumentName {origin asStatement callee arguments argument name index}
      (membership : argument ∈ arguments) (named : argument.name = some name)
      (inside : name.HasIndex index) : Expr.Skips (.call origin asStatement callee arguments) index
  | takenOut {origin asStatement callee arguments argument value}
      (membership : argument ∈ arguments) (isOutput : argument.isOutput = true)
      (valued : argument.value = some value) :
      Expr.Skips (.call origin asStatement callee arguments) value
  | hidden {expr value} (isHidden : value ∈ expr.hidden) : Expr.Skips expr value

theorem Variable.hasIndex_of_mem_indices {value : Variable} {index : Expr}
    (membership : index ∈ value.indices) : value.HasIndex index := by
  cases value with
  | simple origin name deref => cases membership
  | path origin base elements =>
      obtain ⟨element, inPath, inElement⟩ := List.mem_flatMap.mp membership
      cases element with
      | field selected deref => cases inElement
      | subscripts indices deref => exact .here inPath inElement

theorem Argument.isOutput_or_passed {argument : Argument} {value : Expr}
    (valued : argument.value = some value) :
    argument.isOutput = true ∨ argument.passed? = some value := by
  cases argument with
  | input origin name given => exact .inr valued
  | output origin name taken inverted => exact .inl rfl

theorem Argument.value_of_passed {argument : Argument} {value : Expr}
    (passed : argument.passed? = some value) : argument.value = some value := by
  cases argument with
  | input origin name given => exact passed
  | output origin name taken inverted => cases passed

/-- The parts of an expression stand directly in it, hidden values among them. -/
theorem Expr.holds_of_mem_parts {expr part : Expr} (membership : part ∈ expr.parts true) :
    expr.Holds part := by
  cases expr with
  | literal origin value => cases membership
  | direct origin located address => cases membership
  | var value => exact .subscript (Variable.hasIndex_of_mem_indices membership)
  | unary origin op operand =>
      cases List.mem_singleton.mp membership
      exact .operand
  | binary origin left op right =>
      rcases List.mem_cons.mp membership with rfl | isRight
      · exact .left
      · cases List.mem_singleton.mp isRight
        exact .right
  | paren origin inner =>
      cases List.mem_singleton.mp membership
      exact .paren
  | bracket origin inner =>
      cases List.mem_singleton.mp membership
      exact .bracket
  | call origin asStatement callee arguments =>
      obtain ⟨argument, isArgument, passed⟩ := passedValues_subset membership
      exact .argument isArgument (Argument.value_of_passed passed)
  | chain origin calls => exact .chained membership

theorem Expr.mem_parts_or_skips {expr part : Expr} (holds : expr.Holds part) :
    part ∈ expr.parts false ∨ expr.Skips part := by
  cases holds with
  | @subscript value _ inside =>
      by_cases direct : part ∈ value.indices
      · exact .inl direct
      · exact .inr (.subscript inside direct)
  | callee inside => exact .inr (.callee inside)
  | argumentName membership named inside => exact .inr (.argumentName membership named inside)
  | @argument origin asStatement callee arguments argument value membership valued =>
      rcases Argument.isOutput_or_passed valued with isOutput | passed
      · exact .inr (.takenOut membership isOutput valued)
      · -- the walk takes values that are passed in up to the first argument that takes one out
        have isPart : part ∈ (Expr.call origin asStatement callee arguments).parts true :=
          List.mem_filterMap.mpr ⟨argument, membership, passed⟩
        rw [parts_true] at isPart
        exact (List.mem_append.mp isPart).imp_right .hidden
  | chained membership => exact .inl membership
  | _ => exact .inl (by simp [parts])

theorem Expr.Skips.holds {expr part : Expr} (skips : expr.Skips part) : expr.Holds part := by
  cases skips with
  | subscript inside _ => exact .subscript inside
  | callee inside => exact .callee inside
  | argumentName membership named inside => exact .argumentName membership named inside
  | takenOut membership _ valued => exact .argument membership valued
  | hidden isHidden =>
      refine holds_of_mem_parts ?_
      rw [parts_true]
      exact List.mem_append_right _ isHidden

/-- What the walk gives is nested in the expression. -/
theorem Expr.nests_of_mem_subexprs {expr inner : Expr} (given : inner ∈ expr.subexprs) :
    expr.Nests inner := by
  rw [subexprs_eq_parts] at given
  rcases List.mem_cons.mp given with rfl | below
  · exact .refl
  · obtain ⟨part, isPart, inPart⟩ := List.mem_flatMap.mp below
    have holds : expr.Holds part := by
      refine holds_of_mem_parts ?_
      rw [parts_true]
      exact List.mem_append_left _ isPart
    exact .head holds (nests_of_mem_subexprs inPart)
termination_by sizeOf expr
decreasing_by exact Expr.sizeOf_of_mem_parts isPart

/-- The walk gives what is nested in an expression, or comes to a place that it skips on the way
there. -/
theorem Expr.Nests.mem_subexprs_or_skipped {expr inner : Expr} (nests : expr.Nests inner) :
    inner ∈ expr.subexprs ∨
      ∃ outer ∈ expr.subexprs, ∃ part, outer.Skips part ∧ part.Nests inner := by
  induction nests using ReflTransGen.head_induction_on with
  | refl => exact .inl inner.mem_subexprs_self
  | @head expr part holds onward inductionHypothesis =>
      rcases mem_parts_or_skips holds with isPart | skips
      · have inWalk := subexprs_subset_of_mem_parts isPart
        rcases inductionHypothesis with given | ⟨outer, isOuter, skipped⟩
        · exact .inl (inWalk given)
        · exact .inr ⟨outer, inWalk isOuter, skipped⟩
      · exact .inr ⟨expr, expr.mem_subexprs_self, part, skips, onward⟩

end PlcLint
