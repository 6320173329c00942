import Mathlib.Data.List.Basic
import PlcLint.Assignment

/-!
The walk through an expression as a descent into its parts. What the walk gives is the expression
and then what the descent into each part gives, so that facts about the walk are shown by induction
on the size of expressions, and never by cases on their kinds.

An excluded expression should hide all that is below it. The walk asks only whether it is excluded
where it starts, so it gives what it should exactly if it is excluded there or nothing below is.
-/

namespace PlcLint

/-- The value that an argument passes in. -/
def Argument.passed? : Argument → Option Expr
  | .input _ _ value => value
  | .output _ _ _ _ => none

/-- The values passed in by the arguments of a call: with `past` by all of them, otherwise only by
those in front of the first argument that takes a value out. -/
def passedValues (past : Bool) (arguments : List Argument) : List Expr :=
  (if past then arguments else arguments.takeWhile (!·.isOutput)).filterMap Argument.passed?

def Element.indices : Element → List Expr
  | .field _ _ => []
  | .subscripts indices _ => indices

def Variable.indices : Variable → List Expr
  | .simple _ _ _ => []
  | .path _ _ elements => elements.flatMap Element.indices

/-- The parts of an expression, into which the walk goes down. -/
def Expr.parts (past : Bool) : Expr → List Expr
  | .literal _ _ | .direct _ _ _ => []
  | .var value => value.indices
  | .unary _ _ operand => [operand]
  | .binary _ left _ right => [left, right]
  | .paren _ inner | .bracket _ inner => [inner]
  | .call _ _ _ arguments => passedValues past arguments
  | .chain _ calls => calls

theorem passedValues_subset {past : Bool} {arguments : List Argument} {value : Expr}
    (passed : value ∈ passedValues past arguments) :
    ∃ argument ∈ arguments, argument.passed? = some value := by
  obtain ⟨argument, looked, passes⟩ := List.mem_filterMap.mp passed
  refine ⟨argument, ?_, passes⟩
  split at looked
  · exact looked
  · exact List.takeWhile_subset _ looked

theorem Argument.sizeOf_passed? {argument : Argument} {value : Expr}
    (passes : argument.passed? = some value) : sizeOf value < sizeOf argument := by
  cases argument with
  | input origin name passed =>
      cases passes
      simp only [Argument.input.sizeOf_spec, Option.some.sizeOf_spec]
      omega
  | output origin name taken inverted => cases passes

theorem Variable.sizeOf_of_mem_indices {value : Variable} {index : Expr}
    (membership : index ∈ value.indices) : sizeOf index < sizeOf value := by
  cases value with
  | simple origin name deref => cases membership
  | path origin base elements =>
      obtain ⟨element, inPath, inElement⟩ := List.mem_flatMap.mp membership
      have elementSmaller := List.sizeOf_lt_of_mem inPath
      cases element with
      | field selected deref => cases inElement
      | subscripts indices deref =>
          have indexSmaller : sizeOf index < sizeOf indices := List.sizeOf_lt_of_mem inElement
          simp only [Element.subscripts.sizeOf_spec] at elementSmaller
          simp only [Variable.path.sizeOf_spec]
          omega

theorem Expr.sizeOf_of_mem_parts {past : Bool} {expr part : Expr}
    (membership : part ∈ expr.parts past) : sizeOf part < sizeOf expr := by
  cases expr with
  | literal origin value => cases membership
  | direct origin located address => cases membership
  | var value =>
      have smaller := Variable.sizeOf_of_mem_indices membership
      simp only [Expr.var.sizeOf_spec]
      omega
  | unary origin op operand =>
      cases List.mem_singleton.mp membership
      simp only [Expr.unary.sizeOf_spec]
      omega
  | binary origin left op right =>
      simp only [parts, List.mem_cons, List.not_mem_nil, or_false] at membership
      simp only [Expr.binary.sizeOf_spec]
      rcases membership with rfl | rfl <;> omega
  | paren origin inner =>
      cases List.mem_singleton.mp membership
      simp only [Expr.paren.sizeOf_spec]
      omega
  | bracket origin inner =>
      cases List.mem_singleton.mp membership
      simp only [Expr.bracket.sizeOf_spec]
      omega
  | call origin asStatement callee arguments =>
      obtain ⟨argument, isArgument, passes⟩ := passedValues_subset membership
      have inArgument := Argument.sizeOf_passed? passes
      have inArguments := List.sizeOf_lt_of_mem isArgument
      simp only [Expr.call.sizeOf_spec]
      omega
  | chain origin calls =>
      have smaller : sizeOf part < sizeOf calls := List.sizeOf_lt_of_mem membership
      simp only [Expr.chain.sizeOf_spec]
      omega

/-- The expression and what the descent into each of its parts gives. -/
def Expr.descent (past : Bool) (expr : Expr) : List Expr :=
  expr :: (expr.parts past).attach.flatMap fun part => part.val.descent past
termination_by sizeOf expr
decreasing_by exact Expr.sizeOf_of_mem_parts part.property

theorem Expr.descent_eq (past : Bool) (expr : Expr) :
    expr.descent past = expr :: (expr.parts past).flatMap (Expr.descent past) := by
  rw [descent]
  simp only [List.flatMap_subtype, List.unattach_attach]

/-! The walk stops in each call at the first argument that takes a value out. -/

theorem subexprsOfAll_eq (exprs : List Expr) :
    subexprsOfAll exprs = exprs.flatMap Expr.subexprs := by
  induction exprs with
  | nil => rfl
  | cons expr rest inductionHypothesis =>
      rw [subexprsOfAll, inductionHypothesis, List.flatMap_cons]

theorem elementSubexprs_eq (elements : List Element) :
    elementSubexprs elements = (elements.flatMap Element.indices).flatMap Expr.subexprs := by
  induction elements with
  | nil => rfl
  | cons element rest inductionHypothesis =>
      cases element with
      | field selected deref => exact inductionHypothesis
      | subscripts indices deref =>
          rw [elementSubexprs, inductionHypothesis, subexprsOfAll_eq, List.flatMap_cons,
            List.flatMap_append, Element.indices]

theorem inputSubexprs_eq (arguments : List Argument) :
    inputSubexprs arguments = (passedValues false arguments).flatMap Expr.subexprs := by
  induction arguments with
  | nil => rfl
  | cons argument rest inductionHypothesis =>
      cases argument with
      | output origin name value inverted => rfl
      | input origin name value =>
          cases value with
          | none => exact inductionHypothesis
          | some value =>
              rw [inputSubexprs, inductionHypothesis]
              rfl

theorem Expr.subexprs_eq_parts (expr : Expr) :
    expr.subexprs = expr :: (expr.parts false).flatMap Expr.subexprs := by
  cases expr with
  | var value =>
      cases value with
      | simple origin name deref => rfl
      | path origin base elements =>
          rw [subexprs, Variable.subscriptExprs, elementSubexprs_eq]
          rfl
  | call origin asStatement callee arguments => rw [subexprs, inputSubexprs_eq, parts]
  | chain origin calls => rw [subexprs, subexprsOfAll_eq, parts]
  | _ => simp [subexprs, parts]

theorem Expr.mem_subexprs_self (expr : Expr) : expr ∈ expr.subexprs := by
  rw [subexprs_eq_parts]
  exact List.mem_cons_self

theorem Expr.subexprs_eq_descent (expr : Expr) : expr.subexprs = expr.descent false := by
  rw [subexprs_eq_parts, descent_eq]
  congr 1
  refine List.flatMap_congr fun part membership => ?_
  exact part.subexprs_eq_descent
termination_by sizeOf expr
decreasing_by exact Expr.sizeOf_of_mem_parts membership

/-! Exclusion. -/

/-- What the walk gives, each expression with those that it lies in, the outermost first. -/
def Expr.places (expr : Expr) : List (Expr × List Expr) :=
  (expr, []) :: (expr.parts false).attach.flatMap fun part =>
    part.val.places.map fun place => (place.1, expr :: place.2)
termination_by sizeOf expr
decreasing_by exact Expr.sizeOf_of_mem_parts part.property

theorem Expr.places_eq (expr : Expr) :
    expr.places = (expr, []) :: (expr.parts false).flatMap fun part =>
      part.places.map fun place => (place.1, expr :: place.2) := by
  rw [places]
  simp only [List.flatMap_subtype, List.unattach_attach]

/-- What the walk gives and neither is excluded nor lies in what is excluded. -/
def Expr.unexcluded (exclude : Expr → Bool) (expr : Expr) : List Expr :=
  (expr.places.filter fun place => (place.1 :: place.2).all (!exclude ·)).map Prod.fst

theorem Expr.map_fst_places (expr : Expr) : expr.places.map Prod.fst = expr.subexprs := by
  rw [places_eq, subexprs_eq_parts, List.map_cons, List.map_flatMap]
  congr 1
  refine List.flatMap_congr fun part membership => ?_
  rw [List.map_map, ← part.map_fst_places]
  rfl
termination_by sizeOf expr
decreasing_by exact Expr.sizeOf_of_mem_parts membership

theorem Expr.subexprs_subset_of_mem_parts {expr part : Expr}
    (membership : part ∈ expr.parts false) : part.subexprs ⊆ expr.subexprs := by
  intro inner inside
  rw [expr.subexprs_eq_parts]
  exact List.mem_cons_of_mem _ (List.mem_flatMap.mpr ⟨part, membership, inside⟩)

theorem Expr.places_subset (expr : Expr) {place : Expr × List Expr}
    (isPlace : place ∈ expr.places) : place.1 :: place.2 ⊆ expr.subexprs := by
  rw [places_eq] at isPlace
  rcases List.mem_cons.mp isPlace with rfl | isBelow
  · exact List.cons_subset.mpr ⟨expr.mem_subexprs_self, List.nil_subset _⟩
  · obtain ⟨part, membership, inPart⟩ := List.mem_flatMap.mp isBelow
    obtain ⟨deeper, isDeeper, rfl⟩ := List.mem_map.mp inPart
    have inWalk : deeper.1 :: deeper.2 ⊆ expr.subexprs :=
      List.Subset.trans (part.places_subset isDeeper) (subexprs_subset_of_mem_parts membership)
    obtain ⟨innerGiven, aboveGiven⟩ := List.cons_subset.mp inWalk
    exact List.cons_subset.mpr
      ⟨innerGiven, List.cons_subset.mpr ⟨expr.mem_subexprs_self, aboveGiven⟩⟩
termination_by sizeOf expr
decreasing_by exact Expr.sizeOf_of_mem_parts membership

theorem Expr.unexcluded_sublist (exclude : Expr → Bool) (expr : Expr) :
    (expr.unexcluded exclude).Sublist expr.subexprs := by
  rw [← map_fst_places]
  exact List.filter_sublist.map _

theorem Expr.not_exclude_of_mem_unexcluded {exclude : Expr → Bool} {expr inner : Expr}
    (given : inner ∈ expr.unexcluded exclude) : exclude inner = false := by
  obtain ⟨place, kept, rfl⟩ := List.mem_map.mp given
  have passes := (List.mem_filter.mp kept).2
  simp only [List.all_cons, Bool.and_eq_true, Bool.not_eq_true'] at passes
  exact passes.1

theorem Expr.unexcluded_of_none {exclude : Expr → Bool} {expr : Expr}
    (none : ∀ inner ∈ expr.subexprs, exclude inner = false) :
    expr.unexcluded exclude = expr.subexprs := by
  rw [unexcluded, ← map_fst_places, List.filter_eq_self.mpr]
  intro place isPlace
  refine List.all_eq_true.mpr fun inner onTheWay => ?_
  rw [none inner (expr.places_subset isPlace onTheWay), Bool.not_false]

/-- What is excluded hides all that it holds; else the exclusion goes on with each part. -/
theorem Expr.unexcluded_eq (exclude : Expr → Bool) (expr : Expr) :
    expr.unexcluded exclude =
      if exclude expr then []
      else expr :: (expr.parts false).flatMap (Expr.unexcluded exclude) := by
  have inPart (part : Expr) :
      ((part.places.map fun place => (place.1, expr :: place.2)).filter fun place =>
          (place.1 :: place.2).all (!exclude ·)).map Prod.fst =
        if exclude expr then [] else part.unexcluded exclude := by
    rw [List.filter_map, List.map_map]
    by_cases excluded : exclude expr = true <;>
      simp [excluded, unexcluded, Function.comp_def]
  rw [unexcluded, places_eq, List.filter_cons, List.filter_flatMap, apply_ite (List.map Prod.fst),
    List.map_cons, List.map_flatMap]
  simp only [inPart]
  by_cases excluded : exclude expr = true <;> simp [excluded]

theorem Expr.subexprsWith_false (exclude : Expr → Bool) (expr : Expr) :
    expr.subexprsWith exclude false = if exclude expr then [] else expr.subexprs := rfl

/-- The walk with an exclusion gives all that is not excluded and does not lie in what is, and gives
no more exactly if the expression itself or nothing in it is excluded. Else it gives all, the
excluded with the rest. -/
theorem subexprsWith_eq_unexcluded_iff (exclude : Expr → Bool) (expr : Expr) :
    (expr.unexcluded exclude).Sublist (expr.subexprsWith exclude false) ∧
      (expr.subexprsWith exclude false = expr.unexcluded exclude ↔
        exclude expr = true ∨ ∀ inner ∈ expr.subexprs, exclude inner = false) ∧
      (expr.subexprsWith exclude false ≠ expr.unexcluded exclude →
        expr.subexprsWith exclude false = expr.subexprs ∧
          ∃ inner ∈ expr.subexprsWith exclude false, exclude inner = true) := by
  rw [Expr.subexprsWith_false]
  by_cases excluded : exclude expr = true
  · rw [if_pos excluded, Expr.unexcluded_eq, if_pos excluded]
    simp [excluded]
  · rw [if_neg excluded]
    have same : expr.subexprs = expr.unexcluded exclude ↔
        ∀ inner ∈ expr.subexprs, exclude inner = false := by
      constructor
      · intro equal inner given
        rw [equal] at given
        exact Expr.not_exclude_of_mem_unexcluded given
      · exact fun none => (Expr.unexcluded_of_none none).symm
    refine ⟨expr.unexcluded_sublist exclude, by simpa [excluded] using same, fun differ => ?_⟩
    refine ⟨rfl, ?_⟩
    by_contra none
    refine differ (same.mpr fun inner given => ?_)
    by_contra isExcluded
    exact none ⟨inner, given, by simpa using isExcluded⟩

/-! The expression `-F(x)`, with calls to `F` excluded. -/

def readX : Expr := .var (.simple ⟨3, none, none⟩ "x" false)

def calledF : Expr :=
  .call ⟨1, none, none⟩ false (.simple ⟨2, none, none⟩ "F" false)
    [.input ⟨4, none, none⟩ none (some readX)]

def negatedCall : Expr := .unary ⟨0, none, none⟩ "-" calledF

theorem calledF_isCallTo : calledF.isCallTo "F" = true := by
  simp [calledF, Expr.isCallTo, Text.sameName]

theorem negatedCall_gives_excluded :
    negatedCall.subexprsWith (Expr.isCallTo "F") false ≠
        negatedCall.unexcluded (Expr.isCallTo "F") ∧
      ∃ inner ∈ negatedCall.subexprsWith (Expr.isCallTo "F") false,
        inner.isCallTo "F" = true := by
  obtain ⟨-, same, differs⟩ := subexprsWith_eq_unexcluded_iff (Expr.isCallTo "F") negatedCall
  have isBelow : calledF ∈ negatedCall.subexprs := .tail _ (.head _)
  have differ : negatedCall.subexprsWith (Expr.isCallTo "F") false ≠
      negatedCall.unexcluded (Expr.isCallTo "F") := by
    intro equal
    rcases same.mp equal with atTop | nowhere
    · cases atTop
    · exact Bool.false_ne_true ((nowhere calledF isBelow).symm.trans calledF_isCallTo)
  exact ⟨differ, (differs differ).2⟩

theorem excluded_call_given :
    negatedCall.subexprsWith (Expr.isCallTo "F") false = [negatedCall, calledF, readX] ∧
      negatedCall.unexcluded (Expr.isCallTo "F") = [negatedCall] := by
  refine ⟨rfl, ?_⟩
  have parts : negatedCall.parts false = [calledF] := rfl
  rw [Expr.unexcluded_eq, parts, List.flatMap_singleton, Expr.unexcluded_eq, calledF_isCallTo]
  rfl

end PlcLint
