import Mathlib.Data.List.Basic
import PlcLint.Proofs.Lint.Nodes
import PlcLint.Reading.Code

/-!
Serial numbers that reading gives to expressions. A reading takes numbers from a counter, so what
it gives later has other numbers than what was given before; with that as the only law, numbers are
followed through the reading of each kind of expression.
-/

namespace PlcLint

namespace Reading

variable {α β : Type} {known marks others : List (Option Nat)}

/-- The numbers are distinct, and were taken before this one was the next. -/
def Below (next : Nat) (marks : List (Option Nat)) : Prop :=
  marks.Nodup ∧ ∀ mark ∈ marks, ∃ serial < next, mark = some serial

theorem Below.subperm {next : Nat} (below : Below next marks) (sub : others.Subperm marks) :
    Below next others := by
  obtain ⟨middle, perm, sublist⟩ := sub
  refine ⟨perm.nodup_iff.mp (below.1.sublist sublist), fun mark inside => ?_⟩
  exact below.2 mark (sublist.subset (perm.mem_iff.mpr inside))

theorem Below.take {next : Nat} (below : Below next known) :
    Below (next + 1) (known ++ [some next]) := by
  constructor
  · refine List.nodup_append.mpr ⟨below.1, List.nodup_singleton _, fun mark old other new => ?_⟩
    obtain ⟨serial, earlier, rfl⟩ := below.2 mark old
    rw [List.mem_singleton.mp new]
    simp only [ne_eq, Option.some.injEq]
    omega
  · intro mark inside
    rcases List.mem_append.mp inside with old | new
    · obtain ⟨serial, earlier, rfl⟩ := below.2 mark old
      exact ⟨serial, by omega, rfl⟩
    · exact ⟨next, by omega, List.mem_singleton.mp new⟩

/-- With the numbers that are known before it, the reading gives a value with these numbers. -/
def Reads (known : List (Option Nat)) (reading : Read α) (marks : α → List (Option Nat)) : Prop :=
  ∀ low value high, Below low known → reading low = .ok (value, high) → Below high (marks value)

/-- The numbers that a value gets when it is read. -/
def Marks (reading : Read α) (marks : α → List (Option Nat)) : Prop :=
  ∀ known, Reads known reading fun value => known ++ marks value

namespace Reads

theorem pure {value : α} {marks : α → List (Option Nat)} (sub : (marks value).Subperm known) :
    Reads known (pure value) marks := by
  intro low read high below returned
  cases returned
  exact below.subperm sub

theorem exactly {value : α} {marks : α → List (Option Nat)} (all : marks value = known) :
    Reads known (Pure.pure value) marks :=
  .pure (all ▸ .refl _)

theorem bind {first : Read α} {next : α → Read β} {marks : α → List (Option Nat)}
    {all : β → List (Option Nat)} (before : Marks first marks)
    (after : ∀ value, Reads (known ++ marks value) (next value) all) :
    Reads known (first >>= next) all := by
  intro low value high below returned
  change (first low >>= fun read => next read.1 read.2) = .ok (value, high) at returned
  cases isRead : first low with
  | error fault =>
      rw [isRead] at returned
      cases returned
  | ok read =>
      rw [isRead] at returned
      exact after read.1 read.2 value high (before known low read.1 read.2 below isRead) returned

theorem malformed {marks : α → List (Option Nat)} : Reads known malformed marks := by
  intro low value high below returned
  cases returned

end Reads

namespace Marks

theorem ofOption (found : Option α) : Marks (ofOption found) fun _ => [] := by
  intro known
  cases found with
  | none => exact .malformed
  | some value => exact .exactly (by simp)

theorem field (json : Json) (name : String) : Marks (field json name) fun _ => [] := ofOption _

theorem stringField (json : Json) (name : String) : Marks (stringField json name) fun _ => [] :=
  ofOption _

theorem origin (json : Json) : Marks (origin json) fun origin => [some origin.serial] := by
  intro known low value high below returned
  cases returned
  exact below.take

theorem mapM {read : β → Read α} {marks : α → List (Option Nat)}
    (each : ∀ item, Marks (read item) marks) (items : List β) :
    Marks (items.mapM read) fun values => values.flatMap marks := by
  induction items with
  | nil => exact fun known => .exactly (by simp)
  | cons item rest inductionHypothesis =>
      intro known
      rw [List.mapM_cons]
      refine .bind (each item) fun value => .bind inductionHypothesis fun values => .exactly ?_
      simp

theorem unnumbered {read : β → Read α} (each : ∀ item, Marks (read item) fun _ => [])
    (items : List β) : Marks (items.mapM read) fun _ => [] := by
  have numbered := mapM each items
  simp only [List.flatMap_eq_nil_iff.mpr fun _ _ => rfl] at numbered
  exact numbered

theorem option {read : β → Read α} {marks : α → List (Option Nat)}
    (each : ∀ item, Marks (read item) marks) (item : Option β) :
    Marks (item.mapM read) fun value => value.toList.flatMap marks := by
  intro known
  cases item with
  | none => exact .exactly (by simp)
  | some item =>
      refine .bind (each item) fun value => .exactly ?_
      simp

end Marks

end Reading

/-! The numbers of the nodes inside expressions. -/

def exprMarks (exprs : List Expr) : List (Option Nat) :=
  exprs.map fun expr => some expr.origin.serial

def Expr.marks (expr : Expr) : List (Option Nat) := exprMarks expr.subexprs

def Variable.marks (value : Variable) : List (Option Nat) := (Expr.var value).marks

def Element.marks (element : Element) : List (Option Nat) := exprMarks (elementSubexprs [element])

def Argument.marks (argument : Argument) : List (Option Nat) :=
  argument.value.toList.flatMap Expr.marks

theorem exprMarks_append (first second : List Expr) :
    exprMarks (first ++ second) = exprMarks first ++ exprMarks second := List.map_append

theorem exprMarks_subexprsOfAll (exprs : List Expr) :
    exprMarks (subexprsOfAll exprs) = exprs.flatMap Expr.marks := by
  induction exprs with
  | nil => rfl
  | cons expr rest inductionHypothesis =>
      rw [subexprsOfAll, exprMarks_append, inductionHypothesis, List.flatMap_cons]
      rfl

theorem exprMarks_elementSubexprs (elements : List Element) :
    exprMarks (elementSubexprs elements) = elements.flatMap Element.marks := by
  induction elements with
  | nil => rfl
  | cons element rest inductionHypothesis =>
      rw [List.flatMap_cons, ← inductionHypothesis]
      cases element with
      | field selected deref => rfl
      | subscripts indices deref =>
          rw [elementSubexprs, exprMarks_append, Element.marks, elementSubexprs, elementSubexprs,
            List.append_nil]

/-! One lemma for each kind of expression. -/

section

variable (origin : Origin)

@[simp]
theorem Expr.marks_literal (value : Literal) :
    (Expr.literal origin value).marks = [some origin.serial] := rfl

@[simp]
theorem Expr.marks_direct (located : Bool) (address : String) :
    (Expr.direct origin located address).marks = [some origin.serial] := rfl

@[simp]
theorem Variable.marks_simple (name : String) (deref : Bool) :
    (Variable.simple origin name deref).marks = [some origin.serial] := rfl

@[simp]
theorem Variable.marks_path (base : Variable) (elements : List Element) :
    (Variable.path origin base elements).marks =
      some origin.serial :: elements.flatMap Element.marks := by
  rw [← exprMarks_elementSubexprs]
  rfl

@[simp]
theorem Expr.marks_unary (op : String) (operand : Expr) :
    (Expr.unary origin op operand).marks = some origin.serial :: operand.marks := rfl

@[simp]
theorem Expr.marks_binary (left : Expr) (op : String) (right : Expr) :
    (Expr.binary origin left op right).marks =
      some origin.serial :: (left.marks ++ right.marks) := by
  rw [Expr.marks, Expr.subexprs, ← List.singleton_append, exprMarks_append, exprMarks_append]
  rfl

@[simp]
theorem Expr.marks_paren (inner : Expr) :
    (Expr.paren origin inner).marks = some origin.serial :: inner.marks := rfl

@[simp]
theorem Expr.marks_bracket (inner : Expr) :
    (Expr.bracket origin inner).marks = some origin.serial :: inner.marks := rfl

@[simp]
theorem Expr.marks_call (asStatement : Bool) (callee : Variable) (arguments : List Argument) :
    (Expr.call origin asStatement callee arguments).marks =
      some origin.serial :: exprMarks (inputSubexprs arguments) := rfl

@[simp]
theorem Expr.marks_chain (calls : List Expr) :
    (Expr.chain origin calls).marks = some origin.serial :: calls.flatMap Expr.marks := by
  rw [← exprMarks_subexprsOfAll]
  rfl

end

@[simp]
theorem Element.marks_field (selected : Variable) (deref : Bool) :
    (Element.field selected deref).marks = [] := rfl

@[simp]
theorem Element.marks_subscripts (indices : List Expr) (deref : Bool) :
    (Element.subscripts indices deref).marks = indices.flatMap Expr.marks := by
  rw [← exprMarks_subexprsOfAll, Element.marks, elementSubexprs, elementSubexprs, List.append_nil]

/-- Of the arguments of a call, those up to the first that takes a value out are walked. -/
theorem exprMarks_inputSubexprs (arguments : List Argument) :
    (exprMarks (inputSubexprs arguments)).Sublist (arguments.flatMap Argument.marks) := by
  induction arguments with
  | nil => exact .slnil
  | cons argument rest inductionHypothesis =>
      rw [List.flatMap_cons]
      cases argument with
      | output origin name value inverted => exact List.nil_sublist _
      | input origin name value =>
          cases value with
          | none => exact inductionHypothesis
          | some value =>
              have here : Argument.marks (.input origin name (some value)) = value.marks := by
                simp [Argument.marks, Argument.value]
              rw [here, inputSubexprs, exprMarks_append]
              exact inductionHypothesis.append_left value.marks

namespace Reading

/-- What is read with this much fuel is numbered. -/
structure Numbers (fuel : Nat) : Prop where
  ofVariable : ∀ json, Marks (variableNode fuel json) Variable.marks
  ofElement : ∀ json, Marks (element fuel json) Element.marks
  ofExpr : ∀ json, Marks (expr fuel json) Expr.marks
  ofCall : ∀ asStatement json, Marks (call fuel asStatement json) Expr.marks
  ofArgument : ∀ json, Marks (argument fuel json) Argument.marks

namespace Numbers

variable {fuel : Nat} (numbers : Numbers fuel)

include numbers

theorem variableNode (json : Json) : Marks (variableNode (fuel + 1) json) Variable.marks := by
  intro known
  rw [Reading.variableNode]
  refine .bind (.origin json) fun origin => .bind (.stringField json "k") fun kind => ?_
  split
  · exact .bind (.stringField json "name") fun name => .exactly (by simp)
  · refine .bind (.field json "name") fun name => .bind (numbers.ofVariable name) fun base =>
      .bind (.mapM numbers.ofElement _) fun elements => .pure (List.Sublist.subperm ?_)
    simp
  · exact .malformed

theorem element (json : Json) : Marks (element (fuel + 1) json) Element.marks := by
  intro known
  rw [Reading.element]
  refine .bind (.stringField json "k") fun kind => ?_
  split
  · refine .bind (.field json "field") fun name => .bind (numbers.ofVariable name) fun selected =>
      .pure (List.Sublist.subperm ?_)
    simp
  · exact .bind (.mapM numbers.ofExpr _) fun indices => .exactly (by simp)
  · exact .malformed

theorem call (asStatement : Bool) (json : Json) :
    Marks (call (fuel + 1) asStatement json) Expr.marks := by
  intro known
  rw [Reading.call]
  refine .bind (.origin json) fun origin => .bind (.field json "name") fun name =>
    .bind (numbers.ofVariable name) fun callee => .bind (.mapM numbers.ofArgument _) fun arguments =>
      .pure (List.Sublist.subperm ?_)
  have inside := exprMarks_inputSubexprs arguments
  simpa using inside.trans (List.sublist_append_right callee.marks _)

theorem argument (json : Json) : Marks (argument (fuel + 1) json) Argument.marks := by
  intro known
  rw [Reading.argument]
  refine .bind (.origin json) fun origin => .bind (.option numbers.ofVariable _) fun name =>
    .bind (.option numbers.ofExpr _) fun value => .bind (.stringField json "k") fun kind => ?_
  have kept : (known ++ value.toList.flatMap Expr.marks).Subperm
      (known ++ [some origin.serial] ++ name.toList.flatMap Variable.marks
        ++ value.toList.flatMap Expr.marks ++ []) := by
    refine List.Sublist.subperm ?_
    simp
  split
  · exact .pure kept
  · exact .pure kept
  · exact .malformed

theorem expr (json : Json) : Marks (expr (fuel + 1) json) Expr.marks := by
  intro known
  rw [Reading.expr]
  refine .bind (.stringField json "k") fun kind => ?_
  rw [List.append_nil]
  split
  · exact .bind (numbers.variableNode json) fun value => .exactly rfl
  · exact .bind (numbers.variableNode json) fun value => .exactly rfl
  · exact .bind (.origin json) fun origin => .bind (.stringField json "op") fun op =>
      .bind (.field json "expr") fun inner => .bind (numbers.ofExpr inner) fun operand =>
        .exactly (by simp)
  · exact .bind (.origin json) fun origin => .bind (.field json "left") fun first =>
      .bind (numbers.ofExpr first) fun left => .bind (.field json "right") fun second =>
        .bind (numbers.ofExpr second) fun right => .bind (.stringField json "op") fun op =>
          .exactly (by simp)
  · exact .bind (.origin json) fun origin => .bind (.field json "expr") fun content =>
      .bind (numbers.ofExpr content) fun inner => .exactly (by simp)
  · exact .bind (.origin json) fun origin => .bind (.field json "expr") fun content =>
      .bind (numbers.ofExpr content) fun inner => .exactly (by simp)
  · exact numbers.ofCall false json known
  · exact numbers.ofCall true json known
  · exact .bind (.origin json) fun origin => .bind (.mapM numbers.ofExpr _) fun calls =>
      .exactly (by simp)
  · exact .bind (.origin json) fun origin => .bind (.stringField json "value") fun address =>
      .exactly (by simp)
  · exact .bind (.origin json) fun origin => .bind (.stringField json "value") fun address =>
      .exactly (by simp)
  · exact .bind (.origin json) fun origin => .bind (.stringField json "value") fun text =>
      .bind (.ofOption _) fun value => .exactly (by simp)

end Numbers

theorem numbers (fuel : Nat) : Numbers fuel := by
  induction fuel with
  | zero =>
      refine ⟨fun json known => ?_, fun json known => ?_, fun json known => ?_,
        fun asStatement json known => ?_, fun json known => ?_⟩
      all_goals
        simp only [variableNode, element, expr, call, argument]
        exact .malformed
  | succ fuel inductionHypothesis =>
      exact ⟨inductionHypothesis.variableNode, inductionHypothesis.element,
        inductionHypothesis.expr, inductionHypothesis.call, inductionHypothesis.argument⟩

theorem exprOf_marks (json : Json) : Marks (exprOf json) Expr.marks := (numbers _).ofExpr json

theorem exprField_marks (json : Json) (name : String) : Marks (exprField json name) Expr.marks := by
  intro known
  refine .bind (.field json name) fun content => ?_
  rw [List.append_nil]
  exact exprOf_marks content known

end Reading

end PlcLint
