import PlcLint.Proofs.Text.Letters
import PlcLint.Syntax.Subexpr

/-!
Expressions and heads of statements with their names in small letters. The text of an expression
changes only in case, and the walk gives the same expressions, folded one by one.
-/

namespace PlcLint

/-- The origin of a node whose place does not matter. -/
def Origin.nowhere : Origin := ⟨0, none, none⟩

/-- The name of a type in front of a literal is in small letters. -/
def Literal.folded : Literal → Literal
  | integer radix digits typeName => integer radix digits (typeName.map String.toLower)
  | bits radix digits typeName => bits radix digits (typeName.map String.toLower)
  | real digits typeName => real digits (typeName.map String.toLower)
  | other => other

mutual

/-- A variable with all names in small letters, wherever it stands. -/
def Variable.folded : Variable → Variable
  | .simple _ name deref => .simple .nowhere name.toLower deref
  | .path _ base elements => .path .nowhere base.folded (foldedElements elements)

def Element.folded : Element → Element
  | .field selected deref => .field selected.folded deref
  | .subscripts indices deref => .subscripts (foldedExprs indices) deref

/-- An expression with all names in small letters, wherever it stands. -/
def Expr.folded : Expr → Expr
  | .literal _ value => .literal .nowhere value.folded
  | .direct _ located address => .direct .nowhere located address
  | .var value => .var value.folded
  | .unary _ op operand => .unary .nowhere op operand.folded
  | .binary _ left op right => .binary .nowhere left.folded op right.folded
  | .paren _ inner => .paren .nowhere inner.folded
  | .bracket _ inner => .bracket .nowhere inner.folded
  | .call _ asStatement callee arguments =>
    .call .nowhere asStatement callee.folded (foldedArguments arguments)
  | .chain _ calls => .chain .nowhere (foldedExprs calls)

def Argument.folded : Argument → Argument
  | .input _ name value => .input .nowhere (foldedName name) (foldedValue value)
  | .output _ name value inverted =>
    .output .nowhere (foldedName name) (foldedValue value) inverted

def foldedName : Option Variable → Option Variable
  | none => none
  | some name => some name.folded

def foldedValue : Option Expr → Option Expr
  | none => none
  | some value => some value.folded

def foldedElements : List Element → List Element
  | [] => []
  | element :: rest => element.folded :: foldedElements rest

def foldedExprs : List Expr → List Expr
  | [] => []
  | expr :: rest => expr.folded :: foldedExprs rest

def foldedArguments : List Argument → List Argument
  | [] => []
  | argument :: rest => argument.folded :: foldedArguments rest

end

/-! Text. -/

theorem toLower_withTypeName (typeName : Option String) (text : String) :
    (withTypeName (typeName.map String.toLower) text).toLower =
      (withTypeName typeName text).toLower := by
  cases typeName with
  | none => rfl
  | some name =>
      by_cases unnamed : name = ""
      · subst unnamed
        rw [Option.map_some, Text.toLower_eq_empty.mpr rfl]
      · have stillNamed : name.toLower ≠ "" := mt Text.toLower_eq_empty.mp unnamed
        simp [withTypeName]

theorem Literal.toLower_text_folded (value : Literal) :
    value.folded.text.toLower = value.text.toLower := by
  cases value with
  | integer radix digits typeName => exact toLower_withTypeName typeName (radix.lead ++ digits)
  | bits radix digits typeName => exact toLower_withTypeName typeName (radix.lead ++ digits)
  | real digits typeName => exact toLower_withTypeName typeName digits
  | _ => rfl

mutual

theorem Variable.toLower_text_folded (value : Variable) :
    value.folded.text.toLower = value.text.toLower := by
  cases value with
  | simple origin name deref =>
      cases deref <;> simp [Variable.folded, Variable.text]
  | path origin base elements =>
      simp only [Variable.folded, Variable.text, Text.toLower_append, Text.toLower_join]
      rw [Variable.toLower_text_folded base, toLower_elementTexts_folded elements]
termination_by structural value

theorem Element.toLower_text_folded (element : Element) :
    element.folded.text.toLower = element.text.toLower := by
  cases element with
  | field selected deref =>
      simp only [Element.folded, Element.text, Text.toLower_append]
      rw [Variable.toLower_text_folded selected]
  | subscripts indices deref =>
      simp only [Element.folded, Element.text, commaSeparated, Text.toLower_append,
        Text.toLower_intercalate]
      rw [toLower_exprTexts_folded indices]
termination_by structural element

theorem Expr.toLower_text_folded (expr : Expr) : expr.folded.text.toLower = expr.text.toLower := by
  cases expr with
  | literal origin value => exact value.toLower_text_folded
  | direct origin located address => rfl
  | var value => exact Variable.toLower_text_folded value
  | unary origin op operand =>
      simp only [Expr.folded, Expr.text]
      split <;> simp only [Text.toLower_append, Expr.toLower_text_folded operand]
  | binary origin left op right =>
      simp only [Expr.folded, Expr.text, Text.toLower_append]
      rw [Expr.toLower_text_folded left, Expr.toLower_text_folded right]
  | paren origin inner =>
      simp only [Expr.folded, Expr.text, Text.toLower_append]
      rw [Expr.toLower_text_folded inner]
  | bracket origin inner =>
      simp only [Expr.folded, Expr.text, Text.toLower_append]
      rw [Expr.toLower_text_folded inner]
  | call origin asStatement callee arguments =>
      simp only [Expr.folded, Expr.text, commaSeparated, Text.toLower_append,
        Text.toLower_intercalate]
      rw [Variable.toLower_text_folded callee, toLower_argumentTexts_folded arguments]
  | chain origin calls =>
      simp only [Expr.folded, Expr.text, Text.toLower_intercalate]
      rw [toLower_exprTexts_folded calls]
termination_by structural expr

theorem Argument.toLower_text_folded (argument : Argument) :
    argument.folded.text.toLower = argument.text.toLower := by
  cases argument with
  | input origin name value =>
      cases name <;> cases value <;>
        simp only [Argument.folded, foldedName, foldedValue, Argument.text, assignmentText,
          Text.toLower_append, Variable.toLower_text_folded, Expr.toLower_text_folded]
  | output origin name value inverted =>
      cases name <;> cases value <;>
        simp only [Argument.folded, foldedName, foldedValue, Argument.text, assignmentText,
          Text.toLower_append, Variable.toLower_text_folded, Expr.toLower_text_folded]
termination_by structural argument

theorem toLower_elementTexts_folded (elements : List Element) :
    (elementTexts (foldedElements elements)).map String.toLower =
      (elementTexts elements).map String.toLower := by
  cases elements with
  | nil => rfl
  | cons element rest =>
      simp only [foldedElements, elementTexts, List.map_cons]
      rw [Element.toLower_text_folded element, toLower_elementTexts_folded rest]
termination_by structural elements

theorem toLower_exprTexts_folded (exprs : List Expr) :
    (exprTexts (foldedExprs exprs)).map String.toLower =
      (exprTexts exprs).map String.toLower := by
  cases exprs with
  | nil => rfl
  | cons expr rest =>
      simp only [foldedExprs, exprTexts, List.map_cons]
      rw [Expr.toLower_text_folded expr, toLower_exprTexts_folded rest]
termination_by structural exprs

theorem toLower_argumentTexts_folded (arguments : List Argument) :
    (argumentTexts (foldedArguments arguments)).map String.toLower =
      (argumentTexts arguments).map String.toLower := by
  cases arguments with
  | nil => rfl
  | cons argument rest =>
      simp only [foldedArguments, argumentTexts, List.map_cons]
      rw [Argument.toLower_text_folded argument, toLower_argumentTexts_folded rest]
termination_by structural arguments

end

theorem Variable.toLower_nameText_folded (value : Variable) :
    value.folded.nameText.toLower = value.nameText.toLower := by
  cases value with
  | simple origin name deref => exact Text.toLower_idem name
  | path origin base elements => exact base.toLower_text_folded

/-! The walk. -/

mutual

theorem Expr.subexprs_folded (expr : Expr) :
    expr.folded.subexprs = expr.subexprs.map Expr.folded := by
  cases expr with
  | literal origin value => rfl
  | direct origin located address => rfl
  | var value =>
      simp only [Expr.folded, Expr.subexprs, List.map_cons]
      rw [Variable.subscriptExprs_folded value]
  | unary origin op operand =>
      simp only [Expr.folded, Expr.subexprs, List.map_cons]
      rw [Expr.subexprs_folded operand]
  | binary origin left op right =>
      simp only [Expr.folded, Expr.subexprs, List.map_cons, List.map_append]
      rw [Expr.subexprs_folded left, Expr.subexprs_folded right]
  | paren origin inner =>
      simp only [Expr.folded, Expr.subexprs, List.map_cons]
      rw [Expr.subexprs_folded inner]
  | bracket origin inner =>
      simp only [Expr.folded, Expr.subexprs, List.map_cons]
      rw [Expr.subexprs_folded inner]
  | call origin asStatement callee arguments =>
      simp only [Expr.folded, Expr.subexprs, List.map_cons]
      rw [inputSubexprs_folded arguments]
  | chain origin calls =>
      simp only [Expr.folded, Expr.subexprs, List.map_cons]
      rw [subexprsOfAll_folded calls]
termination_by structural expr

theorem Variable.subscriptExprs_folded (value : Variable) :
    value.folded.subscriptExprs = value.subscriptExprs.map Expr.folded := by
  cases value with
  | simple origin name deref => rfl
  | path origin base elements => exact elementSubexprs_folded elements
termination_by structural value

theorem elementSubexprs_folded (elements : List Element) :
    elementSubexprs (foldedElements elements) = (elementSubexprs elements).map Expr.folded := by
  cases elements with
  | nil => rfl
  | cons element rest =>
      cases element with
      | field selected deref => exact elementSubexprs_folded rest
      | subscripts indices deref =>
          simp only [foldedElements, Element.folded, elementSubexprs, List.map_append]
          rw [subexprsOfAll_folded indices, elementSubexprs_folded rest]
termination_by structural elements

theorem inputSubexprs_folded (arguments : List Argument) :
    inputSubexprs (foldedArguments arguments) = (inputSubexprs arguments).map Expr.folded := by
  cases arguments with
  | nil => rfl
  | cons argument rest =>
      cases argument with
      | output origin name value inverted => rfl
      | input origin name value =>
          cases value with
          | none => exact inputSubexprs_folded rest
          | some value =>
              simp only [foldedArguments, Argument.folded, foldedValue, inputSubexprs,
                List.map_append]
              rw [Expr.subexprs_folded value, inputSubexprs_folded rest]
termination_by structural arguments

theorem subexprsOfAll_folded (exprs : List Expr) :
    subexprsOfAll (foldedExprs exprs) = (subexprsOfAll exprs).map Expr.folded := by
  cases exprs with
  | nil => rfl
  | cons expr rest =>
      simp only [foldedExprs, subexprsOfAll, List.map_append]
      rw [Expr.subexprs_folded expr, subexprsOfAll_folded rest]
termination_by structural exprs

end

/-! Heads of statements. -/

def Action.folded : Action → Action
  | assign targets value => assign (targets.map Expr.folded) value.folded
  | set target value => set target.folded value.folded
  | reset target value => reset target.folded value.folded
  | bind target value => bind target.folded value.folded
  | mention target => mention target.folded
  | call callee arguments => call callee.folded (foldedArguments arguments)
  | chain calls => chain (calls.map Expr.folded)

def LoopHead.folded : LoopHead → LoopHead
  | whileDo condition => whileDo condition.folded
  | repeatUntil condition => repeatUntil condition.folded
  | forTo control first last step =>
    forTo control.folded first.folded last.folded (step.map Expr.folded)

def Match.folded : Match → Match
  | value expr => value expr.folded
  | enumerated name => enumerated name.toLower

/-- The origin of a statement in a copy of the program, which numbers its statements in its own
way. -/
def Origin.renumbered (renumber : Nat → Nat) (origin : Origin) : Origin :=
  ⟨renumber origin.serial, none, none⟩

/-- The head of a statement with all names in small letters, without what is nested in it. -/
def Stmt.foldedHead (renumber : Nat → Nat) : Stmt → Stmt
  | .action origin deed => .action (origin.renumbered renumber) deed.folded
  | .exitStmt origin => .exitStmt (origin.renumbered renumber)
  | .continueStmt origin => .continueStmt (origin.renumbered renumber)
  | .returnStmt origin => .returnStmt (origin.renumbered renumber)
  | .jump origin target => .jump (origin.renumbered renumber) target.toLower
  | .label origin name _ => .label (origin.renumbered renumber) name.toLower none
  | .ifThen origin condition _ elseIfs otherwise =>
    .ifThen (origin.renumbered renumber) condition.folded .missing
      (elseIfs.map fun elseIf => .mk elseIf.condition.folded .missing)
      (otherwise.map fun _ => .missing)
  | .select origin subject arms otherwise =>
    .select (origin.renumbered renumber) subject.folded
      (arms.map fun arm => .mk (arm.values.map Match.folded) .missing)
      (otherwise.map fun _ => .missing)
  | .loop origin head _ => .loop (origin.renumbered renumber) head.folded .missing
  | .foreign origin name => .foreign (origin.renumbered renumber) name.toLower

theorem foldedArguments_eq_map (arguments : List Argument) :
    foldedArguments arguments = arguments.map Argument.folded := by
  induction arguments with
  | nil => rfl
  | cons argument rest inductionHypothesis =>
      rw [foldedArguments, inductionHypothesis, List.map_cons]

theorem Stmt.serial_foldedHead (renumber : Nat → Nat) (stmt : Stmt) :
    (stmt.foldedHead renumber).origin.serial = renumber stmt.origin.serial := by
  cases stmt <;> rfl

end PlcLint
