import PlcLint.Syntax.Stmt
import PlcLint.Walk

/-!
The expressions that a statement holds, and the expressions inside an expression.
-/

namespace PlcLint

mutual

/-- An expression and what lies inside it, outermost first. The name of a callee and the fields
of a path are not expressions of their own, and the arguments of a call are walked only up to
the first one that takes a value out. -/
def Expr.subexprs : Expr → List Expr
  | .literal origin value => [.literal origin value]
  | .direct origin located address => [.direct origin located address]
  | .var value => .var value :: value.subscriptExprs
  | .unary origin op operand => .unary origin op operand :: operand.subexprs
  | .binary origin left op right =>
    .binary origin left op right :: (left.subexprs ++ right.subexprs)
  | .paren origin inner => .paren origin inner :: inner.subexprs
  | .bracket origin inner => .bracket origin inner :: inner.subexprs
  | .call origin asStatement callee arguments =>
    .call origin asStatement callee arguments :: inputSubexprs arguments
  | .chain origin calls => .chain origin calls :: subexprsOfAll calls

/-- What lies inside the subscripts of a path. -/
def Variable.subscriptExprs : Variable → List Expr
  | .simple _ _ _ => []
  | .path _ _ elements => elementSubexprs elements

def elementSubexprs : List Element → List Expr
  | [] => []
  | .field _ _ :: rest => elementSubexprs rest
  | .subscripts indices _ :: rest => subexprsOfAll indices ++ elementSubexprs rest

def inputSubexprs : List Argument → List Expr
  | [] => []
  | .output _ _ _ _ :: _ => []
  | .input _ _ none :: rest => inputSubexprs rest
  | .input _ _ (some value) :: rest => value.subexprs ++ inputSubexprs rest

def subexprsOfAll : List Expr → List Expr
  | [] => []
  | expr :: rest => expr.subexprs ++ subexprsOfAll rest

end

/-- The walk of `Expr.subexprs` with two choices that concern the outermost expression only: it
gives nothing if `exclude` holds of it, and with `outputs` the arguments that take values out
are walked too. -/
def Expr.subexprsWith (exclude : Expr → Bool) (outputs : Bool) (expr : Expr) : List Expr :=
  if exclude expr then []
  else match outputs, expr with
    | true, .call _ _ _ arguments =>
      expr :: arguments.flatMap fun argument =>
        match argument.value with
        | some value => value.subexprs
        | none => []
    | _, _ => expr.subexprs

/-- An expression met as a part of a statement: a call that stands as a statement of its own is
left to itself. -/
def Expr.asPart (expr : Expr) : List Expr := if expr.isStatement then [] else [expr]

/-- Data in which expressions are looked for: a record by its fields, a mapping by its values, a
list, or what holds no expression. -/
inductive Datum where
  | expr (found : Expr)
  | statement
  | record (fields : List Datum)
  | mapping (values : List Datum)
  | items (members : List Datum)
  | plain
  deriving Inhabited

mutual

/-- The outermost expressions in data, in their order. Statements are left to themselves. -/
def Datum.exprs : Datum → List Expr
  | .expr found => found.asPart
  | .statement | .plain => []
  | .record fields => exprsOfAll fields
  | .mapping values => exprsOfAll values
  | .items members => exprsOfAll members

def Datum.exprsOfAll : List Datum → List Expr
  | [] => []
  | datum :: rest => datum.exprs ++ exprsOfAll rest

end

def LoopHead.exprs : LoopHead → List Expr
  | whileDo condition => condition.asPart
  | repeatUntil condition => condition.asPart
  | forTo control first last step =>
    control.asPart ++ first.asPart ++ last.asPart ++ step.toList.flatMap Expr.asPart

/-- The expressions of an action; the targets of an assignment only with `targets`. -/
def Action.exprs (targets : Bool) : Action → List Expr
  | assign assigned value =>
    if targets then assigned.flatMap Expr.asPart ++ value.asPart else [value]
  | bind target value => if targets then target.asPart ++ value.asPart else [value]
  | set target value => target.asPart ++ value.asPart
  | reset target value => target.asPart ++ value.asPart
  | mention target => target.asPart
  | call _ _ => []
  | chain calls => calls.flatMap Expr.asPart

/-- The expressions of a statement that is not a `FOR` loop. -/
def Stmt.ownExprs (targets : Bool) (stmt : Stmt) : List Expr :=
  match stmt with
  | .action _ deed =>
    match stmt.asExpr? with
    | some expr => [expr]
    | none => deed.exprs targets
  | .ifThen _ condition _ elseIfs _ =>
    condition.asPart ++ elseIfs.flatMap fun elseIf => elseIf.condition.asPart
  | .select _ subject _ _ => subject.asPart
  | .loop _ head _ => head.exprs
  | _ => []

mutual

/-- The expressions that a statement reads. A `FOR` loop gives its bounds and what the
statements of its body give; other blocks are not entered. -/
def Stmt.readExprs (stmt : Stmt) : Walk Expr :=
  match stmt with
  | .loop _ (.forTo _ first last _) body =>
    Walk.ofList [first, last] ++ body.readExprs
  | .action _ _ | .exitStmt _ | .continueStmt _ | .returnStmt _ | .jump _ _ | .label _ _ _
  | .ifThen _ _ _ _ _ | .select _ _ _ _ | .loop _ _ _ | .foreign _ _ =>
    Walk.ofList (stmt.ownExprs false)

def Block.readExprs : Block → Walk Expr
  | .missing => ⟨[], some .missingLoopBody⟩
  | .given stmts => readExprsOfAll stmts

def readExprsOfAll : List Stmt → Walk Expr
  | [] => ⟨[], none⟩
  | stmt :: rest => stmt.readExprs ++ readExprsOfAll rest

end

/-- The expressions of a statement, with the targets of assignments if asked for. -/
def Stmt.exprs (targets : Bool) (stmt : Stmt) : Walk Expr :=
  if targets then Walk.ofList (stmt.ownExprs true) else stmt.readExprs

/-- All expressions inside the expressions that a statement reads. -/
def Stmt.readSubexprs (stmt : Stmt) : Walk Expr :=
  stmt.readExprs.flatMap fun expr => Walk.ofList expr.subexprs

end PlcLint
