import PlcLint.Flow.Search
import PlcLint.Syntax.Subexpr

/-!
Which statements assign to a variable, and whether a variable is assigned on all ways through
the code or before a statement is reached.
-/

namespace PlcLint

/-- Assignment to an element of a variable is assignment to the variable. -/
def Expr.isTarget (name : String) : Expr → Bool
  | .var (.simple _ target _) => Text.sameName target name
  | .var (.path _ base _) => Text.sameName base.nameText name
  | _ => false

/-- The variable, or an element of it, stands where the statement assigns. -/
def Stmt.hasTarget (name : String) : Stmt → Bool
  | .action _ (.assign targets _) => targets.any (·.isTarget name)
  | .action _ (.bind target _) => target.isTarget name
  | .loop _ (.forTo control _ _ _) _ =>
    match control.simpleName? with
    | some target => Text.sameName target name
    | none => false
  | _ => false

/-- A call to a function of this name. -/
def Expr.isCallTo (name : String) : Expr → Bool
  | .call _ _ (.simple _ callee _) _ => Text.sameName callee name
  | _ => false

/-- The text by which a named expression is compared with a variable. -/
def Expr.nameText? : Expr → Option String
  | .var value => some value.nameText
  | .call _ _ callee _ => some callee.text
  | _ => none

/-- The name whose address a call to `ADR` takes. -/
def addressed : List Argument → Except Fault String
  | [] => .error .addressOfNothing
  | argument :: _ =>
    match argument.value.bind Expr.nameText? with
    | some name => .ok name
    | none => .error .addressOfUnnamed

/-- The argument takes its value out into the variable. -/
def Argument.writes (name : String) (argument : Argument) : Bool :=
  argument.isOutput &&
    match argument.value.bind Expr.simpleName? with
    | some target => Text.sameName target name
    | none => false

/-- The expression is a call that assigns to the variable: through an argument that takes a
value out or, if `address` is set, by taking the variable's address. -/
def Expr.assigns (name : String) (address : Bool) (expr : Expr) : Except Fault Bool :=
  match expr with
  | .call _ _ _ arguments => do
    if address && expr.isCallTo "ADR" then
      if Text.sameName (← addressed arguments) name then return true
    return arguments.any (·.writes name)
  | _ => .ok false

/-- The statement assigns to the variable. -/
def Stmt.assigns (name : String) (address : Bool) (stmt : Stmt) : Except Fault Bool :=
  if stmt.hasTarget name then .ok true
  else stmt.readSubexprs.any (·.assigns name address)

namespace Flow.Source

/-- The variable is assigned on every way through the code. -/
def assignsAlways (source : Source) (name : String) : Except Fault Bool :=
  source.onAllPaths (·.assigns name true)

/-- The variable is assigned on every way to the statement. -/
def assignsBefore (source : Source) (target : Stmt) (name : String) : Except Fault Bool :=
  source.onAllPathsTo target (·.assigns name true)

/-- The expressions inside the expressions that the reachable statements read. -/
def subexprs (source : Source) (exclude : Expr → Bool) : Walk Expr :=
  source.statements.flatMap fun stmt =>
    stmt.readExprs.flatMap fun expr => Walk.ofList (expr.subexprsWith exclude false)

end Flow.Source

end PlcLint
