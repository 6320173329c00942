import PlcLint.Syntax.Print

/-!
Statements of Structured Text. A block that the source leaves out altogether (`Block.missing`)
differs from an empty one.
-/

namespace PlcLint

/-- Statements without control flow of their own. -/
inductive Action where
  | assign (targets : List Expr) (value : Expr)
  | set (target value : Expr)
  | reset (target value : Expr)
  | bind (target value : Expr)
  | mention (target : Expr)
  | call (callee : Variable) (arguments : List Argument)
  | chain (calls : List Expr)

inductive LoopHead where
  | whileDo (condition : Expr)
  | repeatUntil (condition : Expr)
  | forTo (control first last : Expr) (step : Option Expr)

/-- What an arm of a `CASE` statement matches. -/
inductive Match where
  | value (expr : Expr)
  | enumerated (name : String)

mutual

inductive Stmt where
  | action (origin : Origin) (deed : Action)
  | exitStmt (origin : Origin)
  | continueStmt (origin : Origin)
  | returnStmt (origin : Origin)
  | jump (origin : Origin) (target : String)
  | label (origin : Origin) (name : String) (inner : Option Stmt)
  | ifThen (origin : Origin) (condition : Expr) (body : Block) (elseIfs : List ElseIf)
      (otherwise : Option Block)
  | select (origin : Origin) (subject : Expr) (arms : List Arm) (otherwise : Option Block)
  | loop (origin : Origin) (head : LoopHead) (body : Block)
  | foreign (origin : Origin) (name : String)

inductive Block where
  | missing
  | given (stmts : List Stmt)

inductive ElseIf where
  | mk (condition : Expr) (body : Block)

inductive Arm where
  | mk (values : List Match) (body : Block)

end

def Match.text : Match → String
  | value expr => expr.text
  | enumerated name => name

def ElseIf.condition : ElseIf → Expr
  | mk condition _ => condition

def Arm.values : Arm → List Match
  | mk values _ => values

/-- The matches of an arm as its label shows them. -/
def Arm.text (arm : Arm) : String :=
  "[" ++ commaSeparated (arm.values.map Match.text) ++ "]"

def Action.text : Action → String
  | assign targets value =>
    String.intercalate " := " (targets.map Expr.text ++ [value.text]) ++ ";"
  | set target value => target.text ++ " S= " ++ value.text ++ ";"
  | reset target value => target.text ++ " R= " ++ value.text ++ ";"
  | bind target value => target.text ++ " REF= " ++ value.text ++ ";"
  | mention target => target.text ++ ";"
  | call callee arguments =>
    callee.text ++ "(" ++ commaSeparated (arguments.map Argument.text) ++ ");"
  | chain calls => String.intercalate "." (calls.map Expr.text) ++ ";"

namespace Stmt

def origin : Stmt → Origin
  | action origin _ => origin
  | exitStmt origin => origin
  | continueStmt origin => origin
  | returnStmt origin => origin
  | jump origin _ => origin
  | label origin _ _ => origin
  | ifThen origin _ _ _ _ => origin
  | select origin _ _ _ => origin
  | loop origin _ _ => origin
  | foreign origin _ => origin

/-- Two occurrences of one statement. -/
def same (a b : Stmt) : Bool := a.origin.serial == b.origin.serial

/-- A statement as text; a compound statement is shown by its head. -/
def text : Stmt → String
  | action _ deed => deed.text
  | exitStmt _ => "EXIT;"
  | continueStmt _ => "CONTINUE;"
  | returnStmt _ => "RETURN;"
  | jump _ name => "JMP " ++ name ++ ";"
  | label _ name _ => name ++ ":"
  | ifThen _ condition _ _ _ => "IF " ++ condition.text ++ " THEN"
  | select _ subject _ _ => "CASE " ++ subject.text ++ " OF"
  | loop _ (.whileDo condition) _ => "WHILE " ++ condition.text ++ " DO"
  | loop _ (.repeatUntil condition) _ => "REPEAT UNTIL " ++ condition.text
  | loop _ (.forTo control first last _) _ =>
    "FOR " ++ control.text ++ " := " ++ first.text ++ " TO " ++ last.text ++ " DO"
  | foreign _ name => name

/-- The expression that a call statement is. -/
def asExpr? : Stmt → Option Expr
  | action origin (.call callee arguments) => some (.call origin true callee arguments)
  | _ => none

end Stmt

/-- The statement that a call standing as a statement is. -/
def Expr.asStmt? : Expr → Option Stmt
  | .call origin true callee arguments => some (.action origin (.call callee arguments))
  | _ => none

end PlcLint
