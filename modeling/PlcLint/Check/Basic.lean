import PlcLint.Scope.Typing

/-!
What is checked, and what a check is.
-/

namespace PlcLint

/-- An object that checks look at. -/
inductive Subject where
  | block (block : FunctionBlock)
  | declaration (declaration : Declaration)
  | method (method : Routine)
  | property (property : Property)
  | stmt (stmt : Stmt)
  | expr (expr : Expr)

namespace Subject

/-- The statement that the object is; a call may be met as an expression. -/
def stmt? : Subject → Option Stmt
  | stmt found => some found
  | expr found => found.asStmt?
  | _ => none

/-- The expression that the object is; a call statement is one. -/
def expr? : Subject → Option Expr
  | stmt found => found.asExpr?
  | expr found => some found
  | _ => none

/-- The serial number of a node. -/
def serial? : Subject → Option Nat
  | stmt found => some found.origin.serial
  | expr found => some found.origin.serial
  | _ => none

def isDeclaration : Subject → Bool
  | declaration _ => true
  | _ => false

/-- Objects of the code's structure, as opposed to statements and expressions. -/
def isSummary : Subject → Bool
  | stmt _ | expr _ => false
  | _ => true

end Subject

/-- The kinds of objects, by which checks say what they look at. An object is of several kinds: a
statement of its own kind is a statement, too. The last two are no kinds of such objects. -/
inductive Target where
  | statement
  | expression
  | summary
  -- Statements.
  | ifStatement
  | caseStatement
  | caseArm
  | whileLoop
  | repeatLoop
  | forLoop
  | labelledStatement
  | jumpStatement
  | exitStatement
  | continueStatement
  | returnStatement
  | assignment
  | setStatement
  | resetStatement
  | referenceAssignment
  | noOperation
  | callStatement
  | chainStatement
  | actionStatement
  -- Expressions.
  | literal
  | integer
  | binaryInteger
  | octalInteger
  | hexInteger
  | bitString
  | binaryBitString
  | octalBitString
  | hexBitString
  | real
  | boolean
  | string
  | duration
  | timeOfDay
  | date
  | dateTime
  | longDuration
  | longTimeOfDay
  | longDate
  | longDateTime
  | directVariable
  | location
  | simpleVariable
  | multiElementVariable
  | unaryOperation
  | binaryOperation
  | parenthesized
  | bracketed
  | call
  | chain
  -- Parts of the code's structure. Of the last five there are objects, but none is visited.
  | functionBlock
  | declaration
  | method
  | property
  | accessor
  | function
  | dataType
  | interface
  | globalList
  | statementList
  | text
  deriving DecidableEq

/-- The kinds of a literal, as far as they tell literals apart. -/
def Literal.kinds : Literal → List Target
  | integer .decimal _ _ => [.integer]
  | integer .binary _ _ => [.binaryInteger, .integer]
  | integer .octal _ _ => [.octalInteger, .integer]
  | integer .hexadecimal _ _ => [.hexInteger, .integer]
  | bits .decimal _ _ => [.bitString]
  | bits .binary _ _ => [.binaryBitString, .bitString]
  | bits .octal _ _ => [.octalBitString, .bitString]
  | bits .hexadecimal _ _ => [.hexBitString, .bitString]
  | real _ _ => [.real]
  | boolean _ => [.boolean]
  | string _ => [.string]
  | duration _ => [.duration]
  | timeOfDay _ => [.timeOfDay]
  | date _ => [.date]
  | dateTime _ _ => [.dateTime]
  | longDuration _ => [.longDuration]
  | longTimeOfDay _ => [.longTimeOfDay]
  | longDate _ => [.longDate]
  | longDateTime _ => [.longDateTime]

/-- The kinds of an expression; a call that stands as a statement is of the kinds of both. -/
def Expr.kinds : Expr → List Target
  | .literal _ value => value.kinds ++ [.literal, .expression]
  | .direct _ false _ => [.directVariable, .expression]
  | .direct _ true _ => [.location, .directVariable, .expression]
  | .var (.simple _ _ _) => [.simpleVariable, .expression]
  | .var (.path _ _ _) => [.multiElementVariable, .expression]
  | .unary _ _ _ => [.unaryOperation, .expression]
  | .binary _ _ _ _ => [.binaryOperation, .expression]
  | .paren _ _ => [.parenthesized, .expression]
  | .bracket _ _ => [.bracketed, .expression]
  | .call _ false _ _ => [.call, .expression]
  | .call _ true _ _ => [.callStatement, .statement, .call, .expression]
  | .chain _ _ => [.chain, .expression]

def Action.kinds : Action → List Target
  | assign _ _ => [.assignment, .statement]
  | set _ _ => [.setStatement, .statement]
  | reset _ _ => [.resetStatement, .statement]
  | bind _ _ => [.referenceAssignment, .statement]
  | mention _ => [.noOperation, .statement]
  | call _ _ => [.callStatement, .statement, .call, .expression]
  | chain _ => [.chainStatement, .statement]

def LoopHead.kind : LoopHead → Target
  | whileDo _ => .whileLoop
  | repeatUntil _ => .repeatLoop
  | forTo _ _ _ _ => .forLoop

def Stmt.kinds : Stmt → List Target
  | action _ deed => deed.kinds
  | exitStmt _ => [.exitStatement, .statement]
  | continueStmt _ => [.continueStatement, .statement]
  | returnStmt _ => [.returnStatement, .statement]
  | jump _ _ => [.jumpStatement, .statement]
  | label _ _ _ => [.labelledStatement, .statement]
  | ifThen _ _ _ _ _ => [.ifStatement, .statement]
  | select _ _ _ _ => [.caseStatement, .statement]
  | loop _ head _ => [head.kind, .statement]
  | foreign _ _ => [.actionStatement, .statement]

def Subject.kinds : Subject → List Target
  | block _ => [.functionBlock, .summary]
  | declaration _ => [.declaration, .summary]
  | method _ => [.method, .summary]
  | property _ => [.property, .summary]
  | stmt found => found.kinds
  | expr found => found.kinds

namespace Target

def isCheckable : Target → Bool
  | statementList | text => false
  | _ => true

/-- The object is of this kind. -/
def accepts (target : Target) (subject : Subject) : Bool := subject.kinds.contains target

end Target

/-- What a remark can be about: a declaration, or a node of the code. -/
inductive Violating where
  | declaration (declaration : Declaration)
  | node (origin : Origin)

namespace Violating

def span : Violating → Option Span
  | declaration found => found.span
  | node origin => origin.span

/-- A declaration is looked for in the declaration text, a node in the implementation text. -/
def isDeclared : Violating → Bool
  | declaration _ => true
  | node _ => false

end Violating

/-- The object as what a remark is about. Larger parts of the code have no place of their own. -/
def Subject.violating? : Subject → Option Violating
  | .declaration found => some (.declaration found)
  | .stmt found => some (.node found.origin)
  | .expr found => some (.node found.origin)
  | _ => none

/-- What a check has to say: a message, and what it is about. -/
structure Remark where
  message : String
  violating : Option Violating := none

namespace Remark

def span (remark : Remark) : Option Span := remark.violating.bind Violating.span

def inDeclaration (remark : Remark) : Bool := remark.violating.any Violating.isDeclared

end Remark

/-- The remarks of one check on one object. -/
abbrev Remarks := Logged (Walk Remark)

def noRemarks : Remarks := return {}

def remarks (found : List Remark) : Remarks := return Walk.ofList found

/-- One remark if the condition holds. -/
def remarkIf (condition : Bool) (remark : Remark) : Remarks :=
  remarks (if condition then [remark] else [])

structure Check where
  code : String
  name : String
  doc : String
  target : Target
  run : Scope → Subject → Remarks

end PlcLint
