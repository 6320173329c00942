/-!
Expressions of Structured Text.

Every node has an origin. Two nodes of one program are the same node exactly if their serial
numbers agree; equal text does not make them the same.
-/

namespace PlcLint

/-- A line and the columns of a node on it. -/
structure Extent where
  line : Option Int := none
  column : Option Int := none
  endColumn : Option Int := none

/-- Where a node stands in its file, and where in the declaration or implementation text that
contains it. -/
structure Span where
  file : Extent
  container : Extent

/-- Identity and place of a node; `ref` is the number by which reports refer to it. -/
structure Origin where
  serial : Nat
  ref : Option Int := none
  span : Option Span := none

inductive Radix where
  | decimal
  | binary
  | octal
  | hexadecimal
  deriving DecidableEq

inductive Literal where
  | integer (radix : Radix) (digits : String) (typeName : Option String)
  | bits (radix : Radix) (digits : String) (typeName : Option String)
  | real (digits : String) (typeName : Option String)
  | boolean (text : String)
  | string (text : String)
  | duration (text : String)
  | timeOfDay (text : String)
  | date (text : String)
  | dateTime (date time : String)
  | longDuration (text : String)
  | longTimeOfDay (text : String)
  | longDate (text : String)
  | longDateTime (text : String)
  deriving DecidableEq

mutual

/-- A variable: a name, or a path of selections that starts at one. -/
inductive Variable where
  | simple (origin : Origin) (name : String) (deref : Bool)
  | path (origin : Origin) (base : Variable) (elements : List Element)

/-- One step of a path. -/
inductive Element where
  | field (selected : Variable) (deref : Bool)
  | subscripts (indices : List Expr) (deref : Bool)

/-- An expression. `call` with `asStatement` is a call that stands as a statement of its own
and is met as an expression too. -/
inductive Expr where
  | literal (origin : Origin) (value : Literal)
  | direct (origin : Origin) (located : Bool) (address : String)
  | var (value : Variable)
  | unary (origin : Origin) (op : String) (operand : Expr)
  | binary (origin : Origin) (left : Expr) (op : String) (right : Expr)
  | paren (origin : Origin) (inner : Expr)
  | bracket (origin : Origin) (inner : Expr)
  | call (origin : Origin) (asStatement : Bool) (callee : Variable) (arguments : List Argument)
  | chain (origin : Origin) (calls : List Expr)

/-- An argument of a call: a value passed in, or a variable that takes a value out. -/
inductive Argument where
  | input (origin : Origin) (name : Option Variable) (value : Option Expr)
  | output (origin : Origin) (name : Option Variable) (value : Option Expr) (inverted : Bool)

end

namespace Variable

def origin : Variable → Origin
  | simple origin _ _ => origin
  | path origin _ _ => origin

end Variable

namespace Argument

def origin : Argument → Origin
  | input origin _ _ => origin
  | output origin _ _ _ => origin

def name : Argument → Option Variable
  | input _ name _ => name
  | output _ name _ _ => name

def value : Argument → Option Expr
  | input _ _ value => value
  | output _ _ value _ => value

def isOutput : Argument → Bool
  | input _ _ _ => false
  | output _ _ _ _ => true

end Argument

namespace Expr

def origin : Expr → Origin
  | literal origin _ => origin
  | direct origin _ _ => origin
  | var value => value.origin
  | unary origin _ _ => origin
  | binary origin _ _ _ => origin
  | paren origin _ => origin
  | bracket origin _ => origin
  | call origin _ _ _ => origin
  | chain origin _ => origin

/-- A call that stands as a statement. -/
def isStatement : Expr → Bool
  | call _ asStatement _ _ => asStatement
  | _ => false

/-- The callee and arguments of a call. -/
def call? : Expr → Option (Variable × List Argument)
  | call _ _ callee arguments => some (callee, arguments)
  | _ => none

/-- The name of a variable that is not a path. -/
def simpleName? : Expr → Option String
  | var (.simple _ name _) => some name
  | _ => none

def isLiteral : Expr → Bool
  | literal _ _ => true
  | _ => false

end Expr

end PlcLint
