import PlcLint.Scope.Basic

/-!
Types of expressions, as far as they can be told.
-/

namespace PlcLint.Scope

/-- The type of a field of a function block or data type, inherited fields included. -/
def fieldType (scope : Scope) (type field : String) : Option String :=
  match scope.code.blocks.find? type with
  | some block =>
    let complete := scope.code.complete block
    match complete.declarations.find? field with
    | some declaration => some declaration.type
    | none =>
      (complete.properties.find? fun property => Text.sameName property.name field).map
        fun property => property.getter.returnType.getD "None"
  | none =>
    match scope.code.dataTypes.find? type with
    | some dataType =>
      ((scope.code.completeType dataType).declarations.find? field).map (·.type)
    | none => none

/-- The type behind a list of selections, starting from a type. -/
def selectedType (scope : Scope) : Option TypeRef → List Element → Logged (Option TypeRef)
  | type, [] => return type
  | some (.named name), .subscripts indices _ :: rest => do
    let (commas, element) ← Logged.ofExcept (TypeName.arrayShape name)
    if commas != indices.length then
      Logged.warn
        ("Unsupported: partial multi-dimensional array access (in " ++ scope.place ++ ")")
      return none
    selectedType scope (some (.named element)) rest
  | some (.named name), .field selected _ :: rest =>
    selectedType scope ((scope.fieldType name selected.nameText).map .named) rest
  | type, _ :: _ => return type

/-- The type of a path of selections. -/
def pathType (scope : Scope) (name : String) (elements : List Element) :
    Logged (Option TypeRef) := do
  scope.selectedType (← scope.varType name) elements

/-- The type of a literal that is told by its form. -/
def literalType? : Literal → Option String
  | .integer _ _ typeName => some (named? typeName |>.getD "INT")
  | .real _ typeName => some (named? typeName |>.getD "LREAL")
  | .bits _ _ typeName => named? typeName
  | .boolean _ => some "BOOLEAN"
  | .duration _ => some "TIME"
  | .longDuration _ => some "LTIME"
  | .timeOfDay _ => some "TIME_OF_DAY"
  | .longTimeOfDay _ => some "LTIME_OF_DAY"
  | .date _ => some "DATE"
  | .longDate _ => some "LDATE"
  | .dateTime _ _ => some "DATE_AND_TIME"
  | .longDateTime _ => some "LDATE_AND_TIME"
  | .string _ => some "STRING"
where
  /-- A type that is named, and not by the empty text. -/
  named? (typeName : Option String) : Option String := typeName.filter (· != "")

def unknownType (expr : Expr) : Logged (Option TypeRef) := do
  Logged.warn ("Unsupported or unknown expression type accessor: " ++ expr.text)
  return none

/-- The type of what a call gives: by the conversion or function of its name, or as the call of
a function block. -/
def callType (scope : Scope) (expr : Expr) (callee : Variable) : Logged (Option TypeRef) :=
  let name := callee.nameText
  match TypeName.conversions.findFolded? name, TypeName.builtinFunctions.findFolded? name,
      scope.code.functions.findFolded? name with
  | some target, _, _ => return some (.named target)
  | none, some target, _ => return some (.named target)
  | none, none, some function => return function.returnType.map .named
  | none, none, none => do
    match ← scope.varType name with
    | some (.named block) => return some (.named block)
    | _ => unknownType expr

def comparisons : List String :=
  ["OR", "XOR", "AND", "AND_THEN", "OR_ELSE", "=", "<>", "<=", ">=", "<", ">"]

def arithmetic : List String := ["+", "-", "*", "/"]

def exprType (scope : Scope) (expr : Expr) : Logged (Option TypeRef) :=
  match expr with
  | .literal _ value =>
    match literalType? value with
    | some name => return some (.named name)
    | none => unknownType expr
  | .direct _ _ _ => throw .directVariableType
  | .var (.simple _ name _) => scope.varType name
  | .var (.path _ base elements) => scope.pathType base.text elements
  | .unary _ op operand =>
    if op = "NOT" then return some (.named "BOOLEAN")
    else if op = "-" || op = "+" then scope.exprType operand
    else throw .unknownOperator
  | .binary _ left op right =>
    if comparisons.contains op then return some (.named "BOOLEAN")
    else if op = "MOD" then scope.exprType left
    else if arithmetic.contains op then do
      let leftType ← scope.exprType left
      let rightType ← scope.exprType right
      TypeName.common leftType rightType
    else throw .unknownOperator
  | .paren _ inner => scope.exprType inner
  | .bracket _ _ => throw .bracketType
  | .call _ _ callee _ => scope.callType expr callee
  | .chain _ _ => unknownType expr

end PlcLint.Scope
