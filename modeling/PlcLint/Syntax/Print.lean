import PlcLint.Syntax.Expr
import PlcLint.Text.Letters

/-!
Expressions as text. Messages, graph labels and the comparison of compound names use this form.
-/

namespace PlcLint

def Radix.lead : Radix → String
  | decimal => ""
  | binary => "2#"
  | octal => "8#"
  | hexadecimal => "16#"

/-- A literal with its type in front, if a type is named. -/
def withTypeName (typeName : Option String) (text : String) : String :=
  match typeName with
  | none | some "" => text
  | some name => name ++ "#" ++ text

def Literal.text : Literal → String
  | integer radix digits typeName => withTypeName typeName (radix.lead ++ digits)
  | bits radix digits typeName => withTypeName typeName (radix.lead ++ digits)
  | real digits typeName => withTypeName typeName digits
  | boolean value =>
    let folded := Text.lower value
    if folded = "1" || folded = "true" then "TRUE" else "FALSE"
  | string value => value
  | duration value => "TIME#" ++ value ++ "S"
  | timeOfDay value => "TIME_OF_DAY#" ++ value
  | date value => "DATE#" ++ value
  | dateTime day time => "DT#" ++ day ++ "-" ++ time
  | longDuration value => "LTIME#" ++ value
  | longTimeOfDay value => "LTIME_OF_DAY#" ++ value
  | longDate value => "LDATE#" ++ value
  | longDateTime value => "LDT#" ++ value

/-- A sign is written against its operand; every other operator is set off by a space. -/
def isSign (op : String) : Bool := op = "" || op = "-" || op = "+" || op = "-+"

def commaSeparated (texts : List String) : String := String.intercalate ", " texts

/-- A name and a value with the sign between them; what is missing takes the sign with it. -/
def assignmentText (name : Option String) (sign : String) (value : Option String) : String :=
  match name, value with
  | some name, some value => name ++ " " ++ sign ++ " " ++ value
  | some name, none => name
  | none, some value => value
  | none, none => ""

mutual

def Variable.text : Variable → String
  | .simple _ name deref => if deref then name ++ "^" else name
  | .path _ base elements => base.text ++ String.join (elementTexts elements)

def Element.text : Element → String
  | .field selected deref => (if deref then "^." else ".") ++ selected.text
  | .subscripts indices deref =>
    "[" ++ commaSeparated (exprTexts indices) ++ "]" ++ (if deref then "^" else "")

def Expr.text : Expr → String
  | .literal _ value => value.text
  | .direct _ located address => (if located then "AT %IX" else "%IX") ++ address
  | .var value => value.text
  | .unary _ op operand => if isSign op then op ++ operand.text else op ++ " " ++ operand.text
  | .binary _ left op right => left.text ++ " " ++ op ++ " " ++ right.text
  | .paren _ inner => "(" ++ inner.text ++ ")"
  | .bracket _ inner => "[" ++ inner.text ++ "]"
  | .call _ asStatement callee arguments =>
    callee.text ++ "(" ++ commaSeparated (argumentTexts arguments) ++ ")"
      ++ (if asStatement then ";" else "")
  | .chain _ calls => String.intercalate "." (exprTexts calls)

def Argument.text : Argument → String
  | .input _ none none => ""
  | .input _ (some name) none => assignmentText (some name.text) ":=" none
  | .input _ none (some value) => assignmentText none ":=" (some value.text)
  | .input _ (some name) (some value) => assignmentText (some name.text) ":=" (some value.text)
  | .output _ none none inverted => if inverted then "NOT " else ""
  | .output _ (some name) none inverted =>
    (if inverted then "NOT " else "") ++ assignmentText (some name.text) "=>" none
  | .output _ none (some value) inverted =>
    (if inverted then "NOT " else "") ++ assignmentText none "=>" (some value.text)
  | .output _ (some name) (some value) inverted =>
    (if inverted then "NOT " else "") ++ assignmentText (some name.text) "=>" (some value.text)

def elementTexts : List Element → List String
  | [] => []
  | element :: rest => element.text :: elementTexts rest

def exprTexts : List Expr → List String
  | [] => []
  | expr :: rest => expr.text :: exprTexts rest

def argumentTexts : List Argument → List String
  | [] => []
  | argument :: rest => argument.text :: argumentTexts rest

end

/-- The name that a comparison with a variable's name uses: a path is compared by the text of
its base. -/
def Variable.nameText : Variable → String
  | .simple _ name _ => name
  | .path _ base _ => base.text

def Literal.kind : Literal → String
  | integer .decimal _ _ => "Integer"
  | integer .binary _ _ => "BinaryInteger"
  | integer .octal _ _ => "OctalInteger"
  | integer .hexadecimal _ _ => "HexInteger"
  | bits .decimal _ _ => "BitString"
  | bits .binary _ _ => "BinaryBitString"
  | bits .octal _ _ => "OctalBitString"
  | bits .hexadecimal _ _ => "HexBitString"
  | real _ _ => "Real"
  | boolean _ => "Boolean"
  | string _ => "String"
  | duration _ => "Duration"
  | timeOfDay _ => "TimeOfDay"
  | date _ => "Date"
  | dateTime _ _ => "DateTime"
  | longDuration _ => "Lduration"
  | longTimeOfDay _ => "LtimeOfDay"
  | longDate _ => "Ldate"
  | longDateTime _ => "LdateTime"

/-- The kind of an expression, as listings name it. -/
def Expr.kind : Expr → String
  | .literal _ value => value.kind
  | .direct _ false _ => "DirectVariable"
  | .direct _ true _ => "Location"
  | .var (.simple _ _ _) => "SimpleVariable"
  | .var (.path _ _ _) => "MultiElementVariable"
  | .unary _ _ _ => "UnaryOperation"
  | .binary _ _ _ _ => "BinaryOperation"
  | .paren _ _ => "ParenthesizedExpression"
  | .bracket _ _ => "BracketedExpression"
  | .call _ false _ _ => "FunctionCall"
  | .call _ true _ _ => "FunctionCallStatement"
  | .chain _ _ => "ChainedFunctionCall"

end PlcLint
