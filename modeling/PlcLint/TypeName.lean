import PlcLint.Notice
import PlcLint.Table
import PlcLint.Text.CharClass

/-!
Types as the code names them: the elementary types, their common type in arithmetic, and types
built with `ARRAY` and `REFERENCE TO`.
-/

namespace PlcLint

/-- A type as the inference gives it. `complex` stands for what is no plain variable: a type, a
function block, a function or a method. `declared` is the type of an accessor, taken from its
declaration. -/
inductive TypeRef where
  | named (name : String)
  | complex
  | declared (text : String)
  deriving DecidableEq

def TypeRef.text : TypeRef → String
  | named name => name
  | complex => "<ComplexType>"
  | declared text => text

/-- The name of a type that is given by name. -/
def TypeRef.name? : TypeRef → Option String
  | named name => some name
  | _ => none

namespace TypeName

def bitStrings : List String := ["BOOL", "BYTE", "WORD", "DWORD", "LWORD"]

def unsignedIntegers : List String := ["USINT", "UINT", "UDINT", "ULINT"]

def signedIntegers : List String := ["SINT", "INT", "DINT", "LINT"]

def floatingPoint : List String := ["REAL", "LREAL"]

def times : List String :=
  ["TIME", "LTIME", "DATE", "LDATE", "TIME_OF_DAY", "TOD", "LTIME_OF_DAY", "LTOD",
    "DATE_AND_TIME", "DT", "LDATE_AND_TIME", "LDT"]

def elementary : List String :=
  bitStrings ++ unsignedIntegers ++ signedIntegers ++ floatingPoint ++ times

/-- The conversion functions with the type each one gives. -/
def conversions : Table String :=
  ⟨elementary.flatMap (fun source =>
      (elementary.filter (· != source)).map fun target => (source ++ "_TO_" ++ target, target))
    ++ elementary.map fun target => ("TO_" ++ target, target)⟩

/-- Functions of the language with the type each one gives. -/
def builtinFunctions : Table String :=
  ⟨[("LEN", "INT"), ("FIND", "INT"), ("TRUNC", "DINT"), ("TRUNC_INT", "INT"),
    ("SIZEOF", "USINT")]⟩

/-- Classes of arithmetic types, the dominant ones first; in a class the larger types come
later. -/
def dominance : List (List String) := [times, floatingPoint, unsignedIntegers, signedIntegers]

/-- The place of a type in a class. -/
def rank? (group : List String) : TypeRef → Option Nat
  | .named name => group.idxOf? name
  | _ => none

/-- The common type of two different types by the first class that knows one of them. -/
def commonIn? (left right : TypeRef) : List (List String) → Option TypeRef
  | [] => none
  | group :: rest =>
    match rank? group left, rank? group right with
    | some i, some j => some (if i < j then right else left)
    | some _, none => some left
    | none, some _ => some right
    | none, none => commonIn? left right rest

/-- The common type of the operands of an arithmetic operation, as well as it can be told. An
unknown type gives way to the other. -/
def common (left right : Option TypeRef) : Logged (Option TypeRef) :=
  match left, right with
  | none, _ => pure right
  | some _, none => pure left
  | some a, some b =>
    if a = b then pure left
    else match commonIn? a b dominance with
      | some found => pure (some found)
      | none => do
        Logged.warn
          ("Failed to determine common type of arithmetic types " ++ a.text ++ " and " ++ b.text)
        pure (if a = .named "" then right else left)

/-- What follows `lead` in the text. -/
def after? (lead : String) (text : List Char) : Option (List Char) :=
  if lead.toList.isPrefixOf text then some (text.drop lead.length) else none

/-- The bounds between the brackets of an array type and the type of its elements, on one line
of its own: `ARRAY [bounds] OF element`. -/
def arrayParts? (typeName : String) : Option (List Char × String) := do
  let rest ← after? "ARRAY" typeName.toList
  let rest ← after? "[" (rest.dropWhile Text.isBlank)
  let bounds := rest.takeWhile (· != ']')
  let rest ← after? "]" (rest.dropWhile (· != ']'))
  let rest ← after? "OF" (rest.dropWhile Text.isBlank)
  let element := rest.dropWhile Text.isBlank
  if element.length < rest.length ∧ (element.dropWhile (· != '\n')).all Text.isBlank then
    some (bounds, String.ofList (element.takeWhile (· != '\n')))
  else none

def isArray (typeName : String) : Bool := (arrayParts? typeName).isSome

/-- The number of commas in the bounds of an array type, and the type of its elements. -/
def arrayShape (typeName : String) : Except Fault (Nat × String) :=
  match arrayParts? typeName with
  | some (bounds, element) => .ok (bounds.count ',', element)
  | none => .error .notAnArray

/-- The type that a reference type refers to: `REFERENCE TO base`, on one line. -/
def referenceBase? (typeName : String) : Option String := do
  let rest ← after? "REFERENCE TO " typeName.toList
  let behind := rest.dropWhile (· != '\n')
  if behind.isEmpty || behind == ['\n'] then
    some (String.ofList (rest.takeWhile (· != '\n')))
  else none

def isReference (typeName : String) : Bool := (referenceBase? typeName).isSome

def referenceBase (typeName : String) : Except Fault String :=
  match referenceBase? typeName with
  | some base => .ok base
  | none => .error .notAReference

end TypeName

/-- `SUPER`, with or without the dereference sign. -/
def isSuper (name : String) : Bool :=
  Text.sameName name "SUPER" || Text.sameName name "SUPER^"

end PlcLint
