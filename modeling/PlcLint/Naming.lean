import PlcLint.Scope.Basic
import PlcLint.Text.Pattern.Parser

/-!
Names by convention: the letters in front of a name that tell the type of a variable.
-/

namespace PlcLint

/-- Both cases of letters, a capital first, and no underscore. -/
def isCamelCase (text : String) : Except Fault Bool :=
  match text.toList with
  | [] => .error .emptyName
  | first :: rest =>
    .ok (Text.isUpper first && text != Text.upper text && !(first :: rest).contains '_')

/-- The text without the characters of `lead` at its beginning, in whatever order. -/
def stripLead (lead text : String) : String :=
  String.ofList (text.toList.dropWhile lead.toList.contains)

def patternFault : Text.Pattern.ParseError → Fault
  | .malformed => .badPattern
  | .tooManyRepetitions => .patternRepetitions
  | .conflictingFlags => .patternFlags

/-- The letters for the first pattern that matches the type. -/
def patternLetters? (typeName : String) : List (String × String) → Except Fault (Option String)
  | [] => .ok none
  | (pattern, letters) :: rest =>
    match Text.Pattern.parse pattern with
    | .error error => .error (patternFault error)
    | .ok pattern =>
      if pattern.startsIn typeName then .ok (some letters) else patternLetters? typeName rest

/-- The letters for a type that the code declares. -/
def declaredLetters? (code : Code) (settings : Settings) (typeName : String) : Option String :=
  let block := if code.blocks.contains typeName then settings.functionBlockPrefix else none
  let interface := if code.interfaces.contains typeName then settings.interfacePrefix else none
  let data := match code.dataTypes.find? typeName with
    | none => none
    | some type =>
      match type.kind with
      | .enumeration _ => settings.enumPrefix
      | .record => settings.structPrefix
      | .other => none
  (block.orElse fun _ => interface).orElse fun _ => data

/-- The letters for a type; nested arrays, and nested references, show theirs once. The number
bounds the nesting. -/
def typeLettersFrom (code : Code) (settings : Settings) :
    Nat → String → Except Fault (Option String)
  | 0, _ => .ok none
  | fuel + 1, text =>
    let typeName := String.ofList (text.toList.takeWhile (· != '('))
    match TypeName.arrayParts? typeName, TypeName.referenceBase? typeName with
    | some (_, element), _ => do
      let lead := settings.arrayPrefix.getD ""
      return (← typeLettersFrom code settings fuel element).map fun letters =>
        lead ++ stripLead lead letters
    | none, some base => do
      let lead := settings.referencePrefix.getD ""
      return (← typeLettersFrom code settings fuel base).map fun letters =>
        lead ++ stripLead lead letters
    | none, none =>
      match settings.typePrefixes.find? typeName with
      | some letters => .ok (some letters)
      | none => do
        match ← patternLetters? typeName settings.typePrefixes.entries with
        | some letters => return some letters
        | none => return declaredLetters? code settings typeName

def Scope.typeLetters (scope : Scope) (typeName : String) : Except Fault (Option String) :=
  typeLettersFrom scope.code scope.settings (typeName.length + 1) typeName

end PlcLint
