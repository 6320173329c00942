import PlcLint.Json.Parser
import PlcLint.Parser
import PlcLint.Reading.Code

/-!
Source code that is written as JSON, and the parser of it: a file is a list of items, an item holds
code.
-/

namespace PlcLint

structure SourceItem where
  name : Option String
  content : Json

namespace Reading

def sourceItem (json : Json) : SourceItem := ⟨stringField? json "item", json⟩

def piece (json : Json) : SourcePiece SourceItem :=
  match json.get? "parts" with
  | some (.array parts) => .composite (parts.map sourceItem)
  | _ => .single (sourceItem json)

/-- The syntax error in place of code, by the text, its place there, and its line and column. -/
def syntaxError (json : Json) : Fault :=
  match json with
  | .array [.string text, place, line, column] =>
    let number (json : Json) : Int := json.int?.getD 0
    match SyntaxError.inText? text (number place) (number line) (number column) with
    | some error => .unexpectedCharacter error
    | none => .noSuchPlace
  | _ => .malformedSource

end Reading

namespace Parser

def json : Parser SourceItem where
  version := "0.3.0"
  load _ text :=
    match Json.parse? text with
    | some (.array found) => .ok (found.map Reading.piece)
    | _ => .error .malformedSource
  parse item :=
    match item.content.get? "syntax_error" with
    | some found => .error (Reading.syntaxError found)
    | none => .ok [⟨item.name, item.content, []⟩]
  summarize found := do
    let parts ← Reading.run (found.mapM fun result => Reading.code result.content)
    return Code.concat parts

end Parser

end PlcLint
