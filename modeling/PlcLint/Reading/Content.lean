import PlcLint.FileTree
import PlcLint.Reading.Syntax

/-!
What files hold, read from JSON: plug-ins and stored results of parsing.
-/

namespace PlcLint.Reading

def pluginCheck (json : Json) : PluginCheck where
  code := (stringField? json "code").getD ""
  target := (stringField? json "on").getD ""
  name := (stringField? json "name").getD "check"
  doc := (stringField? json "doc").getD ""
  messages := (arrayField json "messages").filterMap Json.string?

/-- The checks that a plug-in declares. -/
def plugin? (json : Json) : Option Content :=
  match json.get? "plugin" with
  | some (.array checks) => some (.plugin (checks.map pluginCheck))
  | _ => none

def storedResult (json : Json) : StoredResult where
  name := stringField? json "item"
  content := (json.get? "content").getD .null
  xml := (arrayField json "xml").filterMap Json.string?

/-- Results of parsing that were stored. -/
def stored? (json : Json) : Option Content :=
  match json with
  | .array results => some (.parsed (results.map storedResult))
  | _ => none

/-- The form in which results of parsing are stored. -/
def storedJson (results : List StoredResult) : Json :=
  .array <| results.map fun result => .object [
    ("item", (result.name.map Json.string).getD .null),
    ("content", result.content),
    ("xml", .array (result.xml.map .string))]

end PlcLint.Reading
