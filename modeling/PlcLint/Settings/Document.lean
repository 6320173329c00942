import PlcLint.Settings
import PlcLint.Yaml.Load

/-!
Settings as they stand in a YAML document.
-/

namespace PlcLint

/-- A level is given by its name or its number. -/
def Level.ofYaml (display : Yaml.Display) (value : Yaml) : Except Fault Level :=
  match value with
  | .string name => Level.ofName name
  | other =>
    match other.number? with
    | some number => Level.ofNumber number
    | none => .error (.notALevel (other.shown display))

namespace Settings

/-- Names in increasing order, each once. -/
def setOf (names : List String) : List String :=
  (names.mergeSort fun a b => decide (a ≤ b)).eraseReps

def itemsOf : Yaml → List Yaml
  | .sequence items => items
  | _ => []

def namesOf (value : Yaml) : List String := (itemsOf value).filterMap Yaml.string?

/-- A set of names; a single name may stand for itself. Collections are no members of a set. -/
def nameSet (value : Yaml) : Except Fault (List String) :=
  match value with
  | .string name => .ok [name]
  | .mapping _ => .error .notAKey
  | other => if (itemsOf other).all Yaml.isScalar then .ok (setOf (namesOf other)) else .error .notAKey

/-- The entries of a mapping that are named. -/
def entriesOf : Yaml → List (String × Yaml)
  | .mapping entries =>
    entries.filterMap fun (key, value) => key.string?.map fun name => (name, value)
  | _ => []

def stringTable (value : Yaml) : Table String :=
  Table.ofList ((entriesOf value).filterMap fun (name, value) =>
    value.string?.map fun text => (name, text))

def methodKey? : Yaml → Option MethodKey
  | .string name => some (.anywhere name)
  | .sequence [.string type, .string name] => some (.inType type name)
  | _ => none

/-- One field of the settings of a check. -/
def setCheckField (display : Yaml.Display) (check : CheckSettings) (name : String) (value : Yaml) :
    Except Fault CheckSettings :=
  match name, value with
  | "level", _ => return { check with level := ← Level.ofYaml display value }
  | "enabled", .bool enabled => .ok { check with enabled := enabled }
  | _, _ => .ok check

def checkSettings (display : Yaml.Display) (value : Yaml) : Except Fault CheckSettings :=
  (entriesOf value).foldlM (fun check (name, field) => setCheckField display check name field)
    { enabled := true, level := .error }

/-- One field of a document. -/
def setField (display : Yaml.Display) (settings : Settings) (name : String) (value : Yaml) :
    Except Fault Settings :=
  match name with
  | "level" => return { settings with level := ← Level.ofYaml display value }
  | "checks" => do
    let checks ← (entriesOf value).mapM fun (code, fields) =>
      return (code, ← checkSettings display fields)
    return { settings with checks := Table.ofList checks }
  | "builtin_symbols" => .ok { settings with builtinSymbols := stringTable value }
  | "builtin_functions" => .ok { settings with builtinFunctions := namesOf value }
  | "block_prefixes" => do
    let leads ← (entriesOf value).mapM fun (block, names) => return (block, ← nameSet names)
    return { settings with blockPrefixes := Table.ofList leads }
  | "type_prefixes" => .ok { settings with typePrefixes := stringTable value }
  | "function_block_prefix" => .ok { settings with functionBlockPrefix := value.string? }
  | "interface_prefix" => .ok { settings with interfacePrefix := value.string? }
  | "enum_prefix" => .ok { settings with enumPrefix := value.string? }
  | "struct_prefix" => .ok { settings with structPrefix := value.string? }
  | "reference_prefix" => .ok { settings with referencePrefix := value.string? }
  | "array_prefix" => .ok { settings with arrayPrefix := value.string? }
  | "max_nameless_args" =>
    .ok { settings with maxNamelessArgs := value.number?.getD settings.maxNamelessArgs }
  | "nameless_arg_functions" => .ok { settings with namelessArgFunctions := setOf (namesOf value) }
  | "nameless_arg_methods" =>
    .ok { settings with namelessArgMethods := ((itemsOf value).filterMap methodKey?).eraseDups }
  | _ => .ok settings

/-- The settings of a document, field by field; what it leaves out has its default. -/
def ofYaml (display : Yaml.Display) (document : Yaml) : Except Fault Settings :=
  (entriesOf document).foldlM (fun settings (name, value) => setField display settings name value) {}

/-- The settings in a text. -/
def load (text : String) : Except Fault Settings := do ofYaml .entries (← Yaml.load text)

end Settings

end PlcLint
