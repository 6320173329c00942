import PlcLint.Code
import PlcLint.Settings
import PlcLint.Text.Quoted

/-!
The scope in which a piece of code stands: its function block, its method or accessor, and the
layers of variables around it. Names are looked up in it, strictly or without regard to case.
-/

namespace PlcLint

inductive Entered where
  | block
  | routine
  deriving DecidableEq

structure Scope where
  code : Code
  settings : Settings
  block : Option FunctionBlock := none
  routine : Option Routine := none
  /-- Variables that are visible everywhere, and those of the routine above them. -/
  layers : List (Table Declaration)
  /-- What has been entered and not left, the innermost first. -/
  entered : List Entered := []

namespace Scope

/-- The scope outside of every function block, with the global variables. -/
def outermost (code : Code) (settings : Settings) : Scope where
  code := code
  settings := settings
  layers := [code.globals.values.foldl Table.update {}]

def enterBlock (scope : Scope) (block : FunctionBlock) : Except Fault Scope :=
  if scope.block.isSome then .error .alreadyEntered
  else .ok { scope with block := some block, entered := .block :: scope.entered }

def enterRoutine (scope : Scope) (routine : Routine) : Except Fault Scope :=
  if scope.routine.isSome then .error .alreadyEntered
  else .ok { scope with
    routine := some routine
    layers := scope.layers ++ [routine.declarations]
    entered := .routine :: scope.entered }

/-- Leaves what was entered last. -/
def leave (scope : Scope) : Except Fault Scope :=
  match scope.entered with
  | [] => .error .nothingEntered
  | .block :: rest => .ok { scope with block := none, entered := rest }
  | .routine :: rest =>
    .ok { scope with routine := none, layers := scope.layers.dropLast, entered := rest }

/-- The name of the place, as messages give it. -/
def place (scope : Scope) : String :=
  match scope.block with
  | none => "<global>"
  | some block =>
    match scope.routine with
    | none => block.name
    | some routine => block.name ++ "." ++ routine.name

/-- The entry of a table under a name: exactly this name, or ignoring case. -/
def seek {α : Type} (strict : Bool) (table : Table α) (name : String) : Option (String × α) :=
  if strict then (table.find? name).map fun value => (name, value) else table.findNamed? name

def agree (strict : Bool) (a b : String) : Bool := if strict then a == b else Text.sameName a b

/-- The type of a property, as its getter declares it. -/
def propertyType (property : Property) : Except Fault String :=
  match property.getter.returnType with
  | some type => .ok type
  | none => .error .untypedProperty

/-- The members of a function block, inherited ones included: variables, then properties, then
methods. -/
def members (scope : Scope) (block : FunctionBlock) : Except Fault (Table TypeRef) := do
  let complete := scope.code.complete block
  let properties ← complete.properties.mapM fun property =>
    return (property.name, TypeRef.named (← propertyType property))
  let declared := complete.declarations.map fun declaration => TypeRef.named declaration.type
  let methods := complete.methods.map fun method => (method.name, TypeRef.complex)
  return (declared.update ⟨properties⟩).update ⟨methods⟩

/-- A base of which `SUPER` is said in a routine of this name: it has, or inherits, a method or
property of that name. -/
def isSuperBase (scope : Scope) (strict : Bool) (routine base : String) : Bool :=
  match seek strict scope.code.blocks base with
  | none => false
  | some (_, block) =>
    let complete := scope.code.complete block
    (complete.methods.map (·.name) ++ complete.properties.map (·.name)).any (agree strict · routine)

/-- The type of `SUPER`. -/
def superType (scope : Scope) (strict : Bool) : Logged (Option TypeRef) :=
  match scope.block with
  | none => throw .superOutsideBlock
  | some block =>
    match scope.routine, block.bases with
    | none, none => throw .superOfBodyWithoutBase
    | none, some [] => throw .emptyBaseList
    | none, some (base :: _) => return some (.named base)
    | some _, none => throw .superOfMethodWithoutBase
    | some routine, some bases =>
      match bases.find? (scope.isSuperBase strict routine.name) with
      | some base => return some (.named base)
      | none => do
        Logged.warn ("Failed to find type of SUPER in " ++ scope.place)
        return none

/-- A name and its type, if there is such an entry. -/
abbrev Found := Option String × Option TypeRef

/-- What is no plain variable: data types, function blocks, conversions and functions. -/
def complexName? (scope : Scope) (strict : Bool) (name : String) : Option String :=
  ((seek strict scope.code.dataTypes name).map Prod.fst).orElse fun _ =>
  ((seek strict scope.code.blocks name).map Prod.fst).orElse fun _ =>
  ((seek strict TypeName.conversions name).map Prod.fst).orElse fun _ =>
  ((seek strict TypeName.builtinFunctions name).map Prod.fst).orElse fun _ =>
  (seek strict scope.code.functions name).map Prod.fst

/-- The member of the current function block under a name. -/
def member? (scope : Scope) (strict : Bool) (name : String) :
    Except Fault (Option (String × TypeRef)) :=
  match scope.block with
  | none => .ok none
  | some block => return seek strict (← scope.members block) name

/-- The name of the current routine denotes the variable in which it returns its value. -/
def returnVariable? (scope : Scope) (strict : Bool) (name : String) :
    Except Fault (Option Found) :=
  match scope.routine with
  | none => .ok none
  | some routine =>
    if agree strict routine.name name then
      match routine.kind, routine.returnType with
      | .method, none => .error (.noReturnType routine.name)
      | .method, some type => .ok (some (some routine.name, some (.named type)))
      | .accessor, type => .ok (some (some routine.name, type.map .declared))
    else .ok none

/-- The variable of the innermost layer that has one of this name. -/
def layered? (scope : Scope) (strict : Bool) (name : String) : Option (String × Declaration) :=
  scope.layers.reverse.findSome? fun layer => seek strict layer name

/-- The name as it is written where it is declared, and its type. -/
def lookup (scope : Scope) (strict : Bool) (name : String) : Logged Found :=
  match ["THIS", "THIS^"].find? (agree strict name), ["SUPER", "SUPER^"].find? (agree strict name) with
  | some this, _ =>
    match scope.block with
    | none => throw .thisOutsideBlock
    | some block => return (some this, some (.named block.name))
  | none, some super => return (some super, ← scope.superType strict)
  | none, none =>
    match seek strict scope.settings.builtinSymbols name with
    | some (key, type) => return (some key, some (.named type))
    | none =>
      match scope.complexName? strict name with
      | some key => return (some key, some .complex)
      | none => do
        if let some (key, type) ← Logged.ofExcept (scope.member? strict name) then
          return (some key, some type)
        if let some found ← Logged.ofExcept (scope.returnVariable? strict name) then
          return found
        match scope.layered? strict name with
        | some (key, declaration) => return (some key, some (.named declaration.type))
        | none => return (none, none)

/-- The type of a name. -/
def varType (scope : Scope) (name : String) (strict : Bool := false) : Logged (Option TypeRef) :=
  return (← scope.lookup strict name).2

/-- The spelling of a name that may be written in the wrong case. -/
def suggestion (scope : Scope) (name : String) : Logged (Option String) :=
  return (← scope.lookup false name).1

/-- A step of the walk through the bases of a function block. -/
inductive BaseStep where
  | found (block : FunctionBlock)
  | missing (base : String) (block : FunctionBlock)

/-- All bases of a function block, depth first. The number bounds the length of a chain of
bases. -/
def basesFrom (blocks : Table FunctionBlock) : Nat → FunctionBlock → List BaseStep
  | 0, _ => []
  | depth + 1, block =>
    (block.bases.getD []).flatMap fun base =>
      match blocks.findFolded? base with
      | some found => .found found :: basesFrom blocks depth found
      | none => [.missing base block]

def bases (scope : Scope) (block : FunctionBlock) : List BaseStep :=
  basesFrom scope.code.blocks (scope.code.blocks.entries.length + 1) block

/-- The first base for which `choose` gives something. A base that is not known is noted if the
walk comes to it. -/
def firstBase {α : Type} (choose : FunctionBlock → Option α) : List BaseStep → Logged (Option α)
  | [] => return none
  | .found block :: rest =>
    match choose block with
    | some chosen => return some chosen
    | none => firstBase choose rest
  | .missing base block :: rest => do
    Logged.warn ("Failed to get function block extension '" ++ base ++ "' for " ++ block.name)
    firstBase choose rest

/-- All bases that are known. -/
def knownBases : List BaseStep → Logged (List FunctionBlock)
  | [] => return []
  | .found block :: rest => return block :: (← knownBases rest)
  | .missing base block :: rest => do
    Logged.warn ("Failed to get function block extension '" ++ base ++ "' for " ++ block.name)
    knownBases rest

/-- A table of types as text. -/
def shownTypes (types : Table TypeRef) : String :=
  let entry : String × TypeRef → String := fun (name, type) =>
    Text.quoted name ++ ": " ++
      match type with
      | .named text => Text.quoted text
      | other => other.text
  "\x7b" ++ commaSeparated (types.entries.map entry) ++ "\x7d"

/-- The scope as text: the place, the members of the function block, and the layers. -/
def shown (scope : Scope) : Except Fault String :=
  match scope.block with
  | none => .error .noCurrentBlock
  | some block => do
    let place := match scope.routine with
      | some routine => block.name ++ "/" ++ routine.name
      | none => block.name
    let members ← scope.members block
    let layers := scope.layers.map fun layer =>
      shownTypes (layer.map fun declaration => .named declaration.type)
    return "Ctx<" ++ place ++ "\n " ++ shownTypes members ++ "\n [" ++ commaSeparated layers
      ++ "]\n>"

end Scope

end PlcLint
