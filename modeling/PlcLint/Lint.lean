import PlcLint.Check.Builtin
import PlcLint.Location

/-!
Linting: every object of the code is visited once, in its scope, and every check that looks at
objects of its kind is run on it.
-/

namespace PlcLint

/-- An object and the scope in which it stands. -/
structure Visit where
  scope : Scope
  subject : Subject

namespace Lint

/-- A statement, and the expressions inside the expressions that it reads. -/
def stmtVisits (scope : Scope) (stmt : Stmt) : Walk Visit :=
  Walk.ofList [⟨scope, .stmt stmt⟩]
    ++ stmt.readSubexprs.flatMap fun expr => Walk.ofList [⟨scope, .expr expr⟩]

def bodyVisits (scope : Scope) (source : Flow.Source) : Walk Visit :=
  source.statements.flatMap (stmtVisits scope)

def declarationVisits (scope : Scope) (declarations : Table Declaration) : Walk Visit :=
  Walk.ofList (declarations.values.map fun declaration => ⟨scope, .declaration declaration⟩)

/-- Inside a method or accessor: its declarations and its body. -/
def routineVisits (scope : Scope) (routine : Routine) : Walk Visit :=
  declarationVisits scope routine.declarations ++ bodyVisits scope routine.flow

/-- Enters a routine for a walk; inside another one there is none. -/
def within (entered : Except Fault Scope) (walk : Scope → Walk Visit) : Walk Visit :=
  match entered with
  | .ok scope => walk scope
  | .error fault => ⟨[], some fault⟩

def methodVisits (scope : Scope) (method : Routine) : Walk Visit :=
  within (scope.enterRoutine method) fun inner =>
    Walk.ofList [⟨inner, .method method⟩] ++ routineVisits inner method

def propertyVisits (scope : Scope) (property : Property) : Walk Visit :=
  Walk.ofList [⟨scope, .property property⟩]
    ++ within (scope.enterRoutine property.getter) (routineVisits · property.getter)
    ++ within (scope.enterRoutine property.setter) (routineVisits · property.setter)

def blockVisits (scope : Scope) (block : FunctionBlock) : Walk Visit :=
  within (scope.enterBlock block) fun inner =>
    Walk.ofList [⟨inner, .block block⟩]
      ++ declarationVisits inner block.declarations
      ++ (match block.body with
        | some body => bodyVisits inner (.block body)
        | none => {})
      ++ Walk.concat (block.methods.map (methodVisits inner))
      ++ Walk.concat (block.properties.map (propertyVisits inner))

/-- All visits; an object that is both a statement and an expression comes several times. -/
def visits (code : Code) (settings : Settings) : Walk Visit :=
  Walk.concat (code.blocks.values.map (blockVisits (Scope.outermost code settings)))

end Lint

/-- What a check has found, and where. -/
structure Finding where
  code : String
  message : String
  level : Level
  location : Location

namespace Finding

/-- The place of a remark: in the routine or function block of the scope. -/
def locate (scope : Scope) (remark : Remark) : Location :=
  let (filename, declarationText, bodyText) := match scope.routine, scope.block with
    | some routine, _ => (routine.filename, routine.source, routine.bodySource)
    | none, some block => (block.filename, block.source, block.bodySource)
    | none, none => (none, none, none)
  { file := filename
    block := scope.block.map (·.name)
    routine := scope.routine.map (·.name)
    inFile := (remark.span.map (·.file)).getD {}
    source := if remark.inDeclaration then declarationText else bodyText
    inSource := (remark.span.map (·.container)).getD {} }

def text (finding : Finding) (files : FileTree) : Except Fault String := do
  return "\x1b[31m" ++ finding.level.name ++ ":" ++ finding.code ++ ": " ++ finding.message
    ++ "\x1b[0m\n" ++ (← finding.location.pretty files) ++ "\n\n"

end Finding

/-- The outcome of linting: what is printed, and which of the findings are errors. -/
structure Report where
  printed : List String := []
  errors : List Finding := []

def Report.append (first second : Report) : Report :=
  ⟨first.printed ++ second.printed, first.errors ++ second.errors⟩

def Report.exitCode (report : Report) : Nat := if report.errors.isEmpty then 0 else 1

namespace Lint

/-- The level at which a check runs; `none` if the settings leave it out. -/
def effectiveLevel? (settings : Settings) (code : String) : Option Level :=
  let entry := settings.checks.find? code
  if entry.any fun check => !check.enabled then none
  else
    let level := (entry.map (·.level)).getD .error
    if level.rank > settings.level.rank then none else some level

/-- Reports a finding, unless a comment on its line suppresses it. -/
def reportFinding (files : FileTree) (finding : Finding) : Logged Report := do
  match ← finding.location.errorLine files with
  | some line => if isSuppressed line finding.code then return {}
  | none => pure ()
  let text ← Logged.ofExcept (finding.text files)
  return ⟨[text], if finding.level = .error then [finding] else []⟩

def reportAll (files : FileTree) : List Finding → Logged Report
  | [] => return {}
  | finding :: rest => do
    let first ← reportFinding files finding
    return first.append (← reportAll files rest)

/-- Runs one check on one object. -/
def runCheck (files : FileTree) (visit : Visit) (check : Check) : Logged Report :=
  match effectiveLevel? visit.scope.settings check.code with
  | none => return {}
  | some level => do
    let walk ← check.run visit.scope visit.subject
    let report ← reportAll files <| walk.found.map fun remark =>
      ⟨check.code, remark.message, level, Finding.locate visit.scope remark⟩
    match walk.fault with
    | some fault => throw fault
    | none => return report

def runChecks (files : FileTree) (visit : Visit) : List Check → Logged Report
  | [] => return {}
  | check :: rest => do
    let first ← runCheck files visit check
    return first.append (← runChecks files visit rest)

/-- Checks each visited object that has not been checked before. -/
def checkVisits (registry : Registry) (files : FileTree) :
    List Nat → List Visit → Logged Report
  | _, [] => return {}
  | seen, visit :: rest =>
    match visit.subject.serial? with
    | some serial =>
      if seen.contains serial then checkVisits registry files seen rest
      else do
        let first ← runChecks files visit (registry.checksFor visit.subject)
        return first.append (← checkVisits registry files (serial :: seen) rest)
    | none => do
      let first ← runChecks files visit (registry.checksFor visit.subject)
      return first.append (← checkVisits registry files seen rest)

end Lint

/-- Lints code with the registered checks. -/
def lint (registry : Registry) (settings : Settings) (files : FileTree) (code : Code) :
    Logged Report := do
  let walk := Lint.visits code settings
  let report ← Lint.checkVisits registry files [] walk.found
  if let some fault := walk.fault then throw fault
  if !report.errors.isEmpty then
    Logged.note .error (toString report.errors.length ++ " errors found")
  return report

end PlcLint
