import PlcLint.Assignment
import PlcLint.TypeName

/-!
What code declares: variables, methods and properties, function blocks, data types and functions.
-/

namespace PlcLint

structure Declaration where
  name : String
  type : String
  block : String
  init : Option String := none
  location : Option String := none
  span : Option Span := none

/-- Input variables come with a value, instance variables keep theirs; any other variable is
initialised by its declaration or not at all. -/
def Declaration.isInitialized (declaration : Declaration) : Bool :=
  Text.sameName declaration.block "VAR_INPUT" || Text.sameName declaration.block "VAR_INST"
    || declaration.init.isSome

/-- Bits of access specifiers; the third one says that an implementation is still to come. -/
def isAbstractAccess (access : Option Int) : Bool := decide (4 ≤ (access.getD 0) % 8)

inductive RoutineKind where
  | method
  | accessor
  deriving DecidableEq

/-- A method, or the getter or setter of a property. -/
structure Routine where
  name : String
  kind : RoutineKind
  returnType : Option String := none
  access : Option Int := none
  declarations : Table Declaration := {}
  body : Option (List Stmt) := none
  bodySource : Option String := none
  source : Option String := none
  filename : Option String := none

namespace Routine

def isAbstract (routine : Routine) : Bool := isAbstractAccess routine.access

def flow (routine : Routine) : Flow.Source := .routine routine.name routine.body

/-- The declarations in blocks of one kind, grouped by the exact name of the kind. -/
def declarationsByBlock (routine : Routine) : Table (Table Declaration) :=
  routine.declarations.entries.foldl (fun groups (name, declaration) =>
    let group := (groups.find? declaration.block).getD {}
    groups.put declaration.block (group.put name declaration)) {}

end Routine

structure Property where
  name : String
  filename : Option String := none
  getter : Routine
  setter : Routine

structure FunctionBlock where
  name : String
  access : Option Int := none
  bases : Option (List String) := none
  declarations : Table Declaration := {}
  methods : List Routine := []
  properties : List Property := []
  body : Option (List Stmt) := none
  bodySource : Option String := none
  source : Option String := none
  filename : Option String := none

def FunctionBlock.isAbstract (block : FunctionBlock) : Bool := isAbstractAccess block.access

inductive DataKind where
  | enumeration (values : List String)
  | record
  | other
  deriving DecidableEq

structure DataType where
  name : String
  kind : DataKind
  declarations : Table Declaration := {}
  base : Option String := none

structure Function where
  name : String
  returnType : Option String := none

end PlcLint
