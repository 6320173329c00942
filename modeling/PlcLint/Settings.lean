import PlcLint.Fault
import PlcLint.Table

/-!
Settings of the linter.
-/

namespace PlcLint

/-- How much a check matters, the most serious first. -/
inductive Level where
  | error
  | warning
  | info
  | fine
  deriving DecidableEq

namespace Level

def all : List Level := [error, warning, info, fine]

def rank : Level → Nat
  | error => 0
  | warning => 1
  | info => 2
  | fine => 3

def name : Level → String
  | error => "ERROR"
  | warning => "WARNING"
  | info => "INFO"
  | fine => "FINE"

def ofName (name : String) : Except Fault Level :=
  match all.find? (·.name == name) with
  | some level => .ok level
  | none => .error .unknownLevelName

def ofNumber (number : Int) : Except Fault Level :=
  match all.find? (fun level => (level.rank : Int) == number) with
  | some level => .ok level
  | none => .error .unknownLevelNumber

end Level

/-- Settings of one check. -/
structure CheckSettings where
  enabled : Bool := true
  level : Level := .error

/-- A method by its name alone, or by its name in one type. -/
inductive MethodKey where
  | anywhere (name : String)
  | inType (type name : String)
  deriving DecidableEq

structure Settings where
  level : Level := .warning
  checks : Table CheckSettings := {}
  builtinSymbols : Table String := {}
  builtinFunctions : List String := []
  blockPrefixes : Table (List String) := {}
  typePrefixes : Table String := {}
  functionBlockPrefix : Option String := none
  interfacePrefix : Option String := none
  enumPrefix : Option String := none
  structPrefix : Option String := none
  referencePrefix : Option String := none
  arrayPrefix : Option String := none
  maxNamelessArgs : Int := 3
  namelessArgFunctions : List String := []
  namelessArgMethods : List MethodKey := []

end PlcLint
