import PlcLint.Check.Case
import PlcLint.Check.Expression
import PlcLint.Check.Method
import PlcLint.Check.Registry
import PlcLint.Check.Variable

/-!
The checks that are always registered.
-/

namespace PlcLint

namespace Check

def builtin : List Check :=
  [namedArguments,
    unsignedUnderflow, divisionByZero,
    functionExists, superCallOnlyCurrentMethod, superCallWhenPossible, superCallInFunctionBlock,
    methodNotOnlySuper,
    setterReadsValue, setterValueNotWritten,
    methodHasReturn, methodReturnsAllOutVars, propertyHasReturn,
    allCases,
    validScoping, variableExists, namingConvention, uninitializedRead]

/-- A check that has the same messages for every object of its kind. -/
def constant (code name doc : String) (target : Target) (messages : List String) : Check where
  code := code
  name := name
  doc := doc
  target := target
  run _ subject :=
    remarks <| messages.map fun message =>
      { message := message, violating := subject.violating? }

end Check

/-- The registry with the checks that are always there. -/
def Registry.builtin : Registry := Registry.registerAll {} Check.builtin

end PlcLint
