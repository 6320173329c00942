import PlcLint.Check.Basic

/-!
Checks of arithmetic: subtraction that may leave the range of unsigned integers, and division
by what may be zero.
-/

namespace PlcLint.Check

def isUnsigned : Option TypeRef → Bool
  | some (.named name) => TypeName.unsignedIntegers.contains name
  | _ => false

def unsignedUnderflow : Check where
  code := "EXP001"
  name := "unsigned_underflow"
  doc := "Detect possible unsigned underflows in the code. This is a common cause for buffer overruns when (accidentally) done in for loop bounds."
  target := .binaryOperation
  run scope subject :=
    match subject with
    | .expr (.binary origin left op right) =>
      if op != "-" then noRemarks
      else do
        let type ← scope.exprType (.binary origin left op right)
        remarkIf (isUnsigned type) {
          message := "Potential unsigned integer underflow in subtraction expression"
          violating := some (.node origin) }
    | _ => noRemarks

def divisionByZero : Check where
  code := "EXP002"
  name := "division_by_zero"
  doc := "Detect potential divisions by zero in the code."
  target := .binaryOperation
  run _ subject :=
    match subject with
    | .expr (.binary origin _ op right) =>
      remarkIf (op == "/" && !right.isLiteral && !right.isCallTo "SIZEOF") {
        message := "Potential division by zero"
        violating := some (.node origin) }
    | _ => noRemarks

end PlcLint.Check
