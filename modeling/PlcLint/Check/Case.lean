import PlcLint.Check.Basic

/-!
Check that a `CASE` statement without `ELSE` has an arm for each value of an enumeration.
-/

namespace PlcLint.Check

/-- The values that are left when those that the matches name are taken out. -/
def unmatched (enumeration : String) : List String → List Match → Logged (List String)
  | left, [] => return left
  | left, .value expr :: rest => do
    Logged.warn ("Non-enumerated value in enum case match: " ++ expr.text
      ++ " (<class 'blark.transform." ++ expr.kind ++ "'>)")
    unmatched enumeration left rest
  | left, .enumerated name :: rest =>
    match left.find? fun value => Text.sameName name (enumeration ++ "." ++ value) with
    | some value => unmatched enumeration (left.erase value) rest
    | none => do
      Logged.warn
        ("Found unknown enumerated value for enum " ++ enumeration ++ ": " ++ name)
      unmatched enumeration left rest

/-- The data type that an inferred type names. -/
def dataTypeOf (scope : Scope) : Option TypeRef → Except Fault (Option DataType)
  | none => .ok none
  | some (.declared _) => .error .notAKey
  | some type => .ok (scope.code.dataTypes.findFolded? type.text)

def allCases : Check where
  code := "STAT001"
  name := "case_statement_cases"
  doc := "Check whether all enum values are present in a case statement (or an else statement must be present)"
  target := .caseStatement
  run scope subject :=
    match subject with
    | .stmt (.select origin value arms none) => do
      let type ← scope.exprType value
      match ← Logged.ofExcept (dataTypeOf scope type) with
      | some { name := name, kind := .enumeration values, .. } =>
        let left ← unmatched name values.eraseDups (arms.flatMap Arm.values)
        remarkIf (!left.isEmpty) {
          message := "Case statement without else clause is missing cases for enum type " ++ name
            ++ " (missing values " ++ Text.quotedSet left ++ ")"
          violating := some (.node origin) }
      | _ => noRemarks
    | _ => noRemarks

end PlcLint.Check
