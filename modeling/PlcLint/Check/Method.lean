import PlcLint.Check.Call

/-!
Checks of methods and properties: overrides that only pass on, and values that are returned or
read on the ways through the code.
-/

namespace PlcLint.Check

/-- The argument passes on the variable of this name. -/
def passesOn (name : String) (argument : Argument) : Bool :=
  match argument.value.bind Expr.simpleName? with
  | some value => Text.sameName value name
  | none => false

/-- Arguments under their names. -/
def argumentTable (arguments : List Argument) : Table Argument :=
  Table.ofList (arguments.map fun argument =>
    ((argument.name.map Variable.text).getD "None", argument))

/-- The arguments pass on the input variables, each one under its name or all in order. -/
def passesAllOn (inputs : List Declaration) (arguments : List Argument) : Bool :=
  if arguments.any (·.name.isSome) then
    let named := argumentTable arguments
    inputs.all (fun input => named.contains input.name)
      && named.names.all (fun name => inputs.any (·.name == name))
      && inputs.all fun input => (named.find? input.name).any (passesOn input.name)
  else (inputs.zip arguments).all fun (input, argument) => passesOn input.name argument

def methodNotOnlySuper : Check where
  code := "METH001"
  name := "method_not_only_super"
  doc := "Checks whether a method is not just a single super call"
  target := .method
  run _ subject :=
    match subject with
    | .method method =>
      match method.body with
      | some [.action origin (.call callee arguments)] =>
        if !(Expr.call origin true callee arguments).isSuperCall method.name then noRemarks
        else
          let inputs := ((method.declarationsByBlock.findFolded? "VAR_INPUT").getD {}).values
          if arguments.isEmpty then
            remarks [{
              message := "Method consists of only SUPER^ call, consider removing virtual call"
              violating := some (.node origin) }]
          else
            remarkIf (inputs.length == arguments.length && passesAllOn inputs arguments) {
              message := "Method consists of only SUPER^ call with passed through parameters, consider removing virtual call"
              violating := some (.node origin) }
      | _ => noRemarks
    | _ => noRemarks

def methodHasReturn : Check where
  code := "RET001"
  name := "method_has_return"
  doc := "Check if method has return statement (assignment to method name)"
  target := .method
  run scope subject :=
    match scope.block, subject with
    | some block, .method method =>
      match method.returnType, method.body with
      | some type, some _ =>
        if method.isAbstract || type = "" then noRemarks
        else do
          let assigned ← Logged.ofExcept (method.flow.assignsAlways method.name)
          remarkIf (!assigned) {
            message := "Method " ++ block.name ++ "." ++ method.name
              ++ " does not return a value on all code paths, even though it should (return type "
              ++ type ++ ")" }
      | _, _ => noRemarks
    | _, _ => noRemarks

/-- One remark for each output variable that some way through the method leaves unassigned. -/
def unassignedOutputs (block : FunctionBlock) (method : Routine) :
    List Declaration → Walk Remark
  | [] => {}
  | output :: rest =>
    match method.flow.assignsAlways output.name with
    | .error fault => ⟨[], some fault⟩
    | .ok true => unassignedOutputs block method rest
    | .ok false =>
      Walk.ofList [{
        message := "Method " ++ block.name ++ "." ++ method.name
          ++ " does not assign to output variable " ++ output.name ++ " on all code paths" }]
        ++ unassignedOutputs block method rest

def methodReturnsAllOutVars : Check where
  code := "RET002"
  name := "method_returns_all_out_vars"
  doc := "Check if method assigns to all output variables"
  target := .method
  run scope subject :=
    match scope.block, subject with
    | some block, .method method =>
      if method.isAbstract || method.body.isNone then noRemarks
      else
        return unassignedOutputs block method <| method.declarations.values.filter
          fun declaration =>
            Text.upper declaration.block == "VAR_OUTPUT" && !declaration.isInitialized
    | _, _ => noRemarks

def propertyHasReturn : Check where
  code := "RET101"
  name := "property_has_return"
  doc := "Check if property getter has return statement (assignment to property name)"
  target := .property
  run _ subject :=
    match subject with
    | .property property =>
      match property.getter.returnType, property.getter.body with
      | some type, some _ => do
        let assigned ← Logged.ofExcept (property.getter.flow.assignsAlways property.name)
        remarkIf (!assigned) {
          message := "Property getter " ++ property.getter.name
            ++ " does not return a value on all code paths, even though it should (property type "
            ++ type ++ ")" }
      | _, _ => noRemarks
    | _ => noRemarks

def setterReadsValue : Check where
  code := "PROP001"
  name := "prop_setter_reads_set_value"
  doc := "Check whether the property setter value is actually read."
  target := .property
  run _ subject :=
    match subject with
    | .property property =>
      if property.setter.body.isNone then noRemarks
      else do
        let read ← Logged.ofExcept <|
          (property.setter.flow.subexprs fun _ => false).any fun expr =>
            .ok (expr.simpleName?.any (Text.sameName · property.name))
        remarkIf (!read) {
          message := "Property setter variable '" ++ property.name ++ "' is never read" }
    | _ => noRemarks

/-- One remark for each statement that assigns to the variable. -/
def writes (name : String) (stmts : Walk Stmt) : Walk Remark :=
  stmts.flatMap fun stmt =>
    match stmt.assigns name false with
    | .error fault => ⟨[], some fault⟩
    | .ok false => {}
    | .ok true =>
      Walk.ofList [{
        message := "Property setter variable '" ++ name ++ "' is written to"
        violating := some (.node stmt.origin) }]

def setterValueNotWritten : Check where
  code := "PROP002"
  name := "prop_setter_value_not_written_to"
  doc := "Check whether the property setter value is never written to."
  target := .property
  run _ subject :=
    match subject with
    | .property property =>
      if property.setter.body.isNone then noRemarks
      else return writes property.name property.setter.flow.statements
    | _ => noRemarks

end PlcLint.Check
