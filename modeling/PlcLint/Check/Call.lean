import PlcLint.Check.Basic

/-!
Checks of calls: named arguments, callees that exist, and calls of the base block through
`SUPER`.
-/

namespace PlcLint.Check

/-- The name of the called method, where the callee ends in one. -/
inductive MethodName where
  | none
  | plain (name : String)
  | compound (text : String)

def MethodName.text : MethodName → String
  | none => "None"
  | plain name => name
  | compound text => text

def selectedName : Variable → MethodName
  | .simple _ name _ => .plain name
  | .path _ base _ => .compound base.text

/-- The method that a callee names and the type it belongs to. -/
def calledMethod (scope : Scope) : Variable → Logged (MethodName × Option TypeRef)
  | .simple _ name _ =>
    return (.plain name, scope.block.map fun block => .named block.name)
  | .path _ base elements =>
    match elements.getLast? with
    | none => throw .emptyCalleePath
    | some (.field selected _) =>
      return (selectedName selected, ← scope.pathType base.text elements.dropLast)
    | some (.subscripts _ _) => return (.none, none)

/-- The method is one that may be called without naming its arguments: by its type and name, by
the callee as written, or by its name alone. -/
def isExempt (settings : Settings) (callee : Variable) (method : MethodName)
    (type : Option TypeRef) : Except Fault Bool := do
  let known := settings.namelessArgMethods
  match type, method with
  | some (.declared _), _ | some _, .compound _ => throw .notAKey
  | some (.named type), .plain name => if known.contains (.inType type name) then return true
  | _, _ => pure ()
  if known.contains (.anywhere callee.text) then return true
  match method with
  | .compound _ => throw .notAKey
  | .plain name => return known.contains (.anywhere name)
  | .none => return false

def isNameless : Argument → Bool
  | .input _ none _ => true
  | _ => false

def namedArguments : Check where
  code := "ARG001"
  name := "function_call_named_args"
  doc := "Checks whether a function call with at least a configured amount of parameters uses named arguments, as to prevent mistakes in (compatible) argument order."
  target := .callStatement
  run scope subject :=
    match subject.expr? with
    | some (.call _ _ callee arguments) =>
      if (arguments.length : Int) ≤ scope.settings.maxNamelessArgs then noRemarks
      else if scope.settings.namelessArgFunctions.contains callee.text then noRemarks
      else do
        let (method, type) ← calledMethod scope callee
        if ← Logged.ofExcept (isExempt scope.settings callee method type) then return {}
        let owner := match type with
          | some type => " (function block method " ++ type.text ++ ":" ++ method.text ++ ")"
          | none => ""
        let message := "Unnamed parameter in function call to " ++ callee.text ++ owner
        remarks <| (arguments.filter isNameless).map fun argument =>
          { message := message, violating := some (.node argument.origin) }
    | _ => noRemarks

/-- A name that cannot be found, with the spelling that may be meant. -/
def notFound (message : String) (suggestion : Option String) : String :=
  match suggestion with
  | some name => message ++ ", did you mean '" ++ name ++ "'?"
  | none => message

/-- The type of a name, spelt exactly; `none` stands for a fault of scoping. -/
def strictType (scope : Scope) (name : String) : Logged (Option (Option TypeRef)) :=
  tryCatch (return some (← scope.varType name true)) fun fault =>
    if fault.scopingMessage?.isSome then return none else throw fault

def functionExists : Check where
  code := "FUNC001"
  name := "function_exists"
  doc := "Check if all called functions exist, and have the right capitalization."
  target := .callStatement
  run scope subject :=
    match subject.expr? with
    | some (.call _ _ (.simple origin name _) _) =>
      let builtin := scope.settings.builtinFunctions
      if builtin.contains name then noRemarks
      else do
        match ← strictType scope name with
        | some none =>
          let suggestion ←
            if builtin.contains (Text.upper name) then pure (some (Text.upper name))
            else scope.suggestion name
          remarks [{
            message := notFound ("Function " ++ name ++ " not found") suggestion
            violating := some (.node origin) }]
        | _ => noRemarks
    | _ => noRemarks

/-- What a call through `SUPER` in a routine is wrong about. -/
def superCallRemarks (routine : String) (origin : Origin) (elements : List Element) :
    Walk Remark :=
  let unknown : Remark :=
    { message := "Unknown access into SUPER^ for method call", violating := some (.node origin) }
  let many := if elements.length > 1 then [unknown] else []
  match elements with
  | [] => ⟨many, some .emptySuperPath⟩
  | .subscripts _ _ :: _ => ⟨many ++ [unknown], some .subscriptOfSuper⟩
  | .field selected _ :: _ =>
    if Text.sameName selected.nameText routine then Walk.ofList many
    else Walk.ofList <| many ++ [{
      message := "Invalid SUPER^ call from " ++ routine ++ ": " ++ selected.nameText
        ++ ", you should call the method directly."
      violating := some (.node origin) }]

def superCallOnlyCurrentMethod : Check where
  code := "FUNC100"
  name := "super_call_only_current_method"
  doc := "Check if a SUPER^.<method>() call ONLY happens from <method> itself."
  target := .callStatement
  run scope subject :=
    match scope.routine, subject.expr? with
    | some routine, some (.call origin _ (.path _ base elements) _) =>
      if isSuper base.nameText then
        return superCallRemarks routine.name origin elements
      else noRemarks
    | _, _ => noRemarks

end PlcLint.Check

namespace PlcLint

/-- A call of the method of this name through `SUPER`. -/
def Expr.isSuperCall (method : String) : Expr → Bool
  | .call _ _ (.path _ base [.field selected _]) _ =>
    isSuper base.nameText && Text.sameName selected.nameText method
  | _ => false

/-- A call of the body of the base block. -/
def Expr.isSuperBodyCall : Expr → Bool
  | .call _ _ (.simple _ name _) _ => isSuper name
  | _ => false

namespace Check

def superCallWhenPossible : Check where
  code := "FUNC101"
  name := "super_call_when_possible"
  doc := "Checks that a SUPER^.<method>() call is always present in a method if possible, though it may occur on some optional code path."
  target := .method
  run scope subject :=
    match scope.block, subject with
    | some block, .method method => do
      let inherited ← Scope.firstBase (fun base =>
        (base.methods.find? fun other => Text.sameName other.name method.name).map
          fun other => (base, other)) (scope.bases block)
      match inherited with
      | none => noRemarks
      | some (base, overridden) =>
        if overridden.isAbstract then noRemarks
        else
          let calls ← Logged.ofExcept <|
            (method.flow.subexprs fun _ => false).any fun expr =>
              .ok (expr.isSuperCall method.name)
          remarkIf (!calls) {
            message := "Missing super call in method " ++ method.name ++ " of function block "
              ++ block.name ++ " (first SUPER with method is " ++ base.name ++ ")" }
    | _, _ => noRemarks

def superCallInFunctionBlock : Check where
  code := "FUNC102"
  name := "super_call_in_function_block"
  doc := "Check whether SUPER^() is called from a function block body (with extensions)"
  target := .functionBlock
  run scope subject :=
    match subject with
    | .block block =>
      match block.body with
      | none => noRemarks
      | some body =>
        if block.isAbstract then noRemarks
        else do
          let concrete ← Scope.firstBase
            (fun base => if base.isAbstract then none else some base) (scope.bases block)
          match concrete with
          | none => noRemarks
          | some base =>
            let calls ← Logged.ofExcept <|
              ((Flow.Source.block body).subexprs fun _ => false).any fun expr =>
                .ok expr.isSuperBodyCall
            remarkIf (!calls) {
              message := "Missing super call in function block " ++ block.name
                ++ " body (is non-abstract and extends non-abstract function block "
                ++ base.name ++ ")" }
    | _ => noRemarks

end Check

end PlcLint
