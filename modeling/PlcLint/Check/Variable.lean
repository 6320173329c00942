import PlcLint.Check.Call
import PlcLint.Naming

/-!
Checks of variables: that they exist, that their names follow the convention, and that they are
assigned before they are read.
-/

namespace PlcLint.Check

def validScoping : Check where
  code := "VAR000"
  name := "invalid_scoping"
  doc := "Check if variable can be found in the context. If not, this actually more likely points to an error in the linter itself. Also checks if THIS / SUPER / invalid method returns are used."
  target := .simpleVariable
  run scope subject :=
    match subject with
    | .expr (.var (.simple origin name _)) =>
      tryCatch (do let _ ← scope.varType name; noRemarks) fun fault =>
        match fault.scopingMessage? with
        | some message => remarks [{ message := message, violating := some (.node origin) }]
        | none => throw fault
    | _ => noRemarks

def variableExists : Check where
  code := "VAR001"
  name := "variable_existence_and_capitalization"
  doc := "Validate that variables are capitalized properly (or even exist at all)"
  target := .simpleVariable
  run scope subject :=
    match subject with
    | .expr (.var (.simple origin name _)) => do
      match ← scope.varType name true with
      | some _ => noRemarks
      | none =>
        let message := "Variable " ++ name ++ " cannot be found in the current context"
        remarks [{
          message := notFound message (← scope.suggestion name)
          violating := some (.node origin) }]
    | _ => noRemarks

/-- A hardware address without the signs around it. -/
def bareLocation (location : String) : String :=
  let isSign (c : Char) : Bool := c = '%' || c = '*'
  String.ofList
    (((location.toList.dropWhile isSign).reverse.dropWhile isSign).reverse)

/-- What a name may begin with by the place of its declaration. -/
def placeLetters? (settings : Settings) (declaration : Declaration) : Option (List String) :=
  match declaration.location with
  | some location => some [bareLocation location ++ "_"]
  | none => settings.blockPrefixes.find? declaration.block

def startsWith (text lead : String) : Bool := lead.toList.isPrefixOf text.toList

def namingConvention : Check where
  code := "VAR002"
  name := "declaration_naming_convention"
  doc := "Check if variable declarations adhere to our naming standards"
  target := .declaration
  run scope subject :=
    match subject with
    | .declaration declaration =>
      match placeLetters? scope.settings declaration with
      | none => do
        Logged.warn ("Unsupported var block: " ++ declaration.block ++ " ("
          ++ declaration.name ++ " in " ++ scope.place ++ ")")
        noRemarks
      | some places => do
        let leads ← match ← Logged.ofExcept (scope.typeLetters declaration.type) with
          | some letters => pure (places.map (· ++ letters))
          | none => do
            Logged.warn ("Unsupported type prefix: " ++ declaration.type ++ " ("
              ++ declaration.name ++ " in " ++ scope.place ++ ")")
            pure places
        remarkIf (!leads.any (startsWith declaration.name)) {
          message := "Variable " ++ declaration.name ++ " of type " ++ declaration.type
            ++ " should start with any of " ++ Text.quotedSet leads ++ ", as it is in a "
            ++ declaration.block ++ " block"
          violating := some (.declaration declaration) }
    | _ => noRemarks

/-- The expressions that a statement reads; a query for an interface does not read. -/
def reads (stmt : Stmt) : Walk Expr :=
  stmt.readExprs.flatMap fun expr =>
    Walk.ofList (expr.subexprsWith (·.isCallTo "__QUERYINTERFACE") false)

/-- The remark on a variable that the statement may read too early. -/
def earlyRead (routine : Routine) (stmt : Stmt) (candidates : List String) (expr : Expr) :
    Walk Remark :=
  match expr with
  | .var (.simple origin name _) =>
    if !candidates.any (Text.sameName name) then {}
    else match stmt.assigns name true with
      | .error fault => ⟨[], some fault⟩
      | .ok true => {}
      | .ok false =>
        match routine.flow.assignsBefore stmt name with
        | .error fault => ⟨[], some fault⟩
        | .ok true => {}
        | .ok false =>
          Walk.ofList [{
            message := "Variable " ++ name ++ " may be read before it is assigned to"
            violating := some (.node origin) }]
  | _ => {}

def uninitializedRead : Check where
  code := "VAR100"
  name := "uninitialized_var_read"
  doc := "Check whether uninitialized variables are read before they are written."
  target := .statement
  run scope subject :=
    match scope.routine, subject.stmt? with
    | some routine, some stmt =>
      let candidates := (routine.declarations.entries.filter
        fun entry => !entry.2.isInitialized).map Prod.fst
      if candidates.isEmpty then noRemarks
      else return (reads stmt).flatMap (earlyRead routine stmt candidates)
    | _, _ => noRemarks

end PlcLint.Check
