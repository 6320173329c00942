import PlcLint.Check.Builtin
import PlcLint.FileTree
import PlcLint.Notice

/-!
Checks that plug-ins bring along. A plug-in is a file, or a directory: with a file for the whole
directory this one is loaded, else all that is below it.
-/

namespace PlcLint

/-- The kinds of objects by the names that plug-ins use for them. -/
def Target.names : List (String × Target) :=
  [("Statement", .statement), ("Expression", .expression), ("Summary", .summary),
    ("Method", .method), ("Call", .call),
    ("IfStatement", .ifStatement), ("CaseStatement", .caseStatement), ("CaseElement", .caseArm),
    ("WhileStatement", .whileLoop), ("RepeatStatement", .repeatLoop), ("ForStatement", .forLoop),
    ("LabeledStatement", .labelledStatement), ("JumpStatement", .jumpStatement),
    ("ExitStatement", .exitStatement), ("ContinueStatement", .continueStatement),
    ("ReturnStatement", .returnStatement), ("AssignmentStatement", .assignment),
    ("SetStatement", .setStatement), ("ResetStatement", .resetStatement),
    ("ReferenceAssignmentStatement", .referenceAssignment), ("NoOpStatement", .noOperation),
    ("FunctionCallStatement", .callStatement), ("ChainedFunctionCallStatement", .chainStatement),
    ("ActionStatement", .actionStatement),
    ("Literal", .literal), ("Constant", .literal), ("Integer", .integer),
    ("BinaryInteger", .binaryInteger), ("OctalInteger", .octalInteger),
    ("HexInteger", .hexInteger), ("BitString", .bitString),
    ("BinaryBitString", .binaryBitString), ("OctalBitString", .octalBitString),
    ("HexBitString", .hexBitString), ("Real", .real), ("Boolean", .boolean), ("String", .string),
    ("Duration", .duration), ("TimeOfDay", .timeOfDay), ("Date", .date), ("DateTime", .dateTime),
    ("Lduration", .longDuration), ("LtimeOfDay", .longTimeOfDay), ("Ldate", .longDate),
    ("LdateTime", .longDateTime), ("DirectVariable", .directVariable), ("Location", .location),
    ("SimpleVariable", .simpleVariable), ("MultiElementVariable", .multiElementVariable),
    ("UnaryOperation", .unaryOperation), ("BinaryOperation", .binaryOperation),
    ("ParenthesizedExpression", .parenthesized), ("BracketedExpression", .bracketed),
    ("FunctionCall", .call), ("ChainedFunctionCall", .chain),
    ("FunctionBlockSummary", .functionBlock), ("DeclarationSummary", .declaration),
    ("MethodSummary", .method), ("PropertySummary", .property),
    ("PropertyGetSetSummary", .accessor), ("FunctionSummary", .function),
    ("DataTypeSummary", .dataType), ("InterfaceSummary", .interface),
    ("GlobalVariableSummary", .globalList), ("StatementList", .statementList)]

/-- The kind of objects by its name. -/
def Target.ofName (name : String) : Target := (names.lookup name).getD .text

/-- Every run of blanks becomes one space. -/
def collapseBlanks : List Char → List Char
  | [] => []
  | c :: rest =>
    if Text.isBlank c then
      if rest.head?.any Text.isBlank then collapseBlanks rest else ' ' :: collapseBlanks rest
    else c :: collapseBlanks rest

def PluginCheck.check (plugin : PluginCheck) : Check :=
  Check.constant plugin.code plugin.name (String.ofList (collapseBlanks plugin.doc.toList))
    (Target.ofName plugin.target) plugin.messages

namespace Registry

/-- Registers the checks of a plug-in one after the other, up to the first that is refused. -/
def addPlugin (registry : Registry) : List PluginCheck → Except Fault Registry
  | [] => .ok registry
  | plugin :: rest =>
    match registry.register plugin.check with
    | (registry, .ok ()) => registry.addPlugin rest
    | (_, .error fault) => .error fault

end Registry

namespace Plugin

/-- Plug-ins are told by the ending of their names. -/
def isPluginName (name : String) : Bool :=
  decide (3 < name.length) && ".py".toList.isSuffixOf name.toList

/-- The files to load for a path; the number bounds the nesting of directories. -/
def filesFrom (files : FileTree) : Nat → String → List String
  | 0, _ => []
  | depth + 1, path =>
    if files.hasDirectory path then
      let whole := Path.below path "__init__.py"
      if files.has whole then [whole]
      else (files.children path).flatMap fun name => filesFrom files depth (Path.below path name)
    else if (files.file? path).isSome && isPluginName (Path.name path) then [path]
    else []

/-- The files to load for a path. -/
def filesOf (files : FileTree) (path : String) : List String :=
  filesFrom files (files.directories.length + 2) (Path.normal path)

/-- Loads one file. -/
def loadFile (files : FileTree) (registry : Registry) (path : String) : Logged Registry := do
  Logged.note .info ("Loading plugin from " ++ path)
  match files.file? path with
  | some (.plugin checks) => Logged.ofExcept (registry.addPlugin checks)
  | some _ => return registry
  | none => throw .isADirectory

/-- Loads plug-ins one after the other. -/
def load (files : FileTree) (registry : Registry) (paths : List String) : Logged Registry :=
  (paths.flatMap (filesOf files)).foldlM (loadFile files) registry

end Plugin

end PlcLint
