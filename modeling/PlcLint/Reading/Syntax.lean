import PlcLint.Code
import PlcLint.Json.Basic

/-!
Syntax trees read from JSON. Every node takes the next serial number, so the nodes of one
reading are told apart by their numbers.
-/

namespace PlcLint.Reading

/-- Reading with the next serial number as state. -/
abbrev Read := StateT Nat (Except Fault)

variable {α : Type}

def malformed : Read α := throw .malformedSource

def ofOption : Option α → Read α
  | some value => pure value
  | none => malformed

def field (json : Json) (name : String) : Read Json := ofOption (json.get? name)

def stringField (json : Json) (name : String) : Read String :=
  ofOption ((json.get? name).bind Json.string?)

def stringField? (json : Json) (name : String) : Option String :=
  (json.get? name).bind Json.string?

def flag (json : Json) (name : String) : Bool :=
  ((json.get? name).bind Json.bool?).getD false

def arrayField (json : Json) (name : String) : List Json :=
  ((json.get? name).bind Json.array?).getD []

def span? (json : Json) : Option Span :=
  match (json.given? "meta").bind Json.array? with
  | some [a, b, c, d, e, f] =>
    some ⟨⟨a.int?, b.int?, c.int?⟩, ⟨d.int?, e.int?, f.int?⟩⟩
  | _ => none

def origin (json : Json) : Read Origin := do
  let serial ← get
  set (serial + 1)
  return ⟨serial, (json.get? "id").bind Json.int?, span? json⟩

/-- A date and a time, parted by the first space. -/
def dateTime (text : String) : Literal :=
  let chars := text.toList
  .dateTime (String.ofList (chars.takeWhile (· != ' ')))
    (String.ofList ((chars.dropWhile (· != ' ')).drop 1))

def literal? (kind value : String) (typeName : Option String) : Option Literal :=
  match kind with
  | "Integer" => some (.integer .decimal value typeName)
  | "BinaryInteger" => some (.integer .binary value typeName)
  | "OctalInteger" => some (.integer .octal value typeName)
  | "HexInteger" => some (.integer .hexadecimal value typeName)
  | "BitString" => some (.bits .decimal value typeName)
  | "BinaryBitString" => some (.bits .binary value typeName)
  | "OctalBitString" => some (.bits .octal value typeName)
  | "HexBitString" => some (.bits .hexadecimal value typeName)
  | "Real" => some (.real value typeName)
  | "Boolean" => some (.boolean value)
  | "String" => some (.string value)
  | "Duration" => some (.duration value)
  | "TimeOfDay" => some (.timeOfDay value)
  | "Date" => some (.date value)
  | "DateTime" => some (dateTime value)
  | "Lduration" => some (.longDuration value)
  | "LtimeOfDay" => some (.longTimeOfDay value)
  | "Ldate" => some (.longDate value)
  | "LdateTime" => some (.longDateTime value)
  | _ => none

mutual

def variableNode : Nat → Json → Read Variable
  | 0, _ => malformed
  | fuel + 1, json => do
    let origin ← origin json
    match ← stringField json "k" with
    | "Var" => return .simple origin (← stringField json "name") (flag json "deref")
    | "Multi" =>
      let base ← variableNode fuel (← field json "name")
      let elements ← (arrayField json "elements").mapM (element fuel)
      return .path origin base elements
    | _ => malformed

def element : Nat → Json → Read Element
  | 0, _ => malformed
  | fuel + 1, json => do
    match ← stringField json "k" with
    | "Field" => return .field (← variableNode fuel (← field json "field")) (flag json "deref")
    | "Sub" =>
      let indices ← (arrayField json "subs").mapM (expr fuel)
      return .subscripts indices (flag json "deref")
    | _ => malformed

def expr : Nat → Json → Read Expr
  | 0, _ => malformed
  | fuel + 1, json => do
    match ← stringField json "k" with
    | "Var" | "Multi" => return .var (← variableNode (fuel + 1) json)
    | "Unary" =>
      let origin ← origin json
      return .unary origin (← stringField json "op") (← expr fuel (← field json "expr"))
    | "Binary" =>
      let origin ← origin json
      let left ← expr fuel (← field json "left")
      let right ← expr fuel (← field json "right")
      return .binary origin left (← stringField json "op") right
    | "Paren" => return .paren (← origin json) (← expr fuel (← field json "expr"))
    | "Bracket" => return .bracket (← origin json) (← expr fuel (← field json "expr"))
    | "Call" => call fuel false json
    | "CallStat" => call fuel true json
    | "Chain" =>
      let origin ← origin json
      return .chain origin (← (arrayField json "calls").mapM (expr fuel))
    | "DirectVariable" => return .direct (← origin json) false (← stringField json "value")
    | "Location" => return .direct (← origin json) true (← stringField json "value")
    | kind =>
      let origin ← origin json
      let value ← stringField json "value"
      return .literal origin (← ofOption (literal? kind value (stringField? json "type_name")))

def call : Nat → Bool → Json → Read Expr
  | 0, _, _ => malformed
  | fuel + 1, asStatement, json => do
    let origin ← origin json
    let callee ← variableNode fuel (← field json "name")
    let arguments ← (arrayField json "params").mapM (argument fuel)
    return .call origin asStatement callee arguments

def argument : Nat → Json → Read Argument
  | 0, _ => malformed
  | fuel + 1, json => do
    let origin ← origin json
    let name ← (json.given? "name").mapM (variableNode fuel)
    let value ← (json.given? "value").mapM (expr fuel)
    match ← stringField json "k" with
    | "In" => return .input origin name value
    | "Out" => return .output origin name value (flag json "inverted")
    | _ => malformed

end

/-- Readings nest two deep for each level of the value: a call is read as such and then as a
call with its callee. -/
def fuelFor (json : Json) : Nat := 2 * json.depth + 2

def exprOf (json : Json) : Read Expr := expr (fuelFor json) json

def matchOf (json : Json) : Read Match := do
  match ← stringField json "k" with
  | "Enum" => return .enumerated (← stringField json "name")
  | _ => return .value (← exprOf json)

def exprField (json : Json) (name : String) : Read Expr := do exprOf (← field json name)

def loopHead (json : Json) : String → Read LoopHead
  | "While" => return .whileDo (← exprField json "cond")
  | "Repeat" => return .repeatUntil (← exprField json "cond")
  | _ => do
    let control ← exprField json "control"
    let first ← exprField json "from"
    let last ← exprField json "to"
    return .forTo control first last (← (json.given? "step").mapM exprOf)

def actionOf (json : Json) : String → Read Action
  | "Assign" => do
    let targets ← (arrayField json "vars").mapM exprOf
    return .assign targets (← exprField json "expr")
  | "Set" => return .set (← exprField json "var") (← exprField json "expr")
  | "Reset" => return .reset (← exprField json "var") (← exprField json "expr")
  | "RefAssign" => return .bind (← exprField json "var") (← exprField json "expr")
  | "NoOp" => return .mention (← exprField json "var")
  | "ChainStat" => return .chain (← (arrayField json "calls").mapM exprOf)
  | _ => malformed

mutual

def stmt : Nat → Json → Read Stmt
  | 0, _ => malformed
  | fuel + 1, json => do
    match ← stringField json "k" with
    | "CallStat" => ofOption (← exprOf json).asStmt?
    | kind =>
      let origin ← origin json
      match kind with
      | "If" =>
        let condition ← exprField json "cond"
        let body ← block fuel ((json.get? "then").getD .null)
        let elseIfs ← (arrayField json "elsifs").mapM (elseIf fuel)
        return .ifThen origin condition body elseIfs (← (json.get? "else").mapM (block fuel))
      | "Case" =>
        let subject ← exprField json "expr"
        let arms ← (arrayField json "cases").mapM (arm fuel)
        return .select origin subject arms (← (json.get? "else").mapM (block fuel))
      | "While" | "Repeat" | "For" =>
        let head ← loopHead json kind
        return .loop origin head (← block fuel ((json.get? "body").getD .null))
      | "Label" =>
        return .label origin (← stringField json "label")
          (← (json.given? "stat").mapM (stmt fuel))
      | "Jump" => return .jump origin (← stringField json "label")
      | "Exit" => return .exitStmt origin
      | "Continue" => return .continueStmt origin
      | "Return" => return .returnStmt origin
      | "Action" => return .foreign origin (← stringField json "name")
      | _ => return .action origin (← actionOf json kind)

def block : Nat → Json → Read Block
  | 0, _ => malformed
  | fuel + 1, json =>
    match json with
    | .array items => return .given (← items.mapM (stmt fuel))
    | _ => return .missing

def elseIf : Nat → Json → Read ElseIf
  | 0, _ => malformed
  | fuel + 1, json => do
    let condition ← exprField json "cond"
    return .mk condition (← block fuel ((json.get? "then").getD .null))

def arm : Nat → Json → Read Arm
  | 0, _ => malformed
  | fuel + 1, json => do
    let values ← (arrayField json "matches").mapM matchOf
    return .mk values (← block fuel ((json.get? "body").getD .null))

end

def stmtOf (json : Json) : Read Stmt := stmt (fuelFor json) json

/-- The statements of a body, if there is one. -/
def bodyOf (json : Option Json) : Read (Option (List Stmt)) :=
  match json with
  | some (.array items) => return some (← items.mapM stmtOf)
  | _ => return none

end PlcLint.Reading
