import PlcLint.Fault
import PlcLint.Xml.Character
import PlcLint.Xml.Doctype

/-!
Reading XML from characters: what is left to read, what has been declared, and the smallest
parts: blanks, names, quoted texts and references.

A text that breaks the grammar is refused at once. Other remarks on it are kept: a document is
refused if the last remark about it is an error, not a warning.
-/

namespace PlcLint.Xml

/-- How far a document has been read. -/
structure Reading where
  rest : List Char
  /-- Is the last remark one about an error? -/
  faulty : Bool := false
  /-- Does the document say that it needs no declarations from outside? -/
  standalone : Bool := false
  /-- Could there be declarations that have not been read? -/
  incomplete : Bool := false
  declarations : List Declaration := []
  /-- What has been read for references to entities. -/
  expansions : List (String × List Xml) := []
  ids : List String := []

abbrev Reader := StateT Reading (Except Fault)

namespace Reader

def malformed {α : Type} : Reader α := throw .xmlMalformed

def warn : Reader Unit := modify fun state => { state with faulty := false }

def complain : Reader Unit := modify fun state => { state with faulty := true }

def rest : Reader (List Char) := return (← get).rest

def moveTo (chars : List Char) : Reader Unit := modify fun state => { state with rest := chars }

def peek : Reader (Option Char) := return (← get).rest.head?

/-- Does such a text follow? -/
def follows (lead : String) : Reader Bool := return lead.toList.isPrefixOf (← get).rest

/-- Skips such a text if it follows. -/
def take? (lead : String) : Reader Bool := do
  let found ← follows lead
  if found then moveTo ((← rest).drop lead.length)
  return found

def take (lead : String) : Reader Unit := do
  unless ← take? lead do malformed

/-- The longest run of such characters. -/
def span (among : Char → Bool) : Reader String := do
  let chars ← rest
  moveTo (chars.dropWhile among)
  return String.ofList (chars.takeWhile among)

/-- Skips blanks. Were there any? -/
def skipWhite : Reader Bool := return (← span isWhite) != ""

def white : Reader Unit := do
  unless ← skipWhite do malformed

/-- Reads one item after the other until there is none. The number bounds how many there are. -/
def repeated {α : Type} (item? : Reader (Option α)) : Nat → Reader (List α)
  | 0 => malformed
  | bound + 1 => do
    match ← item? with
    | some item => return item :: (← repeated item? bound)
    | none => return []

/-- Reads items as long as the text can hold some. -/
def all {α : Type} (item? : Reader (Option α)) : Reader (List α) := do
  repeated item? ((← rest).length + 1)

/-- Reads all of another text. -/
def inside {α : Type} (chars : List Char) (reader : Reader α) : Reader α := do
  let outer ← rest
  moveTo chars
  let result ← reader
  unless (← rest).isEmpty do malformed
  moveTo outer
  return result

/-- The text up to a mark, which is skipped. All its characters must be allowed. -/
def upTo (mark : String) : Reader String := do
  let rec split : List Char → Option (List Char × List Char)
    | [] => none
    | c :: behind =>
      if mark.toList.isPrefixOf (c :: behind) then some ([], (c :: behind).drop mark.length)
      else (split behind).map fun (inner, behind) => (c :: inner, behind)
  match split (← rest) with
  | some (inner, behind) =>
    moveTo behind
    if inner.all isAllowed then return String.ofList inner else malformed
  | none => malformed

/-- A text in quotes. -/
def quotedText : Reader String := do
  if ← take? "\"" then upTo "\""
  else
    take "'"
    upTo "'"

def name? : Reader (Option String) := do
  match ← peek with
  | some c => if isNameStart c then return some (← span isNameChar) else return none
  | none => return none

def name : Reader String := do
  match ← name? with
  | some found => return found
  | none => malformed

/-- A name without a colon. -/
def word? : Reader (Option String) := do
  match ← peek with
  | some c => if isWordStart c then return some (← span isWordChar) else return none
  | none => return none

/-- A token of name characters, which may start with any of them. -/
def token : Reader String := do
  match ← span isNameChar with
  | "" => malformed
  | found => return found

/-- A name that may have the short name of a namespace. A name with other colons is an error, and
is taken as it stands. -/
def qualifiedName : Reader Name := do
  match ← word? with
  | none =>
    unless ← follows ":" do malformed
    complain
    return { plain := ← name }
  | some first =>
    unless ← take? ":" do return { plain := first }
    match ← word? with
    | none =>
      complain
      return { plain := first ++ ":" ++ (← span isNameChar) }
    | some second =>
      unless ← take? ":" do return { short := first, plain := second }
      complain
      return { short := first, plain := second ++ ":" ++ ((← name?).getD "") }

def digitValue (c : Char) : Nat :=
  if c.isDigit then c.toNat - '0'.toNat
  else if 'a' ≤ c ∧ c ≤ 'f' then c.toNat - 'a'.toNat + 10
  else if 'A' ≤ c ∧ c ≤ 'F' then c.toNat - 'A'.toNat + 10
  else 16

def numberOf? (base : Nat) (digits : List Char) : Option Nat :=
  digits.foldlM (fun value c =>
    if digitValue c < base then some (value * base + digitValue c) else none) 0

/-- A character by its number, behind the mark of such a reference. -/
def charByNumber : Reader Char := do
  let base := if ← take? "x" then 16 else 10
  match numberOf? base (← upTo ";").toList with
  | some number =>
    let c := Char.ofNat number
    if number = c.toNat && isAllowed c then return c else malformed
  | none => malformed

/-- The name of an entity, behind the mark of a reference. -/
def entityName : Reader String := do
  let found ← name
  take ";"
  return found

/-- Entities that need no declaration. -/
def namedChars : List (String × Char) :=
  [("amp", '&'), ("lt", '<'), ("gt", '>'), ("quot", '"'), ("apos", '\'')]

/-- The declared entity of a name. -/
def entity? (parameter : Bool) (key : String) : Reader (Option EntityBody) := do
  return (← get).declarations.findSome? fun declaration =>
    match declaration with
    | .entity kind word body => if kind = parameter && word = key then some body else none
    | _ => none

/-- A reference to something that is not declared: refused, unless not all declarations have been
read. -/
def undeclared : Reader Unit := do
  let state ← get
  if state.standalone || !state.incomplete then malformed else complain

/-- How deeply entities can refer to each other. -/
def entityDepth : Nat := 40

/-- The text of an attribute up to a quote, or to the end of what an entity stands for. Blanks are
spaces. -/
def attributeText : (depth : Nat) → Option Char → Reader (List Char)
  | depth, stop => do
    let pieces ← all (piece depth stop)
    if stop.isSome then moveTo ((← rest).drop 1)
    return pieces.flatten
where
  piece : (depth : Nat) → Option Char → Reader (Option (List Char))
    | depth, stop => do
      if ← take? "&#" then
        let c ← charByNumber
        return some [if stop.isNone && isWhite c then ' ' else c]
      if ← take? "&" then
        return some (← entity depth (← entityName))
      match ← peek with
      | none => if stop.isSome then malformed else return none
      | some c =>
        if some c = stop then return none
        else if c = '<' || !isAllowed c then malformed
        else
          moveTo ((← rest).drop 1)
          return some [if isWhite c then ' ' else c]
  entity : (depth : Nat) → String → Reader (List Char)
    | 0, _ => malformed
    | depth + 1, key => do
      if let some c := namedChars.lookup key then return [c]
      match ← entity? false key with
      | some (.content _ resolved) =>
        if resolved.toList.contains '<' then malformed
        inside resolved.toList (attributeText depth none)
      | some _ => malformed
      | none =>
        undeclared
        return []

/-- The value of an attribute, in quotes. -/
def attributeValue : Reader String := do
  if ← take? "\"" then return String.ofList (← attributeText entityDepth (some '"'))
  take "'"
  return String.ofList (← attributeText entityDepth (some '\''))

/-- A comment, behind its opening mark. -/
def comment : Reader String := do
  let inner ← upTo "--"
  take ">"
  return inner

/-- An instruction, behind its opening mark: its target and its content. -/
def instruction : Reader (String × Option String) := do
  let target ← name
  let lead := String.ofList ((target.toList.take 3).map Char.toLower)
  if lead = "xml" then
    if target.length = 3 then malformed
    unless target = "xml-stylesheet" || target = "xml-model" do warn
  if target.toList.contains ':' then complain
  if ← take? "?>" then return (target, none)
  white
  return (target, some (← upTo "?>"))

end Reader

end PlcLint.Xml
