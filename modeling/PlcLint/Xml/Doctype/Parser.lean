import PlcLint.Xml.Address
import PlcLint.Xml.Reader

/-!
The declaration of a document's type, read from text. Of two declarations of one thing the first
counts.
-/

namespace PlcLint.Xml

/-- Spaces at the ends are dropped, and those inside are joined to one. -/
def joinSpaces (value : String) : String :=
  String.intercalate " " ((value.splitOn " ").filter (· != ""))

/-- The parts of alternatives that can occur any number of times occur once each. -/
def Particle.onceEach : Particle → Particle
  | .name word .optional | .name word .any => .name word .once
  | .name word occurrence => .name word occurrence
  | .group kind parts occurrence =>
    .group kind parts (if occurrence = .optional || occurrence = .any then .once else occurrence)

namespace Particle

def occurrence : Particle → Occurrence
  | .name _ occurrence | .group _ _ occurrence => occurrence

def withOccurrence (occurrence : Occurrence) : Particle → Particle
  | .name word _ => .name word occurrence
  | .group kind parts _ => .group kind parts occurrence

def canBeMissing (part : Particle) : Bool :=
  part.occurrence = .optional || part.occurrence = .any

mutual

/-- Alternatives of a part, and of alternatives at their end, occur once each. -/
def flatOnce : Particle → Particle
  | .group false parts occurrence => .group false (flatOnceAll parts) occurrence
  | other => other

def flatOnceAll : List Particle → List Particle
  | [] => []
  | [part] => [(flatOnce part).onceEach]
  | part :: rest => part.onceEach :: flatOnceAll rest

end

mutual

/-- Can one of the alternatives that `flatOnce` looks at be missing? -/
def anyCanBeMissing : Particle → Bool
  | .group false parts _ => anyOfCanBeMissing parts
  | _ => false

def anyOfCanBeMissing : List Particle → Bool
  | [] => false
  | [part] => part.canBeMissing || anyCanBeMissing part
  | part :: rest => part.canBeMissing || anyOfCanBeMissing rest

end

/-- A group in parentheses that occurs so often. -/
def occurring (part : Particle) : Occurrence → Particle
  | .once => part
  | .optional =>
    part.withOccurrence (match part.occurrence with
      | .some | .any => .any
      | _ => .optional)
  | .any => (part.withOccurrence .any).flatOnce
  | .some =>
    if anyCanBeMissing part then (part.withOccurrence .any).flatOnce
    else part.withOccurrence (if part.canBeMissing then .any else .some)

end Particle

namespace Reader

/-- Where something is found: an address, or a public name and an address, which may be left out
if the identifier is not strict. -/
def externalId (strict : Bool) : Reader ExternalId := do
  if ← take? "SYSTEM" then
    white
    return { address := some (← quotedText) }
  unless ← take? "PUBLIC" do return {}
  white
  let publicName ← quotedText
  unless publicName.toList.all isPublicChar do malformed
  if strict then
    white
    return { publicName := some publicName, address := some (← quotedText) }
  let blank ← skipWhite
  let quoted := (← follows "\"") || (← follows "'")
  if blank && quoted then
    return { publicName := some publicName, address := some (← quotedText) }
  return { publicName := some publicName }

def declare (declaration : Declaration) : Reader Unit :=
  modify fun state => { state with declarations := state.declarations ++ [declaration] }

def occurrence : Reader Occurrence := do
  if ← take? "?" then return .optional
  if ← take? "*" then return .any
  if ← take? "+" then return .some
  return .once

/-- How deeply groups can be nested. -/
def groupDepth : Nat := 128

/-- A group behind its opening parenthesis. -/
def group : Nat → Reader Particle
  | 0 => malformed
  | depth + 1 => do
    let part : Reader Particle := do
      let _ ← skipWhite
      let found ← if ← take? "(" then group depth else do
        let word ← name
        pure (Particle.name word (← occurrence))
      let _ ← skipWhite
      return found
    let first ← part
    let separator := if ← follows "," then "," else "|"
    let more ← all do
      if ← take? separator then return some (← part) else return none
    take ")"
    let inner := if more.isEmpty then first else .group (separator = ",") (first :: more) .once
    return inner.occurring (← occurrence)

/-- Text mixed with elements, behind its opening parenthesis and the mark for text. -/
def mixed : Reader Particle := do
  let _ ← skipWhite
  let names ← all do
    unless ← take? "|" do return none
    let _ ← skipWhite
    let word ← name
    let _ ← skipWhite
    return some (Particle.name word .once)
  take ")"
  let pcdata := Particle.name "#PCDATA" .once
  if names.isEmpty then
    if ← take? "*" then return pcdata.withOccurrence .any
    return pcdata
  take "*"
  return .group false (pcdata :: names) .any

def contentModel : Reader ContentModel := do
  if ← take? "EMPTY" then return .empty
  if ← take? "ANY" then return .any
  take "("
  let _ ← skipWhite
  if ← take? "#PCDATA" then return .particle (← mixed)
  return .particle (← group groupDepth)

def elementDeclaration : Reader Unit := do
  white
  let word ← name
  white
  let content ← contentModel
  let _ ← skipWhite
  take ">"
  let known := (← get).declarations.any fun declaration =>
    match declaration with
    | .element other _ => other = word
    | _ => false
  if known then complain else declare (.element word content)

/-- Alternatives in parentheses; a repeated one is an error. -/
def alternatives (item : Reader String) : Reader (List String) := do
  take "("
  let part : Reader String := do
    let _ ← skipWhite
    let found ← item
    let _ ← skipWhite
    return found
  let first ← part
  let more ← all do
    if ← take? "|" then return some (← part) else return none
  take ")"
  let items := (first :: more).eraseDups
  if items.length < more.length + 1 then complain
  return items

def kindWords : List String :=
  ["IDREFS", "IDREF", "ENTITY", "ENTITIES", "NMTOKENS", "NMTOKEN"]

def attributeKind : Reader AttributeKind := do
  if ← take? "CDATA" then return .characters
  for word in kindWords do
    if ← take? word then return .keyword word
  if ← take? "ID" then return .id
  if ← take? "NOTATION" then
    white
    return .format (← alternatives name)
  return .oneOf (← alternatives token)

def attributeDefault : Reader AttributeDefault := do
  if ← take? "#REQUIRED" then return .required
  if ← take? "#IMPLIED" then return .implied
  if ← take? "#FIXED" then
    white
    return .fixed (← attributeValue)
  return .value (← attributeValue)

end Reader

def isName (chars : List Char) : Bool :=
  match chars with
  | c :: rest => isNameStart c && rest.all isNameChar
  | [] => false

def isToken (chars : List Char) : Bool := !chars.isEmpty && chars.all isNameChar

/-- Can an attribute of this kind have such a value? -/
def AttributeKind.admits (kind : AttributeKind) (value : String) : Bool :=
  let parts := (value.splitOn " ").map String.toList
  match kind with
  | .characters => true
  | .id | .format _ | .keyword "IDREF" | .keyword "ENTITY" => isName value.toList
  | .keyword "IDREFS" | .keyword "ENTITIES" => parts.all isName
  | .keyword "NMTOKEN" => isToken value.toList
  | .oneOf _ | .keyword _ => parts.all isToken

def AttributeDefault.map (change : String → String) : AttributeDefault → AttributeDefault
  | .fixed given => .fixed (change given)
  | .value given => .value (change given)
  | other => other

namespace Reader

/-- The declared attributes of an element, with their kinds. -/
def attributesOf (element : String) : Reader (List (String × AttributeKind)) := do
  return (← get).declarations.filterMap fun declaration =>
    match declaration with
    | .attributeOf owner key kind _ => if owner = element then some (key, kind) else none
    | _ => none

def declareAttribute (element key : String) (kind : AttributeKind)
    (default : AttributeDefault) : Reader Unit := do
  if key = "xml:id" && kind != .id then complain
  if default.value?.any fun value => !kind.admits value then complain
  let known ← attributesOf element
  if (known.lookup key).isSome then warn
  else
    if kind = .id && known.any fun entry => entry.2 = .id then complain
    declare (.attributeOf element key kind default)

def attributeDeclarations : Reader Unit := do
  white
  let element ← name
  let _ ← skipWhite
  let _ ← all do
    if ← take? ">" then return none
    let key ← name
    white
    let kind ← attributeKind
    white
    let given ← attributeDefault
    let default := if kind = .characters then given else given.map joinSpaces
    unless ← follows ">" do white
    declareAttribute element key kind default
    return some ()

/-- The text that an entity stands for: characters by number are resolved at once, and other
references only where the entity is used. References to parameter entities are resolved too; the
document itself must not have such ones. -/
def entityContent : (depth : Nat) → Bool → Reader (List Char)
  | depth, nested => do
    let pieces ← all (piece depth nested)
    return pieces.flatten
where
  piece : (depth : Nat) → Bool → Reader (Option (List Char))
    | depth, nested => do
      if ← take? "&#" then return some [← charByNumber]
      if ← take? "&" then
        return some (("&" ++ (← entityName) ++ ";").toList)
      if ← take? "%" then
        let key ← entityName
        unless nested do malformed
        return some (← parameter depth key)
      match ← rest with
      | c :: behind =>
        moveTo behind
        return some [c]
      | [] => return none
  parameter : (depth : Nat) → String → Reader (List Char)
    | 0, _ => malformed
    | depth + 1, key => do
      match ← entity? true key with
      | some (.content _ resolved) => inside resolved.toList (entityContent depth true)
      | _ =>
        warn
        return []

/-- Is this a way to declare an entity that needs no declaration? -/
def isNamedChar (c : Char) (resolved : String) : Bool :=
  let number := toString c.toNat
  let hexNumber := String.ofList (Nat.toDigits 16 c.toNat)
  (resolved = String.ofList [c] && ">'\"".toList.contains c)
    || resolved = "&#" ++ number ++ ";"
    || resolved.toLower = "&#x" ++ hexNumber ++ ";"

/-- Declares an entity, unless it is known. -/
def declareEntity (parameter : Bool) (key : String) (body : EntityBody) : Reader Unit := do
  if (← entity? parameter key).isSome then return
  let allowed := match namedChars.lookup key, body with
    | none, _ => true
    | some c, .content _ resolved => isNamedChar c resolved
    | some _, _ => false
  if parameter || allowed then declare (.entity parameter key body)

def entityDeclaration (nested : Bool) : Reader Unit := do
  white
  let parameter ← take? "%"
  if parameter then white
  let key ← name
  if key.toList.contains ':' then complain
  white
  let literal := (← follows "\"") || (← follows "'")
  if literal then
    let written ← quotedText
    let resolved ← inside written.toList (entityContent entityDepth nested)
    declareEntity parameter key (.content written (String.ofList resolved))
    let _ ← skipWhite
    take ">"
  else
    let id ← externalId true
    let address := (id.address.getD "").toList
    if id.address.isNone then malformed
    let valid := Address.isValid address
    if valid && Address.hasFragment address then malformed
    unless valid do complain
    if parameter then
      if valid then declareEntity parameter key (.external id)
    else
      unless ← follows ">" do white
      if ← take? "NDATA" then
        white
        declareEntity parameter key (.unparsed id (← name?))
      else declareEntity parameter key (.external id)
    let _ ← skipWhite
    take ">"

def formatDeclaration : Reader Unit := do
  white
  let key ← name
  if key.toList.contains ':' then complain
  white
  let id ← externalId false
  let _ ← skipWhite
  take ">"
  if id.publicName.isNone && id.address.isNone then malformed
  let known := (← get).declarations.any fun declaration =>
    match declaration with
    | .format other _ => other = key
    | _ => false
  unless known do declare (.format key id)

/-- One declaration, comment or instruction. -/
def declaration (nested : Bool) : Reader Unit := do
  if ← take? "<!ELEMENT" then elementDeclaration
  else if ← take? "<!ENTITY" then entityDeclaration nested
  else if ← take? "<!ATTLIST" then attributeDeclarations
  else if ← take? "<!NOTATION" then formatDeclaration
  else if ← take? "<!--" then declare (.comment (← comment))
  else
    take "<?"
    let (target, content) ← instruction
    declare (.instruction target content)

/-- Declarations up to the end of the text, or up to a bracket in the document itself. A
reference to a parameter entity stands for further declarations. -/
def allDeclarations : (depth : Nat) → Bool → Reader Unit
  | depth, nested => do
    let _ ← all (item depth nested)
where
  item : (depth : Nat) → Bool → Reader (Option Unit)
    | depth, nested => do
      let _ ← skipWhite
      if ← take? "%" then
        parameter depth (← entityName)
        return some ()
      match ← peek with
      | none => if nested then return none else malformed
      | some c =>
        if c = ']' && !nested then return none
        declaration nested
        return some ()
  parameter : (depth : Nat) → String → Reader Unit
    | 0, _ => malformed
    | depth + 1, key => do
      match ← entity? true key with
      | some (.content _ resolved) =>
        modify fun state => { state with incomplete := true }
        inside resolved.toList (allDeclarations depth true)
      | some _ => warn
      | none =>
        undeclared
        warn
        modify fun state => { state with incomplete := true }

/-- The type of a document, behind the mark that opens its declaration. -/
def doctype : Reader Doctype := do
  let _ ← skipWhite
  let name ← name
  let _ ← skipWhite
  let id ← externalId true
  if id.address.isSome then modify fun state => { state with incomplete := true }
  let _ ← skipWhite
  if ← take? "[" then
    allDeclarations entityDepth false
    take "]"
    let _ ← skipWhite
  take ">"
  return { name := name, id := id, declarations := (← get).declarations }

end Reader

end PlcLint.Xml
