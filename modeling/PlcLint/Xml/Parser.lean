import PlcLint.Text.CharClass
import PlcLint.Text.Lines
import PlcLint.Xml.Doctype.Parser

/-!
XML documents read from text. Character data between tags becomes one text node; references are
resolved, and marked sections of character data are plain text. Namespaces are checked as they are
read.
-/

namespace PlcLint.Xml

/-- The namespaces that are declared around a place, the nearest first. -/
abbrev Scope := List (String × String)

/-- The namespace that every document knows as `xml`. -/
def xmlAddress : String := "http://www.w3.org/XML/1998/namespace"

/-- The namespace of declarations of namespaces. -/
def declarationAddress : String := "http://www.w3.org/2000/xmlns/"

def Scope.address? (scope : Scope) (short : String) : Option String :=
  if short = "xml" then some xmlAddress else (scope.lookup short).filter (· != "")

/-- The start of an element as it is read. -/
structure Tag where
  name : Name
  namespaces : List (String × String) := []
  attributes : List (Name × String) := []

/-- A name whose namespace is not known is taken as a whole. -/
def Name.within (scope : Scope) (name : Name) : Name :=
  if name.short = "" || (scope.address? name.short).isSome then name else { plain := name.text }

namespace Reader

/-- Adds a declaration of a namespace; a second one of a short name is refused. -/
def addNamespace (tag : Tag) (short address : String) : Reader Tag :=
  if (tag.namespaces.lookup short).isSome then malformed
  else return { tag with namespaces := tag.namespaces ++ [(short, address)] }

/-- A declaration of the namespace of names without a short name. -/
def defaultNamespace (tag : Tag) (address : String) : Reader Tag := do
  unless address = "" do
    unless Address.isValid address.toList do complain
    if !Address.isAbsolute address.toList && Address.isValid address.toList then warn
  if address = xmlAddress || address = declarationAddress then
    complain
    return tag
  addNamespace tag "" address

/-- A declaration of a namespace with a short name. -/
def shortNamespace (tag : Tag) (short address : String) : Reader Tag := do
  if short = "xml" then
    unless address = xmlAddress do complain
    return tag
  if short = "xmlns" || address = xmlAddress || address = declarationAddress || address = "" then
    complain
    return tag
  unless Address.isValid address.toList do complain
  addNamespace tag short address

/-- Adds an attribute, which may declare a namespace. -/
def addAttribute (tag : Tag) (name : Name) (value : String) : Reader Tag :=
  if name.short = "" && name.plain = "xmlns" then defaultNamespace tag value
  else if name.short = "xmlns" then shortNamespace tag name.plain value
  else return { tag with attributes := tag.attributes ++ [(name, value)] }

/-- Is this the end of a start tag? -/
def atTagEnd : Reader Bool := do
  let final ← follows ">"
  let empty ← follows "/>"
  return final || empty

/-- The attributes up to the end of a start tag. The number bounds how many there are. -/
def attributes : Nat → Tag → Reader Tag
  | 0, _ => malformed
  | bound + 1, tag => do
    if ← atTagEnd then return tag
    let key ← qualifiedName
    let _ ← skipWhite
    take "="
    let _ ← skipWhite
    let given ← attributeValue
    let kind := ((← attributesOf tag.name.text).lookup key.text).getD .characters
    let value := if kind = .characters then given else joinSpaces given
    if key = { short := "xml", plain := "space" } && value != "default" && value != "preserve" then
      warn
    let tag ← addAttribute tag key value
    if ← atTagEnd then return tag
    white
    attributes bound tag

/-- A declared name of an attribute, with its short name. -/
def splitName (key : String) : Name :=
  match key.toList.takeWhile (· != ':'), key.toList.dropWhile (· != ':') with
  | c :: short, _ :: plain => { short := String.ofList (c :: short), plain := String.ofList plain }
  | _, _ => { plain := key }

/-- Adds an attribute by its default, if it is not given. -/
def addDefault (scope : Scope) (tag : Tag) (key value : String) : Tag :=
  let name := splitName key
  let declare (short : String) : Tag :=
    if (tag.namespaces.lookup short).isSome || scope.address? short = some value then tag
    else { tag with namespaces := tag.namespaces ++ [(short, value)] }
  if name.short = "" && name.plain = "xmlns" then declare ""
  else if name.short = "xmlns" then declare name.plain
  else if (tag.attributes.lookup name).isSome then tag
  else { tag with attributes := tag.attributes ++ [(name, value)] }

def addDefaults (scope : Scope) (tag : Tag) : Reader Tag := do
  return (← get).declarations.foldl (fun tag declaration =>
    match declaration with
    | .attributeOf owner key _ default =>
      match default.value? with
      | some value => if owner = tag.name.text then addDefault scope tag key value else tag
      | none => tag
    | _ => tag) tag

/-- The namespaces of attributes must be known, and no two attributes can have the same name. -/
def checkAttributes (scope : Scope) : List (Name × String) → List Name → Reader Unit
  | [], _ => return
  | (name, _) :: rest, before => do
    let address := if name.short = "" then none else scope.address? name.short
    if name.short != "" && address.isNone then complain
    if before.contains name then malformed
    let same (other : Name) : Bool :=
      other.plain = name.plain && other.short != "" && scope.address? other.short = address
    if address.isSome && before.any same then complain
    checkAttributes scope rest (before ++ [name])

/-- Notes an identifier, which must be new. -/
def noteId (value : String) : Reader Unit := do
  if (← get).ids.contains value then complain
  else modify fun state => { state with ids := value :: state.ids }

/-- Notes the identifiers among the attributes. -/
def noteIds (element : Name) : List (Name × String) → Reader Unit
  | [] => return
  | (name, value) :: rest => do
    if name = { short := "xml", plain := "id" } then
      unless isWord (joinSpaces value).toList do complain
      noteId value
    else if (← attributesOf element.text).lookup name.text = some .id then noteId value
    noteIds element rest

/-- The start of an element behind its opening bracket, up to its end mark, with the namespaces
that are declared inside of it. -/
def startTag (scope : Scope) : Reader (Tag × Scope) := do
  let name ← qualifiedName
  let _ ← skipWhite
  let given ← attributes ((← rest).length + 1) { name := name }
  let tag ← addDefaults scope given
  let inner : Scope := tag.namespaces ++ scope
  checkAttributes inner tag.attributes []
  if name.short != "" && (inner.address? name.short).isNone then complain
  noteIds name tag.attributes
  return (tag, inner)

def tagEnd (name : Name) : Reader Unit := do
  take "</"
  unless (← span isNameChar) = name.text do malformed
  let _ ← skipWhite
  take ">"

/-- Text without markup and references. -/
def plainText : Reader Xml := do
  let value ← span fun c => c != '<' && c != '&'
  let chars := value.toList
  if chars.all isAllowed && (value.splitOn "]]>").length = 1 then return .text value else malformed

/-- Neighbouring texts become one, and empty ones vanish. -/
def joinTexts : List Xml → List Xml
  | [] => []
  | .text value :: rest =>
    match joinTexts rest with
    | .text more :: others => .text (value ++ more) :: others
    | others => if value = "" then others else .text value :: others
  | node :: rest => node :: joinTexts rest

/-- What stands inside an element, up to its end tag, or all of an entity. -/
def content (element : Reader Xml) (expand : String → Reader (List Xml)) : Reader (List Xml) := do
  let pieces ← all piece
  return joinTexts pieces.flatten
where
  piece : Reader (Option (List Xml)) := do
    if (← peek).isNone then return none
    if ← follows "</" then return none
    if ← take? "<!--" then return some [.comment (← comment)]
    if ← take? "<![CDATA[" then return some [.text (← upTo "]]>")]
    if ← take? "<?" then
      let (target, given) ← instruction
      return some [.instruction target given]
    if ← take? "<" then return some [← element]
    if ← take? "&#" then return some [.text (String.ofList [← charByNumber])]
    if ← take? "&" then
      let key ← entityName
      match namedChars.lookup key with
      | some c => return some [.text (String.ofList [c])]
      | none => return some (← expand key)
    return some [← plainText]

/-- How deeply elements can be nested. -/
def elementDepth : Nat := 257

/-- An element behind its opening bracket. -/
def element (expand : Scope → String → Reader (List Xml)) : Nat → Scope → Reader Xml
  | 0, _ => malformed
  | depth + 1, scope => do
    let (tag, inner) ← startTag scope
    let build (children : List Xml) : Xml :=
      .element (tag.name.within inner) tag.namespaces
        (tag.attributes.map fun (name, value) => (name.within inner, value)) children
    if ← take? "/>" then return build []
    take ">"
    let children ← content (element expand depth inner) (expand inner)
    tagEnd tag.name
    return build children

/-- The nodes that a reference to an entity stands for. An entity is read once; what is found
outside of the document stays unread. -/
def expansion : Nat → Scope → String → Reader (List Xml)
  | 0, _, _ => malformed
  | depth + 1, scope, key => do
    if let some nodes := (← get).expansions.lookup key then return nodes
    match ← entity? false key with
    | some (.content _ resolved) =>
      let expand := expansion depth
      let nodes ← inside (Text.unifyLineEnds resolved.toList)
        (content (element expand elementDepth scope) (expand scope))
      modify fun state => { state with expansions := (key, nodes) :: state.expansions }
      return nodes
    | some (.external _) => return []
    | some (.unparsed _ _) => malformed
    | none =>
      undeclared
      return [.reference key]

/-- Comments and instructions outside the root element. -/
def outside : Reader (List Xml) := all do
  let _ ← skipWhite
  if ← take? "<!--" then return some (.comment (← comment))
  if ← take? "<?" then
    let (target, given) ← instruction
    return some (.instruction target given)
  return none

/-- A text in quotes with an equals sign in front. -/
def setting : Reader String := do
  let _ ← skipWhite
  take "="
  let _ ← skipWhite
  quotedText

def version : Reader Unit := do
  match (← setting).toList with
  | c :: '.' :: minor =>
    unless c.isDigit && minor.all Char.isDigit do malformed
    unless c = '1' do malformed
    unless minor = ['0'] do warn
  | _ => malformed

def encodings : List String := ["utf-8", "utf8", "utf-16", "utf16"]

/-- The declaration that may open a document. -/
def opening : Reader Unit := do
  let isOpening := match (← rest).drop 5 with
    | c :: _ => isWhite c
    | [] => false
  unless (← follows "<?xml") && isOpening do return
  take "<?xml"
  white
  take "version"
  version
  if ← take? "?>" then return
  white
  if ← take? "encoding" then
    unless encodings.contains (← setting).toLower do malformed
    if ← take? "?>" then return
    white
  if ← take? "standalone" then
    match ← setting with
    | "yes" => modify fun state => { state with standalone := true }
    | "no" => pure ()
    | _ => malformed
  let _ ← skipWhite
  take "?>"

def document : Reader Document := do
  opening
  let first ← outside
  let typed ← take? "<!DOCTYPE"
  let type ← if typed then some <$> doctype else pure none
  let before ← if typed then outside else pure first
  take "<"
  let root ← element (expansion entityDepth) elementDepth []
  let behind ← outside
  unless (← peek).getD '\x00' = '\x00' do malformed
  if (← get).faulty then malformed
  return { beforeDoctype := if typed then first else [], doctype := type, before := before,
           root := root, behind := behind }

end Reader

/-- The text behind a mark that stands at its start. -/
def behind? (mark : String) (chars : List Char) : Option (List Char) :=
  if mark.toList.isPrefixOf chars then some (chars.drop mark.length) else none

/-- Does the text start with the declaration of an encoding? -/
def startsWithEncoding (chars : List Char) : Bool :=
  let trim (chars : List Char) : List Char := chars.dropWhile Text.isBlank
  let isQuote (c : Char) : Bool := c = '"' || c = '\''
  let declared := do
    let behind ← behind? "encoding" (trim chars)
    let behind ← behind? "=" (trim behind)
    match trim behind with
    | c :: rest => if isQuote c then some (rest.any isQuote) else none
    | [] => none
  chars.head?.any Text.isBlank && declared.getD false

/-- Does the declaration that opens a document name an encoding? Something has to stand in front
of the blanks before it. -/
def declaresEncoding (chars : List Char) : Bool :=
  match behind? "<?xml" chars with
  | some (c :: rest) => c != '>' && search rest
  | _ => false
where
  search : List Char → Bool
    | [] => false
    | c :: rest => startsWithEncoding (c :: rest) || (c != '>' && search rest)

/-- The characters of a text without a mark of byte order, which only texts of 16-bit units can
have. -/
def withoutByteOrder (chars : List Char) : List Char :=
  match chars with
  | c :: rest =>
    if c.toNat = 0xFEFF && chars.all fun c => c.toNat < 0x10000 then rest else c :: rest
  | [] => []

/-- The document that a text holds. The text is given as characters, so it cannot say how they
are encoded. -/
def parse (source : String) : Except Fault Document :=
  let chars := source.toList
  if declaresEncoding chars then .error .xmlEncoding
  else (Reader.document.run { rest := Text.unifyLineEnds (withoutByteOrder chars) }).map Prod.fst

end PlcLint.Xml
