import PlcLint.Xml.Basic

/-!
The declaration of a document's type, with the declarations inside of it, and documents.
-/

namespace PlcLint.Xml

/-- Where something outside of the document is found. -/
structure ExternalId where
  publicName : Option String := none
  address : Option String := none
  deriving DecidableEq

/-- How often a part of an element's content occurs. -/
inductive Occurrence where
  | once
  | optional
  | any
  | some
  deriving DecidableEq

def Occurrence.text : Occurrence → String
  | once => ""
  | optional => "?"
  | any => "*"
  | some => "+"

/-- The content that an element may have: names, in sequences or as alternatives. -/
inductive Particle where
  | name (name : String) (occurrence : Occurrence)
  | group (inOrder : Bool) (parts : List Particle) (occurrence : Occurrence)

namespace Particle

mutual

/-- The text of a part inside a group. A group of the same kind that occurs once needs no
parentheses of its own. -/
def inner (inOrder : Bool) : Particle → String
  | .name word occurrence => word ++ occurrence.text
  | .group kind parts occurrence =>
    let body := joined kind parts
    if kind = inOrder && occurrence = .once then body else "(" ++ body ++ ")" ++ occurrence.text

def joined (inOrder : Bool) : List Particle → String
  | [] => ""
  | [part] => part.inner inOrder
  | part :: rest => part.inner inOrder ++ (if inOrder then " , " else " | ") ++ joined inOrder rest

end

def text : Particle → String
  | .name word occurrence => "(" ++ word ++ ")" ++ occurrence.text
  | .group kind parts occurrence => "(" ++ joined kind parts ++ ")" ++ occurrence.text

end Particle

inductive ContentModel where
  | empty
  | any
  | particle (particle : Particle)

def ContentModel.text : ContentModel → String
  | empty => "EMPTY"
  | any => "ANY"
  | .particle part => part.text

inductive AttributeKind where
  | characters
  | id
  /-- A kind known by its keyword. -/
  | keyword (word : String)
  | oneOf (names : List String)
  | format (names : List String)
  deriving DecidableEq

def namesText (names : List String) : String := "(" ++ String.intercalate " | " names ++ ")"

def AttributeKind.text : AttributeKind → String
  | characters => "CDATA"
  | id => "ID"
  | keyword word => word
  | oneOf names => namesText names
  | format names => "NOTATION " ++ namesText names

inductive AttributeDefault where
  | required
  | implied
  | fixed (value : String)
  | value (value : String)
  deriving DecidableEq

def AttributeDefault.value? : AttributeDefault → Option String
  | required | implied => none
  | fixed given | value given => some given

def AttributeDefault.text : AttributeDefault → String
  | required => " #REQUIRED"
  | implied => " #IMPLIED"
  | fixed given => " #FIXED " ++ quoted given
  | value given => " " ++ quoted given

/-- What a reference to an entity stands for. -/
inductive EntityBody where
  /-- A text, as it is written and with its characters by number resolved. -/
  | content (written : String) (resolved : String)
  | external (id : ExternalId)
  /-- Data that are not XML, and their format. -/
  | unparsed (id : ExternalId) (format : Option String)
  deriving DecidableEq

inductive Declaration where
  | element (name : String) (content : ContentModel)
  | attributeOf (element name : String) (kind : AttributeKind) (default : AttributeDefault)
  | entity (parameter : Bool) (name : String) (body : EntityBody)
  | format (name : String) (id : ExternalId)
  | comment (value : String)
  | instruction (target : String) (content : Option String)

def ExternalId.text (id : ExternalId) : String :=
  match id.publicName, id.address with
  | some name, some address => " PUBLIC " ++ quoted name ++ " " ++ quoted address
  | some name, none => " PUBLIC " ++ quoted name
  | none, some address => " SYSTEM " ++ quoted address
  | none, none => ""

def EntityBody.text : EntityBody → String
  | content written _ => " " ++ quoted written
  | external id => id.text
  | unparsed id (some format) => id.text ++ " NDATA " ++ format
  | unparsed id none => id.text

namespace Declaration

def text : Declaration → String
  | element name content => "<!ELEMENT " ++ name ++ " " ++ content.text ++ ">\n"
  | attributeOf owner name kind default =>
    "<!ATTLIST " ++ owner ++ " " ++ name ++ " " ++ kind.text ++ default.text ++ ">\n"
  | entity parameter name body =>
    "<!ENTITY " ++ (if parameter then "% " else "") ++ name ++ body.text ++ ">\n"
  | format name id => "<!NOTATION " ++ name ++ id.text ++ " >\n"
  | comment value => (Xml.comment value).render
  | instruction target content => (Xml.instruction target content).render

def isFormat : Declaration → Bool
  | format _ _ => true
  | _ => false

/-- Comments and instructions declare nothing. -/
def isProper : Declaration → Bool
  | comment _ | instruction _ _ => false
  | _ => true

end Declaration

structure Doctype where
  name : String
  id : ExternalId := {}
  declarations : List Declaration := []

namespace Doctype

/-- The identifiers behind the name; empty ones are left out. -/
def idText (doctype : Doctype) : String :=
  let given (value : Option String) : Option String := value.filter (· != "")
  let address (value : String) : String :=
    if value.toList.contains '"' then "'" ++ value ++ "'" else "\"" ++ value ++ "\""
  match given doctype.id.publicName, given doctype.id.address with
  | some name, some value => " PUBLIC \"" ++ name ++ "\" " ++ address value
  | some name, none => " PUBLIC \"" ++ name ++ "\""
  | none, some value => " SYSTEM " ++ address value
  | none, none => ""

/-- The declarations of data formats come first. -/
def render (doctype : Doctype) : String :=
  let opening := "<!DOCTYPE " ++ doctype.name ++ doctype.idText
  if doctype.declarations.any Declaration.isProper then
    let (formats, others) := doctype.declarations.partition Declaration.isFormat
    opening ++ " [\n" ++ String.join ((formats ++ others).map Declaration.text) ++ "]>\n"
  else opening ++ ">\n"

end Doctype

/-- A document: its root element, and the comments and instructions before and behind it. -/
structure Document where
  beforeDoctype : List Xml := []
  doctype : Option Doctype := none
  before : List Xml := []
  root : Xml
  behind : List Xml := []

namespace Document

/-- The name of the root element without its namespace. -/
def rootName (document : Document) : String :=
  match document.root with
  | .element name _ _ _ => name.plain
  | _ => ""

/-- The type of a document is written only if it is the name of the root element. -/
def render (document : Document) : String :=
  let doctype := match document.doctype with
    | some doctype => if doctype.name = document.rootName then doctype.render else ""
    | none => ""
  renderAll document.beforeDoctype ++ doctype ++ renderAll document.before
    ++ document.root.render ++ renderAll document.behind

end Document

end PlcLint.Xml
