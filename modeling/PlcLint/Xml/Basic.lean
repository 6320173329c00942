/-!
XML documents and their text.
-/

namespace PlcLint

namespace Xml

/-- A name with the short name of its namespace in front, which is empty if there is none. -/
structure Name where
  short : String := ""
  plain : String
  deriving DecidableEq

def Name.text (name : Name) : String :=
  if name.short = "" then name.plain else name.short ++ ":" ++ name.plain

end Xml

inductive Xml where
  | text (value : String)
  | comment (value : String)
  /-- An instruction can have no content, which is not the same as an empty one. -/
  | instruction (target : String) (content : Option String)
  /-- A reference to something that is declared elsewhere, if at all. -/
  | reference (name : String)
  | element (name : Xml.Name) (namespaces : List (String × String))
      (attributes : List (Xml.Name × String)) (children : List Xml)

namespace Xml

instance : Inhabited Xml := ⟨text ""⟩

def children : Xml → List Xml
  | element _ _ _ children => children
  | _ => []

def namespaces : Xml → List (String × String)
  | element _ namespaces _ _ => namespaces
  | _ => []

def isElement : Xml → Bool
  | element _ _ _ _ => true
  | _ => false

def escapeTextChar (c : Char) : List Char :=
  match c with
  | '&' => "&amp;".toList
  | '<' => "&lt;".toList
  | '>' => "&gt;".toList
  | '\r' => "&#13;".toList
  | c => [c]

def escapeAttributeChar (c : Char) : List Char :=
  match c with
  | '"' => "&quot;".toList
  | '\n' => "&#10;".toList
  | '\t' => "&#9;".toList
  | c => escapeTextChar c

def escapeText (value : String) : String := String.ofList (value.toList.flatMap escapeTextChar)

def escapeAttribute (value : String) : String :=
  String.ofList (value.toList.flatMap escapeAttributeChar)

/-- A text in quotes of a kind that it does not hold; nothing else in it is escaped. -/
def quoted (value : String) : String :=
  let chars := value.toList
  if !chars.contains '"' then "\"" ++ value ++ "\""
  else if !chars.contains '\'' then "'" ++ value ++ "'"
  else
    let escape (c : Char) : List Char := if c = '"' then "&quot;".toList else [c]
    "\"" ++ String.ofList (chars.flatMap escape) ++ "\""

/-- The attribute that declares a namespace for a short name, or the namespace for all names
without one. -/
def namespaceText (entry : String × String) : String :=
  (if entry.1 = "" then " xmlns=" else " xmlns:" ++ entry.1 ++ "=") ++ quoted entry.2

def attributeText (entry : Name × String) : String :=
  " " ++ entry.1.text ++ "=\"" ++ escapeAttribute entry.2 ++ "\""

/-- The attributes of a tag, declarations of namespaces first. -/
def attributesText (namespaces : List (String × String)) (attributes : List (Name × String)) :
    String :=
  String.join (namespaces.map namespaceText ++ attributes.map attributeText)

mutual

def render : Xml → String
  | text value => escapeText value
  | comment value => "<!--" ++ value ++ "-->"
  | reference name => "&" ++ name ++ ";"
  | instruction target none => "<?" ++ target ++ "?>"
  | instruction target (some content) => "<?" ++ target ++ " " ++ content ++ "?>"
  | element name namespaces attributes children =>
    let tag := name.text ++ attributesText namespaces attributes
    match renderAll children with
    | "" => "<" ++ tag ++ "/>"
    | inner => "<" ++ tag ++ ">" ++ inner ++ "</" ++ name.text ++ ">"

def renderAll : List Xml → String
  | [] => ""
  | node :: rest => node.render ++ renderAll rest

end

/-- A text in which every character beyond the first 128 is written by its number. -/
def inAscii (text : String) : String :=
  let escape (c : Char) : List Char :=
    if c.toNat < 0x80 then [c] else ("&#" ++ toString c.toNat ++ ";").toList
  String.ofList (text.toList.flatMap escape)

end Xml

end PlcLint
