import PlcLint.Xml.Parser

/-!
XML data as it is stored together with results of parsing: an element is written with the text
that follows it, and read back as a document of its own. So the element can be read back only
if nothing but white space follows it. What is stored is ASCII; other characters are written by
their numbers, also where such a number has no meaning.
-/

namespace PlcLint.Xml

/-- A node with the namespaces declared around it, those of the nearest first, and with the
text that follows it. -/
structure Selection where
  node : Xml
  around : List (String × String) := []
  tail : String := ""

/-- Nodes other than text, each with the text that follows it. -/
def withTails : List Xml → List (Xml × String)
  | [] => []
  | text _ :: rest => withTails rest
  | node :: text value :: rest => (node, value) :: withTails rest
  | node :: rest => (node, "") :: withTails rest

/-- The node that a list of places leads to, counted among the nodes that are no text. -/
def select (selection : Selection) : List Int → Except Fault Selection
  | [] => .ok selection
  | place :: rest =>
    match Text.item? (withTails selection.node.children) place with
    | some (node, tail) =>
      select ⟨node, selection.node.namespaces ++ selection.around, tail⟩ rest
    | none => .error .noSuchPlace

/-- The short names that an element uses itself: its own, then those of its attributes. -/
def usedShorts (name : Name) (attributes : List (Name × String)) : List String :=
  name.short :: (attributes.map fun entry => entry.1.short).filter (· != "")

/-- Namespaces that are declared outside are declared on the element itself, first those that it
uses; the nearest declaration of a short name counts. -/
def Selection.closed? (selection : Selection) : Option Xml :=
  match selection.node with
  | element name namespaces attributes children =>
    let add (known : List (String × String)) (entry : String × String) : List (String × String) :=
      if (known.lookup entry.1).isSome then known else known ++ [entry]
    let used := (usedShorts name attributes).filterMap fun short =>
      ((selection.around.lookup short).filter (· != "")).map fun address => (short, address)
    some (element name ((used ++ selection.around).foldl add namespaces) attributes children)
  | _ => none

/-- The text that is stored for an element; other nodes are not stored. -/
def Selection.stored (selection : Selection) : Except Fault String :=
  match selection.closed? with
  | some closed => .ok (inAscii (closed.render ++ escapeText selection.tail))
  | none => .error .xmlNotStored

/-- XML data that is held together with results: an element of a document, or a document. -/
inductive Held where
  | element (selection : Selection)
  | tree (document : Document)

namespace Held

def stored : Held → Except Fault String
  | element selection => selection.stored
  | tree document => .ok (inAscii document.render)

/-- What is read back is a document, also for an element. -/
def ofStored (text : String) : Except Fault Held := return .tree (← parse text)

end Held

end PlcLint.Xml
