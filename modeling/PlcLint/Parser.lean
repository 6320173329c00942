import PlcLint.Code
import PlcLint.FileTree
import PlcLint.Xml.Stored

/-!
Parsers of source code. What a parser makes of a file is left open; this is about what goes in and
comes out, and how its results are stored.
-/

namespace PlcLint

/-- A result of parsing: plain data, and the XML data that it was made from. -/
structure ParseResult where
  name : Option String
  content : Json
  xml : List Xml.Held := []

namespace ParseResult

def stored (result : ParseResult) : Except Fault StoredResult :=
  return ⟨result.name, result.content, ← result.xml.mapM Xml.Held.stored⟩

def ofStored (stored : StoredResult) : Except Fault ParseResult :=
  return ⟨stored.name, stored.content, ← stored.xml.mapM Xml.Held.ofStored⟩

end ParseResult

/-- What a file holds: a piece of source code, or several put together. -/
inductive SourcePiece (Item : Type) where
  | single (item : Item)
  | composite (parts : List Item)

def SourcePiece.parts {Item : Type} : SourcePiece Item → List Item
  | single item => [item]
  | composite parts => parts

structure Parser (Item : Type) where
  version : String
  /-- The pieces of source code in a file, by its path and its text. -/
  load : String → String → Except Fault (List (SourcePiece Item))
  parse : Item → Except Fault (List ParseResult)
  /-- The code that results make up together. -/
  summarize : List ParseResult → Except Fault Code

end PlcLint
