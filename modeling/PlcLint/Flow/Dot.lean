import PlcLint.Flow.Build

/-!
A program graph as a drawing in the dot language. The drawing is a list of entries, one for each
node and one for each edge; the entry of an edge comes right before those that its target adds.
Identifiers count up from `n0`, in the order in which nodes are first mentioned.
-/

namespace PlcLint.Flow

/-- Text inside a label: what would be taken for markup is written as an entity. -/
def escapeMarkup (text : String) : String :=
  String.join <| text.toList.map fun c =>
    if c = '&' then "&amp;"
    else if c = '<' then "&lt;"
    else if c = '>' then "&gt;"
    else if c = '"' then "&quot;"
    else if c = '\'' then "&#x27;"
    else c.toString

def lineBreak : String := "<BR  ALIGN=\"LEFT\"/>"

def nodeName (names : List Nat) (number : Nat) : String :=
  "n" ++ toString ((names.idxOf? number).getD 0)

/-- How statements are shown is left to `text`. -/
def nodeMarkup (text : Stmt → String) (node : Node) : String :=
  let stmts := String.intercalate lineBreak (node.stmts.map fun stmt => escapeMarkup (text stmt))
  match node.label with
  | some label => "<B>" ++ escapeMarkup label ++ "</B>" ++ lineBreak ++ lineBreak ++ stmts
  | none => stmts

def nodeLine (text : Stmt → String) (names : List Nat) (number : Nat) (node : Node) : String :=
  "    " ++ nodeName names number ++ " [label=<" ++ nodeMarkup text node ++ lineBreak ++ ">];"

def edgeLine (names : List Nat) (source target : Nat) : String :=
  "    " ++ nodeName names source ++ " -> " ++ nodeName names target ++ ";"

/-- A part of the drawing. -/
inductive DotPart where
  | node (number : Nat)
  | edge (source target : Nat)

/-- The nodes that the entry of a part mentions. -/
def DotPart.mentions : DotPart → List Nat
  | node number => [number]
  | edge source target => [source, target]

namespace Graph

/-- The parts of the drawing in the order of their entries. -/
def dotParts (graph : Graph) : Nat → List DotPart → List Nat → List DotPart
  | 0, _, _ => []
  | _ + 1, [], _ => []
  | fuel + 1, .edge source target :: rest, drawn =>
    .edge source target :: graph.dotParts fuel rest drawn
  | fuel + 1, .node number :: rest, drawn =>
    if drawn.contains number then graph.dotParts fuel rest drawn
    else
      let behind := (graph.next number).flatMap fun target =>
        [DotPart.edge number target, DotPart.node target]
      .node number :: graph.dotParts fuel (behind ++ rest) (number :: drawn)

/-- The entry of a part. -/
def dotLine (graph : Graph) (text : Stmt → String) (names : List Nat) : DotPart → String
  | .node number => nodeLine text names number (graph.node number)
  | .edge source target => edgeLine names source target

/-- The drawing of all that can be reached from the start. -/
def dot (graph : Graph) (text : Stmt → String := Stmt.text) : String :=
  let parts := graph.dotParts (2 * graph.edgeCount + 1) [.node 0] []
  let names := (parts.flatMap DotPart.mentions).foldl insertNew []
  String.intercalate "\n" <|
    ["digraph G \x7b", "    node [fontname = \"courier new\"];"]
      ++ parts.map (graph.dotLine text names) ++ ["\x7d"]

end Graph

end PlcLint.Flow
