import PlcLint.Walk
import PlcLint.Syntax.Stmt

/-!
Program graphs. A node holds statements that run one after the other; a compound statement
owns the node where its head is reached. Edges are kept at both ends, in the order in which
they were added, and each edge once.
-/

namespace PlcLint.Flow

structure Node where
  label : Option String := none
  owner : Option Stmt := none
  stmts : List Stmt := []
  next : List Nat := []
  prev : List Nat := []

instance : Inhabited Node := ⟨{}⟩

structure Graph where
  nodes : Array Node := #[]

/-- Adds a number that the list does not hold yet. -/
def insertNew (numbers : List Nat) (number : Nat) : List Nat :=
  if numbers.contains number then numbers else numbers ++ [number]

namespace Graph

def size (graph : Graph) : Nat := graph.nodes.size

def node (graph : Graph) (number : Nat) : Node := graph.nodes.getD number {}

def next (graph : Graph) (number : Nat) : List Nat := (graph.node number).next

def prev (graph : Graph) (number : Nat) : List Nat := (graph.node number).prev

/-- Adds a node without edges; its number is the old size. -/
def add (graph : Graph) (node : Node) : Graph := ⟨graph.nodes.push node⟩

/-- Adds an edge. -/
def link (graph : Graph) (source target : Nat) : Graph :=
  let forward := graph.nodes.modify source fun node =>
    { node with next := insertNew node.next target }
  ⟨forward.modify target fun node => { node with prev := insertNew node.prev source }⟩

/-- Adds a node behind `source`; its number is the old size. -/
def follow (graph : Graph) (source : Nat) (label : String) (owner : Option Stmt := none) :
    Graph :=
  (graph.add { label := some label, owner := owner }).link source graph.size

/-- Adds a statement at the end of a node. -/
def append (graph : Graph) (number : Nat) (stmt : Stmt) : Graph :=
  ⟨graph.nodes.modify number fun node => { node with stmts := node.stmts ++ [stmt] }⟩

/-- Links the end of a branch to the node where branches join, if the end is reached. -/
def join (graph : Graph) (branch : Option Nat) (target : Nat) : Graph :=
  match branch with
  | some number => graph.link number target
  | none => graph

def edgeCount (graph : Graph) : Nat :=
  graph.nodes.foldl (fun count node => count + node.next.length) 0

/-- Numbers of the nodes on the stack and behind them, in depth-first order. -/
def preorderFrom (graph : Graph) : Nat → List Nat → List Nat → List Nat
  | 0, _, seen => seen
  | _ + 1, [], seen => seen
  | fuel + 1, number :: stack, seen =>
    if seen.contains number then preorderFrom graph fuel stack seen
    else preorderFrom graph fuel (graph.next number ++ stack) (seen ++ [number])

/-- The reachable nodes in depth-first order, successors in the order of their edges. -/
def preorder (graph : Graph) (start : Nat := 0) : List Nat :=
  graph.preorderFrom (graph.edgeCount + 1) [start] []

/-- The statements of a node, its owner first. -/
def stmtsAt (graph : Graph) (number : Nat) : List Stmt :=
  (graph.node number).owner.toList ++ (graph.node number).stmts

/-- The statements of all reachable nodes. -/
def reachableStmts (graph : Graph) : List Stmt := graph.preorder.flatMap graph.stmtsAt

end Graph

end PlcLint.Flow
