import PlcLint.Flow.Build

/-!
Search for a path on which no statement satisfies a predicate: from the start to a node where
the code ends, or backwards from a statement to a node without predecessor. Every node is taken
at most once, so the number of nodes bounds the search.
-/

namespace PlcLint.Flow

/-- Nodes still to be taken, the next one first, each with the path that led to it, newest node
first. -/
abbrev Pending := List (Nat × List Nat)

/-- Notes a node with a path; a node that is pending keeps its place and takes the new path. -/
def Pending.put (pending : Pending) (number : Nat) (path : List Nat) : Pending :=
  if pending.any (·.1 == number) then
    pending.map fun entry => if entry.1 == number then (number, path) else entry
  else (number, path) :: pending

/-- Notes those of the given nodes that are not taken yet. -/
def Pending.putNew (pending : Pending) (taken numbers path : List Nat) : Pending :=
  numbers.foldl
    (fun pending number =>
      if taken.contains number then pending else Pending.put pending number path)
    pending

/-- The path, newest node first, to a node without edges that passes no node on which `stops`
holds. -/
def openPath (stops : Nat → Except Fault Bool) (edges : Nat → List Nat) :
    Nat → Pending → List Nat → Except Fault (Option (List Nat))
  | 0, _, _ => .ok none
  | _ + 1, [], _ => .ok none
  | fuel + 1, (number, path) :: pending, taken => do
    if ← stops number then openPath stops edges fuel pending (number :: taken)
    else if (edges number).isEmpty then return some (number :: path)
    else
      openPath stops edges fuel
        (Pending.putNew pending (number :: taken) (edges number) (number :: path))
        (number :: taken)

namespace Graph

/-- Whether a statement of the node satisfies the predicate. -/
def satisfies (graph : Graph) (pred : Stmt → Except Fault Bool) (number : Nat) :
    Except Fault Bool :=
  Walk.anyOf pred (graph.stmtsAt number)

/-- Whether a statement of the node that stands before `target` satisfies the predicate. -/
def satisfiesBefore (graph : Graph) (target : Stmt) (pred : Stmt → Except Fault Bool)
    (number : Nat) : Except Fault Bool :=
  Walk.anyOf pred ((graph.stmtsAt number).takeWhile fun stmt => !stmt.same target)

/-- A reachable node that holds the statement. -/
def nodeOf? (graph : Graph) (target : Stmt) : Option Nat :=
  graph.preorder.find? fun number => (graph.stmtsAt number).any (·.same target)

/-- A path from the start to an end of the code on which the predicate holds nowhere. -/
def failingPath (graph : Graph) (pred : Stmt → Except Fault Bool) :
    Except Fault (Option (List Nat)) := do
  let path ← openPath (graph.satisfies pred) graph.next graph.size [(0, [])] []
  return path.map List.reverse

/-- A path from the start to `target` on which the predicate holds nowhere before `target`. -/
def failingPathTo (graph : Graph) (target : Stmt) (pred : Stmt → Except Fault Bool) :
    Except Fault (Option (List Nat)) :=
  match graph.nodeOf? target with
  | none => .ok none
  | some number =>
    openPath (graph.satisfiesBefore target pred) graph.prev graph.size [(number, [])] []

end Graph

namespace Source

/-- The predicate holds somewhere on every way through the code. -/
def onAllPaths (source : Source) (pred : Stmt → Except Fault Bool) : Except Fault Bool := do
  let graph ← source.graph
  return (← graph.failingPath pred).isNone

/-- The predicate holds somewhere before `target` on every way that leads to it. -/
def onAllPathsTo (source : Source) (target : Stmt) (pred : Stmt → Except Fault Bool) :
    Except Fault Bool := do
  let graph ← source.graph
  return (← graph.failingPathTo target pred).isNone

end Source

end PlcLint.Flow
