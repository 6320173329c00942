import PlcLint.Flow.Graph

/-!
The program graph of a body. Code behind `RETURN`, `EXIT` or `CONTINUE` in the same block is
left out; a statement under a label is taken as a whole and not entered.
-/

namespace PlcLint.Flow

/-- Where `EXIT` and `CONTINUE` lead. -/
structure LoopTargets where
  onExit : Option Nat := none
  onContinue : Option Nat := none

/-- A graph under construction and the node at which the code reached so far ends, if that end
can be reached. -/
abbrev Front := Graph × Option Nat

mutual

/-- Adds a statement to the code that ends at the node `here`. -/
def addStmt (targets : LoopTargets) (graph : Graph) (here : Nat) (stmt : Stmt) :
    Except Fault Front :=
  match stmt with
  | .action _ _ => .ok (graph.append here stmt, some here)
  | .exitStmt _ =>
    match targets.onExit with
    | none => .error .exitOutsideLoop
    | some target => .ok ((graph.append here stmt).link here target, none)
  | .continueStmt _ =>
    match targets.onContinue with
    | none => .error .continueOutsideLoop
    | some target => .ok ((graph.append here stmt).link here target, none)
  | .returnStmt _ => .ok (graph.append here stmt, none)
  | .jump _ _ => .error .jump
  | .foreign _ _ => .error .foreignStatement
  | .label _ label inner =>
    let number := graph.size
    let graph := graph.follow here label (some stmt)
    .ok (inner.toList.foldl (fun graph inner => graph.append number inner) graph, some number)
  | .ifThen _ condition body elseIfs otherwise => do
    let final := graph.size
    let graph := graph.add { label := some "if_end" }
    let graph ← addBranch targets (graph.follow here ("if " ++ condition.text) (some stmt))
      graph.size final body
    let graph ← addElseIfs targets graph here final elseIfs
    let graph ← match otherwise with
      | some body => addBranch targets (graph.follow here "else") graph.size final body
      | none => .ok ((graph.follow here "_else").link graph.size final)
    .ok (graph, some final)
  | .select _ subject arms otherwise => do
    let head := graph.size
    let graph := graph.follow here ("CASE " ++ subject.text) (some stmt)
    let final := graph.size
    let graph := graph.add { label := some "case_end" }
    let graph ← addArms targets graph stmt head final arms
    let graph ← match otherwise with
      | some body => addBranch targets (graph.follow head "else") graph.size final body
      | none => .ok graph
    .ok (graph, some final)
  | .loop _ _ body => do
    let head := graph.size
    let graph := graph.follow here "loop" (some stmt)
    let first := graph.size
    let graph := graph.follow head "loop_start"
    let final := graph.size
    let graph := graph.add { label := some "loop_end" }
    let graph ← addBranch ⟨some final, some first⟩ graph first final body
    .ok ((graph.follow head "_else").link graph.size final, some final)

/-- Adds a block behind the node `here` and links its end, if reached, to `final`. -/
def addBranch (targets : LoopTargets) (graph : Graph) (here final : Nat) (block : Block) :
    Except Fault Graph :=
  match block with
  | .missing => .ok (graph.link here final)
  | .given stmts => do
    let (graph, reached) ← addStmts targets graph (some here) stmts
    .ok (graph.join reached final)

def addElseIfs (targets : LoopTargets) (graph : Graph) (here final : Nat)
    (elseIfs : List ElseIf) : Except Fault Graph :=
  match elseIfs with
  | [] => .ok graph
  | .mk condition body :: rest => do
    let graph ← addBranch targets (graph.follow here ("elsif " ++ condition.text))
      graph.size final body
    addElseIfs targets graph here final rest

def addArms (targets : LoopTargets) (graph : Graph) (owner : Stmt) (head final : Nat)
    (arms : List Arm) : Except Fault Graph :=
  match arms with
  | [] => .ok graph
  | .mk values body :: rest => do
    let graph ← addBranch targets
      (graph.follow head (Arm.text (.mk values body)) (some owner)) graph.size final body
    addArms targets graph owner head final rest

/-- Adds the statements of a block one by one; each is skipped if the end so far is not reached. -/
def addStmts (targets : LoopTargets) (graph : Graph) (here : Option Nat) (stmts : List Stmt) :
    Except Fault Front :=
  match stmts with
  | [] => .ok (graph, here)
  | stmt :: rest =>
    match here with
    | none => addStmts targets graph none rest
    | some number => do
      let (graph, reached) ← addStmt targets graph number stmt
      addStmts targets graph reached rest

end

/-- Adds the body of a method or accessor, up to a statement whose end is not reached. -/
def addBody (graph : Graph) (here : Nat) : List Stmt → Except Fault Front
  | [] => .ok (graph, some here)
  | stmt :: rest => do
    match ← addStmt {} graph here stmt with
    | (graph, none) => .ok (graph, none)
    | (graph, some reached) => addBody graph reached rest

/-- Code that has a graph: a block, one statement, or the body of a method or accessor. -/
inductive Source where
  | block (stmts : List Stmt)
  | stmt (single : Stmt)
  | routine (name : String) (body : Option (List Stmt))

namespace Source

def stmts : Source → List Stmt
  | block stmts => stmts
  | stmt single => [single]
  | routine _ body => body.getD []

def label : Source → Option String
  | routine name _ => some ("method " ++ name)
  | _ => none

/-- A graph of one empty node, which is the start of the code. -/
def seed (source : Source) : Graph := ⟨#[{ label := source.label }]⟩

/-- The graph of the code. Its start is node `0`. -/
def graph (source : Source) : Except Fault Graph :=
  Except.map Prod.fst <| match source with
    | block stmts => addStmts {} source.seed (some 0) stmts
    | stmt single => addStmt {} source.seed 0 single
    | routine _ body => addBody source.seed 0 (body.getD [])

/-- All statements that can be reached, with those of arms and labels as often as the graph
holds them. -/
def statements (source : Source) : Walk Stmt :=
  Walk.ofExcept (source.graph.map Graph.reachableStmts)

end Source

end PlcLint.Flow
