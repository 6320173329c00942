import PlcLint.Proofs.Lint.Nodes

/-!
All nodes that stand in a piece of syntax, by their origins: besides the statements and expressions
that can be visited also names, arguments, the targets of assignments and the matches of arms.
-/

namespace PlcLint

mutual

def Variable.origins (value : Variable) : List Origin :=
  match value with
  | .simple origin _ _ => [origin]
  | .path origin base elements => origin :: (base.origins ++ elementsOrigins elements)

def elementsOrigins (elements : List Element) : List Origin :=
  match elements with
  | [] => []
  | .field selected _ :: rest => selected.origins ++ elementsOrigins rest
  | .subscripts indices _ :: rest => exprsOrigins indices ++ elementsOrigins rest

def Expr.origins (expr : Expr) : List Origin :=
  match expr with
  | .literal origin _ => [origin]
  | .direct origin _ _ => [origin]
  | .var value => value.origins
  | .unary origin _ operand => origin :: operand.origins
  | .binary origin left _ right => origin :: (left.origins ++ right.origins)
  | .paren origin inner => origin :: inner.origins
  | .bracket origin inner => origin :: inner.origins
  | .call origin _ callee arguments => origin :: (callee.origins ++ argumentsOrigins arguments)
  | .chain origin calls => origin :: exprsOrigins calls

def argumentsOrigins (arguments : List Argument) : List Origin :=
  match arguments with
  | [] => []
  | .input origin name value :: rest =>
    origin :: (nameOrigins name ++ (valueOrigins value ++ argumentsOrigins rest))
  | .output origin name value _ :: rest =>
    origin :: (nameOrigins name ++ (valueOrigins value ++ argumentsOrigins rest))

def nameOrigins (name : Option Variable) : List Origin :=
  match name with
  | none => []
  | some name => name.origins

def valueOrigins (value : Option Expr) : List Origin :=
  match value with
  | none => []
  | some value => value.origins

def exprsOrigins (exprs : List Expr) : List Origin :=
  match exprs with
  | [] => []
  | expr :: rest => expr.origins ++ exprsOrigins rest

end

theorem Variable.origin_mem (value : Variable) : value.origin ∈ value.origins := by
  cases value <;> simp [Variable.origin, Variable.origins]

theorem Expr.origin_mem (expr : Expr) : expr.origin ∈ expr.origins := by
  cases expr with
  | var value => exact value.origin_mem
  | _ => simp [Expr.origin, Expr.origins]

theorem Argument.origin_mem {argument : Argument} {arguments : List Argument}
    (membership : argument ∈ arguments) : argument.origin ∈ argumentsOrigins arguments := by
  induction arguments with
  | nil => cases membership
  | cons first rest inductionHypothesis =>
      rcases List.mem_cons.mp membership with rfl | inRest
      · cases argument <;> simp [Argument.origin, argumentsOrigins]
      · have later := inductionHypothesis inRest
        cases first <;> simp [argumentsOrigins, later]

/-! What is found inside an expression stands in it. -/

mutual

theorem Expr.origins_subexprs (expr : Expr) {inner : Expr} (inside : inner ∈ expr.subexprs) :
    inner.origins ⊆ expr.origins := by
  have itself {rest : List Expr} (opened : expr.subexprs = expr :: rest)
      (deeper : inner ∈ rest → inner.origins ⊆ expr.origins) : inner.origins ⊆ expr.origins := by
    rw [opened] at inside
    rcases List.mem_cons.mp inside with rfl | inRest
    · exact List.Subset.refl _
    · exact deeper inRest
  cases expr with
  | literal origin value => exact itself rfl fun inRest => absurd inRest List.not_mem_nil
  | direct origin located address => exact itself rfl fun inRest => absurd inRest List.not_mem_nil
  | var value => exact itself rfl (Variable.origins_subscriptExprs value)
  | unary origin op operand =>
      exact itself rfl fun inRest => List.subset_cons_of_subset _ (operand.origins_subexprs inRest)
  | binary origin left op right =>
      refine itself rfl fun inRest => List.subset_cons_of_subset _ ?_
      rcases List.mem_append.mp inRest with inLeft | inRight
      · exact List.subset_append_of_subset_left _ (left.origins_subexprs inLeft)
      · exact List.subset_append_of_subset_right _ (right.origins_subexprs inRight)
  | paren origin operand =>
      exact itself rfl fun inRest => List.subset_cons_of_subset _ (operand.origins_subexprs inRest)
  | bracket origin operand =>
      exact itself rfl fun inRest => List.subset_cons_of_subset _ (operand.origins_subexprs inRest)
  | call origin asStatement callee arguments =>
      refine itself rfl fun inRest => List.subset_cons_of_subset _ ?_
      exact List.subset_append_of_subset_right _ (origins_inputSubexprs arguments inRest)
  | chain origin calls =>
      exact itself rfl fun inRest => List.subset_cons_of_subset _
        (origins_subexprsOfAll calls inRest)
termination_by structural expr

theorem Variable.origins_subscriptExprs (value : Variable) {inner : Expr}
    (inside : inner ∈ value.subscriptExprs) : inner.origins ⊆ value.origins := by
  cases value with
  | simple origin name deref => cases inside
  | path origin base elements =>
      refine List.subset_cons_of_subset _ (List.subset_append_of_subset_right _ ?_)
      exact origins_elementSubexprs elements inside
termination_by structural value

theorem origins_elementSubexprs (elements : List Element) {inner : Expr}
    (inside : inner ∈ elementSubexprs elements) : inner.origins ⊆ elementsOrigins elements := by
  cases elements with
  | nil => cases inside
  | cons element rest =>
      cases element with
      | field selected deref =>
          exact List.subset_append_of_subset_right _ (origins_elementSubexprs rest inside)
      | subscripts indices deref =>
          rcases List.mem_append.mp inside with inIndices | inRest
          · exact List.subset_append_of_subset_left _ (origins_subexprsOfAll indices inIndices)
          · exact List.subset_append_of_subset_right _ (origins_elementSubexprs rest inRest)
termination_by structural elements

theorem origins_inputSubexprs (arguments : List Argument) {inner : Expr}
    (inside : inner ∈ inputSubexprs arguments) : inner.origins ⊆ argumentsOrigins arguments := by
  cases arguments with
  | nil => cases inside
  | cons argument rest =>
      cases argument with
      | output origin name value inverted => cases inside
      | input origin name value =>
          refine List.subset_cons_of_subset _ (List.subset_append_of_subset_right _ ?_)
          cases value with
          | none => exact origins_inputSubexprs rest inside
          | some value =>
              rcases List.mem_append.mp inside with inValue | inRest
              · exact List.subset_append_of_subset_left _ (value.origins_subexprs inValue)
              · exact List.subset_append_of_subset_right _ (origins_inputSubexprs rest inRest)
termination_by structural arguments

theorem origins_subexprsOfAll (exprs : List Expr) {inner : Expr}
    (inside : inner ∈ subexprsOfAll exprs) : inner.origins ⊆ exprsOrigins exprs := by
  cases exprs with
  | nil => cases inside
  | cons expr rest =>
      rcases List.mem_append.mp inside with inFirst | inRest
      · exact List.subset_append_of_subset_left _ (expr.origins_subexprs inFirst)
      · exact List.subset_append_of_subset_right _ (origins_subexprsOfAll rest inRest)
termination_by structural exprs

end

/-! Statements. The statements inside a block are nodes of their own, so the origins of a statement
itself are those outside of the blocks in it. -/

def Action.origins : Action → List Origin
  | assign targets value => exprsOrigins (targets ++ [value])
  | set target value | reset target value | bind target value => target.origins ++ value.origins
  | mention target => target.origins
  | call callee arguments => callee.origins ++ argumentsOrigins arguments
  | chain calls => exprsOrigins calls

def LoopHead.origins : LoopHead → List Origin
  | whileDo condition | repeatUntil condition => condition.origins
  | forTo control first last step => exprsOrigins ([control, first, last] ++ step.toList)

def Match.origins : Match → List Origin
  | value expr => expr.origins
  | enumerated _ => []

def Stmt.ownOrigins : Stmt → List Origin
  | .action origin deed => origin :: deed.origins
  | .exitStmt origin | .continueStmt origin | .returnStmt origin | .jump origin _
  | .label origin _ _ | .foreign origin _ => [origin]
  | .ifThen origin condition _ elseIfs _ =>
    origin :: exprsOrigins (condition :: elseIfs.map ElseIf.condition)
  | .select origin subject arms _ =>
    origin :: (subject.origins ++ (arms.flatMap Arm.values).flatMap Match.origins)
  | .loop origin head _ => origin :: head.origins

/-- The origins of a node and of all that stands in it outside of blocks. -/
def Subject.ownOrigins : Subject → List Origin
  | .stmt found => found.ownOrigins
  | .expr found => found.origins
  | _ => []

def nodesOrigins (nodes : List Subject) : List Origin := nodes.flatMap Subject.ownOrigins

def Stmt.origins (stmt : Stmt) : List Origin := nodesOrigins stmt.nodes

def stmtsOrigins (stmts : List Stmt) : List Origin := nodesOrigins (stmtsNodes stmts)

theorem nodesOrigins_subset {first second : List Subject} (subset : first ⊆ second) :
    nodesOrigins first ⊆ nodesOrigins second := by
  intro origin membership
  obtain ⟨node, inFirst, inNode⟩ := List.mem_flatMap.mp membership
  exact List.mem_flatMap.mpr ⟨node, subset inFirst, inNode⟩

theorem ownOrigins_subset {node : Subject} {nodes : List Subject} (membership : node ∈ nodes) :
    node.ownOrigins ⊆ nodesOrigins nodes :=
  fun _ inNode => List.mem_flatMap.mpr ⟨node, membership, inNode⟩

/-- A call statement has the origins of the expression that it is. -/
theorem Stmt.ownOrigins_of_asExpr {stmt : Stmt} {expr : Expr}
    (isCall : stmt.asExpr? = some expr) : expr.origins = stmt.ownOrigins := by
  unfold Stmt.asExpr? at isCall
  split at isCall
  · cases isCall
    rfl
  · cases isCall

theorem Subject.ownOrigins_node (subject : Subject) :
    subject.node.ownOrigins = subject.ownOrigins := by
  cases subject with
  | stmt found =>
      cases isCall : found.asExpr? with
      | none => rw [node_stmt_of_plain isCall]
      | some expr =>
          rw [node_stmt_of_asExpr isCall]
          exact Stmt.ownOrigins_of_asExpr isCall
  | _ => rfl

theorem Stmt.origin_mem_ownOrigins (stmt : Stmt) : stmt.origin ∈ stmt.ownOrigins := by
  cases stmt <;> simp [Stmt.origin, Stmt.ownOrigins]

theorem Stmt.ownOrigins_subset_origins (stmt : Stmt) : stmt.ownOrigins ⊆ stmt.origins := by
  have inside := ownOrigins_subset stmt.node_mem
  rwa [Subject.ownOrigins_node] at inside

theorem Stmt.origin_mem (stmt : Stmt) : stmt.origin ∈ stmt.origins :=
  stmt.ownOrigins_subset_origins stmt.origin_mem_ownOrigins

/-- What a statement reads stands in it. -/
theorem Stmt.origins_readSubexprs (stmt : Stmt) {expr : Expr}
    (read : expr ∈ stmt.readSubexprs.found) : expr.origins ⊆ stmt.origins := by
  have isSubject : Subject.expr expr ∈ stmt.subjects :=
    List.mem_cons_of_mem _ (List.mem_map_of_mem read)
  exact ownOrigins_subset (Stmt.node_mem_of_subject isSubject)

/-- What is reached of a body stands in it. -/
theorem Stmt.origins_reached {stmt : Stmt} {stmts : List Stmt}
    (reached : stmt ∈ Flow.stmtsReached stmts) : stmt.origins ⊆ stmtsOrigins stmts :=
  nodesOrigins_subset (stmtsNodes_reached stmts reached)

end PlcLint
