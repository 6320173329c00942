import PlcLint.Check.Basic
import PlcLint.Proofs.Flow.Reached
import PlcLint.Proofs.Syntax.Descent
import PlcLint.Proofs.Walk

/-!
The nodes of a body that can be visited: its statements and the expressions inside what they
read, listed along the syntax, each once. What is reached of a body is among them.
-/

namespace PlcLint

namespace Subject

/-- A node in one form: a call statement as the expression that it is. -/
def node : Subject → Subject
  | stmt found => (found.asExpr?.map Subject.expr).getD (.stmt found)
  | other => other

theorem node_stmt_of_asExpr {found : Stmt} {expr : Expr} (isCall : found.asExpr? = some expr) :
    (Subject.stmt found).node = .expr expr := by
  simp [node, isCall]

theorem node_stmt_of_plain {found : Stmt} (plain : found.asExpr? = none) :
    (Subject.stmt found).node = .stmt found := by
  simp [node, plain]

theorem origin_of_asExpr {found : Stmt} {expr : Expr} (isCall : found.asExpr? = some expr) :
    expr.origin = found.origin := by
  unfold Stmt.asExpr? at isCall
  split at isCall
  · cases isCall
    rfl
  · cases isCall

theorem serial?_node (subject : Subject) : subject.node.serial? = subject.serial? := by
  cases subject with
  | stmt found =>
      cases isCall : found.asExpr? with
      | none => rw [node_stmt_of_plain isCall]
      | some expr =>
          rw [node_stmt_of_asExpr isCall]
          simp [serial?, origin_of_asExpr isCall]
  | _ => rfl

end Subject

/-- What is looked at where a statement is: it, and the expressions inside those that it reads. -/
def Stmt.subjects (stmt : Stmt) : List Subject :=
  .stmt stmt :: stmt.readSubexprs.found.map .expr

/-- The same as a walk, which may end with a fault. -/
def Stmt.subjectWalk (stmt : Stmt) : Walk Subject :=
  Walk.ofList [.stmt stmt] ++ stmt.readSubexprs.flatMap fun expr => Walk.ofList [.expr expr]

theorem Stmt.found_subjectWalk (stmt : Stmt) : stmt.subjectWalk.found = stmt.subjects := by
  have inside := Walk.found_flatMap_ofList (fun expr => [Subject.expr expr]) stmt.readSubexprs
  rw [← List.map_eq_flatMap] at inside
  change Subject.stmt stmt :: Walk.found _ = _
  rw [inside, Stmt.subjects]

theorem Stmt.readSubexprs_found (stmt : Stmt) :
    stmt.readSubexprs.found = stmt.readExprs.found.flatMap Expr.subexprs :=
  Walk.found_flatMap_ofList _ _

/-! The nodes of a statement, along its syntax. -/

/-- The expressions that a statement reads outside of the blocks inside it. -/
def Stmt.headExprs (stmt : Stmt) : List Expr :=
  match stmt with
  | .loop _ (.forTo _ first last _) _ => [first, last]
  | _ => stmt.ownExprs false

def exprNodes (exprs : List Expr) : List Subject :=
  (exprs.flatMap Expr.subexprs).map .expr

def Stmt.ownNodes (stmt : Stmt) : List Subject :=
  match stmt.asExpr? with
  | some expr => exprNodes [expr]
  | none => .stmt stmt :: exprNodes stmt.headExprs

mutual

def Stmt.nodes (stmt : Stmt) : List Subject :=
  match stmt with
  | .action _ _ | .exitStmt _ | .continueStmt _ | .returnStmt _ | .jump _ _ | .foreign _ _ =>
    stmt.ownNodes
  | .label _ _ inner =>
    stmt.ownNodes ++ match inner with
      | some inner => inner.nodes
      | none => []
  | .ifThen _ _ body elseIfs otherwise =>
    let last := match otherwise with
      | some block => block.nodes
      | none => []
    stmt.ownNodes ++ (body.nodes ++ (elseIfsNodes elseIfs ++ last))
  | .select _ _ arms otherwise =>
    let last := match otherwise with
      | some block => block.nodes
      | none => []
    stmt.ownNodes ++ (armsNodes arms ++ last)
  | .loop _ _ body => stmt.ownNodes ++ body.nodes

def Block.nodes (block : Block) : List Subject :=
  match block with
  | .missing => []
  | .given stmts => stmtsNodes stmts

def elseIfsNodes (elseIfs : List ElseIf) : List Subject :=
  match elseIfs with
  | [] => []
  | .mk _ body :: rest => body.nodes ++ elseIfsNodes rest

def armsNodes (arms : List Arm) : List Subject :=
  match arms with
  | [] => []
  | .mk _ body :: rest => body.nodes ++ armsNodes rest

def stmtsNodes (stmts : List Stmt) : List Subject :=
  match stmts with
  | [] => []
  | stmt :: rest => stmt.nodes ++ stmtsNodes rest

end

theorem Stmt.nodes_ifThen (origin : Origin) (condition : Expr) (body : Block)
    (elseIfs : List ElseIf) (otherwise : Option Block) :
    (Stmt.ifThen origin condition body elseIfs otherwise).nodes =
      (Stmt.ifThen origin condition body elseIfs otherwise).ownNodes ++
        (body.nodes ++ (elseIfsNodes elseIfs ++ (otherwise.getD .missing).nodes)) := by
  cases otherwise <;> simp [Stmt.nodes, Block.nodes]

theorem Stmt.nodes_select (origin : Origin) (subject : Expr) (arms : List Arm)
    (otherwise : Option Block) :
    (Stmt.select origin subject arms otherwise).nodes =
      (Stmt.select origin subject arms otherwise).ownNodes ++
        (armsNodes arms ++ (otherwise.getD .missing).nodes) := by
  cases otherwise <;> simp [Stmt.nodes, Block.nodes]

theorem Stmt.ownNodes_subset (stmt : Stmt) : stmt.ownNodes ⊆ stmt.nodes := by
  cases stmt with
  | label origin name inner => cases inner <;> simp [Stmt.nodes]
  | ifThen origin condition body elseIfs otherwise => simp [Stmt.nodes_ifThen]
  | select origin subject arms otherwise => simp [Stmt.nodes_select]
  | _ => simp [Stmt.nodes]

theorem Stmt.node_mem (stmt : Stmt) : (Subject.stmt stmt).node ∈ stmt.nodes := by
  refine stmt.ownNodes_subset ?_
  rw [Stmt.ownNodes]
  cases isCall : stmt.asExpr? with
  | none =>
      rw [Subject.node_stmt_of_plain isCall]
      exact List.mem_cons_self
  | some expr =>
      rw [Subject.node_stmt_of_asExpr isCall]
      exact List.mem_map_of_mem (by simpa using expr.mem_subexprs_self)

theorem exprNodes_subset {expr : Expr} {exprs : List Expr} (membership : expr ∈ exprs) :
    exprNodes [expr] ⊆ exprNodes exprs := by
  refine List.map_subset _ fun inner inside => List.mem_flatMap.mpr ⟨expr, membership, ?_⟩
  simpa using inside

theorem Stmt.exprNodes_headExprs_subset (stmt : Stmt) :
    exprNodes stmt.headExprs ⊆ stmt.ownNodes := by
  rw [Stmt.ownNodes]
  cases isCall : stmt.asExpr? with
  | none => exact List.subset_cons_self _ _
  | some expr =>
      cases stmt with
      | action origin deed => simp [Stmt.headExprs, Stmt.ownExprs, isCall]
      | _ => cases isCall

/-! A `FOR` loop reads what the statements of its body read; all of it lies inside the loop. -/

mutual

theorem Stmt.exprNodes_readExprs (stmt : Stmt) {expr : Expr}
    (read : expr ∈ stmt.readExprs.found) : exprNodes [expr] ⊆ stmt.nodes := by
  have ofHead (membership : expr ∈ stmt.headExprs) : exprNodes [expr] ⊆ stmt.nodes :=
    List.Subset.trans (exprNodes_subset membership)
      (List.Subset.trans stmt.exprNodes_headExprs_subset stmt.ownNodes_subset)
  cases stmt with
  | loop origin head body =>
      cases head with
      | forTo control first last step =>
          rw [Stmt.readExprs] at read
          rcases List.mem_append.mp read with bound | inside
          · exact ofHead bound
          · rw [Stmt.nodes]
            exact List.subset_append_of_subset_right _ (Block.exprNodes_readExprs body inside)
      | whileDo condition => exact ofHead read
      | repeatUntil condition => exact ofHead read
  | action origin deed => exact ofHead read
  | exitStmt origin => exact ofHead read
  | continueStmt origin => exact ofHead read
  | returnStmt origin => exact ofHead read
  | jump origin target => exact ofHead read
  | label origin name inner => exact ofHead read
  | ifThen origin condition body elseIfs otherwise => exact ofHead read
  | select origin subject arms otherwise => exact ofHead read
  | foreign origin name => exact ofHead read
termination_by structural stmt

theorem Block.exprNodes_readExprs (block : Block) {expr : Expr}
    (read : expr ∈ block.readExprs.found) : exprNodes [expr] ⊆ block.nodes := by
  cases block with
  | missing => cases read
  | given stmts => exact exprNodes_readExprsOfAll stmts read
termination_by structural block

theorem exprNodes_readExprsOfAll (stmts : List Stmt) {expr : Expr}
    (read : expr ∈ (readExprsOfAll stmts).found) : exprNodes [expr] ⊆ stmtsNodes stmts := by
  cases stmts with
  | nil => cases read
  | cons stmt rest =>
      rw [stmtsNodes]
      rcases Walk.mem_append read with inFirst | inRest
      · exact List.subset_append_of_subset_left _ (Stmt.exprNodes_readExprs stmt inFirst)
      · exact List.subset_append_of_subset_right _ (exprNodes_readExprsOfAll rest inRest)
termination_by structural stmts

end

theorem Stmt.node_mem_of_subject {stmt : Stmt} {subject : Subject}
    (membership : subject ∈ stmt.subjects) : subject.node ∈ stmt.nodes := by
  rcases List.mem_cons.mp membership with rfl | inside
  · exact stmt.node_mem
  · obtain ⟨inner, read, rfl⟩ := List.mem_map.mp inside
    rw [stmt.readSubexprs_found] at read
    obtain ⟨expr, readExpr, inExpr⟩ := List.mem_flatMap.mp read
    exact stmt.exprNodes_readExprs readExpr (List.mem_map_of_mem (by simpa using inExpr))

open Flow in
mutual

theorem Stmt.nodes_reached (stmt : Stmt) {inner : Stmt} (reached : inner ∈ stmtReached stmt) :
    inner.nodes ⊆ stmt.nodes := by
  cases stmt with
  | action origin deed => simp_all [stmtReached]
  | exitStmt origin => simp_all [stmtReached]
  | continueStmt origin => simp_all [stmtReached]
  | returnStmt origin => simp_all [stmtReached]
  | jump origin target => simp_all [stmtReached]
  | foreign origin name => simp_all [stmtReached]
  | label origin name labelled =>
      rcases List.mem_cons.mp reached with rfl | isLabelled
      · exact List.Subset.refl _
      · cases labelled with
        | none => cases isLabelled
        | some only =>
            rw [Option.toList_some, List.mem_singleton] at isLabelled
            rw [Stmt.nodes, isLabelled]
            exact List.subset_append_right _ _
  | ifThen origin condition body elseIfs otherwise =>
      rw [stmtReached_ifThen] at reached
      rcases List.mem_cons.mp reached with rfl | inside
      · exact List.Subset.refl _
      rw [Stmt.nodes_ifThen]
      refine List.subset_append_of_subset_right _ ?_
      rcases List.mem_append.mp inside with inBody | later
      · exact List.subset_append_of_subset_left _ (Block.nodes_reached body inBody)
      refine List.subset_append_of_subset_right _ ?_
      rcases List.mem_append.mp later with inElseIfs | inElse
      · exact List.subset_append_of_subset_left _ (elseIfsNodes_reached elseIfs inElseIfs)
      refine List.subset_append_of_subset_right _ ?_
      cases otherwise with
      | none => cases inElse
      | some block => exact Block.nodes_reached block inElse
  | select origin subject arms otherwise =>
      rw [stmtReached_select] at reached
      rcases List.mem_cons.mp reached with rfl | inside
      · exact List.Subset.refl _
      rcases List.mem_append.mp inside with inArms | inElse
      · rcases armsNodes_reached _ arms inArms with rfl | within
        · exact List.Subset.refl _
        rw [Stmt.nodes_select]
        refine List.subset_append_of_subset_right _ ?_
        exact List.subset_append_of_subset_left _ within
      · rw [Stmt.nodes_select]
        refine List.subset_append_of_subset_right _ ?_
        refine List.subset_append_of_subset_right _ ?_
        cases otherwise with
        | none => cases inElse
        | some block => exact Block.nodes_reached block inElse
  | loop origin head body =>
      rcases List.mem_cons.mp reached with rfl | inside
      · exact List.Subset.refl _
      · rw [Stmt.nodes]
        exact List.subset_append_of_subset_right _ (Block.nodes_reached body inside)
termination_by structural stmt

theorem Block.nodes_reached (block : Block) {inner : Stmt}
    (reached : inner ∈ blockReached block) : inner.nodes ⊆ block.nodes := by
  cases block with
  | missing => cases reached
  | given stmts => exact stmtsNodes_reached stmts reached
termination_by structural block

theorem elseIfsNodes_reached (elseIfs : List ElseIf) {inner : Stmt}
    (reached : inner ∈ elseIfsReached elseIfs) : inner.nodes ⊆ elseIfsNodes elseIfs := by
  cases elseIfs with
  | nil => cases reached
  | cons elseIf rest =>
      obtain ⟨condition, body⟩ := elseIf
      rw [elseIfsNodes]
      rcases List.mem_append.mp reached with inBody | inRest
      · exact List.subset_append_of_subset_left _ (Block.nodes_reached body inBody)
      · exact List.subset_append_of_subset_right _ (elseIfsNodes_reached rest inRest)
termination_by structural elseIfs

theorem armsNodes_reached (owner : Stmt) (arms : List Arm) {inner : Stmt}
    (reached : inner ∈ armsReached owner arms) : inner = owner ∨ inner.nodes ⊆ armsNodes arms := by
  cases arms with
  | nil => cases reached
  | cons arm rest =>
      obtain ⟨values, body⟩ := arm
      rw [armsNodes]
      rcases List.mem_cons.mp reached with isOwner | inside
      · exact .inl isOwner
      rcases List.mem_append.mp inside with inBody | inRest
      · exact .inr (List.subset_append_of_subset_left _ (Block.nodes_reached body inBody))
      · refine (armsNodes_reached owner rest inRest).imp_right fun within => ?_
        exact List.subset_append_of_subset_right _ within
termination_by structural arms

theorem stmtsNodes_reached (stmts : List Stmt) {inner : Stmt}
    (reached : inner ∈ stmtsReached stmts) : inner.nodes ⊆ stmtsNodes stmts := by
  cases stmts with
  | nil => cases reached
  | cons stmt rest =>
      rw [stmtsNodes]
      rcases List.mem_append.mp reached with inFirst | behind
      · exact List.subset_append_of_subset_left _ (Stmt.nodes_reached stmt inFirst)
      · split at behind
        · exact List.subset_append_of_subset_right _ (stmtsNodes_reached rest behind)
        · cases behind
termination_by structural stmts

end

/-- Every object that is met in a body is one of its nodes. -/
theorem node_mem_stmtsNodes {stmts : List Stmt} {stmt : Stmt} {subject : Subject}
    (reached : stmt ∈ Flow.stmtsReached stmts) (membership : subject ∈ stmt.subjects) :
    subject.node ∈ stmtsNodes stmts :=
  stmtsNodes_reached stmts reached (Stmt.node_mem_of_subject membership)

end PlcLint
