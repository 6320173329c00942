import PlcLint.Proofs.Flow.Growth

/-!
Two bodies of one shape: the statements stand in pairs, and the blocks of the second body may hold
further actions, also blocks that the first body leaves out. Their graphs are built in step. Both
constructions fail with the same fault, or both succeed and the graphs have the same nodes and
edges, with the statements of each node in pairs again.
-/

namespace PlcLint

/-- Two computations end with the same fault or with related results. -/
inductive EndAlike {α β : Type} (related : α → β → Prop) :
    Except Fault α → Except Fault β → Prop
  | ok {first : α} {second : β} (results : related first second) :
      EndAlike related (.ok first) (.ok second)
  | error (fault : Fault) : EndAlike related (.error fault) (.error fault)

theorem EndAlike.bind {α β γ δ : Type} {related : α → β → Prop} {onward : γ → δ → Prop}
    {first : Except Fault α} {second : Except Fault β}
    {afterFirst : α → Except Fault γ} {afterSecond : β → Except Fault δ}
    (alike : EndAlike related first second)
    (next : ∀ one other, related one other → EndAlike onward (afterFirst one) (afterSecond other)) :
    EndAlike onward (first >>= afterFirst) (second >>= afterSecond) := by
  cases alike with
  | ok results => exact next _ _ results
  | error fault => exact .error fault

theorem EndAlike.bind_eq {α β γ : Type} {related : α → β → Prop} {first : Except Fault α}
    {second : Except Fault β} {afterFirst : α → Except Fault γ} {afterSecond : β → Except Fault γ}
    (alike : EndAlike related first second)
    (next : ∀ one other, related one other → afterSecond other = afterFirst one) :
    (second >>= afterSecond) = (first >>= afterFirst) := by
  cases alike with
  | ok results => exact next _ _ results
  | error fault => rfl

theorem EndAlike.exists_ok {α β : Type} {related : α → β → Prop} {result : α}
    {second : Except Fault β} (alike : EndAlike related (.ok result) second) :
    ∃ other, second = .ok other ∧ related result other := by
  cases alike with
  | ok results => exact ⟨_, rfl, results⟩

end PlcLint

namespace PlcLint.Flow

section Shape

variable (heads : Stmt → Stmt → Prop) (extra : Stmt → Prop)

mutual

/-- Statements of one shape. The statements of each pair are related by `heads`, at every depth. -/
inductive StmtPair : Stmt → Stmt → Prop
  | action {origin copied : Origin} {deed other : Action}
      (head : heads (.action origin deed) (.action copied other)) :
      StmtPair (.action origin deed) (.action copied other)
  | exitStmt {origin copied : Origin} (head : heads (.exitStmt origin) (.exitStmt copied)) :
      StmtPair (.exitStmt origin) (.exitStmt copied)
  | continueStmt {origin copied : Origin}
      (head : heads (.continueStmt origin) (.continueStmt copied)) :
      StmtPair (.continueStmt origin) (.continueStmt copied)
  | returnStmt {origin copied : Origin} (head : heads (.returnStmt origin) (.returnStmt copied)) :
      StmtPair (.returnStmt origin) (.returnStmt copied)
  | jump {origin copied : Origin} {target other : String}
      (head : heads (.jump origin target) (.jump copied other)) :
      StmtPair (.jump origin target) (.jump copied other)
  | foreign {origin copied : Origin} {name other : String}
      (head : heads (.foreign origin name) (.foreign copied other)) :
      StmtPair (.foreign origin name) (.foreign copied other)
  | label {origin copied : Origin} {name other : String} {inner second : Option Stmt}
      (head : heads (.label origin name inner) (.label copied other second))
      (inside : InnerPair inner second) :
      StmtPair (.label origin name inner) (.label copied other second)
  | ifThen {origin copied : Origin} {condition second : Expr} {body other : Block}
      {elseIfs others : List ElseIf} {otherwise final : Option Block}
      (head : heads (.ifThen origin condition body elseIfs otherwise)
        (.ifThen copied second other others final))
      (bodies : BlockPair body other) (between : ElseIfsPair elseIfs others)
      (last : OtherwisePair otherwise final) :
      StmtPair (.ifThen origin condition body elseIfs otherwise)
        (.ifThen copied second other others final)
  | select {origin copied : Origin} {subject second : Expr} {arms others : List Arm}
      {otherwise final : Option Block}
      (head : heads (.select origin subject arms otherwise) (.select copied second others final))
      (between : ArmsPair arms others) (last : OtherwisePair otherwise final) :
      StmtPair (.select origin subject arms otherwise) (.select copied second others final)
  | loop {origin copied : Origin} {control second : LoopHead} {body other : Block}
      (head : heads (.loop origin control body) (.loop copied second other))
      (bodies : BlockPair body other) :
      StmtPair (.loop origin control body) (.loop copied second other)

inductive InnerPair : Option Stmt → Option Stmt → Prop
  | none : InnerPair none none
  | some {stmt other : Stmt} (inner : StmtPair stmt other) : InnerPair (some stmt) (some other)

inductive BlockPair : Block → Block → Prop
  | missing : BlockPair .missing .missing
  /-- A block that was left out comes to hold extra actions. -/
  | filled {origin : Origin} {deed : Action} {others : List Stmt}
      (added : extra (.action origin deed)) (behind : StmtsPair [] others) :
      BlockPair .missing (.given (.action origin deed :: others))
  | given {stmts others : List Stmt} (inside : StmtsPair stmts others) :
      BlockPair (.given stmts) (.given others)

inductive OtherwisePair : Option Block → Option Block → Prop
  | none : OtherwisePair none none
  | some {block other : Block} (blocks : BlockPair block other) :
      OtherwisePair (some block) (some other)

inductive ElseIfsPair : List ElseIf → List ElseIf → Prop
  | nil : ElseIfsPair [] []
  | cons {condition second : Expr} {body other : Block} {rest others : List ElseIf}
      (bodies : BlockPair body other) (behind : ElseIfsPair rest others) :
      ElseIfsPair (.mk condition body :: rest) (.mk second other :: others)

inductive ArmsPair : List Arm → List Arm → Prop
  | nil : ArmsPair [] []
  | cons {values second : List Match} {body other : Block} {rest others : List Arm}
      (bodies : BlockPair body other) (behind : ArmsPair rest others) :
      ArmsPair (.mk values body :: rest) (.mk second other :: others)

/-- The second list holds the partners of the first in their order, and extra actions anywhere. -/
inductive StmtsPair : List Stmt → List Stmt → Prop
  | nil : StmtsPair [] []
  | cons {stmt other : Stmt} {rest others : List Stmt} (first : StmtPair stmt other)
      (behind : StmtsPair rest others) : StmtsPair (stmt :: rest) (other :: others)
  | insert {origin : Origin} {deed : Action} {rest others : List Stmt}
      (added : extra (.action origin deed)) (behind : StmtsPair rest others) :
      StmtsPair rest (.action origin deed :: others)

end

/-- Graphs with the same nodes and edges, which hold statements in pairs. -/
structure GraphPair (graph larger : Graph) : Prop where
  size : larger.size = graph.size
  next : ∀ number, larger.next number = graph.next number
  prev : ∀ number, larger.prev number = graph.prev number
  stmts : ∀ number, StmtsPair heads extra (graph.stmtsAt number) (larger.stmtsAt number)

/-- Constructions that have come to the same node. -/
def FrontPair (front further : Front) : Prop :=
  GraphPair heads extra front.1 further.1 ∧ front.2 = further.2

/-- In graphs that are a pair, the branches of the two blocks are built in step. -/
def BranchesAlike (block other : Block) : Prop :=
  ∀ {targets : LoopTargets} {here final : Nat} {graph larger : Graph},
    GraphPair heads extra graph larger →
    EndAlike (GraphPair heads extra) (addBranch targets graph here final block)
      (addBranch targets larger here final other)

end Shape

variable {heads : Stmt → Stmt → Prop} {extra : Stmt → Prop}

theorem StmtPair.head {stmt other : Stmt} (pair : StmtPair heads extra stmt other) :
    heads stmt other := by
  cases pair <;> assumption

/-- Induction along the lists, for statements that do not look into the pairs. -/
@[elab_as_elim]
theorem StmtsPair.alongLists
    {motive : ∀ stmts others : List Stmt, StmtsPair heads extra stmts others → Prop}
    (nil : motive [] [] .nil)
    (cons : ∀ {stmt other : Stmt} {rest others : List Stmt}
      (first : StmtPair heads extra stmt other) (behind : StmtsPair heads extra rest others),
      motive rest others behind →
      motive (stmt :: rest) (other :: others) (.cons first behind))
    (insert : ∀ {origin : Origin} {deed : Action} {rest others : List Stmt}
      (added : extra (.action origin deed)) (behind : StmtsPair heads extra rest others),
      motive rest others behind →
      motive rest (.action origin deed :: others) (.insert added behind)) :
    ∀ {stmts others : List Stmt} (pairs : StmtsPair heads extra stmts others),
      motive stmts others pairs
  | _, _, .nil => nil
  | _, _, .cons first behind => cons first behind (alongLists nil cons insert behind)
  | _, _, .insert added behind => insert added behind (alongLists nil cons insert behind)

theorem StmtsPair.append {front second rest others : List Stmt}
    (inFront : StmtsPair heads extra front second) (behind : StmtsPair heads extra rest others) :
    StmtsPair heads extra (front ++ rest) (second ++ others) := by
  induction inFront using StmtsPair.alongLists with
  | nil => exact behind
  | cons first _ inductionHypothesis => exact .cons first inductionHypothesis
  | insert added _ inductionHypothesis => exact .insert added inductionHypothesis

mutual

/-- Where all statements are related to themselves, so are all bodies. -/
theorem StmtPair.refl (same : ∀ stmt, heads stmt stmt) (stmt : Stmt) :
    StmtPair heads extra stmt stmt := by
  cases stmt with
  | action origin deed => exact .action (same _)
  | exitStmt origin => exact .exitStmt (same _)
  | continueStmt origin => exact .continueStmt (same _)
  | returnStmt origin => exact .returnStmt (same _)
  | jump origin target => exact .jump (same _)
  | foreign origin name => exact .foreign (same _)
  | label origin name inner =>
      cases inner with
      | none => exact .label (same _) .none
      | some inner => exact .label (same _) (.some (StmtPair.refl same inner))
  | ifThen origin condition body elseIfs otherwise =>
      have bodies := BlockPair.refl same body
      have between := ElseIfsPair.refl same elseIfs
      cases otherwise with
      | none => exact .ifThen (same _) bodies between .none
      | some block => exact .ifThen (same _) bodies between (.some (BlockPair.refl same block))
  | select origin subject arms otherwise =>
      have between := ArmsPair.refl same arms
      cases otherwise with
      | none => exact .select (same _) between .none
      | some block => exact .select (same _) between (.some (BlockPair.refl same block))
  | loop origin head body => exact .loop (same _) (BlockPair.refl same body)
termination_by structural stmt

theorem BlockPair.refl (same : ∀ stmt, heads stmt stmt) (block : Block) :
    BlockPair heads extra block block := by
  cases block with
  | missing => exact .missing
  | given stmts => exact .given (StmtsPair.refl same stmts)
termination_by structural block

theorem ElseIfsPair.refl (same : ∀ stmt, heads stmt stmt) (elseIfs : List ElseIf) :
    ElseIfsPair heads extra elseIfs elseIfs := by
  cases elseIfs with
  | nil => exact .nil
  | cons elseIf rest =>
      cases elseIf with
      | mk condition body => exact .cons (BlockPair.refl same body) (ElseIfsPair.refl same rest)
termination_by structural elseIfs

theorem ArmsPair.refl (same : ∀ stmt, heads stmt stmt) (arms : List Arm) :
    ArmsPair heads extra arms arms := by
  cases arms with
  | nil => exact .nil
  | cons arm rest =>
      cases arm with
      | mk values body => exact .cons (BlockPair.refl same body) (ArmsPair.refl same rest)
termination_by structural arms

theorem StmtsPair.refl (same : ∀ stmt, heads stmt stmt) (stmts : List Stmt) :
    StmtsPair heads extra stmts stmts := by
  cases stmts with
  | nil => exact .nil
  | cons stmt rest => exact .cons (StmtPair.refl same stmt) (StmtsPair.refl same rest)
termination_by structural stmts

end

theorem StmtsPair.singleton {stmt other : Stmt} (pair : StmtPair heads extra stmt other) :
    StmtsPair heads extra [stmt] [other] :=
  .cons pair .nil

theorem InnerPair.toList {owner other : Option Stmt} (owners : InnerPair heads extra owner other) :
    StmtsPair heads extra owner.toList other.toList := by
  cases owners with
  | none => exact .nil
  | some inner => exact .singleton inner

/-! What each edit keeps. -/

namespace GraphPair

variable {graph larger : Graph}

theorem add (graphs : GraphPair heads extra graph larger) {owner other : Option Stmt}
    {label second : Option String} (owners : InnerPair heads extra owner other) :
    GraphPair heads extra (graph.add { label := label, owner := owner })
      (larger.add { label := second, owner := other }) := by
  refine ⟨by simp [graphs.size], by simp [graphs.next], by simp [graphs.prev], ?_⟩
  intro number
  rw [Graph.stmtsAt_add, Graph.stmtsAt_add, graphs.size]
  split
  · exact owners.toList
  · exact graphs.stmts number

theorem link (graphs : GraphPair heads extra graph larger) (source target : Nat) :
    GraphPair heads extra (graph.link source target) (larger.link source target) := by
  refine ⟨by simp [graphs.size], ?_, ?_, ?_⟩
  · intro number
    rw [Graph.next, Graph.next, Graph.node_link, Graph.node_link, graphs.next, graphs.size]
  · intro number
    rw [Graph.prev, Graph.prev, Graph.node_link, Graph.node_link, graphs.prev, graphs.size]
  · intro number
    rw [Graph.stmtsAt_link, Graph.stmtsAt_link]
    exact graphs.stmts number

theorem follow (graphs : GraphPair heads extra graph larger) {owner other : Option Stmt}
    {label second : String} (owners : InnerPair heads extra owner other) (source : Nat) :
    GraphPair heads extra (graph.follow source label owner)
      (larger.follow source second other) := by
  rw [Graph.follow, Graph.follow, graphs.size]
  exact (graphs.add owners).link source graph.size

theorem join (graphs : GraphPair heads extra graph larger) (branch : Option Nat) (target : Nat) :
    GraphPair heads extra (graph.join branch target) (larger.join branch target) := by
  cases branch with
  | none => exact graphs
  | some number => exact graphs.link number target

theorem append (graphs : GraphPair heads extra graph larger) (here : Nat) {stmt other : Stmt}
    (pair : StmtPair heads extra stmt other) :
    GraphPair heads extra (graph.append here stmt) (larger.append here other) := by
  refine ⟨by simp [graphs.size], by simp [graphs.next], by simp [graphs.prev], ?_⟩
  intro number
  rw [Graph.stmtsAt_append, Graph.stmtsAt_append, graphs.size]
  apply (graphs.stmts number).append
  split
  · exact .singleton pair
  · exact .nil

/-- An extra action changes the statements of one node and nothing else. -/
theorem insert (graphs : GraphPair heads extra graph larger) (here : Nat) {origin : Origin}
    {deed : Action} (added : extra (.action origin deed)) :
    GraphPair heads extra graph (larger.append here (.action origin deed)) := by
  refine ⟨by simp [graphs.size], by simp [graphs.next], by simp [graphs.prev], ?_⟩
  intro number
  rw [Graph.stmtsAt_append, ← List.append_nil (graph.stmtsAt number)]
  apply (graphs.stmts number).append
  split
  · exact .insert added .nil
  · exact .nil

end GraphPair

/-! The constructions in step. The proofs follow the pairs, and with them the construction. -/

mutual

theorem StmtPair.addStmt {targets : LoopTargets} {here : Nat} :
    ∀ {stmt other : Stmt} {graph larger : Graph}, StmtPair heads extra stmt other →
      GraphPair heads extra graph larger →
      EndAlike (FrontPair heads extra) (addStmt targets graph here stmt)
        (addStmt targets larger here other)
  | _, _, _, _, .action head, graphs => .ok ⟨graphs.append here (.action head), rfl⟩
  | _, _, _, _, .exitStmt head, graphs => by
      rw [Flow.addStmt, Flow.addStmt]
      cases targets.onExit with
      | none => exact .error _
      | some target => exact .ok ⟨(graphs.append here (.exitStmt head)).link here target, rfl⟩
  | _, _, _, _, .continueStmt head, graphs => by
      rw [Flow.addStmt, Flow.addStmt]
      cases targets.onContinue with
      | none => exact .error _
      | some target => exact .ok ⟨(graphs.append here (.continueStmt head)).link here target, rfl⟩
  | _, _, _, _, .returnStmt head, graphs => .ok ⟨graphs.append here (.returnStmt head), rfl⟩
  | _, _, _, _, .jump _, _ => .error _
  | _, _, _, _, .foreign _, _ => .error _
  | _, _, _, _, .label head inside, graphs => by
      rw [Flow.addStmt, Flow.addStmt, graphs.size]
      refine .ok ⟨?_, rfl⟩
      cases inside with
      | none => exact graphs.follow (.some (.label head .none)) here
      | some inner =>
          exact (graphs.follow (.some (.label head (.some inner))) here).append _ inner
  | _, _, _, _, .ifThen head bodies between last, graphs => by
      rw [Flow.addStmt, Flow.addStmt, Graph.size_add, Graph.size_add, graphs.size]
      have owners := InnerPair.some (StmtPair.ifThen head bodies between last)
      refine (bodies.addBranch ((graphs.add .none).follow owners here)).bind fun _ _ grown => ?_
      refine (between.addElseIfs grown).bind fun _ _ grown => ?_
      rw [grown.size]
      -- The recursion is made before the cases, while `last` is still seen to be part of the pair.
      have branches := last.addBranch
      cases branches with
      | none => exact .ok ⟨(grown.follow .none here).link _ _, rfl⟩
      | some alike =>
          exact (alike (grown.follow .none here)).bind fun _ _ closed => .ok ⟨closed, rfl⟩
  | _, _, _, _, .select head between last, graphs => by
      rw [Flow.addStmt, Flow.addStmt, Graph.size_follow, Graph.size_follow, graphs.size]
      have owners := StmtPair.select head between last
      refine (between.addArms owners ((graphs.follow (.some owners) here).add .none)).bind
        fun _ _ grown => ?_
      rw [grown.size]
      have branches := last.addBranch
      cases branches with
      | none => exact .ok ⟨grown, rfl⟩
      | some alike =>
          exact (alike (grown.follow .none _)).bind fun _ _ closed => .ok ⟨closed, rfl⟩
  | _, _, _, _, .loop head bodies, graphs => by
      simp only [Flow.addStmt, Graph.size_follow, graphs.size]
      have owners := InnerPair.some (StmtPair.loop head bodies)
      refine (bodies.addBranch (((graphs.follow owners here).follow .none _).add .none)).bind
        fun _ _ grown => ?_
      rw [grown.size]
      exact .ok ⟨(grown.follow .none _).link _ _, rfl⟩

theorem BlockPair.addBranch :
    ∀ {block other : Block}, BlockPair heads extra block other →
      BranchesAlike heads extra block other
  | _, _, .missing, _, here, final, _, _, graphs => .ok (graphs.link here final)
  | _, _, .filled added behind, targets, here, final, graph, _, graphs => by
      -- A block that is left out is built like an empty one.
      change EndAlike _ (Flow.addBranch targets graph here final (.given [])) _
      refine (behind.addStmts (graphs.insert here added)).bind ?_
      rintro ⟨grown, reached⟩ ⟨further, _⟩ ⟨fronts, rfl⟩
      exact .ok (fronts.join reached final)
  | _, _, .given inside, _, here, final, _, _, graphs => by
      refine (inside.addStmts graphs).bind ?_
      rintro ⟨grown, reached⟩ ⟨further, _⟩ ⟨fronts, rfl⟩
      exact .ok (fronts.join reached final)

theorem OtherwisePair.addBranch :
    ∀ {otherwise other : Option Block}, OtherwisePair heads extra otherwise other →
      Option.Rel (BranchesAlike heads extra) otherwise other
  | _, _, .none => .none
  | _, _, .some blocks => .some blocks.addBranch

theorem ElseIfsPair.addElseIfs {targets : LoopTargets} {here final : Nat} :
    ∀ {elseIfs others : List ElseIf} {graph larger : Graph},
      ElseIfsPair heads extra elseIfs others → GraphPair heads extra graph larger →
      EndAlike (GraphPair heads extra) (addElseIfs targets graph here final elseIfs)
        (addElseIfs targets larger here final others)
  | _, _, _, _, .nil, graphs => .ok graphs
  | _, _, _, _, .cons bodies behind, graphs => by
      rw [Flow.addElseIfs, Flow.addElseIfs, graphs.size]
      refine (bodies.addBranch (graphs.follow .none here)).bind fun _ _ grown => ?_
      exact behind.addElseIfs grown

theorem ArmsPair.addArms {targets : LoopTargets} {head final : Nat} {owner second : Stmt} :
    ∀ {arms others : List Arm} {graph larger : Graph}, ArmsPair heads extra arms others →
      StmtPair heads extra owner second → GraphPair heads extra graph larger →
      EndAlike (GraphPair heads extra) (addArms targets graph owner head final arms)
        (addArms targets larger second head final others)
  | _, _, _, _, .nil, _, graphs => .ok graphs
  | _, _, _, _, .cons bodies behind, owners, graphs => by
      rw [Flow.addArms, Flow.addArms, graphs.size]
      refine (bodies.addBranch (graphs.follow (.some owners) head)).bind fun _ _ grown => ?_
      exact behind.addArms owners grown

theorem StmtsPair.addStmts {targets : LoopTargets} :
    ∀ {stmts others : List Stmt} {graph larger : Graph} {here : Option Nat},
      StmtsPair heads extra stmts others → GraphPair heads extra graph larger →
      EndAlike (FrontPair heads extra) (addStmts targets graph here stmts)
        (addStmts targets larger here others)
  | _, _, _, _, none, _, graphs => by
      rw [addStmts_of_none, addStmts_of_none]
      exact .ok ⟨graphs, rfl⟩
  | _, _, _, _, some here, .nil, graphs => .ok ⟨graphs, rfl⟩
  | _, _, _, _, some here, .cons first behind, graphs => by
      refine (first.addStmt graphs).bind ?_
      rintro ⟨grown, reached⟩ ⟨further, _⟩ ⟨fronts, rfl⟩
      exact behind.addStmts fronts
  | _, _, _, _, some here, .insert added behind, graphs =>
      behind.addStmts (graphs.insert here added)

end

theorem Source.graphPair_seed (source other : Source) :
    GraphPair heads extra source.seed other.seed := by
  refine ⟨rfl, by simp, by simp, ?_⟩
  intro number
  rw [stmtsAt_seed, stmtsAt_seed]
  exact .nil

/-- The graphs of two bodies of one shape. -/
theorem Source.graph_alike {source other : Source}
    (pairs : StmtsPair heads extra source.stmts other.stmts) :
    EndAlike (GraphPair heads extra) source.graph other.graph := by
  rw [graph_eq_addStmts, graph_eq_addStmts]
  refine (pairs.addStmts (source.graphPair_seed other)).bind ?_
  rintro ⟨graph, _⟩ ⟨larger, _⟩ ⟨graphs, _⟩
  exact .ok graphs

end PlcLint.Flow
