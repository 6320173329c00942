import PlcLint.Proofs.Flow.Roles

/-!
The construction of a program graph as a run of guarded steps. A step goes on only behind a node
that no `RETURN` has ended. It puts statements only where no edge leaves yet, and leads edges only
to nodes that no edge leaves, except for the way back from a `CONTINUE` to the first node of the
loop's body. What each step keeps holds of every program graph.
-/

namespace PlcLint.Flow

/-- How many statements a node gets with the statement that it stands for. -/
def broughtCount : Option Stmt → Nat
  | some (.label _ _ (some _)) => 1
  | _ => 0

namespace Graph

variable {graph : Graph} {number : Nat}

/-- The statements of a node, without the one that stands under its label. -/
def ownStmts (graph : Graph) (number : Nat) : List Stmt :=
  (graph.node number).stmts.drop (broughtCount (graph.ownerAt number))

def Unreturned (graph : Graph) (number : Nat) : Prop :=
  ∀ origin, .returnStmt origin ∉ graph.ownStmts number

/-- The node ends with `CONTINUE`. -/
def Continues (graph : Graph) (number : Nat) : Prop :=
  ∃ origin, (graph.node number).stmts.getLast? = some (.continueStmt origin)

/-- The node is the first one of the body of a loop. -/
def StartsLoop (graph : Graph) (number : Nat) : Prop :=
  (graph.node number).label = some "loop_start" ∧ graph.ownerAt number = none

theorem unreturned_of_stmts_eq_nil (empty : (graph.node number).stmts = []) :
    graph.Unreturned number := by
  simp [Unreturned, ownStmts, empty]

theorem ownStmts_append (inside : number < graph.size) (stmt : Stmt) :
    (graph.append number stmt).ownStmts number = graph.ownStmts number ∨
      (graph.append number stmt).ownStmts number = graph.ownStmts number ++ [stmt] := by
  rw [ownStmts, ownStmts, ownerAt_append, node_append, if_pos ⟨rfl, inside⟩, List.drop_append]
  cases broughtCount (graph.ownerAt number) - (graph.node number).stmts.length with
  | zero => exact .inr rfl
  | succ missing => exact .inl (by simp)

theorem Unreturned.append (unreturned : graph.Unreturned number) (inside : number < graph.size)
    {stmt : Stmt} (goesOn : ∀ origin, stmt ≠ .returnStmt origin) :
    (graph.append number stmt).Unreturned number := by
  intro origin returned
  rcases ownStmts_append inside stmt with same | more
  · exact unreturned origin (same ▸ returned)
  · rw [more, List.mem_append, List.mem_singleton] at returned
    rcases returned with old | rfl
    · exact unreturned origin old
    · exact goesOn origin rfl

end Graph

/-- Code can go on behind the node. -/
structure GoesOn (touched : Nat → Prop) (graph : Graph) (number : Nat) : Prop where
  touched : touched number
  inside : number < graph.size
  unreturned : graph.Unreturned number

/-- One step of the construction. Statements and edges are added only at the nodes that `touched`
holds of, and only the statements that `code` holds of are put on nodes. -/
inductive BuildStep (touched : Nat → Prop) (code : Stmt → Prop) (graph : Graph) : Graph → Prop
  | join (label : String) : BuildStep touched code graph (graph.add { label := some label })
  | follow {source : Nat} (goesOn : GoesOn touched graph source) (label : String)
      {owner : Option Stmt} (ofCode : ∀ stmt ∈ owner, code stmt) :
      BuildStep touched code graph (graph.follow source label owner)
  | append {number : Nat} (goesOn : GoesOn touched graph number) (ends : graph.next number = [])
      {stmt : Stmt} (ofCode : code stmt) : BuildStep touched code graph (graph.append number stmt)
  | link {source target : Nat} (goesOn : GoesOn touched graph source)
      (targetInside : target < graph.size) (notStart : 0 < target) (other : target ≠ source)
      (ends : graph.next target = []) : BuildStep touched code graph (graph.link source target)
  | jump {source target : Nat} (goesOn : GoesOn touched graph source)
      (targetInside : target < graph.size) (notStart : 0 < target)
      (continues : graph.Continues source) (first : graph.StartsLoop target) :
      BuildStep touched code graph (graph.link source target)

abbrev BuildSteps (touched : Nat → Prop) (code : Stmt → Prop) : Graph → Graph → Prop :=
  Relation.ReflTransGen (BuildStep touched code)

section

variable {touched wider : Nat → Prop} {code : Stmt → Prop} {graph middle grown : Graph}
  {number : Nat}

theorem BuildStep.grows (step : BuildStep touched code graph grown) : Grows graph grown := by
  cases step with
  | join label => exact .single (.add _ _)
  | follow goesOn label ofCode => exact .follow goesOn.inside _ _
  | append goesOn ends ofCode => exact .single (.append goesOn.inside _)
  | link goesOn targetInside notStart => exact .single (.link goesOn.inside targetInside notStart)
  | jump goesOn targetInside notStart => exact .single (.link goesOn.inside targetInside notStart)

theorem BuildStep.widen (wide : ∀ number, touched number → wider number)
    (step : BuildStep touched code graph grown) : BuildStep wider code graph grown := by
  have goOn {number : Nat} (goesOn : GoesOn touched graph number) : GoesOn wider graph number :=
    ⟨wide number goesOn.touched, goesOn.inside, goesOn.unreturned⟩
  cases step with
  | join label => exact .join label
  | follow goesOn label ofCode => exact .follow (goOn goesOn) label ofCode
  | append goesOn ends ofCode => exact .append (goOn goesOn) ends ofCode
  | link goesOn targetInside notStart other ends =>
      exact .link (goOn goesOn) targetInside notStart other ends
  | jump goesOn targetInside notStart continues first =>
      exact .jump (goOn goesOn) targetInside notStart continues first

/-- Of a node that is not touched only the predecessors change. -/
theorem BuildStep.node_eq (step : BuildStep touched code graph grown) (inside : number < graph.size)
    (untouched : ¬touched number) :
    grown.node number = { graph.node number with prev := grown.prev number } := by
  have other {source : Nat} (goesOn : GoesOn touched graph source) : source ≠ number :=
    fun same => untouched (same ▸ goesOn.touched)
  cases step with
  | join label =>
      rw [Graph.prev, Graph.node_add, if_neg (Nat.ne_of_lt inside)]
  | follow goesOn label ofCode =>
      simp [Graph.prev, Graph.follow, Graph.node_link, Graph.node_add, Nat.ne_of_lt inside,
        other goesOn, Graph.next]
  | append goesOn ends ofCode => simp [Graph.prev, Graph.node_append, other goesOn]
  | link goesOn => simp [Graph.prev, Graph.node_link, other goesOn, Graph.next]
  | jump goesOn => simp [Graph.prev, Graph.node_link, other goesOn, Graph.next]

namespace BuildSteps

theorem grows (run : BuildSteps touched code graph grown) : Grows graph grown := by
  induction run with
  | refl => exact .refl
  | tail _ step inductionHypothesis => exact inductionHypothesis.trans step.grows

theorem widen (run : BuildSteps touched code graph grown)
    (wide : ∀ number, touched number → wider number) : BuildSteps wider code graph grown :=
  Relation.ReflTransGen.mono (fun _ _ step => BuildStep.widen wide step) _ _ run

theorem node_eq (run : BuildSteps touched code graph grown) (inside : number < graph.size)
    (untouched : ¬touched number) :
    grown.node number = { graph.node number with prev := grown.prev number } := by
  induction run with
  | refl => rfl
  | tail earlier step inductionHypothesis =>
      have nowInside := Nat.lt_of_lt_of_le inside (BuildSteps.grows earlier).size_le
      rw [step.node_eq nowInside untouched, inductionHypothesis]

theorem next_eq (run : BuildSteps touched code graph grown) (inside : number < graph.size)
    (untouched : ¬touched number) : grown.next number = graph.next number := by
  rw [Graph.next, run.node_eq inside untouched, Graph.next]

theorem unreturned (run : BuildSteps touched code graph grown) (inside : number < graph.size)
    (untouched : ¬touched number) (unreturned : graph.Unreturned number) :
    grown.Unreturned number := by
  simpa [Graph.Unreturned, Graph.ownStmts, Graph.ownerAt, run.node_eq inside untouched]
    using unreturned

end BuildSteps

theorem Graph.StartsLoop.grow (first : graph.StartsLoop number) (growth : Grows graph grown)
    (inside : number < graph.size) : grown.StartsLoop number :=
  ⟨(growth.label inside).trans first.1, (growth.ownerAt inside).trans first.2⟩

end

/-- The nodes that code behind `here` changes: this one and new ones. -/
def Onward (graph : Graph) (here number : Nat) : Prop := number = here ∨ graph.size ≤ number

/-- Code can be added behind `here`. -/
structure Tip (targets : LoopTargets) (graph : Graph) (here : Nat) : Prop where
  inside : targets.Inside graph
  hereInside : here < graph.size
  unreturned : graph.Unreturned here
  exitEnds : ∀ target, targets.onExit = some target → target ≠ here ∧ graph.next target = []
  againStarts : ∀ target, targets.onContinue = some target → graph.StartsLoop target

/-- Branches can be added behind `here` that join at `final`. -/
structure Fork (targets : LoopTargets) (graph : Graph) (here final : Nat) : Prop
    extends Tip targets graph here where
  finalInside : final < graph.size
  notStart : 0 < final
  other : final ≠ here
  finalEnds : graph.next final = []

section

variable {touched : Nat → Prop} {code : Stmt → Prop} {targets : LoopTargets}
  {graph middle grown : Graph} {here final number : Nat} {owner : Option Stmt}

namespace Tip

theorem onward (tip : Tip targets graph here) : GoesOn (Onward graph here) graph here :=
  ⟨.inl rfl, tip.hereInside, tip.unreturned⟩

theorem not_onward_exit (tip : Tip targets graph here) {target : Nat}
    (exit : targets.onExit = some target) : ¬Onward graph here target := by
  have different := (tip.exitEnds target exit).1
  have bounded := (tip.inside target (.inl exit)).2
  unfold Onward
  omega

/-- Steps elsewhere leave the place usable. -/
theorem grow (tip : Tip targets graph here) (run : BuildSteps touched code graph grown)
    (untouched : ¬touched here)
    (exitUntouched : ∀ target, targets.onExit = some target → ¬touched target) :
    Tip targets grown here := by
  refine ⟨tip.inside.grow run.grows, Nat.lt_of_lt_of_le tip.hereInside run.grows.size_le,
    run.unreturned tip.hereInside untouched tip.unreturned, ?_, ?_⟩
  · intro target exit
    obtain ⟨different, ends⟩ := tip.exitEnds target exit
    rw [run.next_eq (tip.inside target (.inl exit)).2 (exitUntouched target exit)]
    exact ⟨different, ends⟩
  · intro target again
    exact (tip.againStarts target again).grow run.grows (tip.inside target (.inr again)).2

/-- A new node without edges and statements. -/
theorem addJoin (tip : Tip targets graph here) (label : String) :
    Tip targets (graph.add { label := some label }) graph.size := by
  have growth : Grows graph (graph.add { label := some label }) := .single (.add _ _)
  refine ⟨tip.inside.grow growth, by simp, Graph.unreturned_of_stmts_eq_nil
    (by simp [Graph.node_add]), ?_, ?_⟩
  · intro target exit
    rw [Graph.next_add]
    exact ⟨Nat.ne_of_lt (tip.inside target (.inl exit)).2, (tip.exitEnds target exit).2⟩
  · intro target again
    exact (tip.againStarts target again).grow growth (tip.inside target (.inr again)).2

theorem follow (tip : Tip targets graph here) (label : String) (owner : Option Stmt) :
    Tip targets (graph.follow here label owner) graph.size := by
  have growth := Grows.follow tip.hereInside label owner
  refine ⟨tip.inside.grow growth, by simp, Graph.unreturned_of_stmts_eq_nil
    (by simp [Graph.follow, Graph.node_link, Graph.node_add]), ?_, ?_⟩
  · intro target exit
    obtain ⟨different, ends⟩ := tip.exitEnds target exit
    rw [Graph.next_follow_of_ne different]
    exact ⟨Nat.ne_of_lt (tip.inside target (.inl exit)).2, ends⟩
  · intro target again
    exact (tip.againStarts target again).grow growth (tip.inside target (.inr again)).2

/-- The node itself, once a new node stands behind it. -/
theorem follow_self (tip : Tip targets graph here) (label : String) (owner : Option Stmt) :
    Tip targets (graph.follow here label owner) here := by
  have growth := Grows.follow tip.hereInside label owner
  refine ⟨tip.inside.grow growth, Graph.lt_size_follow tip.hereInside label owner, ?_, ?_, ?_⟩
  · simpa [Graph.Unreturned, Graph.ownStmts, Graph.ownerAt, Graph.follow, Graph.node_link,
      Graph.node_add, Nat.ne_of_lt tip.hereInside] using tip.unreturned
  · intro target exit
    obtain ⟨different, ends⟩ := tip.exitEnds target exit
    rw [Graph.next_follow_of_ne different]
    exact ⟨different, ends⟩
  · intro target again
    exact (tip.againStarts target again).grow growth (tip.inside target (.inr again)).2

theorem append (tip : Tip targets graph here) {stmt : Stmt}
    (unreturned : (graph.append here stmt).Unreturned here) :
    Tip targets (graph.append here stmt) here := by
  have growth : Grows graph (graph.append here stmt) := .single (.append tip.hereInside stmt)
  refine ⟨tip.inside.grow growth, by simpa using tip.hereInside, unreturned, ?_, ?_⟩
  · intro target exit
    rw [Graph.next_append]
    exact tip.exitEnds target exit
  · intro target again
    exact (tip.againStarts target again).grow growth (tip.inside target (.inr again)).2

end Tip

namespace Fork

theorem addJoin (tip : Tip targets graph here) (label : String) :
    Fork targets (graph.add { label := some label }) here graph.size := by
  have bounded := tip.hereInside
  have untouched := tip.grow (.single (.join label) : BuildSteps (fun _ => False) (fun _ => True)
    graph _) id (fun _ _ => id)
  refine ⟨untouched, by simp, by omega, by omega, ?_⟩
  rw [Graph.next_add, Graph.next_of_size_le (Nat.le_refl _)]

theorem grow (fork : Fork targets graph here final) (run : BuildSteps touched code graph grown)
    (untouched : ¬touched here) (finalUntouched : ¬touched final)
    (exitUntouched : ∀ target, targets.onExit = some target → ¬touched target) :
    Fork targets grown here final := by
  refine ⟨fork.toTip.grow run untouched exitUntouched,
    Nat.lt_of_lt_of_le fork.finalInside run.grows.size_le, fork.notStart, fork.other, ?_⟩
  rw [run.next_eq fork.finalInside finalUntouched]
  exact fork.finalEnds

theorem not_onward_final (fork : Fork targets graph here final) : ¬Onward graph here final := by
  have different := fork.other
  have bounded := fork.finalInside
  unfold Onward
  omega

/-- The place for a branch that starts at a new node behind `here`. -/
theorem follow (fork : Fork targets graph here final) (label : String) (owner : Option Stmt) :
    Fork targets (graph.follow here label owner) graph.size final := by
  refine ⟨fork.toTip.follow label owner, Graph.lt_size_follow fork.finalInside label owner,
    fork.notStart, Nat.ne_of_lt fork.finalInside, ?_⟩
  rw [Graph.next_follow_of_ne fork.other]
  exact fork.finalEnds

theorem follow_self (fork : Fork targets graph here final) (label : String)
    (owner : Option Stmt) : Fork targets (graph.follow here label owner) here final := by
  refine ⟨fork.toTip.follow_self label owner, Graph.lt_size_follow fork.finalInside label owner,
    fork.notStart, fork.other, ?_⟩
  rw [Graph.next_follow_of_ne fork.other]
  exact fork.finalEnds

/-- Once a branch is there, the next one can be added. -/
theorem branch (fork : Fork targets graph here final) {label : String}
    (ofCode : ∀ stmt ∈ owner, code stmt)
    (run : BuildSteps (Onward (graph.follow here label owner) graph.size) code
      (graph.follow here label owner) grown) :
    BuildSteps (Onward graph here) code graph grown ∧ Fork targets grown here final := by
  have new (number : Nat) (isOnward : Onward (graph.follow here label owner) graph.size number) :
      graph.size ≤ number := by
    rcases isOnward with rfl | beyond
    · exact Nat.le_refl _
    · rw [Graph.size_follow] at beyond
      omega
  refine ⟨.head (.follow fork.onward label ofCode) (run.widen fun number isOnward =>
    .inr (new number isOnward)), ?_⟩
  refine (fork.follow_self label owner).grow run ?_ ?_ ?_
  · exact fun isOnward => Nat.not_lt.mpr (new here isOnward) fork.hereInside
  · exact fun isOnward => Nat.not_lt.mpr (new final isOnward) fork.finalInside
  · intro target exit isOnward
    exact Nat.not_lt.mpr (new target isOnward) (fork.inside target (.inl exit)).2

theorem link_step (fork : Fork targets graph here final) :
    BuildStep (Onward graph here) code graph (graph.link here final) :=
  .link fork.onward fork.finalInside fork.notStart fork.other fork.finalEnds

/-- A branch without statements. -/
theorem bypass (fork : Fork targets graph here final) (label : String) :
    BuildSteps (Onward graph here) code graph ((graph.follow here label).link graph.size final) ∧
      Fork targets ((graph.follow here label).link graph.size final) here final :=
  fork.branch (by simp) (.single (fork.follow label none).link_step)

end Fork

theorem Onward.trans {reached : Nat} (isOnward : Onward graph here reached)
    (growth : Grows graph middle) (further : Onward middle reached number) :
    Onward graph here number := by
  rcases further with rfl | beyond
  · exact isOnward
  · exact .inr (Nat.le_trans growth.size_le beyond)

/-- Steps behind a node, then behind a node that they have reached. -/
theorem BuildSteps.onward_trans {reached : Nat}
    (first : BuildSteps (Onward graph here) code graph middle)
    (isOnward : Onward graph here reached)
    (last : BuildSteps (Onward middle reached) code middle grown) :
    BuildSteps (Onward graph here) code graph grown :=
  first.trans (last.widen fun _ => isOnward.trans first.grows)

/-- The place for the body of a loop. -/
theorem Fork.loopBody (hereInside : here < graph.size) :
    Fork ⟨some (graph.size + 1), some graph.size⟩ (loopFrame graph here "loop_start" "loop_end")
      graph.size (graph.size + 1) := by
  have placed := Placed.loopBody hereInside "loop_start" "loop_end"
  have finalEnds :
      (loopFrame graph here "loop_start" "loop_end").next (graph.size + 1) = [] := by
    rw [Graph.next_add, Graph.next_follow_of_ne (by omega), Graph.next_of_size_le (by omega)]
  have isStart : (loopFrame graph here "loop_start" "loop_end").node graph.size =
      { label := some "loop_start", prev := [here] } := by
    simp [Graph.node_add, Graph.follow, Graph.node_link, Graph.next, Graph.prev,
      insertNew, Nat.ne_of_lt hereInside]
  refine ⟨⟨placed.inside, placed.hereInside, ?_, ?_, ?_⟩, placed.finalInside, placed.notStart,
    by omega, finalEnds⟩
  · exact Graph.unreturned_of_stmts_eq_nil (by rw [isStart])
  · rintro target ⟨⟩
    exact ⟨by omega, finalEnds⟩
  · rintro target ⟨⟩
    simp [Graph.StartsLoop, Graph.ownerAt, isStart]

end

/-- The front comes by guarded steps behind `here`, and code can be added at its end. -/
structure Arrives (code : Stmt → Prop) (targets : LoopTargets) (here : Nat) (graph : Graph)
    (front : Front) : Prop where
  run : BuildSteps (Onward graph here) code graph front.1
  reached : ∀ number, front.2 = some number →
    Onward graph here number ∧ Tip targets front.1 number ∧ front.1.next number = []

/-- The branches of a fork lead to its join. -/
theorem Arrives.atJoin {code : Stmt → Prop} {targets : LoopTargets} {graph forked grown : Graph}
    {here head final : Nat} (lead : BuildSteps (Onward graph here) code graph forked)
    (isOnward : Onward graph here head) (fork : Fork targets forked head final)
    (finalTip : Tip targets forked final) (isNew : graph.size ≤ final)
    (branches :
      BuildSteps (Onward forked head) code forked grown ∧ Fork targets grown head final) :
    Arrives code targets here graph (grown, some final) := by
  obtain ⟨run, past⟩ := branches
  refine ⟨lead.onward_trans isOnward run, ?_⟩
  rintro number ⟨⟩
  exact ⟨.inr isNew, finalTip.grow run fork.not_onward_final (fun _ => fork.not_onward_exit),
    past.finalEnds⟩

theorem mem_stmtOccurrences_self (inLoop processed : Bool) (stmt : Stmt) :
    ⟨stmt, inLoop, processed⟩ ∈ stmtOccurrences inLoop processed stmt := by
  cases stmt with
  | action | exitStmt | continueStmt | returnStmt | jump | foreign => simp [stmtOccurrences]
  | label origin name inner => simp [stmtOccurrences_label]
  | ifThen origin condition body elseIfs otherwise => simp [stmtOccurrences_ifThen]
  | select origin subject arms otherwise => simp [stmtOccurrences_select]
  | loop origin head body => simp [stmtOccurrences]

/-! What adding a part of the code does at a fork. -/

def BlockSteps (code : Stmt → Prop) (block : Block) : Prop :=
  ∀ {targets : LoopTargets} {graph grown : Graph} {here final : Nat},
    Fork targets graph here final → graph.next here = [] →
    addBranch targets graph here final block = .ok grown →
    BuildSteps (Onward graph here) code graph grown

def ElseIfsSteps (code : Stmt → Prop) (elseIfs : List ElseIf) : Prop :=
  ∀ {targets : LoopTargets} {graph grown : Graph} {here final : Nat},
    Fork targets graph here final → addElseIfs targets graph here final elseIfs = .ok grown →
    BuildSteps (Onward graph here) code graph grown ∧ Fork targets grown here final

def ArmsSteps (code : Stmt → Prop) (owner : Stmt) (arms : List Arm) : Prop :=
  ∀ {targets : LoopTargets} {graph grown : Graph} {head final : Nat},
    Fork targets graph head final → addArms targets graph owner head final arms = .ok grown →
    BuildSteps (Onward graph head) code graph grown ∧ Fork targets grown head final

section

variable {code : Stmt → Prop} {targets : LoopTargets} {graph : Graph} {here : Nat} {front : Front}
  (tip : Tip targets graph here)
include tip

theorem label_arrives {origin : Origin} {name : String} {inner : Option Stmt}
    (isCode : code (.label origin name inner))
    (innerCode : ∀ stmt, inner = some stmt → code stmt)
    (built : addStmt targets graph here (.label origin name inner) = .ok front) :
    Arrives code targets here graph front := by
  simp only [addStmt, Except.ok.injEq] at built
  subst built
  have followed := tip.follow name (some (.label origin name inner))
  have followedEnds := Graph.next_follow_size tip.hereInside name
    (some (.label origin name inner))
  have step : BuildStep (Onward graph here) code graph
      (graph.follow here name (some (.label origin name inner))) :=
    .follow tip.onward name (by simpa using isCode)
  have isNew : Onward graph here graph.size := .inr (Nat.le_refl _)
  cases inner with
  | none =>
      refine ⟨.single step, ?_⟩
      rintro number ⟨⟩
      exact ⟨isNew, followed, followedEnds⟩
  | some inner =>
      refine ⟨.tail (.single step) (.append
        ⟨isNew, followed.hereInside, followed.unreturned⟩ followedEnds (innerCode inner rfl)), ?_⟩
      rintro number ⟨⟩
      -- What stands under the label is not the node's own, be it a `RETURN`.
      have unreturned :
          ((graph.follow here name (some (.label origin name (some inner)))).append
            graph.size inner).Unreturned graph.size := by
        simp [Graph.Unreturned, Graph.ownStmts, Graph.follow, Graph.ownerAt_add,
          Graph.node_append, Graph.node_link, Graph.node_add, broughtCount]
      exact ⟨isNew, followed.append unreturned, by simpa using followedEnds⟩

theorem ifThen_arrives {origin : Origin} {condition : Expr} {body : Block}
    {elseIfs : List ElseIf} {otherwise : Option Block}
    (isCode : code (.ifThen origin condition body elseIfs otherwise))
    (bodySteps : BlockSteps code body) (elseIfsSteps : ElseIfsSteps code elseIfs)
    (otherwiseSteps : ∀ block, otherwise = some block → BlockSteps code block)
    (built : addStmt targets graph here (.ifThen origin condition body elseIfs otherwise) =
      .ok front) : Arrives code targets here graph front := by
  obtain ⟨_, afterThen, afterElseIfs, afterElse, label, rfl, builtThen, builtElseIfs,
    builtElse, rfl⟩ := addStmt_ifThen built
  have fork := Fork.addJoin tip "if_end"
  obtain ⟨thenRun, pastThen⟩ := fork.branch (by simpa using isCode)
    (bodySteps (fork.follow _ _) (Graph.next_follow_size fork.hereInside _ _) builtThen)
  obtain ⟨elseIfsRun, pastElseIfs⟩ := elseIfsSteps pastThen builtElseIfs
  obtain ⟨elseRun, pastElse⟩ : BuildSteps (Onward afterElseIfs here) code afterElseIfs
      afterElse ∧ Fork targets afterElse here graph.size := by
    cases otherwise with
    | none =>
        obtain rfl := addBranch_missing builtElse
        exact pastElseIfs.bypass label
    | some block =>
        exact pastElseIfs.branch (by simp) (otherwiseSteps block rfl
          (pastElseIfs.follow label none)
          (Graph.next_follow_size pastElseIfs.hereInside label none) builtElse)
  exact .atJoin (.single (.join "if_end")) (.inl rfl) fork (tip.addJoin "if_end")
    (Nat.le_refl _)
    ⟨(thenRun.onward_trans (.inl rfl) elseIfsRun).onward_trans (.inl rfl) elseRun, pastElse⟩

theorem select_arrives {origin : Origin} {subject : Expr} {arms : List Arm}
    {otherwise : Option Block} (isCode : code (.select origin subject arms otherwise))
    (armsSteps : ArmsSteps code (.select origin subject arms otherwise) arms)
    (otherwiseSteps : ∀ block, otherwise = some block → BlockSteps code block)
    (built : addStmt targets graph here (.select origin subject arms otherwise) = .ok front) :
    Arrives code targets here graph front := by
  obtain ⟨headed, afterArms, afterElse, isHeaded, builtArms, builtElse, rfl⟩ :=
    addStmt_select built
  have headStep : BuildStep (Onward graph here) code graph headed :=
    isHeaded ▸ .follow tip.onward _ (by simpa using isCode)
  have headTip : Tip targets headed graph.size := isHeaded ▸ tip.follow _ _
  have fork := Fork.addJoin headTip "case_end"
  obtain ⟨armsRun, pastArms⟩ := armsSteps fork builtArms
  obtain ⟨elseRun, pastElse⟩ : BuildSteps (Onward afterArms graph.size) code afterArms
      afterElse ∧ Fork targets afterElse graph.size headed.size := by
    cases otherwise with
    | none =>
        subst builtElse
        exact ⟨.refl, pastArms⟩
    | some block =>
        exact pastArms.branch (by simp) (otherwiseSteps block rfl
          (pastArms.follow "else" none)
          (Graph.next_follow_size pastArms.hereInside "else" none) builtElse)
  exact .atJoin (.tail (.single headStep) (.join "case_end")) (.inr (Nat.le_refl _)) fork
    (headTip.addJoin "case_end") (Nat.le_of_lt headTip.hereInside)
    ⟨armsRun.onward_trans (.inl rfl) elseRun, pastElse⟩

theorem loop_arrives {origin : Origin} {head : LoopHead} {body : Block}
    (isCode : code (.loop origin head body)) (bodySteps : BlockSteps code body)
    (built : addStmt targets graph here (.loop origin head body) = .ok front) :
    Arrives code targets here graph front := by
  obtain ⟨headed, afterBody, isHeaded, builtBody, rfl⟩ := addStmt_loop built
  have headStep : BuildStep (Onward graph here) code graph headed :=
    isHeaded ▸ .follow tip.onward _ (by simpa using isCode)
  have headTip : Tip targets headed graph.size := isHeaded ▸ tip.follow _ _
  have started := headTip.follow_self "loop_start" none
  have larger := headTip.hereInside
  have frameRun : BuildSteps (Onward graph here) code graph
      (loopFrame headed graph.size "loop_start" "loop_end") :=
    .tail (.tail (.single headStep) (.follow ⟨.inr (Nat.le_refl _), headTip.hereInside,
      headTip.unreturned⟩ "loop_start" (by simp))) (.join "loop_end")
  have bodyRun := bodySteps (.loopBody headTip.hereInside)
    (by rw [Graph.next_add, Graph.next_follow_size headTip.hereInside]) builtBody
  -- The body changes nothing at the head, at the end of the loop and before the loop.
  have untouched {number : Nat} (other : number ≤ graph.size ∨ number = headed.size + 1) :
      ¬Onward (loopFrame headed graph.size "loop_start" "loop_end") headed.size number := by
    rw [Onward, size_loopFrame]
    omega
  have exitUntouched (target : Nat) (exit : targets.onExit = some target) :=
    untouched (.inl (Nat.le_of_lt (tip.inside target (.inl exit)).2))
  have finalTip := (started.addJoin "loop_end").grow bodyRun
    (untouched (.inr (Graph.size_follow _ _ _))) exitUntouched
  have pastBody := (Fork.addJoin started "loop_end").grow bodyRun
    (untouched (.inl (Nat.le_refl _))) (untouched (.inr (Graph.size_follow _ _ _)))
    exitUntouched
  rw [Graph.size_follow] at finalTip pastBody
  exact .atJoin (frameRun.onward_trans (.inr (Nat.le_of_lt larger)) bodyRun)
    (.inr (Nat.le_refl _)) pastBody finalTip (by omega) (pastBody.bypass "_else")

end

mutual

theorem addStmt_arrives {code : Stmt → Prop} {targets : LoopTargets} {graph : Graph} {here : Nat}
    (stmt : Stmt) {front : Front} {inLoop processed : Bool}
    (ofCode : ∀ occurrence ∈ stmtOccurrences inLoop processed stmt, code occurrence.stmt)
    (tip : Tip targets graph here) (ends : graph.next here = [])
    (built : addStmt targets graph here stmt = .ok front) :
    Arrives code targets here graph front := by
  have isCode : code stmt := ofCode _ (mem_stmtOccurrences_self inLoop processed stmt)
  cases stmt with
  | action origin deed =>
      simp only [addStmt, Except.ok.injEq] at built
      subst built
      refine ⟨.single (.append tip.onward ends isCode), ?_⟩
      rintro number ⟨⟩
      exact ⟨.inl rfl, tip.append (tip.unreturned.append tip.hereInside (by simp)),
        by simpa using ends⟩
  | exitStmt origin =>
      obtain ⟨target, exit, rfl⟩ := addStmt_exit built
      have appended : Tip targets (graph.append here (.exitStmt origin)) here :=
        tip.append (tip.unreturned.append tip.hereInside (by simp))
      obtain ⟨positive, bounded⟩ := appended.inside target (.inl exit)
      obtain ⟨different, targetEnds⟩ := appended.exitEnds target exit
      exact ⟨.tail (.single (.append tip.onward ends isCode))
        (.link ⟨.inl rfl, appended.hereInside, appended.unreturned⟩ bounded positive different
          targetEnds), by simp⟩
  | continueStmt origin =>
      obtain ⟨target, again, rfl⟩ := addStmt_continue built
      have appended : Tip targets (graph.append here (.continueStmt origin)) here :=
        tip.append (tip.unreturned.append tip.hereInside (by simp))
      obtain ⟨positive, bounded⟩ := appended.inside target (.inr again)
      have continues : (graph.append here (.continueStmt origin)).Continues here :=
        ⟨origin, by simp [Graph.node_append, tip.hereInside]⟩
      exact ⟨.tail (.single (.append tip.onward ends isCode))
        (.jump ⟨.inl rfl, appended.hereInside, appended.unreturned⟩ bounded positive continues
          (appended.againStarts target again)), by simp⟩
  | returnStmt origin =>
      simp only [addStmt, Except.ok.injEq] at built
      subst built
      exact ⟨.single (.append tip.onward ends isCode), by simp⟩
  | jump origin target => simp [addStmt] at built
  | foreign origin name => simp [addStmt] at built
  | label origin name inner =>
      refine label_arrives tip isCode ?_ built
      rintro stmt rfl
      apply ofCode ⟨stmt, inLoop, false⟩
      rw [stmtOccurrences_label]
      simp [mem_stmtOccurrences_self]
  | ifThen origin condition body elseIfs otherwise =>
      rw [stmtOccurrences_ifThen, List.forall_mem_cons, List.forall_mem_append,
        List.forall_mem_append] at ofCode
      obtain ⟨_, bodyCode, elseIfsCode, elseCode⟩ := ofCode
      refine ifThen_arrives tip isCode (addBranch_steps body bodyCode)
        (addElseIfs_steps elseIfs elseIfsCode) ?_ built
      cases otherwise with
      | none =>
          intro block isBlock
          cases isBlock
      | some given =>
          rintro block ⟨⟩
          exact addBranch_steps given elseCode
  | select origin subject arms otherwise =>
      rw [stmtOccurrences_select, List.forall_mem_cons, List.forall_mem_append] at ofCode
      obtain ⟨_, armsCode, elseCode⟩ := ofCode
      refine select_arrives tip isCode (addArms_steps arms armsCode isCode) ?_ built
      cases otherwise with
      | none =>
          intro block isBlock
          cases isBlock
      | some given =>
          rintro block ⟨⟩
          exact addBranch_steps given elseCode
  | loop origin head body =>
      rw [stmtOccurrences, List.forall_mem_cons] at ofCode
      exact loop_arrives tip isCode (addBranch_steps body ofCode.2) built
termination_by structural stmt

theorem addBranch_steps {code : Stmt → Prop} {targets : LoopTargets} {graph grown : Graph}
    {here final : Nat} (block : Block) {inLoop processed : Bool}
    (ofCode : ∀ occurrence ∈ blockOccurrences inLoop processed block, code occurrence.stmt)
    (fork : Fork targets graph here final) (ends : graph.next here = [])
    (built : addBranch targets graph here final block = .ok grown) :
    BuildSteps (Onward graph here) code graph grown := by
  cases block with
  | missing =>
      obtain rfl := addBranch_missing built
      exact .single fork.link_step
  | given stmts =>
      obtain ⟨middle, reached, builtStmts, rfl⟩ := addBranch_given built
      have arrives := addStmts_arrives stmts ofCode fork.toTip ends builtStmts
      cases reached with
      | none => exact arrives.run
      | some number =>
          obtain ⟨isOnward, tip, _⟩ := arrives.reached number rfl
          refine arrives.run.tail (.link ⟨isOnward, tip.hereInside, tip.unreturned⟩
            (Nat.lt_of_lt_of_le fork.finalInside arrives.run.grows.size_le) fork.notStart ?_ ?_)
          · rintro rfl
            exact fork.not_onward_final isOnward
          · rw [arrives.run.next_eq fork.finalInside fork.not_onward_final]
            exact fork.finalEnds
termination_by structural block

theorem addElseIfs_steps {code : Stmt → Prop} {targets : LoopTargets} {graph grown : Graph}
    {here final : Nat} (elseIfs : List ElseIf) {inLoop processed : Bool}
    (ofCode : ∀ occurrence ∈ elseIfsOccurrences inLoop processed elseIfs, code occurrence.stmt)
    (fork : Fork targets graph here final)
    (built : addElseIfs targets graph here final elseIfs = .ok grown) :
    BuildSteps (Onward graph here) code graph grown ∧ Fork targets grown here final := by
  cases elseIfs with
  | nil =>
      cases built
      exact ⟨.refl, fork⟩
  | cons elseIf rest =>
      obtain ⟨condition, body⟩ := elseIf
      rw [elseIfsOccurrences, List.forall_mem_append] at ofCode
      rw [addElseIfs] at built
      obtain ⟨middle, builtBody, builtRest⟩ := bind_eq_ok built
      obtain ⟨bodyRun, pastBody⟩ := fork.branch (by simp) (addBranch_steps body ofCode.1
        (fork.follow _ none) (Graph.next_follow_size fork.hereInside _ none) builtBody)
      obtain ⟨restRun, pastRest⟩ := addElseIfs_steps rest ofCode.2 pastBody builtRest
      exact ⟨bodyRun.onward_trans (.inl rfl) restRun, pastRest⟩
termination_by structural elseIfs

theorem addArms_steps {code : Stmt → Prop} {targets : LoopTargets} {graph grown : Graph}
    {owner : Stmt} {head final : Nat} (arms : List Arm) {inLoop processed : Bool}
    (ofCode : ∀ occurrence ∈ armsOccurrences inLoop processed arms, code occurrence.stmt)
    (ownerCode : code owner) (fork : Fork targets graph head final)
    (built : addArms targets graph owner head final arms = .ok grown) :
    BuildSteps (Onward graph head) code graph grown ∧ Fork targets grown head final := by
  cases arms with
  | nil =>
      cases built
      exact ⟨.refl, fork⟩
  | cons arm rest =>
      obtain ⟨values, body⟩ := arm
      rw [armsOccurrences, List.forall_mem_append] at ofCode
      rw [addArms] at built
      obtain ⟨middle, builtBody, builtRest⟩ := bind_eq_ok built
      obtain ⟨bodyRun, pastBody⟩ := fork.branch (by simpa using ownerCode)
        (addBranch_steps body ofCode.1 (fork.follow _ (some owner))
          (Graph.next_follow_size fork.hereInside _ (some owner)) builtBody)
      obtain ⟨restRun, pastRest⟩ := addArms_steps rest ofCode.2 ownerCode pastBody builtRest
      exact ⟨bodyRun.onward_trans (.inl rfl) restRun, pastRest⟩
termination_by structural arms

theorem addStmts_arrives {code : Stmt → Prop} {targets : LoopTargets} {graph : Graph} {here : Nat}
    (stmts : List Stmt) {front : Front} {inLoop processed : Bool}
    (ofCode : ∀ occurrence ∈ stmtsOccurrences inLoop processed stmts, code occurrence.stmt)
    (tip : Tip targets graph here) (ends : graph.next here = [])
    (built : addStmts targets graph (some here) stmts = .ok front) :
    Arrives code targets here graph front := by
  cases stmts with
  | nil =>
      cases built
      exact ⟨.refl, by rintro number ⟨⟩; exact ⟨.inl rfl, tip, ends⟩⟩
  | cons stmt rest =>
      rw [stmtsOccurrences, List.forall_mem_append] at ofCode
      obtain ⟨middle, reached, builtStmt, builtRest⟩ := addStmts_cons built
      have first := addStmt_arrives stmt ofCode.1 tip ends builtStmt
      cases reached with
      | none =>
          cases addStmts_none builtRest
          exact first
      | some number =>
          obtain ⟨isOnward, nextTip, nextEnds⟩ := first.reached number rfl
          have last := addStmts_arrives rest ofCode.2 nextTip nextEnds builtRest
          refine ⟨first.run.onward_trans isOnward last.run, ?_⟩
          intro final isFinal
          obtain ⟨finalOnward, finalTip, finalEnds⟩ := last.reached final isFinal
          exact ⟨isOnward.trans first.run.grows finalOnward, finalTip, finalEnds⟩
termination_by structural stmts

end

/-- A program graph comes by guarded steps that put statements of the code. -/
theorem Source.steps_graph {source : Source} {graph : Graph} (built : source.graph = .ok graph) :
    BuildSteps (Onward source.seed 0)
      (fun stmt => ∃ occurrence ∈ source.occurrences, occurrence.stmt = stmt)
      source.seed graph := by
  obtain ⟨reached, builtStmts⟩ := Source.graph_eq_ok built
  obtain ⟨label, isStart⟩ := source.node_seed 0
  have tip : Tip {} source.seed 0 :=
    ⟨by simp [LoopTargets.Inside], source.linked_seed.nonempty,
      Graph.unreturned_of_stmts_eq_nil (by rw [isStart]), by simp, by simp⟩
  exact (addStmts_arrives source.stmts (fun occurrence stands => ⟨occurrence, stands, rfl⟩) tip
    (by simp) builtStmts).run

end PlcLint.Flow
