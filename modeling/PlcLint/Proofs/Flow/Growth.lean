import Mathlib.Logic.Relation
import PlcLint.Flow.Build
import PlcLint.Proofs.Flow.Edit

/-!
The construction of a program graph as a run of single edits: a new node without edges, a
statement at the end of a node, an edge to a node other than the start. What every edit keeps
holds of every constructed graph; `Linked` is the invariant that the searches need.
-/

namespace PlcLint

/-- A computation that succeeds is made of two that do. -/
theorem bind_eq_ok {α β : Type} {first : Except Fault α} {second : α → Except Fault β} {result : β}
    (succeeds : (first >>= second) = .ok result) :
    ∃ middle, first = .ok middle ∧ second middle = .ok result := by
  cases first with
  | error fault => cases succeeds
  | ok middle => exact ⟨middle, rfl, succeeds⟩

end PlcLint

namespace PlcLint.Flow

/-- The graph in which the body of a loop is built. -/
abbrev loopFrame (graph : Graph) (here : Nat) (startLabel finalLabel : String) : Graph :=
  (graph.follow here startLabel).add { label := some finalLabel }

/-! What a successful construction consists of. A branch of an `IF` that is left out is one without
a block, so that the same lemma serves `IF` with and without `ELSE`. -/

section Inversion

variable {targets : LoopTargets} {graph : Graph} {here : Nat} {front : Front}

theorem addStmt_exit {origin : Origin}
    (built : addStmt targets graph here (.exitStmt origin) = .ok front) :
    ∃ target, targets.onExit = some target ∧
      front = ((graph.append here (.exitStmt origin)).link here target, none) := by
  cases exit : targets.onExit with
  | none => simp [addStmt, exit] at built
  | some target =>
      simp only [addStmt, exit] at built
      exact ⟨target, rfl, (Except.ok.inj built).symm⟩

theorem addStmt_continue {origin : Origin}
    (built : addStmt targets graph here (.continueStmt origin) = .ok front) :
    ∃ target, targets.onContinue = some target ∧
      front = ((graph.append here (.continueStmt origin)).link here target, none) := by
  cases again : targets.onContinue with
  | none => simp [addStmt, again] at built
  | some target =>
      simp only [addStmt, again] at built
      exact ⟨target, rfl, (Except.ok.inj built).symm⟩

/-- The label of the last branch of an `IF`. -/
def elseLabel : Option Block → String
  | some _ => "else"
  | none => "_else"

theorem addStmt_ifThen_elseLabel {origin : Origin} {condition : Expr} {body : Block}
    {elseIfs : List ElseIf} {otherwise : Option Block}
    (built : addStmt targets graph here (.ifThen origin condition body elseIfs otherwise) =
      .ok front) :
    ∃ joined afterThen afterElseIfs afterElse,
      joined = graph.add { label := some "if_end" } ∧
      addBranch targets
        (joined.follow here ("if " ++ condition.text)
          (some (.ifThen origin condition body elseIfs otherwise)))
        joined.size graph.size body = .ok afterThen ∧
      addElseIfs targets afterThen here graph.size elseIfs = .ok afterElseIfs ∧
      addBranch targets (afterElseIfs.follow here (elseLabel otherwise)) afterElseIfs.size
        graph.size (otherwise.getD .missing) = .ok afterElse ∧
      front = (afterElse, some graph.size) := by
  rw [addStmt] at built
  obtain ⟨afterThen, builtThen, built⟩ := bind_eq_ok built
  obtain ⟨afterElseIfs, builtElseIfs, built⟩ := bind_eq_ok built
  cases otherwise with
  | none =>
      refine ⟨_, afterThen, afterElseIfs, (afterElseIfs.follow here "_else").link
        afterElseIfs.size graph.size, rfl, builtThen, builtElseIfs, ?_, ?_⟩
      · rw [Option.getD_none, addBranch, elseLabel]
      · exact (Except.ok.inj built).symm
  | some block =>
      obtain ⟨afterElse, builtElse, built⟩ := bind_eq_ok built
      exact ⟨_, afterThen, afterElseIfs, afterElse, rfl, builtThen, builtElseIfs, builtElse,
        (Except.ok.inj built).symm⟩

theorem addStmt_ifThen {origin : Origin} {condition : Expr} {body : Block}
    {elseIfs : List ElseIf} {otherwise : Option Block}
    (built : addStmt targets graph here (.ifThen origin condition body elseIfs otherwise) =
      .ok front) :
    ∃ joined afterThen afterElseIfs afterElse label,
      joined = graph.add { label := some "if_end" } ∧
      addBranch targets
        (joined.follow here ("if " ++ condition.text)
          (some (.ifThen origin condition body elseIfs otherwise)))
        joined.size graph.size body = .ok afterThen ∧
      addElseIfs targets afterThen here graph.size elseIfs = .ok afterElseIfs ∧
      addBranch targets (afterElseIfs.follow here label) afterElseIfs.size graph.size
        (otherwise.getD .missing) = .ok afterElse ∧
      front = (afterElse, some graph.size) := by
  obtain ⟨joined, afterThen, afterElseIfs, afterElse, parts⟩ := addStmt_ifThen_elseLabel built
  exact ⟨joined, afterThen, afterElseIfs, afterElse, elseLabel otherwise, parts⟩

theorem addStmt_select {origin : Origin} {subject : Expr} {arms : List Arm}
    {otherwise : Option Block}
    (built : addStmt targets graph here (.select origin subject arms otherwise) = .ok front) :
    ∃ headed afterArms afterElse,
      headed = graph.follow here ("CASE " ++ subject.text)
        (some (.select origin subject arms otherwise)) ∧
      addArms targets (headed.add { label := some "case_end" })
        (.select origin subject arms otherwise) graph.size headed.size arms = .ok afterArms ∧
      (match otherwise with
        | none => afterElse = afterArms
        | some block => addBranch targets (afterArms.follow graph.size "else") afterArms.size
            headed.size block = .ok afterElse) ∧
      front = (afterElse, some headed.size) := by
  rw [addStmt] at built
  obtain ⟨afterArms, builtArms, built⟩ := bind_eq_ok built
  cases otherwise with
  | none => exact ⟨_, afterArms, afterArms, rfl, builtArms, rfl, (Except.ok.inj built).symm⟩
  | some block =>
      obtain ⟨afterElse, builtElse, built⟩ := bind_eq_ok built
      exact ⟨_, afterArms, afterElse, rfl, builtArms, builtElse, (Except.ok.inj built).symm⟩

theorem addStmt_loop {origin : Origin} {head : LoopHead} {body : Block}
    (built : addStmt targets graph here (.loop origin head body) = .ok front) :
    ∃ headed afterBody,
      headed = graph.follow here "loop" (some (.loop origin head body)) ∧
      addBranch ⟨some (headed.size + 1), some headed.size⟩
        (loopFrame headed graph.size "loop_start" "loop_end") headed.size (headed.size + 1) body =
          .ok afterBody ∧
      front = ((afterBody.follow graph.size "_else").link afterBody.size (headed.size + 1),
        some (headed.size + 1)) := by
  rw [addStmt] at built
  obtain ⟨afterBody, builtBody, built⟩ := bind_eq_ok built
  rw [Graph.size_follow graph.size] at builtBody
  refine ⟨_, afterBody, rfl, builtBody, ?_⟩
  rw [← Except.ok.inj built, Graph.size_follow graph.size]

theorem addBranch_missing {grown : Graph} {final : Nat}
    (built : addBranch targets graph here final .missing = .ok grown) :
    grown = graph.link here final := by
  rw [addBranch] at built
  exact (Except.ok.inj built).symm

theorem addBranch_given {grown : Graph} {final : Nat} {stmts : List Stmt}
    (built : addBranch targets graph here final (.given stmts) = .ok grown) :
    ∃ middle reached, addStmts targets graph (some here) stmts = .ok (middle, reached) ∧
      grown = middle.join reached final := by
  rw [addBranch] at built
  obtain ⟨⟨middle, reached⟩, builtStmts, built⟩ := bind_eq_ok built
  cases built
  exact ⟨middle, reached, builtStmts, rfl⟩

theorem addStmts_cons {stmt : Stmt} {rest : List Stmt}
    (built : addStmts targets graph (some here) (stmt :: rest) = .ok front) :
    ∃ middle reached, addStmt targets graph here stmt = .ok (middle, reached) ∧
      addStmts targets middle reached rest = .ok front := by
  rw [addStmts] at built
  obtain ⟨⟨middle, reached⟩, builtStmt, built⟩ := bind_eq_ok built
  exact ⟨middle, reached, builtStmt, built⟩

/-- Nothing is added to an end that is not reached. -/
theorem addStmts_of_none (targets : LoopTargets) (graph : Graph) (stmts : List Stmt) :
    addStmts targets graph none stmts = .ok (graph, none) := by
  induction stmts with
  | nil => rw [addStmts]
  | cons stmt rest inductionHypothesis => rw [addStmts, inductionHypothesis]

theorem addStmts_none {stmts : List Stmt}
    (built : addStmts targets graph none stmts = .ok front) : front = (graph, none) := by
  rw [addStmts_of_none] at built
  exact (Except.ok.inj built).symm

end Inversion

/-! A body of a method stops at what is not reached, a block goes on and skips the rest. -/

theorem addStmts_singleton (targets : LoopTargets) (graph : Graph) (here : Nat) (stmt : Stmt) :
    addStmts targets graph (some here) [stmt] = addStmt targets graph here stmt := by
  rw [addStmts]
  cases addStmt targets graph here stmt with
  | error fault => rfl
  | ok front =>
      change addStmts targets front.1 front.2 [] = _
      rw [addStmts]

theorem addBody_eq_addStmts (graph : Graph) (here : Nat) (stmts : List Stmt) :
    addBody graph here stmts = addStmts {} graph (some here) stmts := by
  induction stmts generalizing graph here with
  | nil => rw [addBody, addStmts]
  | cons stmt rest inductionHypothesis =>
      rw [addBody, addStmts]
      cases addStmt {} graph here stmt with
      | error fault => rfl
      | ok front =>
          obtain ⟨middle, reached⟩ := front
          cases reached with
          | none => exact (addStmts_of_none {} middle rest).symm
          | some number => exact inductionHypothesis middle number

/-- One edit of a graph under construction. -/
inductive Edit (graph : Graph) : Graph → Prop
  | add (label : Option String) (owner : Option Stmt) :
      Edit graph (graph.add { label := label, owner := owner })
  | append {number : Nat} (inside : number < graph.size) (stmt : Stmt) :
      Edit graph (graph.append number stmt)
  | link {source target : Nat} (sourceInside : source < graph.size)
      (targetInside : target < graph.size) (notStart : 0 < target) :
      Edit graph (graph.link source target)

/-- The second graph comes from the first by edits. -/
abbrev Grows : Graph → Graph → Prop := Relation.ReflTransGen Edit

theorem Edit.size_le {graph edited : Graph} (edit : Edit graph edited) :
    graph.size ≤ edited.size := by
  cases edit <;> simp

theorem Grows.size_le {graph grown : Graph} (growth : Grows graph grown) :
    graph.size ≤ grown.size := by
  induction growth with
  | refl => exact Nat.le_refl _
  | tail _ edit inductionHypothesis => exact Nat.le_trans inductionHypothesis edit.size_le

theorem Grows.follow {graph : Graph} {source : Nat} (inside : source < graph.size)
    (label : String) (owner : Option Stmt) : Grows graph (graph.follow source label owner) := by
  refine .tail (.single (.add (some label) owner)) (.link ?_ ?_ ?_)
  · rw [Graph.size_add]
    omega
  · simp
  · omega

/-- Targets of `EXIT` and `CONTINUE` are nodes of the graph other than the start. -/
def LoopTargets.Inside (targets : LoopTargets) (graph : Graph) : Prop :=
  ∀ number, targets.onExit = some number ∨ targets.onContinue = some number →
    0 < number ∧ number < graph.size

theorem LoopTargets.Inside.grow {targets : LoopTargets} {graph grown : Graph}
    (inside : targets.Inside graph) (growth : Grows graph grown) : targets.Inside grown := by
  intro number isTarget
  obtain ⟨positive, bounded⟩ := inside number isTarget
  exact ⟨positive, Nat.lt_of_lt_of_le bounded growth.size_le⟩

/-- Code can be added behind `here` that joins at `final`. -/
structure Placed (targets : LoopTargets) (graph : Graph) (here final : Nat) : Prop where
  inside : targets.Inside graph
  hereInside : here < graph.size
  finalInside : final < graph.size
  notStart : 0 < final

namespace Placed

variable {targets : LoopTargets} {graph grown : Graph} {here final : Nat}

theorem grow (placed : Placed targets graph here final) (growth : Grows graph grown) :
    Placed targets grown here final :=
  ⟨placed.inside.grow growth, Nat.lt_of_lt_of_le placed.hereInside growth.size_le,
    Nat.lt_of_lt_of_le placed.finalInside growth.size_le, placed.notStart⟩

/-- The place for a branch that starts at a new node behind `here`. -/
theorem follow (placed : Placed targets graph here final) (label : String)
    (owner : Option Stmt) :
    Placed targets (graph.follow here label owner) graph.size final := by
  have moved := placed.grow (.follow placed.hereInside label owner)
  exact ⟨moved.inside, by simp, moved.finalInside, moved.notStart⟩

theorem link_grows (placed : Placed targets graph here final) :
    Grows graph (graph.link here final) :=
  .single (.link placed.hereInside placed.finalInside placed.notStart)

theorem follow_grows (placed : Placed targets graph here final) {label : String}
    {owner : Option Stmt} (growth : Grows (graph.follow here label owner) grown) :
    Grows graph grown :=
  (Grows.follow placed.hereInside label owner).trans growth

end Placed

/-- The places for the branches of an `IF`, for those of a `CASE` and for the body of a loop. -/
theorem Placed.addJoin {targets : LoopTargets} {graph : Graph} {here : Nat}
    (inside : targets.Inside graph) (hereInside : here < graph.size) (label : String) :
    Placed targets (graph.add { label := some label }) here graph.size := by
  refine ⟨inside.grow (.single (.add _ _)), ?_, ?_, ?_⟩
  · rw [Graph.size_add]
    omega
  · simp
  · omega

section Looping

variable {graph grown : Graph} {here : Nat} {startLabel finalLabel : String}

theorem size_loopFrame : (loopFrame graph here startLabel finalLabel).size = graph.size + 2 := by
  simp

theorem Grows.loopFrame (inside : here < graph.size) (startLabel finalLabel : String) :
    Grows graph (loopFrame graph here startLabel finalLabel) :=
  (Grows.follow inside startLabel none).tail (.add (some finalLabel) none)

theorem Placed.loopBody (hereInside : here < graph.size) (startLabel finalLabel : String) :
    Placed ⟨some (graph.size + 1), some graph.size⟩
      (loopFrame graph here startLabel finalLabel) graph.size (graph.size + 1) := by
  refine ⟨?_, ?_, ?_, ?_⟩
  · rw [LoopTargets.Inside, size_loopFrame]
    rintro number (exit | again)
    · obtain rfl := Option.some.inj exit
      omega
    · obtain rfl := Option.some.inj again
      omega
  · rw [size_loopFrame]
    omega
  · rw [size_loopFrame]
    omega
  · omega

/-- The place for the branch that leaves the body of a loop out. -/
theorem Placed.pastLoop {targets : LoopTargets} (inside : targets.Inside graph)
    (hereInside : here < graph.size)
    (growth : Grows (loopFrame graph here startLabel finalLabel) grown) :
    Placed targets grown here (graph.size + 1) := by
  have larger := growth.size_le
  rw [size_loopFrame] at larger
  exact ⟨inside.grow ((Grows.loopFrame hereInside startLabel finalLabel).trans growth), by omega,
    by omega, by omega⟩

end Looping

theorem Grows.leave {graph : Graph} {here target : Nat} (hereInside : here < graph.size)
    (targetInside : target < graph.size) (notStart : 0 < target) (stmt : Stmt) :
    Grows graph ((graph.append here stmt).link here target) := by
  refine .tail (.single (.append hereInside stmt)) (.link ?_ ?_ notStart)
  · rw [Graph.size_append]
    exact hereInside
  · rw [Graph.size_append]
    exact targetInside

mutual

theorem addStmt_grows {targets : LoopTargets} {graph : Graph} {here : Nat} (stmt : Stmt)
    {front : Front} (inside : targets.Inside graph) (hereInside : here < graph.size)
    (built : addStmt targets graph here stmt = .ok front) :
    Grows graph front.1 ∧ ∀ number, front.2 = some number → number < front.1.size := by
  cases stmt with
  | action origin deed =>
      simp only [addStmt, Except.ok.injEq] at built
      subst built
      exact ⟨.single (.append hereInside _), by rintro number ⟨⟩; simpa using hereInside⟩
  | exitStmt origin =>
      obtain ⟨target, exit, rfl⟩ := addStmt_exit built
      obtain ⟨positive, bounded⟩ := inside target (.inl exit)
      exact ⟨.leave hereInside bounded positive _, by simp⟩
  | continueStmt origin =>
      obtain ⟨target, again, rfl⟩ := addStmt_continue built
      obtain ⟨positive, bounded⟩ := inside target (.inr again)
      exact ⟨.leave hereInside bounded positive _, by simp⟩
  | returnStmt origin =>
      simp only [addStmt, Except.ok.injEq] at built
      subst built
      exact ⟨.single (.append hereInside _), by simp⟩
  | jump origin target => simp [addStmt] at built
  | foreign origin name => simp [addStmt] at built
  | label origin name inner =>
      simp only [addStmt, Except.ok.injEq] at built
      subst built
      have followed := Grows.follow hereInside name (some (.label origin name inner))
      cases inner with
      | none => exact ⟨followed, by simp⟩
      | some inner => exact ⟨followed.tail (.append (by simp) _), by simp⟩
  | ifThen origin condition body elseIfs otherwise =>
      obtain ⟨_, afterThen, afterElseIfs, afterElse, label, rfl, builtThen, builtElseIfs,
        builtElse, rfl⟩ := addStmt_ifThen built
      have placed := Placed.addJoin inside hereInside "if_end"
      have thenGrows := placed.follow_grows
        (addBranch_grows body (placed.follow _ _) builtThen)
      have pastThen := placed.grow thenGrows
      have elseIfsGrow := addElseIfs_grows elseIfs pastThen builtElseIfs
      have pastElseIfs := pastThen.grow elseIfsGrow
      have elseGrows : Grows afterElseIfs afterElse := by
        cases otherwise with
        | none =>
            obtain rfl := addBranch_missing builtElse
            exact pastElseIfs.follow_grows (pastElseIfs.follow label none).link_grows
        | some block =>
            exact pastElseIfs.follow_grows
              (addBranch_grows block (pastElseIfs.follow label none) builtElse)
      refine ⟨.head (.add (some "if_end") none)
        ((thenGrows.trans elseIfsGrow).trans elseGrows), ?_⟩
      rintro number ⟨⟩
      exact (pastElseIfs.grow elseGrows).finalInside
  | select origin subject arms otherwise =>
      obtain ⟨headed, afterArms, afterElse, isHeaded, builtArms, builtElse, rfl⟩ :=
        addStmt_select built
      have headedGrows : Grows graph headed := isHeaded ▸ .follow hereInside _ _
      have headInside : graph.size < headed.size := by simp [isHeaded]
      have placed := Placed.addJoin (inside.grow headedGrows) headInside "case_end"
      have armsGrow := addArms_grows arms placed builtArms
      have pastArms := placed.grow armsGrow
      have elseGrows : Grows afterArms afterElse := by
        cases otherwise with
        | none => exact builtElse ▸ .refl
        | some block =>
            exact pastArms.follow_grows
              (addBranch_grows block (pastArms.follow "else" none) builtElse)
      refine ⟨(headedGrows.tail (.add (some "case_end") none)).trans
        (armsGrow.trans elseGrows), ?_⟩
      rintro number ⟨⟩
      exact (pastArms.grow elseGrows).finalInside
  | loop origin head body =>
      obtain ⟨headed, afterBody, isHeaded, builtBody, rfl⟩ := addStmt_loop built
      have headedGrows : Grows graph headed := isHeaded ▸ .follow hereInside _ _
      have headInside : graph.size < headed.size := by simp [isHeaded]
      have opened := Grows.loopFrame headInside "loop_start" "loop_end"
      have bodyGrows := addBranch_grows body (.loopBody headInside _ _) builtBody
      have pastBody := Placed.pastLoop (inside.grow headedGrows) headInside bodyGrows
      have elseGrows := pastBody.follow_grows (pastBody.follow "_else" none).link_grows
      refine ⟨headedGrows.trans ((opened.trans bodyGrows).trans elseGrows), ?_⟩
      rintro number ⟨⟩
      exact (pastBody.grow elseGrows).finalInside
termination_by structural stmt

theorem addBranch_grows {targets : LoopTargets} {graph grown : Graph} {here final : Nat}
    (block : Block) (placed : Placed targets graph here final)
    (built : addBranch targets graph here final block = .ok grown) : Grows graph grown := by
  cases block with
  | missing =>
      obtain rfl := addBranch_missing built
      exact placed.link_grows
  | given stmts =>
      obtain ⟨middle, reached, builtStmts, rfl⟩ := addBranch_given built
      obtain ⟨growth, reachedInside⟩ := addStmts_grows stmts placed.inside placed.hereInside
        builtStmts
      cases reached with
      | none => exact growth
      | some number =>
          exact growth.tail (.link (reachedInside number rfl) (placed.grow growth).finalInside
            placed.notStart)
termination_by structural block

theorem addElseIfs_grows {targets : LoopTargets} {graph grown : Graph} {here final : Nat}
    (elseIfs : List ElseIf) (placed : Placed targets graph here final)
    (built : addElseIfs targets graph here final elseIfs = .ok grown) : Grows graph grown := by
  cases elseIfs with
  | nil =>
      cases built
      exact .refl
  | cons elseIf rest =>
      obtain ⟨condition, body⟩ := elseIf
      rw [addElseIfs] at built
      obtain ⟨middle, builtBody, builtRest⟩ := bind_eq_ok built
      have bodyGrows := placed.follow_grows (addBranch_grows body (placed.follow _ none) builtBody)
      exact bodyGrows.trans (addElseIfs_grows rest (placed.grow bodyGrows) builtRest)
termination_by structural elseIfs

theorem addArms_grows {targets : LoopTargets} {graph grown : Graph} {owner : Stmt}
    {head final : Nat} (arms : List Arm) (placed : Placed targets graph head final)
    (built : addArms targets graph owner head final arms = .ok grown) : Grows graph grown := by
  cases arms with
  | nil =>
      cases built
      exact .refl
  | cons arm rest =>
      obtain ⟨values, body⟩ := arm
      rw [addArms] at built
      obtain ⟨middle, builtBody, builtRest⟩ := bind_eq_ok built
      have bodyGrows := placed.follow_grows
        (addBranch_grows body (placed.follow _ (some owner)) builtBody)
      exact bodyGrows.trans (addArms_grows rest (placed.grow bodyGrows) builtRest)
termination_by structural arms

theorem addStmts_grows {targets : LoopTargets} {graph : Graph} {here : Nat} (stmts : List Stmt)
    {front : Front} (inside : targets.Inside graph) (hereInside : here < graph.size)
    (built : addStmts targets graph (some here) stmts = .ok front) :
    Grows graph front.1 ∧ ∀ number, front.2 = some number → number < front.1.size := by
  cases stmts with
  | nil =>
      cases built
      exact ⟨.refl, by rintro number ⟨⟩; exact hereInside⟩
  | cons stmt rest =>
      obtain ⟨middle, reached, builtStmt, builtRest⟩ := addStmts_cons built
      obtain ⟨growth, reachedInside⟩ := addStmt_grows stmt inside hereInside builtStmt
      cases reached with
      | none =>
          cases addStmts_none builtRest
          exact ⟨growth, by simp⟩
      | some number =>
          obtain ⟨restGrows, frontInside⟩ := addStmts_grows rest (inside.grow growth)
            (reachedInside number rfl) builtRest
          exact ⟨growth.trans restGrows, frontInside⟩
termination_by structural stmts

end

/-- Edges are kept at both ends, lead to nodes of the graph, and never to the start. -/
structure Linked (graph : Graph) : Prop where
  nonempty : 0 < graph.size
  bounded : ∀ source, ∀ target ∈ graph.next source, target < graph.size
  converse : ∀ source target, target ∈ graph.next source ↔ source ∈ graph.prev target
  start : graph.prev 0 = []

theorem Edit.linked {graph edited : Graph} (linked : Linked graph) (edit : Edit graph edited) :
    Linked edited := by
  cases edit with
  | add label owner =>
      constructor
      · simp
      · intro source target edge
        have old := linked.bounded source target (by simpa using edge)
        simp only [Graph.size_add]
        omega
      · simpa using linked.converse
      · simpa using linked.start
  | append inside stmt =>
      constructor
      · simpa using linked.nonempty
      · simpa using linked.bounded
      · simpa using linked.converse
      · simpa using linked.start
  | @link first last firstInside lastInside notStart =>
      constructor
      · simpa using linked.nonempty
      · intro source target edge
        rw [Graph.size_link]
        rcases (Graph.mem_next_link firstInside).mp edge with old | ⟨_, rfl⟩
        · exact linked.bounded source target old
        · exact lastInside
      · intro source target
        rw [Graph.mem_next_link firstInside, Graph.mem_prev_link lastInside,
          linked.converse source target]
        exact or_congr Iff.rfl and_comm
      · apply List.eq_nil_iff_forall_not_mem.mpr
        intro source edge
        rcases (Graph.mem_prev_link lastInside).mp edge with old | ⟨same, _⟩
        · simp [linked.start] at old
        · omega

theorem Grows.linked {graph grown : Graph} (linked : Linked graph) (growth : Grows graph grown) :
    Linked grown := by
  induction growth with
  | refl => exact linked
  | tail _ edit inductionHypothesis => exact edit.linked inductionHypothesis

namespace Source

theorem node_seed (source : Source) (number : Nat) :
    ∃ label, source.seed.node number = { label := label } := by
  cases number with
  | zero => exact ⟨source.label, rfl⟩
  | succ number => exact ⟨none, Graph.node_of_size_le (by simp [seed, Graph.size])⟩

@[simp]
theorem next_seed (source : Source) (number : Nat) : source.seed.next number = [] := by
  obtain ⟨label, same⟩ := source.node_seed number
  simp [Graph.next, same]

@[simp]
theorem prev_seed (source : Source) (number : Nat) : source.seed.prev number = [] := by
  obtain ⟨label, same⟩ := source.node_seed number
  simp [Graph.prev, same]

@[simp]
theorem stmtsAt_seed (source : Source) (number : Nat) : source.seed.stmtsAt number = [] := by
  obtain ⟨label, same⟩ := source.node_seed number
  simp [Graph.stmtsAt, same]

theorem linked_seed (source : Source) : Linked source.seed :=
  ⟨by simp [seed, Graph.size], by simp, by simp, by simp⟩

/-- However code is given, its graph is that of a block of its statements. -/
theorem graph_eq_addStmts (source : Source) :
    source.graph = (addStmts {} source.seed (some 0) source.stmts).map Prod.fst := by
  unfold graph
  cases source with
  | block stmts => rfl
  | stmt single => rw [stmts, addStmts_singleton]
  | routine name body => rw [stmts, ← addBody_eq_addStmts]

theorem graph_eq_ok {source : Source} {graph : Graph} (built : source.graph = .ok graph) :
    ∃ reached, addStmts {} source.seed (some 0) source.stmts = .ok (graph, reached) := by
  rw [graph_eq_addStmts] at built
  cases builtStmts : addStmts {} source.seed (some 0) source.stmts with
  | error fault =>
      rw [builtStmts] at built
      cases built
  | ok front =>
      rw [builtStmts] at built
      cases built
      exact ⟨front.2, rfl⟩

/-- Every program graph is linked. -/
theorem linked_graph {source : Source} {graph : Graph} (built : source.graph = .ok graph) :
    Linked graph := by
  obtain ⟨reached, builtStmts⟩ := graph_eq_ok built
  have growth := addStmts_grows source.stmts (by simp [LoopTargets.Inside])
    source.linked_seed.nonempty builtStmts
  exact growth.1.linked source.linked_seed

end Source

end PlcLint.Flow
