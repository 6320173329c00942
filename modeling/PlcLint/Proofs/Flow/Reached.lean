import Mathlib.Algebra.BigOperators.Group.Finset.Basic
import Mathlib.Algebra.Order.Group.Multiset
import PlcLint.Proofs.Flow.Preorder
import PlcLint.Proofs.Flow.Structural

/-!
The statements on the nodes that can be reached, read off the syntax alone: those of a block up to
the first one that does not fall through, and inside compound statements likewise. A program graph
holds exactly these on its reachable nodes, with a `CASE` statement once more for each of its arms.
-/

namespace PlcLint.Flow

/-! Code that falls through to what follows it. -/

mutual

def stmtFalls (stmt : Stmt) : Bool :=
  match stmt with
  | .action _ _ => true
  | .exitStmt _ => false
  | .continueStmt _ => false
  | .returnStmt _ => false
  | .jump _ _ => false
  | .foreign _ _ => false
  | .label _ _ _ => true
  | .ifThen _ _ body elseIfs otherwise =>
    match otherwise with
    | some block => blockFalls body || elseIfsFall elseIfs || blockFalls block
    | none => true
  | .select _ _ arms otherwise =>
    match otherwise with
    | some block => armsFall arms || blockFalls block
    | none => armsFall arms
  | .loop _ _ _ => true

def blockFalls (block : Block) : Bool :=
  match block with
  | .missing => true
  | .given stmts => stmtsFall stmts

def elseIfsFall (elseIfs : List ElseIf) : Bool :=
  match elseIfs with
  | [] => false
  | .mk _ body :: rest => blockFalls body || elseIfsFall rest

def armsFall (arms : List Arm) : Bool :=
  match arms with
  | [] => false
  | .mk _ body :: rest => blockFalls body || armsFall rest

def stmtsFall (stmts : List Stmt) : Bool :=
  match stmts with
  | [] => true
  | stmt :: rest => stmtFalls stmt && stmtsFall rest

end

mutual

/-- The statements that are reached when this one is. What stands inside a statement under a label
is not. -/
def stmtReached (stmt : Stmt) : List Stmt :=
  match stmt with
  | .action _ _ => [stmt]
  | .exitStmt _ => [stmt]
  | .continueStmt _ => [stmt]
  | .returnStmt _ => [stmt]
  | .jump _ _ => [stmt]
  | .foreign _ _ => [stmt]
  | .label _ _ inner => stmt :: inner.toList
  | .ifThen _ _ body elseIfs otherwise =>
    let last := match otherwise with
      | some block => blockReached block
      | none => []
    stmt :: (blockReached body ++ (elseIfsReached elseIfs ++ last))
  | .select _ _ arms otherwise =>
    let last := match otherwise with
      | some block => blockReached block
      | none => []
    stmt :: (armsReached stmt arms ++ last)
  | .loop _ _ body => stmt :: blockReached body

def blockReached (block : Block) : List Stmt :=
  match block with
  | .missing => []
  | .given stmts => stmtsReached stmts

def elseIfsReached (elseIfs : List ElseIf) : List Stmt :=
  match elseIfs with
  | [] => []
  | .mk _ body :: rest => blockReached body ++ elseIfsReached rest

/-- Each arm gives its `CASE` statement once more. -/
def armsReached (owner : Stmt) (arms : List Arm) : List Stmt :=
  match arms with
  | [] => []
  | .mk _ body :: rest => owner :: (blockReached body ++ armsReached owner rest)

def stmtsReached (stmts : List Stmt) : List Stmt :=
  match stmts with
  | [] => []
  | stmt :: rest => stmtReached stmt ++ if stmtFalls stmt then stmtsReached rest else []

end

theorem stmtReached_ifThen (origin : Origin) (condition : Expr) (body : Block)
    (elseIfs : List ElseIf) (otherwise : Option Block) :
    stmtReached (.ifThen origin condition body elseIfs otherwise) =
      .ifThen origin condition body elseIfs otherwise ::
        (blockReached body ++ (elseIfsReached elseIfs ++
          blockReached (otherwise.getD .missing))) := by
  cases otherwise <;> simp [stmtReached, blockReached]

theorem stmtReached_select (origin : Origin) (subject : Expr) (arms : List Arm)
    (otherwise : Option Block) :
    stmtReached (.select origin subject arms otherwise) =
      .select origin subject arms otherwise ::
        (armsReached (.select origin subject arms otherwise) arms ++
          blockReached (otherwise.getD .missing)) := by
  cases otherwise <;> simp [stmtReached, blockReached]

/-! With the predicate that holds nowhere, a way through is open exactly if the code falls
through, and a node is entered exactly if it can be reached. -/

/-- The predicate that no statement satisfies. -/
def never : Stmt → Bool := fun _ => false

mutual

theorem stmtWays_never_through (stmt : Stmt) : (stmtWays never stmt).through = stmtFalls stmt := by
  cases stmt with
  | action origin deed => rfl
  | exitStmt origin => rfl
  | continueStmt origin => rfl
  | returnStmt origin => rfl
  | jump origin target => rfl
  | foreign origin name => rfl
  | label origin name inner =>
      rw [stmtWays, stmtFalls]
      cases inner <;> rfl
  | ifThen origin condition body elseIfs otherwise =>
      have byBody := blockWays_never_through body
      have byElseIfs := elseIfsWays_never_through elseIfs
      cases otherwise with
      | none => simp [stmtWays, stmtFalls, Ways.either, Ways.passing]
      | some block =>
          have byElse := blockWays_never_through block
          simp [stmtWays, stmtFalls, Ways.either, Ways.onlyIf, never, byBody, byElseIfs, byElse]
  | select origin subject arms otherwise =>
      have byArms := armsWays_never_through arms
      cases otherwise with
      | none =>
          cases arms with
          | nil => rfl
          | cons arm rest => simp [stmtWays, stmtFalls, Ways.onlyIf, never, byArms]
      | some block =>
          have byElse := blockWays_never_through block
          simp [stmtWays, stmtFalls, Ways.either, Ways.onlyIf, never, byArms, byElse]
  | loop origin head body => rfl
termination_by structural stmt

theorem blockWays_never_through (block : Block) :
    (blockWays never block).through = blockFalls block := by
  cases block with
  | missing => rfl
  | given stmts =>
      rw [blockWays, blockFalls]
      exact stmtsWays_never_through stmts
termination_by structural block

theorem elseIfsWays_never_through (elseIfs : List ElseIf) :
    (elseIfsWays never elseIfs).through = elseIfsFall elseIfs := by
  cases elseIfs with
  | nil => rfl
  | cons first rest =>
      obtain ⟨condition, body⟩ := first
      rw [elseIfsWays, elseIfsFall, ← blockWays_never_through body,
        ← elseIfsWays_never_through rest]
      rfl
termination_by structural elseIfs

theorem armsWays_never_through (arms : List Arm) :
    (armsWays never arms).through = armsFall arms := by
  cases arms with
  | nil => rfl
  | cons first rest =>
      obtain ⟨values, body⟩ := first
      rw [armsWays, armsFall, ← blockWays_never_through body, ← armsWays_never_through rest]
      rfl
termination_by structural arms

theorem stmtsWays_never_through (stmts : List Stmt) :
    (stmtsWays never stmts).through = stmtsFall stmts := by
  cases stmts with
  | nil => rfl
  | cons stmt rest =>
      rw [stmtsWays, stmtsFall, ← stmtWays_never_through stmt, ← stmtsWays_never_through rest]
      rfl
termination_by structural stmts

end

variable {targets : LoopTargets} {graph middle grown : Graph} {here later final number : Nat}

theorem meets_never (graph : Graph) (number : Nat) : graph.meets never number = false := by
  simp [Graph.meets, never]

theorem passes_never : Passes never graph number ↔ Enters never graph number := by
  simp [Passes, meets_never]

theorem enters_never : Enters never graph number ↔ graph.Reaches 0 number := by
  have same : graph.MissStep never = fun source target => target ∈ graph.next source := by
    funext source target
    simp [Graph.MissStep, OpenStep, meets_never]
  rw [Enters, Graph.Reaches, same]

/-! The statements that a graph holds on its reachable nodes. -/

open scoped Classical in
/-- The statements, if the condition holds. -/
noncomputable def onlyWhen (condition : Prop) (stmts : List Stmt) : Multiset Stmt :=
  if condition then stmts else 0

theorem onlyWhen_congr {first second : Prop} (same : first ↔ second) (stmts : List Stmt) :
    onlyWhen first stmts = onlyWhen second stmts := by
  rw [propext same]

@[simp]
theorem onlyWhen_nil (condition : Prop) : onlyWhen condition [] = 0 := by
  simp [onlyWhen]

theorem onlyWhen_of_not {condition : Prop} (fails : ¬condition) (stmts : List Stmt) :
    onlyWhen condition stmts = 0 := if_neg fails

theorem onlyWhen_append (condition : Prop) (first second : List Stmt) :
    onlyWhen condition (first ++ second) =
      onlyWhen condition first + onlyWhen condition second := by
  by_cases holds : condition
  · simp [onlyWhen, holds]
  · simp [onlyWhen, holds]

theorem onlyWhen_and (condition : Prop) (further : Bool) (stmts : List Stmt) :
    onlyWhen (condition ∧ further = true) stmts =
      onlyWhen condition (if further then stmts else []) := by
  cases further with
  | false => rw [onlyWhen_of_not (by simp), if_neg (by simp), onlyWhen_nil]
  | true => rw [if_pos rfl, onlyWhen_congr (and_iff_left rfl)]

namespace Graph

/-- What a node contributes. -/
noncomputable def share (graph : Graph) (number : Nat) : Multiset Stmt :=
  onlyWhen (Enters never graph number) (graph.stmtsAt number)

noncomputable def held (graph : Graph) : Multiset Stmt :=
  ∑ number ∈ Finset.range graph.size, graph.share number

theorem share_congr (entered : Enters never grown number ↔ Enters never graph number)
    (same : grown.stmtsAt number = graph.stmtsAt number) :
    grown.share number = graph.share number := by
  rw [share, share, same, onlyWhen_congr entered]

theorem held_congr (size : grown.size = graph.size)
    (same : ∀ number, grown.share number = graph.share number) : grown.held = graph.held := by
  rw [held, held, size]
  exact Finset.sum_congr rfl fun number _ => same number

theorem held_add (linked : Linked graph) (label : String) :
    (graph.add { label := some label }).held = graph.held := by
  rw [held, held, size_add, Finset.sum_range_succ]
  have nothing : (graph.add { label := some label }).share graph.size = 0 := by
    refine onlyWhen_of_not ?_ _
    rw [enters_add]
    exact not_enters_size linked
  rw [nothing, add_zero]
  refine Finset.sum_congr rfl fun number inside => share_congr (enters_add _ _) ?_
  rw [stmtsAt_add, if_neg (Nat.ne_of_lt (Finset.mem_range.mp inside))]

theorem held_append (inside : here < graph.size) (final : graph.next here = []) (stmt : Stmt) :
    (graph.append here stmt).held = graph.held + onlyWhen (Enters never graph here) [stmt] := by
  have member : here ∈ Finset.range graph.size := Finset.mem_range.mpr inside
  rw [held, held, size_append, ← Finset.add_sum_erase _ _ member, ← Finset.add_sum_erase _ _ member]
  have changed : (graph.append here stmt).share here =
      graph.share here + onlyWhen (Enters never graph here) [stmt] := by
    rw [share, stmtsAt_append_self inside, onlyWhen_congr (enters_append final stmt),
      onlyWhen_append, share]
  have kept : ∀ number ∈ (Finset.range graph.size).erase here,
      (graph.append here stmt).share number = graph.share number := fun number other =>
    share_congr (enters_append final stmt)
      (stmtsAt_append_of_ne (Finset.ne_of_mem_erase other) stmt)
  rw [changed, Finset.sum_congr rfl kept, add_right_comm]

theorem held_follow (linked : Linked graph) (inside : here < graph.size) (label : String)
    (owner : Option Stmt) :
    (graph.follow here label owner).held =
      graph.held + onlyWhen (Enters never graph here) owner.toList := by
  rw [held, held, size_follow, Finset.sum_range_succ]
  have added : (graph.follow here label owner).share graph.size =
      onlyWhen (Enters never graph here) owner.toList := by
    rw [share, stmtsAt_follow, if_pos rfl, enters_follow inside, passes_never]
    exact onlyWhen_congr (by simp [not_enters_size linked]) _
  have kept : ∀ number ∈ Finset.range graph.size,
      (graph.follow here label owner).share number = graph.share number := by
    intro number old
    have other := Nat.ne_of_lt (Finset.mem_range.mp old)
    refine share_congr ?_ (by rw [stmtsAt_follow, if_neg other])
    rw [enters_follow inside]
    simp [other]
  rw [added, Finset.sum_congr rfl kept]

/-- An edge to a node without successors and without statements adds nothing. -/
theorem held_link_blank (inside : here < graph.size) (noNext : graph.next final = [])
    (blank : graph.stmtsAt final = []) : (graph.link here final).held = graph.held := by
  refine held_congr (size_link here final) fun number => ?_
  by_cases isFinal : number = final
  · subst isFinal
    rw [share, share, stmtsAt_link, blank, onlyWhen_nil, onlyWhen_nil]
  · refine share_congr ?_ (stmtsAt_link here final)
    rw [enters_link_final inside noNext]
    simp [isFinal]

theorem held_link_back (inside : here < graph.size)
    (entered : Enters never graph here → Enters never graph final) :
    (graph.link here final).held = graph.held := by
  refine held_congr (size_link here final) fun number => ?_
  refine share_congr (enters_link_back inside ?_) (stmtsAt_link here final)
  rw [passes_never]
  exact entered

end Graph

/-- Code was added behind `here`, of which these statements are reached if `here` is. -/
def Holds (here : Nat) (stmts : List Stmt) (graph grown : Graph) : Prop :=
  grown.held = graph.held + onlyWhen (Enters never graph here) stmts

namespace Holds

variable {first second : List Stmt}

theorem nil (here : Nat) (graph : Graph) : Holds here [] graph graph := by
  simp [Holds]

theorem of_held_eq (same : grown.held = graph.held) : Holds here [] graph grown := by
  simp [Holds, same]

/-- More code behind a node that is entered if `here` was and the first code falls through. -/
theorem andThen {falls : Bool} (firstHolds : Holds here first graph middle)
    (secondHolds : Holds later second middle grown)
    (entered : Enters never middle later ↔ Enters never graph here ∧ falls = true) :
    Holds here (first ++ if falls then second else []) graph grown := by
  rw [Holds, secondHolds, firstHolds, onlyWhen_congr entered, onlyWhen_and, onlyWhen_append,
    add_assoc]

/-- More code behind a node that is entered exactly if `here` was. -/
theorem append (firstHolds : Holds here first graph middle)
    (secondHolds : Holds later second middle grown)
    (entered : Enters never middle later ↔ Enters never graph here) :
    Holds here (first ++ second) graph grown := by
  rw [Holds, secondHolds, firstHolds, onlyWhen_congr entered, onlyWhen_append, add_assoc]

end Holds

/-- The target of `EXIT` holds no statements. -/
def LoopTargets.Blank (targets : LoopTargets) (graph : Graph) : Prop :=
  ∀ target, targets.onExit = some target → graph.stmtsAt target = []

theorem LoopTargets.Blank.extend {opened : Nat → Prop} (blank : targets.Blank graph)
    (ready : Ready never targets graph here)
    (extension : Extends never opened here graph grown) : targets.Blank grown := by
  intro target exit
  rw [extension.stmtsAt target (ready.exit_lt exit) (ready.exitOpen target exit).1,
    blank target exit]

section Sides

variable {label : String} {owner : Option Stmt} {stmts : List Stmt} {ways : Ways}

theorem LoopTargets.Blank.follow (blank : targets.Blank graph)
    (ready : Ready never targets graph here) (label : String) (owner : Option Stmt) :
    targets.Blank (graph.follow here label owner) :=
  blank.extend ready (.follow ready.hereInside label owner)

theorem stmtsAt_follow_blank (finalInside : final < graph.size) (label : String)
    (owner : Option Stmt) (blank : graph.stmtsAt final = []) :
    (graph.follow here label owner).stmtsAt final = [] := by
  rw [Graph.stmtsAt_follow, if_neg (Nat.ne_of_lt finalInside), blank]

theorem enters_follow_size (ready : Ready never targets graph here) (label : String)
    (owner : Option Stmt) :
    Enters never (graph.follow here label owner) graph.size ↔ Enters never graph here := by
  rw [← passes_never, passes_follow never ready.linked ready.hereInside, passes_never]
  cases owner <;> simp [never]

/-- Code behind a new node, with the owner of that node. -/
theorem Holds.behind (ready : Ready never targets graph here)
    (holds : Holds graph.size stmts (graph.follow here label owner) grown) :
    Holds here (owner.toList ++ stmts) graph grown :=
  Holds.append (Graph.held_follow ready.linked ready.hereInside label owner) holds
    (enters_follow_size ready label owner)

theorem enters_loopFrame (ready : Ready never targets graph here)
    (startLabel finalLabel : String) :
    Enters never (loopFrame graph here startLabel finalLabel) graph.size ↔
      Enters never graph here := by
  rw [← passes_never, passes_loopFrame ready, passes_never]

theorem enters_here_sides (ready : Ready never targets graph here)
    (sides : Sides never targets here final ways graph grown) :
    Enters never grown here ↔ Enters never graph here := by
  rw [← passes_never, sides.passes_here ready.hereInside, passes_never]

/-- A branch that has no statements. -/
theorem Branching.link_holds (branching : Branching never targets graph here final)
    (blank : graph.stmtsAt final = []) : Holds here [] graph (graph.link here final) :=
  .of_held_eq (Graph.held_link_blank branching.hereInside branching.finalOpen blank)

end Sides

/-! Each part of the construction adds the statements that its syntax reaches, by induction on
it. -/

mutual

theorem addStmt_holds {targets : LoopTargets} {graph : Graph} {here : Nat} (stmt : Stmt)
    {front : Front} (ready : Ready never targets graph here) (hereOpen : graph.next here = [])
    (blank : targets.Blank graph) (built : addStmt targets graph here stmt = .ok front) :
    Holds here (stmtReached stmt) graph front.1 := by
  have inside := ready.hereInside
  cases stmt with
  | action origin deed =>
      simp only [addStmt, Except.ok.injEq] at built
      subst built
      exact Graph.held_append inside hereOpen _
  | exitStmt origin =>
      obtain ⟨target, exit, rfl⟩ := addStmt_exit built
      obtain ⟨other, targetOpen⟩ := ready.exitOpen target exit
      have targetBlank : (graph.append here (.exitStmt origin)).stmtsAt target = [] := by
        rw [Graph.stmtsAt_append_of_ne other, blank target exit]
      rw [Holds, Graph.held_link_blank (by simpa using inside) (by simpa using targetOpen)
        targetBlank]
      exact Graph.held_append inside hereOpen _
  | continueStmt origin =>
      obtain ⟨target, again, rfl⟩ := addStmt_continue built
      have known : Enters never (graph.append here (.continueStmt origin)) here →
          Enters never (graph.append here (.continueStmt origin)) target := by
        rw [enters_append hereOpen, enters_append hereOpen, ← passes_never]
        exact ready.continueEntered target again
      rw [Holds, Graph.held_link_back (by simpa using inside) known]
      exact Graph.held_append inside hereOpen _
  | returnStmt origin =>
      simp only [addStmt, Except.ok.injEq] at built
      subst built
      exact Graph.held_append inside hereOpen _
  | jump origin target => simp [addStmt] at built
  | foreign origin name => simp [addStmt] at built
  | label origin name inner =>
      simp only [addStmt, Except.ok.injEq] at built
      subst built
      have behind := ready.follow name (some (.label origin name inner))
      cases inner with
      | none => exact Holds.behind ready (.nil _ _)
      | some inner =>
          exact Holds.behind ready (Graph.held_append behind.hereInside
            (Graph.next_follow_size inside name _) inner)
  | ifThen origin condition body elseIfs otherwise =>
      obtain ⟨_, afterThen, afterElseIfs, afterElse, label, rfl, builtThen, builtElseIfs,
        builtElse, rfl⟩ := addStmt_ifThen built
      have branching := ready.addJoin "if_end"
      have joinBlank : (graph.add { label := some "if_end" }).stmtsAt graph.size = [] := by
        rw [Graph.stmtsAt_add, if_pos rfl]
        rfl
      have blankJoin := blank.extend ready (Extends.add never graph (some "if_end") here)
      have thenHolds := Holds.behind branching.toReady (addBranch_holds body
        (branching.follow _ _) (Graph.next_follow_size branching.hereInside _ _)
        (blankJoin.follow branching.toReady _ _)
        (stmtsAt_follow_blank branching.finalInside _ _ joinBlank) builtThen)
      have thenSide := ((addBranch_joins body (branching.follow _ _)
        (Graph.next_follow_size branching.hereInside _ _) builtThen).side branching.toReady).1
      have pastThen := branching.afterSides thenSide (branching.side_grows builtThen)
      have blankThen := blankJoin.extend branching.toReady thenSide.extension
      have finalThen : afterThen.stmtsAt graph.size = [] := by
        rw [thenSide.extension.stmtsAt _ branching.finalInside branching.finalOther, joinBlank]
      have elseIfsHold := addElseIfs_holds elseIfs pastThen blankThen finalThen builtElseIfs
      have elseIfsSides := addElseIfs_sides elseIfs pastThen builtElseIfs
      have pastElseIfs := pastThen.afterSides elseIfsSides
        (addElseIfs_grows elseIfs pastThen.placed builtElseIfs)
      have blankElseIfs := blankThen.extend pastThen.toReady elseIfsSides.extension
      have finalElseIfs : afterElseIfs.stmtsAt graph.size = [] := by
        rw [elseIfsSides.extension.stmtsAt _ pastThen.finalInside pastThen.finalOther, finalThen]
      have elseHolds : Holds here (blockReached (otherwise.getD .missing)) afterElseIfs
          afterElse := by
        have finalElse : (afterElseIfs.follow here label none).stmtsAt graph.size = [] :=
          stmtsAt_follow_blank pastElseIfs.finalInside label none finalElseIfs
        cases otherwise with
        | none =>
            obtain rfl := addBranch_missing builtElse
            exact Holds.behind pastElseIfs.toReady
              ((pastElseIfs.follow label none).link_holds finalElse)
        | some block =>
            exact Holds.behind pastElseIfs.toReady (addBranch_holds block
              (pastElseIfs.follow label none)
              (Graph.next_follow_size pastElseIfs.hereInside _ _)
              (blankElseIfs.follow pastElseIfs.toReady _ _) finalElse builtElse)
      rw [stmtReached_ifThen]
      have opening : Holds here [] graph (graph.add { label := some "if_end" }) :=
        .of_held_eq (Graph.held_add ready.linked "if_end")
      exact (opening.append thenHolds (enters_add _ _)).append
        (elseIfsHold.append elseHolds (enters_here_sides pastThen.toReady elseIfsSides))
        ((enters_here_sides branching.toReady thenSide).trans (enters_add _ _))
  | select origin subject arms otherwise =>
      obtain ⟨headed, afterArms, afterElse, isHeaded, builtArms, builtElse, rfl⟩ :=
        addStmt_select built
      subst isHeaded
      have headReady := ready.follow ("CASE " ++ subject.text)
        (some (.select origin subject arms otherwise))
      have headBlank := blank.follow ready ("CASE " ++ subject.text)
        (some (.select origin subject arms otherwise))
      have branching := headReady.addJoin "case_end"
      have opening : Holds graph.size []
          (graph.follow here ("CASE " ++ subject.text)
            (some (.select origin subject arms otherwise)))
          ((graph.follow here ("CASE " ++ subject.text)
            (some (.select origin subject arms otherwise))).add { label := some "case_end" }) :=
        .of_held_eq (Graph.held_add headReady.linked "case_end")
      have blankJoin := headBlank.extend headReady
        (Extends.add never _ (some "case_end") graph.size)
      have joinBlank : ((graph.follow here ("CASE " ++ subject.text)
          (some (.select origin subject arms otherwise))).add
            { label := some "case_end" }).stmtsAt (graph.size + 1) = [] := by
        rw [Graph.stmtsAt_add, if_pos (by simp)]
        rfl
      have armsHold := addArms_holds arms branching blankJoin (by simpa using joinBlank) builtArms
      cases otherwise with
      | none =>
          obtain rfl := builtElse
          rw [stmtReached, List.append_nil]
          exact Holds.behind ready (opening.append armsHold (enters_add _ _))
      | some block =>
          have armsSides := (addArms_sides arms branching (fun _ => rfl) builtArms).1
          have pastArms := branching.afterSides armsSides
            (addArms_grows arms branching.placed builtArms)
          have finalArms : afterArms.stmtsAt (graph.size + 1) = [] := by
            rw [armsSides.extension.stmtsAt _ (by simp) (by omega)]
            simpa using joinBlank
          have elseHolds := Holds.behind pastArms.toReady (addBranch_holds block
            (pastArms.follow "else" none) (Graph.next_follow_size pastArms.hereInside _ _)
            ((blankJoin.extend branching.toReady armsSides.extension).follow pastArms.toReady _ _)
            (stmtsAt_follow_blank pastArms.finalInside _ _ (by simpa using finalArms)) builtElse)
          rw [stmtReached]
          exact Holds.behind ready ((opening.append armsHold (enters_add _ _)).append elseHolds
            ((enters_here_sides branching.toReady armsSides).trans (enters_add _ _)))
  | loop origin head body =>
      obtain ⟨headed, afterBody, isHeaded, builtBody, rfl⟩ := addStmt_loop built
      subst isHeaded
      have headReady := ready.follow "loop" (some (.loop origin head body))
      have frame := headReady.loopFrame "loop_start" "loop_end"
      have opened := Grows.loopFrame headReady.hereInside "loop_start" "loop_end"
      have joinBlank : (loopFrame (graph.follow here "loop" (some (.loop origin head body)))
          graph.size "loop_start" "loop_end").stmtsAt
            ((graph.follow here "loop" (some (.loop origin head body))).size + 1) = [] := by
        rw [Graph.stmtsAt_add, if_pos (by simp)]
        rfl
      have bodyHolds := addBranch_holds body frame (next_loopFrame headReady.hereInside)
        (fun target exit => by rw [← Option.some.inj exit, joinBlank]) joinBlank builtBody
      have joins := addBranch_joins body frame (next_loopFrame headReady.hereInside) builtBody
      have bypass := joins.loopBypass headReady
        (opened.trans (addBranch_grows body frame.placed builtBody))
      have finalBody : afterBody.stmtsAt
          ((graph.follow here "loop" (some (.loop origin head body))).size + 1) = [] := by
        rw [joins.extension.stmtsAt _ frame.finalInside frame.finalOther, joinBlank]
      have bypassHolds := Holds.behind bypass.toReady ((bypass.follow "_else" none).link_holds
        (stmtsAt_follow_blank bypass.finalInside "_else" none finalBody))
      have frameHolds := Holds.behind headReady
        (.of_held_eq (Graph.held_add (headReady.follow "loop_start" none).linked "loop_end"))
      have startEntered := enters_loopFrame headReady "loop_start" "loop_end"
      have headEntered := joins.passes_loopHead headReady
      rw [passes_never, passes_never] at headEntered
      have holds := Holds.behind ready
        ((frameHolds.append bodyHolds startEntered).append bypassHolds headEntered)
      simpa [stmtReached] using holds
termination_by structural stmt

theorem addBranch_holds {targets : LoopTargets} {graph grown : Graph} {here final : Nat}
    (block : Block) (branching : Branching never targets graph here final)
    (hereOpen : graph.next here = []) (blank : targets.Blank graph)
    (finalBlank : graph.stmtsAt final = [])
    (built : addBranch targets graph here final block = .ok grown) :
    Holds here (blockReached block) graph grown := by
  cases block with
  | missing =>
      obtain rfl := addBranch_missing built
      exact branching.link_holds finalBlank
  | given stmts =>
      obtain ⟨middle, reached, builtStmts, rfl⟩ := addBranch_given built
      have holds := addStmts_holds stmts branching.toReady hereOpen blank builtStmts
      have added := addStmts_adds stmts branching.toReady hereOpen builtStmts
      have reachedInside := (addStmts_grows stmts branching.inside branching.hereInside
        builtStmts).2
      rw [blockReached]
      cases reached with
      | none => exact holds
      | some number =>
          have finalOpen : middle.next final = [] := by
            rw [added.extension.next final branching.finalInside branching.finalOther,
              branching.finalOpen]
          have stillBlank : middle.stmtsAt final = [] := by
            rw [added.extension.stmtsAt final branching.finalInside branching.finalOther,
              finalBlank]
          rw [Holds, Graph.join,
            Graph.held_link_blank (reachedInside number rfl) finalOpen stillBlank]
          exact holds
termination_by structural block

theorem addElseIfs_holds {targets : LoopTargets} {graph grown : Graph} {here final : Nat}
    (elseIfs : List ElseIf) (branching : Branching never targets graph here final)
    (blank : targets.Blank graph) (finalBlank : graph.stmtsAt final = [])
    (built : addElseIfs targets graph here final elseIfs = .ok grown) :
    Holds here (elseIfsReached elseIfs) graph grown := by
  cases elseIfs with
  | nil =>
      cases built
      exact .nil here graph
  | cons elseIf rest =>
      obtain ⟨condition, body⟩ := elseIf
      rw [addElseIfs] at built
      obtain ⟨middle, builtBody, builtRest⟩ := bind_eq_ok built
      have holds := Holds.behind branching.toReady (addBranch_holds body
        (branching.follow _ none) (Graph.next_follow_size branching.hereInside _ _)
        (blank.follow branching.toReady _ _)
        (stmtsAt_follow_blank branching.finalInside _ _ finalBlank) builtBody)
      have side := (addBranch_joins body (branching.follow _ none)
        (Graph.next_follow_size branching.hereInside _ _) builtBody).plainSide branching.toReady
      have onward := branching.afterSides side (branching.side_grows builtBody)
      rw [elseIfsReached]
      refine holds.append (addElseIfs_holds rest onward
        (blank.extend branching.toReady side.extension) ?_ builtRest)
        (enters_here_sides branching.toReady side)
      rw [side.extension.stmtsAt _ branching.finalInside branching.finalOther, finalBlank]
termination_by structural elseIfs

theorem addArms_holds {targets : LoopTargets} {graph grown : Graph} {owner : Stmt}
    {head final : Nat} (arms : List Arm) (branching : Branching never targets graph head final)
    (blank : targets.Blank graph) (finalBlank : graph.stmtsAt final = [])
    (built : addArms targets graph owner head final arms = .ok grown) :
    Holds head (armsReached owner arms) graph grown := by
  cases arms with
  | nil =>
      cases built
      exact .nil head graph
  | cons arm rest =>
      obtain ⟨values, body⟩ := arm
      rw [addArms] at built
      obtain ⟨middle, builtBody, builtRest⟩ := bind_eq_ok built
      have holds := Holds.behind branching.toReady (addBranch_holds body
        (branching.follow _ (some owner)) (Graph.next_follow_size branching.hereInside _ _)
        (blank.follow branching.toReady _ _)
        (stmtsAt_follow_blank branching.finalInside _ _ finalBlank) builtBody)
      have side := ((addBranch_joins body (branching.follow _ (some owner))
        (Graph.next_follow_size branching.hereInside _ _) builtBody).side branching.toReady).1
      have onward := branching.afterSides side (branching.side_grows builtBody)
      rw [armsReached]
      refine holds.append (addArms_holds rest onward
        (blank.extend branching.toReady side.extension) ?_ builtRest)
        (enters_here_sides branching.toReady side)
      rw [side.extension.stmtsAt _ branching.finalInside branching.finalOther, finalBlank]
termination_by structural arms

theorem addStmts_holds {targets : LoopTargets} {graph : Graph} {here : Nat} (stmts : List Stmt)
    {front : Front} (ready : Ready never targets graph here) (hereOpen : graph.next here = [])
    (blank : targets.Blank graph) (built : addStmts targets graph (some here) stmts = .ok front) :
    Holds here (stmtsReached stmts) graph front.1 := by
  cases stmts with
  | nil =>
      cases built
      exact .nil here graph
  | cons stmt rest =>
      obtain ⟨middle, reached, builtStmt, builtRest⟩ := addStmts_cons built
      have holds := addStmt_holds stmt ready hereOpen blank builtStmt
      have added := addStmt_adds stmt ready hereOpen builtStmt
      obtain ⟨growth, reachedInside⟩ := addStmt_grows stmt ready.inside ready.hereInside builtStmt
      rw [stmtsReached, ← stmtWays_never_through]
      cases reached with
      | none =>
          obtain rfl := addStmts_none builtRest
          rw [if_neg (by simp [added.unreached rfl]), List.append_nil]
          exact holds
      | some number =>
          obtain ⟨numberNew, numberOpen, numberPassed⟩ := added.reached number rfl
          have onward := ready.extend added.extension growth (reachedInside number rfl) numberNew
            fun passed => (numberPassed.mp passed).1
          rw [passes_never, passes_never] at numberPassed
          exact holds.andThen (addStmts_holds rest onward numberOpen
            (blank.extend ready added.extension) builtRest) numberPassed
termination_by structural stmts

end

/-! The depth-first order visits each reachable node once. -/

theorem Graph.nodup_preorderFrom (graph : Graph) {fuel : Nat} {stack seen : List Nat}
    (distinct : seen.Nodup) : (graph.preorderFrom fuel stack seen).Nodup := by
  induction fuel generalizing stack seen with
  | zero => simpa [preorderFrom] using distinct
  | succ fuel inductionHypothesis =>
      cases stack with
      | nil => simpa [preorderFrom] using distinct
      | cons first stack =>
          rw [preorderFrom]
          by_cases known : first ∈ seen
          · rw [if_pos (by simpa using known)]
            exact inductionHypothesis distinct
          · rw [if_neg (by simpa using known)]
            refine inductionHypothesis (List.nodup_append.mpr ⟨distinct, by simp, ?_⟩)
            rintro old isOld _ isFirst rfl
            exact known (List.mem_singleton.mp isFirst ▸ isOld)

theorem Graph.reachableStmts_eq_held (linked : Linked graph) :
    (graph.reachableStmts : Multiset Stmt) = graph.held := by
  classical
  have visited : graph.preorder.toFinset =
      (Finset.range graph.size).filter (Enters never graph) := by
    ext number
    rw [List.mem_toFinset, graph.mem_preorder, ← enters_never, Finset.mem_filter,
      Finset.mem_range]
    exact ⟨fun entered => ⟨entered.lt_size linked, entered⟩, And.right⟩
  have summed : (graph.reachableStmts : Multiset Stmt) =
      (graph.preorder.map fun number => (graph.stmtsAt number : Multiset Stmt)).sum := by
    rw [reachableStmts]
    induction graph.preorder with
    | nil => rfl
    | cons first rest inductionHypothesis => simp [← inductionHypothesis]
  have distinct : graph.preorder.Nodup := graph.nodup_preorderFrom List.nodup_nil
  rw [summed, ← List.sum_toFinset _ distinct, visited, held, Finset.sum_filter]
  rfl

/-- Each reachable statement as often as the recursion on the syntax has it. -/
theorem Source.reachableStmts_perm {source : Source} (built : source.graph = .ok graph) :
    graph.reachableStmts.Perm (stmtsReached source.stmts) := by
  obtain ⟨reached, builtStmts⟩ := Source.graph_eq_ok built
  have holds := addStmts_holds source.stmts (source.ready_seed never) (by simp)
    (by simp [LoopTargets.Blank]) builtStmts
  have entered : Enters never source.seed 0 := .refl
  have empty : source.seed.held = 0 := by
    refine Finset.sum_eq_zero fun number _ => ?_
    rw [Graph.share, Source.stmtsAt_seed, onlyWhen_nil]
  have total : graph.held = (stmtsReached source.stmts : Multiset Stmt) := by
    rw [show graph.held = _ from holds, empty, zero_add, onlyWhen, if_pos entered]
  rw [← Multiset.coe_eq_coe, Graph.reachableStmts_eq_held (Source.linked_graph built), total]

end PlcLint.Flow
