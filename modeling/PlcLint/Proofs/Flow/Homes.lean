import PlcLint.Proofs.Flow.Backward
import PlcLint.Proofs.Flow.Faults

/-!
The nodes that hold a given statement of the code. If the statement stands in the code once, they
have one home: the node where the statement was put. The only others are the arms of a `CASE`
statement, which own it too; they stand directly behind their home and are entered from nowhere
else, because later edges lead only to nodes without owner.
-/

namespace PlcLint.Flow

/-- How often the statement stands among these. -/
def timesIn (target : Stmt) (occurrences : List Occurrence) : Nat :=
  occurrences.countP fun occurrence => occurrence.stmt.same target

@[simp]
theorem timesIn_cons (target : Stmt) (occurrence : Occurrence) (rest : List Occurrence) :
    timesIn target (occurrence :: rest) =
      (occurrence.stmt.same target).toNat + timesIn target rest := by
  rw [timesIn, List.countP_cons, Nat.add_comm]
  cases occurrence.stmt.same target <;> rfl

@[simp]
theorem timesIn_append (target : Stmt) (first second : List Occurrence) :
    timesIn target (first ++ second) = timesIn target first + timesIn target second :=
  List.countP_append

/-- A statement stands first among those in it. -/
theorem same_le_timesIn (target stmt : Stmt) (inLoop processed : Bool) :
    (stmt.same target).toNat ≤ timesIn target (stmtOccurrences inLoop processed stmt) := by
  cases stmt with
  | action | exitStmt | continueStmt | returnStmt | jump | foreign => simp [stmtOccurrences]
  | label origin name inner => simp [stmtOccurrences_label]
  | ifThen origin condition body elseIfs otherwise => simp [stmtOccurrences_ifThen]
  | select origin subject arms otherwise => simp [stmtOccurrences_select]
  | loop origin head body => simp [stmtOccurrences]

variable {target stmt owner : Stmt} {targets : LoopTargets} {graph middle grown : Graph}
  {here final home number count more : Nat}

namespace Graph

/-- The compound statement that the node stands for. -/
abbrev ownerAt (graph : Graph) (number : Nat) : Option Stmt := (graph.node number).owner

/-- The node is there and stands for no statement. -/
def Unowned (graph : Graph) (number : Nat) : Prop :=
  number < graph.size ∧ graph.ownerAt number = none

/-- The node stands for the statement. -/
def Owned (graph : Graph) (target : Stmt) (number : Nat) : Prop :=
  ∃ stmt ∈ graph.ownerAt number, stmt.same target = true

theorem Holds.lt_size (holds : graph.Holds target number) : number < graph.size := by
  obtain ⟨stmt, stands, _⟩ := holds
  apply Nat.lt_of_not_le
  intro beyond
  simp [stmtsAt, node_of_size_le beyond] at stands

theorem Owned.holds (owned : graph.Owned target number) : graph.Holds target number := by
  obtain ⟨stmt, isOwner, same⟩ := owned
  exact ⟨stmt, List.mem_append_left _ (by simpa using isOwner), same⟩

theorem Owned.stmtsBefore_eq_nil (owned : graph.Owned target number) :
    graph.stmtsBefore target number = [] := by
  obtain ⟨stmt, isOwner, same⟩ := owned
  rw [Option.mem_def] at isOwner
  simp [stmtsBefore, stmtsAt, isOwner, same]

theorem holds_append (holds : (graph.append here stmt).Holds target number) :
    graph.Holds target number ∨ (number = here ∧ stmt.same target = true) := by
  have inside := holds.lt_size
  obtain ⟨found, stands, same⟩ := holds
  by_cases isHere : number = here
  · subst isHere
    rw [stmtsAt_append_self (by simpa using inside), List.mem_append,
      List.mem_singleton] at stands
    rcases stands with old | rfl
    · exact .inl ⟨found, old, same⟩
    · exact .inr ⟨rfl, same⟩
  · rw [stmtsAt_append_of_ne isHere] at stands
    exact .inl ⟨found, stands, same⟩

theorem holds_add {label : Option String} {owner : Option Stmt}
    (holds : (graph.add { label := label, owner := owner }).Holds target number) :
    graph.Holds target number ∨
      (number = graph.size ∧ ∃ stmt ∈ owner, stmt.same target = true) := by
  obtain ⟨found, stands, same⟩ := holds
  rw [stmtsAt_add] at stands
  split at stands
  · exact .inr ⟨‹_›, found, by simpa using stands, same⟩
  · exact .inl ⟨found, stands, same⟩

@[simp]
theorem holds_link {source : Nat} :
    (graph.link source final).Holds target number ↔ graph.Holds target number := by
  simp [Holds]

@[simp]
theorem ownerAt_link (source final number : Nat) :
    (graph.link source final).ownerAt number = graph.ownerAt number := by
  simp [ownerAt, node_link]

@[simp]
theorem ownerAt_append (here : Nat) (stmt : Stmt) (number : Nat) :
    (graph.append here stmt).ownerAt number = graph.ownerAt number := by
  simp [ownerAt, node_append]

theorem ownerAt_add (node : Node) (number : Nat) :
    (graph.add node).ownerAt number =
      if number = graph.size then node.owner else graph.ownerAt number := by
  rw [ownerAt, node_add]
  split <;> rfl

theorem holds_follow {owner : Option Stmt} {label : String}
    (holds : (graph.follow here label owner).Holds target number) :
    graph.Holds target number ∨ (number = graph.size ∧ ∃ stmt ∈ owner, stmt.same target = true) :=
  holds_add (holds_link.mp holds)

end Graph

theorem Edit.ownerAt {edited : Graph} (edit : Edit graph edited) (inside : number < graph.size) :
    edited.ownerAt number = graph.ownerAt number := by
  cases edit with
  | add label owner => rw [Graph.ownerAt_add, if_neg (Nat.ne_of_lt inside)]
  | append _ stmt => exact Graph.ownerAt_append _ stmt number
  | link => exact Graph.ownerAt_link _ _ number

theorem Grows.ownerAt (growth : Grows graph grown) (inside : number < graph.size) :
    grown.ownerAt number = graph.ownerAt number := by
  induction growth with
  | refl => rfl
  | tail earlier edit inductionHypothesis =>
      rw [edit.ownerAt (Nat.lt_of_lt_of_le inside (Grows.size_le earlier)), inductionHypothesis]

theorem Graph.Unowned.grow (unowned : graph.Unowned number) (growth : Grows graph grown) :
    grown.Unowned number :=
  ⟨Nat.lt_of_lt_of_le unowned.1 growth.size_le, (growth.ownerAt unowned.1).trans unowned.2⟩

theorem Graph.unowned_add (label : Option String) :
    (graph.add { label := label }).Unowned graph.size :=
  ⟨by simp, by rw [ownerAt_add, if_pos rfl]⟩

/-- The owner of the node and the edges that lead to it are as before. -/
abbrev Kept (graph grown : Graph) (number : Nat) : Prop :=
  grown.prev number = graph.prev number ∧ grown.ownerAt number = graph.ownerAt number

theorem Graph.Owned.kept_follow (owned : graph.Owned target number) (here : Nat) (label : String)
    (owner : Option Stmt) : Kept graph (graph.follow here label owner) number := by
  have old : number ≠ graph.size := Nat.ne_of_lt owned.holds.lt_size
  refine ⟨prev_follow_of_ne old label owner, ?_⟩
  unfold follow
  rw [ownerAt_link, ownerAt_add, if_neg old]

/-- Every node that holds the statement is its home, or owns it and is entered from its home
only. -/
def Homed (target : Stmt) (home : Nat) (graph : Graph) : Prop :=
  ∀ number, graph.Holds target number →
    number = home ∨ (graph.prev number = [home] ∧ graph.Owned target number)

theorem Homed.of_kept (homed : Homed target home graph) (held : graph.Holds target number)
    (kept : graph.Owned target number → Kept graph grown number) :
    number = home ∨ (grown.prev number = [home] ∧ grown.Owned target number) := by
  refine (homed number held).imp_right fun ⟨behind, owned⟩ => ?_
  obtain ⟨samePrev, sameOwner⟩ := kept owned
  exact ⟨samePrev.trans behind, by rwa [Graph.Owned, sameOwner]⟩

/-- The statement has a home, and can be put into the graph this often: once at most, and not at all
if the graph holds it. -/
structure Awaits (target : Stmt) (count home : Nat) (graph : Graph) : Prop where
  homed : Homed target home graph
  once : count ≤ 1
  absent : count ≠ 0 → ∀ number, ¬graph.Holds target number

namespace Awaits

theorem fewer {less : Nat} (awaits : Awaits target count home graph) (isLess : less ≤ count) :
    Awaits target less home graph :=
  ⟨awaits.homed, Nat.le_trans isLess awaits.once, fun some => awaits.absent (by omega)⟩

/-- Nodes that hold the statement stay as they are. -/
theorem keep (awaits : Awaits target count home graph)
    (holds : ∀ number, grown.Holds target number → graph.Holds target number)
    (kept : ∀ number, graph.Owned target number → Kept graph grown number) :
    Awaits target count home grown := by
  refine ⟨fun number held => ?_, awaits.once, fun some number held => ?_⟩
  · exact awaits.homed.of_kept (holds number held) (kept number)
  · exact awaits.absent some number (holds number held)

/-- A statement is put on a node. -/
theorem put (awaits : Awaits target ((stmt.same target).toNat + count) home graph)
    (holds : ∀ number, grown.Holds target number →
      graph.Holds target number ∨ (number = here ∧ stmt.same target = true))
    (kept : ∀ number, graph.Owned target number → Kept graph grown number) :
    Awaits target count (if stmt.same target then here else home) grown := by
  cases same : stmt.same target with
  | true =>
      rw [same, Bool.toNat_true] at awaits
      have once := awaits.once
      refine ⟨fun number held => .inl ?_, by omega, by omega⟩
      exact ((holds number held).resolve_left (awaits.absent (by omega) number)).1
  | false =>
      rw [same, Bool.toNat_false, Nat.zero_add] at awaits
      exact awaits.keep (fun number held => by simpa [same] using holds number held) kept

/-- The node that stands for a compound statement. -/
theorem followOwned (awaits : Awaits target ((owner.same target).toNat + count) home graph)
    (here : Nat) (label : String) :
    Awaits target count (if owner.same target then graph.size else home)
      (graph.follow here label (some owner)) :=
  awaits.put (fun number held => by simpa using Graph.holds_follow held)
    fun _ owned => owned.kept_follow here label (some owner)

/-- One more arm behind the home of its statement. -/
theorem followArm (awaits : Awaits target count home graph)
    (atHead : owner.same target = true → home = here ∧ count = 0) (label : String) :
    Awaits target count home (graph.follow here label (some owner)) := by
  cases same : owner.same target with
  | false =>
      refine awaits.keep (fun number held => ?_) fun _ owned => owned.kept_follow here label _
      simpa [same] using Graph.holds_follow held
  | true =>
      -- The new node is the only one that is added to those that hold the statement.
      obtain ⟨rfl, rfl⟩ := atHead same
      refine ⟨fun number held => ?_, Nat.zero_le 1, nofun⟩
      rcases Graph.holds_follow held with old | ⟨rfl, _⟩
      · exact awaits.homed.of_kept old fun owned => owned.kept_follow home label (some owner)
      · exact .inr ⟨Graph.prev_follow_size home label (some owner), owner,
          by simp [Graph.follow, Graph.ownerAt_add], same⟩

end Awaits

/-- The step puts the statement into the graph this often at most. If it never does, the home of the
statement stays the same. -/
def Settles (target : Stmt) (count : Nat) (graph grown : Graph) : Prop :=
  ∀ more home, Awaits target (count + more) home graph →
    ∃ later, Awaits target more later grown ∧ (count = 0 → later = home)

namespace Settles

theorem refl : Settles target 0 graph graph := fun more home awaits =>
  ⟨home, by simpa using awaits, fun _ => rfl⟩

theorem trans {first second : Nat} (one : Settles target first graph middle)
    (two : Settles target second middle grown) : Settles target (first + second) graph grown := by
  intro more home awaits
  rw [Nat.add_assoc] at awaits
  obtain ⟨between, awaitsMiddle, sameFirst⟩ := one _ home awaits
  obtain ⟨later, awaitsLater, sameSecond⟩ := two _ between awaitsMiddle
  refine ⟨later, awaitsLater, fun never => ?_⟩
  rw [sameSecond (by omega), sameFirst (by omega)]

theorem weaken {larger : Nat} (settles : Settles target count graph grown)
    (isLarger : count ≤ larger) : Settles target larger graph grown := by
  intro more home awaits
  obtain ⟨later, awaitsLater, same⟩ := settles (larger - count + more) home
    (awaits.fewer (by omega))
  exact ⟨later, awaitsLater.fewer (by omega), fun never => same (by omega)⟩

theorem keep (holds : ∀ number, grown.Holds target number → graph.Holds target number)
    (kept : ∀ number, graph.Owned target number → Kept graph grown number) :
    Settles target 0 graph grown := by
  intro more home awaits
  rw [Nat.zero_add] at awaits
  exact ⟨home, awaits.keep holds kept, fun _ => rfl⟩

theorem append (here : Nat) (stmt : Stmt) :
    Settles target (stmt.same target).toNat graph (graph.append here stmt) := by
  intro more home awaits
  refine ⟨_, awaits.put (fun number => Graph.holds_append) fun number _ => ?_, fun never => ?_⟩
  · exact ⟨Graph.prev_append here stmt, Graph.ownerAt_append here stmt number⟩
  · rw [if_neg (by simpa using never)]

theorem follow (here : Nat) (label : String) :
    Settles target 0 graph (graph.follow here label) :=
  keep (fun number held => by simpa using Graph.holds_follow held)
    fun _ owned => owned.kept_follow here label none

theorem followOwned (here : Nat) (label : String) (owner : Stmt) :
    Settles target (owner.same target).toNat graph (graph.follow here label (some owner)) := by
  intro more home awaits
  refine ⟨_, awaits.followOwned here label, fun never => ?_⟩
  rw [if_neg (by simpa using never)]

theorem add (label : String) : Settles target 0 graph (graph.add { label := some label }) := by
  refine keep (fun number held => by simpa using Graph.holds_add held) fun number owned => ?_
  exact ⟨Graph.prev_add (some label) none,
    by rw [Graph.ownerAt_add, if_neg (Nat.ne_of_lt owned.holds.lt_size)]⟩

theorem link (unowned : graph.Unowned final) (here : Nat) :
    Settles target 0 graph (graph.link here final) := by
  refine keep (fun number held => Graph.holds_link.mp held) fun number owned => ?_
  refine ⟨Graph.prev_link_of_ne ?_, Graph.ownerAt_link here final number⟩
  rintro rfl
  obtain ⟨stmt, isOwner, _⟩ := owned
  rw [unowned.2] at isOwner
  cases isOwner

theorem leave (unowned : graph.Unowned final) (hereInside : here < graph.size) (stmt : Stmt) :
    Settles target (stmt.same target).toNat graph ((graph.append here stmt).link here final) :=
  (append here stmt).trans (link (unowned.grow (.single (.append hereInside stmt))) here)

end Settles

/-- Targets of `EXIT` and `CONTINUE` stand for no statement. -/
def LoopTargets.Unowned (targets : LoopTargets) (graph : Graph) : Prop :=
  ∀ number, targets.onExit = some number ∨ targets.onContinue = some number → graph.Unowned number

theorem LoopTargets.Unowned.grow (unowned : targets.Unowned graph) (growth : Grows graph grown) :
    targets.Unowned grown :=
  fun number isTarget => (unowned number isTarget).grow growth

/-- A place for code from which edges lead back to nodes without owner only. -/
structure Clear (targets : LoopTargets) (graph : Graph) (here final : Nat) : Prop
    extends Placed targets graph here final where
  targetsUnowned : targets.Unowned graph
  finalUnowned : graph.Unowned final

namespace Clear

theorem grow (clear : Clear targets graph here final) (growth : Grows graph grown) :
    Clear targets grown here final :=
  ⟨clear.toPlaced.grow growth, clear.targetsUnowned.grow growth, clear.finalUnowned.grow growth⟩

theorem follow (clear : Clear targets graph here final) (label : String) (owner : Option Stmt) :
    Clear targets (graph.follow here label owner) graph.size final := by
  have growth := Grows.follow clear.hereInside label owner
  exact ⟨clear.toPlaced.follow label owner, clear.targetsUnowned.grow growth,
    clear.finalUnowned.grow growth⟩

theorem addJoin (inside : targets.Inside graph) (unowned : targets.Unowned graph)
    (hereInside : here < graph.size) (label : String) :
    Clear targets (graph.add { label := some label }) here graph.size :=
  ⟨.addJoin inside hereInside label, unowned.grow (.single (.add _ _)), Graph.unowned_add _⟩

theorem loopBody (hereInside : here < graph.size) (startLabel finalLabel : String) :
    Clear ⟨some (graph.size + 1), some graph.size⟩
      (loopFrame graph here startLabel finalLabel) graph.size (graph.size + 1) := by
  have first : (graph.follow here startLabel).Unowned graph.size :=
    ⟨by simp, by simp [Graph.follow, Graph.ownerAt_add]⟩
  have final : (loopFrame graph here startLabel finalLabel).Unowned (graph.size + 1) := by
    simpa using (graph.follow here startLabel).unowned_add (some finalLabel)
  refine ⟨.loopBody hereInside startLabel finalLabel, ?_, final⟩
  rintro number (exit | again)
  · obtain rfl := Option.some.inj exit
    exact final
  · obtain rfl := Option.some.inj again
    exact first.grow (.single (.add _ _))

end Clear

/-! By induction on the syntax, each part of the construction puts the statement into the graph as
often as it stands in that part, at most: what is not processed is not put there. -/

mutual

theorem addStmt_settles {targets : LoopTargets} {graph : Graph} {here : Nat} (target stmt : Stmt)
    (inLoop processed : Bool) {front : Front} (inside : targets.Inside graph)
    (unowned : targets.Unowned graph) (hereInside : here < graph.size)
    (built : addStmt targets graph here stmt = .ok front) :
    Settles target (timesIn target (stmtOccurrences inLoop processed stmt)) graph front.1 := by
  cases stmt with
  | action origin deed =>
      simp only [addStmt, Except.ok.injEq] at built
      subst built
      exact (Settles.append here _).weaken (same_le_timesIn ..)
  | returnStmt origin =>
      simp only [addStmt, Except.ok.injEq] at built
      subst built
      exact (Settles.append here _).weaken (same_le_timesIn ..)
  | exitStmt origin =>
      obtain ⟨next, exit, rfl⟩ := addStmt_exit built
      exact (Settles.leave (unowned next (.inl exit)) hereInside _).weaken (same_le_timesIn ..)
  | continueStmt origin =>
      obtain ⟨next, again, rfl⟩ := addStmt_continue built
      exact (Settles.leave (unowned next (.inr again)) hereInside _).weaken (same_le_timesIn ..)
  | jump origin target => simp [addStmt] at built
  | foreign origin name => simp [addStmt] at built
  | label origin name inner =>
      simp only [addStmt, Except.ok.injEq] at built
      subst built
      rw [stmtOccurrences_label, timesIn_cons]
      refine (Settles.followOwned here name _).trans ?_
      cases inner with
      | none => exact .refl
      | some inner =>
          -- What stands inside the inner statement is counted, but not put anywhere.
          refine (Settles.append graph.size inner).weaken ?_
          simpa using same_le_timesIn target inner inLoop false
  | ifThen origin condition body elseIfs otherwise =>
      obtain ⟨_, afterThen, afterElseIfs, afterElse, label, rfl, builtThen, builtElseIfs,
        builtElse, rfl⟩ := addStmt_ifThen built
      have clear := Clear.addJoin inside unowned hereInside "if_end"
      have pastThen := clear.grow (clear.follow_grows
        (addBranch_grows body (clear.toPlaced.follow _ _) builtThen))
      have pastElseIfs := pastThen.grow
        (addElseIfs_grows elseIfs pastThen.toPlaced builtElseIfs)
      have elseSettles : Settles target
          (timesIn target (blockOccurrences inLoop processed (otherwise.getD .missing)))
          (afterElseIfs.follow here label) afterElse := by
        cases otherwise with
        | none =>
            obtain rfl := addBranch_missing builtElse
            exact .link (pastElseIfs.follow label none).finalUnowned _
        | some block =>
            exact addBranch_settles target block inLoop processed (pastElseIfs.follow label none)
              builtElse
      rw [stmtOccurrences_ifThen]
      simp only [timesIn_cons, timesIn_append]
      have thenSettles := addBranch_settles target body inLoop processed
        (clear.follow _ _) builtThen
      have elseIfsSettle := addElseIfs_settles target elseIfs inLoop processed pastThen
        builtElseIfs
      have whole := ((Settles.add "if_end").trans (.followOwned here _ _)).trans
        (thenSettles.trans (elseIfsSettle.trans ((Settles.follow here label).trans elseSettles)))
      exact whole.weaken (by omega)
  | select origin subject arms otherwise =>
      obtain ⟨headed, afterArms, afterElse, isHeaded, builtArms, builtElse, rfl⟩ :=
        addStmt_select built
      have headedGrows : Grows graph headed := isHeaded ▸ .follow hereInside _ _
      have headInside : graph.size < headed.size := by simp [isHeaded]
      have clear := Clear.addJoin (inside.grow headedGrows) (unowned.grow headedGrows) headInside
        "case_end"
      have pastArms := clear.grow (addArms_grows arms clear.toPlaced builtArms)
      have elseSettles : Settles target
          (timesIn target (blockOccurrences inLoop processed (otherwise.getD .missing)))
          afterArms afterElse := by
        cases otherwise with
        | none => exact builtElse ▸ .refl
        | some block =>
            have blockSettles := addBranch_settles target block inLoop processed
              (pastArms.follow "else" none) builtElse
            exact ((Settles.follow graph.size "else").trans blockSettles).weaken (by simp)
      rw [stmtOccurrences_select]
      simp only [timesIn_cons, timesIn_append]
      rw [← Nat.add_assoc]
      refine Settles.trans (fun more home awaits => ?_) elseSettles
      rw [Nat.add_assoc] at awaits
      -- If this is the statement, its head is the home, and it is not to be put anywhere else.
      have once := awaits.once
      have headAwaits := awaits.followOwned here ("CASE " ++ subject.text)
      rw [← isHeaded, ← Nat.zero_add (_ + more)] at headAwaits
      obtain ⟨_, joinAwaits, sameHead⟩ := Settles.add "case_end" _ _ headAwaits
      rw [sameHead rfl] at joinAwaits
      obtain ⟨later, awaitsMore, sameArms⟩ := addArms_settles target arms inLoop processed clear
        builtArms joinAwaits fun same => by
          rw [same, Bool.toNat_true] at once
          exact ⟨if_pos same, by omega⟩
      refine ⟨later, awaitsMore, fun never => ?_⟩
      rw [sameArms (by omega), if_neg (by simpa using (Nat.add_eq_zero_iff.mp never).1)]
  | loop origin head body =>
      obtain ⟨headed, afterBody, isHeaded, builtBody, rfl⟩ := addStmt_loop built
      have headedGrows : Grows graph headed := isHeaded ▸ .follow hereInside _ _
      have headInside : graph.size < headed.size := by simp [isHeaded]
      have clear := Clear.loopBody headInside "loop_start" "loop_end"
      have bodyGrows := addBranch_grows body clear.toPlaced builtBody
      have pastBody := Placed.pastLoop (inside.grow headedGrows) headInside bodyGrows
      have pastLoop : (afterBody.follow graph.size "_else").Unowned (headed.size + 1) :=
        clear.finalUnowned.grow (bodyGrows.trans (Grows.follow pastBody.hereInside _ _))
      have headSettles : Settles target ((Stmt.loop origin head body).same target).toNat graph
          headed := isHeaded ▸ Settles.followOwned here "loop" _
      have bodySettles := addBranch_settles target body true processed clear builtBody
      have whole := headSettles.trans (((Settles.follow graph.size "loop_start").trans
        (.add "loop_end")).trans (bodySettles.trans ((Settles.follow graph.size "_else").trans
          (.link pastLoop afterBody.size))))
      simp only [stmtOccurrences, timesIn_cons]
      exact whole.weaken (by omega)
termination_by structural stmt

theorem addBranch_settles {targets : LoopTargets} {graph grown : Graph} {here final : Nat}
    (target : Stmt) (block : Block) (inLoop processed : Bool)
    (clear : Clear targets graph here final)
    (built : addBranch targets graph here final block = .ok grown) :
    Settles target (timesIn target (blockOccurrences inLoop processed block)) graph grown := by
  cases block with
  | missing =>
      obtain rfl := addBranch_missing built
      exact .link clear.finalUnowned here
  | given stmts =>
      obtain ⟨middle, reached, builtStmts, rfl⟩ := addBranch_given built
      have settles := addStmts_settles target stmts inLoop processed clear.inside
        clear.targetsUnowned clear.hereInside builtStmts
      cases reached with
      | none => exact settles
      | some number =>
          have growth := (addStmts_grows stmts clear.inside clear.hereInside builtStmts).1
          exact settles.trans (.link (clear.finalUnowned.grow growth) number)
termination_by structural block

theorem addElseIfs_settles {targets : LoopTargets} {graph grown : Graph} {here final : Nat}
    (target : Stmt) (elseIfs : List ElseIf) (inLoop processed : Bool)
    (clear : Clear targets graph here final)
    (built : addElseIfs targets graph here final elseIfs = .ok grown) :
    Settles target (timesIn target (elseIfsOccurrences inLoop processed elseIfs)) graph grown := by
  cases elseIfs with
  | nil =>
      cases built
      exact .refl
  | cons elseIf rest =>
      obtain ⟨condition, body⟩ := elseIf
      rw [addElseIfs] at built
      obtain ⟨middle, builtBody, builtRest⟩ := bind_eq_ok built
      have followed := clear.follow ("elsif " ++ condition.text) none
      have growth := clear.follow_grows (addBranch_grows body followed.toPlaced builtBody)
      have bodySettles := addBranch_settles target body inLoop processed followed builtBody
      have restSettles := addElseIfs_settles target rest inLoop processed (clear.grow growth)
        builtRest
      rw [elseIfsOccurrences, timesIn_append]
      exact (((Settles.follow here _).trans bodySettles).trans restSettles).weaken (by omega)
termination_by structural elseIfs

/-- The home of the statement for whose arms the construction runs is the node in front of them. -/
theorem addArms_settles {targets : LoopTargets} {graph grown : Graph} {owner : Stmt}
    {head final more home : Nat} (target : Stmt) (arms : List Arm) (inLoop processed : Bool)
    (clear : Clear targets graph head final)
    (built : addArms targets graph owner head final arms = .ok grown)
    (awaits : Awaits target (timesIn target (armsOccurrences inLoop processed arms) + more) home
      graph)
    (atHead : owner.same target = true →
      home = head ∧ timesIn target (armsOccurrences inLoop processed arms) + more = 0) :
    ∃ later, Awaits target more later grown ∧
      (timesIn target (armsOccurrences inLoop processed arms) = 0 → later = home) := by
  cases arms with
  | nil =>
      cases built
      exact Settles.refl more home awaits
  | cons arm rest =>
      obtain ⟨values, body⟩ := arm
      rw [addArms] at built
      obtain ⟨middle, builtBody, builtRest⟩ := bind_eq_ok built
      rw [armsOccurrences, timesIn_append] at awaits atHead ⊢
      have followed := clear.follow (Arm.text (.mk values body)) (some owner)
      have growth := clear.follow_grows (addBranch_grows body followed.toPlaced builtBody)
      have entered := awaits.followArm atHead (Arm.text (.mk values body))
      rw [Nat.add_assoc] at entered
      obtain ⟨between, awaitsRest, sameBody⟩ := addBranch_settles target body inLoop processed
        followed builtBody _ home entered
      obtain ⟨later, awaitsMore, sameRest⟩ := addArms_settles target rest inLoop processed
        (clear.grow growth) builtRest awaitsRest fun same => by
          obtain ⟨isHead, never⟩ := atHead same
          exact ⟨(sameBody (by omega)).trans isHead, by omega⟩
      exact ⟨later, awaitsMore, fun never =>
        (sameRest (by omega)).trans (sameBody (by omega))⟩
termination_by structural arms

theorem addStmts_settles {targets : LoopTargets} {graph : Graph} {here : Nat} (target : Stmt)
    (stmts : List Stmt) (inLoop processed : Bool) {front : Front} (inside : targets.Inside graph)
    (unowned : targets.Unowned graph) (hereInside : here < graph.size)
    (built : addStmts targets graph (some here) stmts = .ok front) :
    Settles target (timesIn target (stmtsOccurrences inLoop processed stmts)) graph front.1 := by
  cases stmts with
  | nil =>
      cases built
      exact .refl
  | cons stmt rest =>
      obtain ⟨middle, reached, builtStmt, builtRest⟩ := addStmts_cons built
      have settles := addStmt_settles target stmt inLoop processed inside unowned hereInside
        builtStmt
      obtain ⟨growth, reachedInside⟩ := addStmt_grows stmt inside hereInside builtStmt
      rw [stmtsOccurrences, timesIn_append]
      cases reached with
      | none =>
          -- The rest of the block is not put into the graph.
          cases addStmts_none builtRest
          exact settles.weaken (Nat.le_add_right _ _)
      | some number =>
          exact settles.trans (addStmts_settles target rest inLoop _ (inside.grow growth)
            (unowned.grow growth) (reachedInside number rfl) builtRest)
termination_by structural stmts

end

/-- If a statement stands in the code once at most, it has a home in the graph. -/
theorem Source.exists_home {source : Source} (built : source.graph = .ok graph)
    (once : timesIn target source.occurrences ≤ 1) : ∃ home, Homed target home graph := by
  obtain ⟨reached, builtStmts⟩ := graph_eq_ok built
  have settles := addStmts_settles target source.stmts false true (by simp [LoopTargets.Inside])
    (by simp [LoopTargets.Unowned]) source.linked_seed.nonempty builtStmts
  have awaits : Awaits target (timesIn target source.occurrences) 0 source.seed :=
    ⟨by simp [Homed, Graph.Holds], once, by simp [Graph.Holds]⟩
  obtain ⟨home, awaitsNone, _⟩ := settles 0 0 awaits
  exact ⟨home, awaitsNone.homed⟩

end PlcLint.Flow
