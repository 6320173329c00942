import PlcLint.Proofs.Flow.Execution
import PlcLint.Proofs.Flow.Structural

/-!
What a search without failing path says about executions: each one that comes to its end executes a
satisfying statement, unless it passes a `CASE` statement without `ELSE` none of whose arms matches.
Program graphs have no path for that.
-/

namespace PlcLint.Flow

/-! Code without labels and jumps. -/

mutual

def plainStmt (stmt : Stmt) : Bool :=
  match stmt with
  | .action _ _ => true
  | .exitStmt _ => true
  | .continueStmt _ => true
  | .returnStmt _ => true
  | .jump _ _ => false
  | .foreign _ _ => true
  | .label _ _ _ => false
  | .ifThen _ _ body elseIfs otherwise =>
    plainBlock body && plainElseIfs elseIfs &&
      match otherwise with
      | some block => plainBlock block
      | none => true
  | .select _ _ arms otherwise =>
    plainArms arms &&
      match otherwise with
      | some block => plainBlock block
      | none => true
  | .loop _ _ body => plainBlock body

def plainBlock (block : Block) : Bool :=
  match block with
  | .missing => true
  | .given stmts => plainStmts stmts

def plainElseIfs (elseIfs : List ElseIf) : Bool :=
  match elseIfs with
  | [] => true
  | .mk _ body :: rest => plainBlock body && plainElseIfs rest

def plainArms (arms : List Arm) : Bool :=
  match arms with
  | [] => true
  | .mk _ body :: rest => plainBlock body && plainArms rest

def plainStmts (stmts : List Stmt) : Bool :=
  match stmts with
  | [] => true
  | stmt :: rest => plainStmt stmt && plainStmts rest

end

theorem plainBlock_stmts (block : Block) : plainBlock block = plainStmts block.stmts := by
  cases block with
  | missing => rfl
  | given stmts => rw [plainBlock, Block.stmts]

theorem plainElseIfs_body {elseIfs : List ElseIf} (plain : plainElseIfs elseIfs = true) :
    ∀ elseIf ∈ elseIfs, plainStmts elseIf.body.stmts = true := by
  induction elseIfs with
  | nil => simp
  | cons first rest inductionHypothesis =>
      obtain ⟨condition, body⟩ := first
      rw [plainElseIfs, Bool.and_eq_true, plainBlock_stmts] at plain
      rintro elseIf membership
      rcases List.mem_cons.mp membership with rfl | later
      · exact plain.1
      · exact inductionHypothesis plain.2 elseIf later

theorem plainArms_body {arms : List Arm} (plain : plainArms arms = true) :
    ∀ arm ∈ arms, plainStmts arm.body.stmts = true := by
  induction arms with
  | nil => simp
  | cons first rest inductionHypothesis =>
      obtain ⟨values, body⟩ := first
      rw [plainArms, Bool.and_eq_true, plainBlock_stmts] at plain
      rintro arm membership
      rcases List.mem_cons.mp membership with rfl | later
      · exact plain.1
      · exact inductionHypothesis plain.2 arm later

theorem plainStmts_branches {stmt : Stmt} {chosen : List Stmt} (plain : plainStmt stmt = true)
    (choice : chosen ∈ stmt.branches) : plainStmts chosen = true := by
  cases stmt with
  | ifThen origin condition body elseIfs otherwise =>
      have parts : plainStmts body.stmts = true ∧ plainElseIfs elseIfs = true ∧
          plainStmts (otherwise.getD .missing).stmts = true := by
        cases otherwise <;>
          simpa [plainStmt, plainBlock_stmts, Block.stmts, plainStmts, and_assoc] using plain
      rcases Stmt.mem_branches_ifThen.mp choice with rfl | ⟨elseIf, membership, rfl⟩ | rfl
      · exact parts.1
      · exact plainElseIfs_body parts.2.1 elseIf membership
      · exact parts.2.2
  | select origin subject arms otherwise =>
      have parts : plainArms arms = true ∧ otherwise.all (plainStmts ·.stmts) = true := by
        cases otherwise <;> simpa [plainStmt, plainBlock_stmts] using plain
      rcases Stmt.mem_branches_select.mp choice with ⟨arm, membership, rfl⟩ | ⟨block, rfl, rfl⟩
      · exact plainArms_body parts.1 arm membership
      · exact parts.2
  | _ => simp [Stmt.branches] at choice

/-! A way out of a branch is a way out of the statement. -/

variable {pred : Stmt → Bool}

/-- Every way out that is open in the first is open in the second. -/
def Ways.Within (first second : Ways) : Prop :=
  (first.through = true → second.through = true) ∧ (first.ends = true → second.ends = true)

namespace Ways.Within

variable {first second third : Ways}

theorem refl (ways : Ways) : ways.Within ways := ⟨id, id⟩

theorem either_left (within : first.Within second) : first.Within (second.either third) := by
  constructor <;> intro isOpen <;> simp [Ways.either, within.1, within.2, isOpen]

theorem either_right (within : first.Within third) : first.Within (second.either third) := by
  constructor <;> intro isOpen <;> simp [Ways.either, within.1, within.2, isOpen]

end Ways.Within

theorem blockWays_stmts (block : Block) : blockWays pred block = stmtsWays pred block.stmts := by
  cases block with
  | missing => rfl
  | given stmts => rw [blockWays, Block.stmts]

theorem within_elseIfsWays {elseIfs : List ElseIf} :
    ∀ elseIf ∈ elseIfs, (stmtsWays pred elseIf.body.stmts).Within (elseIfsWays pred elseIfs) := by
  induction elseIfs with
  | nil => simp
  | cons first rest inductionHypothesis =>
      obtain ⟨condition, body⟩ := first
      rw [elseIfsWays, blockWays_stmts]
      intro elseIf membership
      rcases List.mem_cons.mp membership with rfl | later
      · exact (Ways.Within.refl _).either_left
      · exact (inductionHypothesis elseIf later).either_right

theorem within_armsWays {arms : List Arm} :
    ∀ arm ∈ arms, (stmtsWays pred arm.body.stmts).Within (armsWays pred arms) := by
  induction arms with
  | nil => simp
  | cons first rest inductionHypothesis =>
      obtain ⟨values, body⟩ := first
      rw [armsWays, blockWays_stmts]
      intro arm membership
      rcases List.mem_cons.mp membership with rfl | later
      · exact (Ways.Within.refl _).either_left
      · exact (inductionHypothesis arm later).either_right

theorem branch_within {stmt : Stmt} {chosen : List Stmt} (missed : pred stmt = false)
    (choice : chosen ∈ stmt.branches) : (stmtsWays pred chosen).Within (stmtWays pred stmt) := by
  cases stmt with
  | ifThen origin condition body elseIfs otherwise =>
      rw [stmtWays_ifThen, missed, Bool.not_false, Ways.onlyIf_true, blockWays_stmts,
        blockWays_stmts]
      rcases Stmt.mem_branches_ifThen.mp choice with rfl | ⟨elseIf, membership, rfl⟩ | rfl
      · exact (Ways.Within.refl _).either_left.either_left
      · exact (within_elseIfsWays elseIf membership).either_right.either_left
      · exact (Ways.Within.refl _).either_right
  | select origin subject arms otherwise =>
      rw [Stmt.mem_branches_select] at choice
      cases otherwise with
      | none =>
          rcases choice with ⟨arm, membership, rfl⟩ | ⟨block, impossible, _⟩
          · have nonempty : ¬arms.isEmpty = true := by
              simpa using List.ne_nil_of_mem membership
            rw [stmtWays, missed, Bool.not_false, Ways.onlyIf_true, if_neg nonempty]
            exact within_armsWays arm membership
          · cases impossible
      | some otherwise =>
          rw [stmtWays, missed, Bool.not_false, Ways.onlyIf_true, blockWays_stmts]
          rcases choice with ⟨arm, membership, rfl⟩ | ⟨block, same, rfl⟩
          · exact (within_armsWays arm membership).either_left
          · obtain rfl := Option.some.inj same
            exact (Ways.Within.refl _).either_right
  | _ => simp [Stmt.branches] at choice

/-- The ways out of code account for how an execution of it ended. Where `EXIT` and `CONTINUE` lead
does not matter: the loop around them is left in any case. -/
def Ways.Accounts (ways : Ways) : Outcome → Prop
  | .done => ways.through = true ∨ ways.ends = true
  | .returned => ways.ends = true
  | .left => True
  | .again => True

namespace Ways.Accounts

variable {first second : Ways} {outcome : Outcome}

theorem within (accounts : first.Accounts outcome) (within : first.Within second) :
    second.Accounts outcome := by
  cases outcome with
  | done => exact accounts.imp within.1 within.2
  | returned => exact within.2 accounts
  | left => trivial
  | again => trivial

theorem of_ends (ends : first.ends = true) : first.Accounts outcome := by
  cases outcome with
  | done => exact .inr ends
  | returned => exact ends
  | left => trivial
  | again => trivial

/-- The first part is passed, or it ends the routine. -/
theorem andThen (passed : first.through = true ∨ first.ends = true)
    (accounts : second.Accounts outcome) : (first.andThen second).Accounts outcome := by
  rcases passed with through | ends
  · refine accounts.within ⟨?_, ?_⟩ <;> intro isOpen <;> simp [Ways.andThen, through, isOpen]
  · exact of_ends (by simp [Ways.andThen, ends])

theorem andThen_out (accounts : first.Accounts outcome) (out : outcome ≠ .done) :
    (first.andThen second).Accounts outcome := by
  cases outcome with
  | done => exact absurd rfl out
  | returned => exact of_ends (by simp [Ways.andThen, show first.ends = true from accounts])
  | left => trivial
  | again => trivial

end Ways.Accounts

/-- No satisfying statement is executed, and no arms fail to match. -/
def Event.Harmless (pred : Stmt → Bool) : Event → Prop
  | .executed stmt => pred stmt = false
  | .unmatched stmt => ∀ origin subject arms, stmt = .select origin subject arms none → arms = []

theorem loopWays {origin : Origin} {head : LoopHead} {body : Block}
    (missed : pred (.loop origin head body) = false) :
    stmtWays pred (.loop origin head body) = ⟨true, (stmtsWays pred body.stmts).ends⟩ := by
  rw [stmtWays, missed, Bool.not_false, Ways.onlyIf_true, blockWays_stmts]

theorem Runs.accounts {stmts : List Stmt} {trace : List Event} {outcome : Outcome}
    (runs : Runs stmts trace outcome) (plain : plainStmts stmts = true)
    (harmless : ∀ event ∈ trace, event.Harmless pred) :
    (stmtsWays pred stmts).Accounts outcome := by
  -- By induction on the execution. Only the last round of a loop counts, as the graph has only one.
  induction runs with
  | nil => exact .inl rfl
  | action onward inductionHypothesis =>
      rw [plainStmts, Bool.and_eq_true] at plain
      rw [List.forall_mem_cons] at harmless
      rw [stmtsWays]
      refine .andThen (.inl ?_) (inductionHypothesis plain.2 harmless.2)
      simp [stmtWays, Ways.onlyIf, Ways.passing, show pred _ = false from harmless.1]
  | exitStmt => trivial
  | continueStmt => trivial
  | returnStmt =>
      rw [List.forall_mem_cons] at harmless
      rw [stmtsWays]
      refine .andThen_out (Ways.Accounts.of_ends ?_) (by simp)
      simp [stmtWays, Ways.onlyIf, Ways.ending, show pred _ = false from harmless.1]
  | label onward inductionHypothesis => simp [plainStmts, plainStmt] at plain
  | branch choice inside onward insideHypothesis inductionHypothesis =>
      rw [plainStmts, Bool.and_eq_true] at plain
      rw [List.forall_mem_cons, List.forall_mem_append] at harmless
      obtain ⟨missed, insideHarmless, onwardHarmless⟩ := harmless
      have accounts := insideHypothesis (plainStmts_branches plain.1 choice) insideHarmless
      rw [stmtsWays]
      exact .andThen (accounts.within (branch_within missed choice))
        (inductionHypothesis plain.2 onwardHarmless)
  | branchOut choice inside out insideHypothesis =>
      rw [plainStmts, Bool.and_eq_true] at plain
      rw [List.forall_mem_cons] at harmless
      have accounts := insideHypothesis (plainStmts_branches plain.1 choice) harmless.2
      rw [stmtsWays]
      exact .andThen_out (accounts.within (branch_within harmless.1 choice)) out
  | unmatched onward inductionHypothesis =>
      rw [plainStmts, Bool.and_eq_true] at plain
      rw [List.forall_mem_cons, List.forall_mem_cons] at harmless
      obtain ⟨missed, armless, onwardHarmless⟩ := harmless
      obtain rfl := armless _ _ _ rfl
      rw [stmtsWays]
      refine .andThen (.inr ?_) (inductionHypothesis plain.2 onwardHarmless)
      simp [stmtWays, Ways.onlyIf, Ways.ending, show pred _ = false from missed]
  | loopOver never onward inductionHypothesis =>
      rw [plainStmts, Bool.and_eq_true] at plain
      rw [List.forall_mem_cons] at harmless
      rw [stmtsWays, loopWays harmless.1]
      exact .andThen (.inl rfl) (inductionHypothesis plain.2 harmless.2)
  | loopRound inside goesOn onward insideHypothesis inductionHypothesis =>
      rw [List.forall_mem_cons, List.forall_mem_append] at harmless
      exact inductionHypothesis plain harmless.2.2
  | loopLast inside stays onward insideHypothesis inductionHypothesis =>
      rw [plainStmts, Bool.and_eq_true] at plain
      rw [List.forall_mem_cons, List.forall_mem_append] at harmless
      rw [stmtsWays, loopWays harmless.1]
      exact .andThen (.inl rfl) (inductionHypothesis plain.2 harmless.2.2)
  | loopReturn inside insideHypothesis =>
      rw [plainStmts, Bool.and_eq_true, plainStmt, plainBlock_stmts] at plain
      rw [List.forall_mem_cons] at harmless
      rw [stmtsWays, loopWays harmless.1]
      refine .andThen_out (Ways.Accounts.of_ends ?_) (by simp)
      exact insideHypothesis plain.1 harmless.2

/-- The execution passes a `CASE` statement without `ELSE` none of whose arms matches. -/
def PassesUnmatched (trace : List Event) : Prop :=
  ∃ origin subject arms, arms ≠ [] ∧ .unmatched (.select origin subject arms none) ∈ trace

theorem harmless_of_not {trace : List Event} (misses : ¬Executes pred trace)
    (matched : ¬PassesUnmatched trace) : ∀ event ∈ trace, event.Harmless pred := by
  rintro (stmt | stmt) membership
  · exact not_executes_iff.mp misses _ membership
  · rintro origin subject arms rfl
    apply Classical.byContradiction
    intro nonempty
    exact matched ⟨origin, subject, arms, nonempty, membership⟩

/-- If the search gives no path, every execution that comes to its end executes a satisfying
statement or passes a `CASE` statement without `ELSE` none of whose arms matches. All of them
execute one exactly if the recursion that knows such executions finds no end without one. -/
theorem executes_of_no_failingPath {graph : Graph} (pred : Stmt → Bool) (source : Source)
    (built : source.graph = .ok graph) (plain : plainStmts source.stmts = true)
    (unfailing : graph.failingPath (fun stmt => .ok (pred stmt)) = .ok none) :
    (∀ trace, Completes source.stmts trace → Executes pred trace ∨ PassesUnmatched trace) ∧
      ((∀ trace, Completes source.stmts trace → Executes pred trace) ↔
        (stmtsExits pred source.stmts).terminates = false) := by
  obtain ⟨answer, searched, right⟩ := failingPath_answers pred (Source.linked_graph built)
  rw [unfailing, Except.ok.injEq, eq_comm, Option.map_eq_none_iff] at searched
  have shut : (stmtsWays pred source.stmts).isOpen = false := by
    rw [← right.isSome_eq_isOpen built, searched]
    rfl
  rw [Ways.isOpen, Bool.or_eq_false_iff] at shut
  refine ⟨?_, all_execute_iff⟩
  intro trace completes
  apply Classical.byContradiction
  intro escapes
  rw [not_or] at escapes
  have harmless := harmless_of_not escapes.1 escapes.2
  rcases completes with runs | runs
  · have accounts := runs.accounts plain harmless
    simp [Ways.Accounts, shut] at accounts
  · have accounts := runs.accounts plain harmless
    simp [Ways.Accounts, shut] at accounts

/-- `WHILE TRUE DO IF TRUE THEN CONTINUE; END_IF END_WHILE`, then an `IF` statement both of whose
branches hold a statement with a number from `5` on. -/
def continuingLoop : List Stmt :=
  [.loop ⟨1, none, none⟩ (.whileDo always) (.given
      [.ifThen ⟨2, none, none⟩ always (.given [.continueStmt ⟨3, none, none⟩]) [] none]),
    .ifThen ⟨4, none, none⟩ always (.given [mark 5]) []
      (some (.given [mark 6, .returnStmt ⟨7, none, none⟩]))]

theorem executes_continuingLoop :
    (∃ trace, Completes continuingLoop trace) ∧
      ∀ trace, Completes continuingLoop trace →
        Executes (fun stmt => decide (5 ≤ stmt.origin.serial)) trace := by
  constructor
  · exact ⟨_, .inr (.loopRound (.branchOut (.head _) .continueStmt (by simp)) (.inr rfl)
      (.loopOver rfl (.branchOut (.tail _ (.head _)) (.action .returnStmt) (by simp))))⟩
  · exact (executes_of_no_failingPath (fun stmt => decide (5 ≤ stmt.origin.serial))
      (.block continuingLoop) rfl rfl rfl).2.mpr (by decide)

/-- `CASE TRUE OF TRUE: …; END_CASE`, where the arm holds the statement with number `2`. -/
def partialCase : List Stmt :=
  [.select ⟨1, none, none⟩ always
    [.mk [.value always] (.given [mark 2])] none]

/-- The search gives no path, and yet the code can run to its end without that statement. -/
theorem partialCase_escapes :
    plainStmts partialCase = true ∧
      (∃ graph, (Source.block partialCase).graph = .ok graph ∧
        graph.failingPath (fun stmt => .ok (stmt.origin.serial == 2)) = .ok none) ∧
      ∃ trace, Completes partialCase trace ∧
        ¬Executes (fun stmt => stmt.origin.serial == 2) trace := by
  refine ⟨rfl, ⟨_, rfl, rfl⟩, _, .inl (.unmatched .nil), ?_⟩
  rw [not_executes_iff]
  simp [Event.Misses, Stmt.origin]

end PlcLint.Flow
