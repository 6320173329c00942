import PlcLint.Proofs.Flow.Ways

/-!
Executions of code with free choice of branches, and a recursion on the syntax that says exactly
how the executions can end that execute no satisfying statement.
-/

namespace PlcLint

/-- The blocks of which a branching statement executes one. -/
def Stmt.branches : Stmt → List (List Stmt)
  | .ifThen _ _ body elseIfs otherwise =>
    body.stmts :: (elseIfs.map (·.body.stmts) ++ [(otherwise.getD .missing).stmts])
  | .select _ _ arms otherwise =>
    arms.map (·.body.stmts) ++ otherwise.toList.map Block.stmts
  | _ => []

theorem Stmt.mem_branches_ifThen {origin : Origin} {condition : Expr} {body : Block}
    {elseIfs : List ElseIf} {otherwise : Option Block} {chosen : List Stmt} :
    chosen ∈ (Stmt.ifThen origin condition body elseIfs otherwise).branches ↔
      chosen = body.stmts ∨ (∃ elseIf ∈ elseIfs, elseIf.body.stmts = chosen) ∨
        chosen = (otherwise.getD .missing).stmts := by
  simp [branches]

theorem Stmt.mem_branches_select {origin : Origin} {subject : Expr} {arms : List Arm}
    {otherwise : Option Block} {chosen : List Stmt} :
    chosen ∈ (Stmt.select origin subject arms otherwise).branches ↔
      (∃ arm ∈ arms, arm.body.stmts = chosen) ∨
        ∃ block, otherwise = some block ∧ block.stmts = chosen := by
  simp [branches]

/-- Loops of which the body is executed at least once. -/
def LoopHead.runsOnce : LoopHead → Bool
  | repeatUntil _ => true
  | _ => false

end PlcLint

namespace PlcLint.Flow

/-- How an execution of a block ends: behind its last statement, or by `EXIT`, `CONTINUE` or
`RETURN`. -/
inductive Outcome where
  | done
  | left
  | again
  | returned
  deriving DecidableEq

/-- What an execution does: it executes a statement, a compound one when its head is reached, or it
finds that no arm of a `CASE` statement without `ELSE` matches. -/
inductive Event where
  | executed (stmt : Stmt)
  | unmatched (stmt : Stmt)

/-- The executions of a block. No execution goes past a jump or past a statement of foreign kind. -/
inductive Runs : List Stmt → List Event → Outcome → Prop
  | nil : Runs [] [] .done
  | action {origin deed rest trace outcome} (onward : Runs rest trace outcome) :
      Runs (.action origin deed :: rest) (.executed (.action origin deed) :: trace) outcome
  | exitStmt {origin rest} :
      Runs (.exitStmt origin :: rest) [.executed (.exitStmt origin)] .left
  | continueStmt {origin rest} :
      Runs (.continueStmt origin :: rest) [.executed (.continueStmt origin)] .again
  | returnStmt {origin rest} :
      Runs (.returnStmt origin :: rest) [.executed (.returnStmt origin)] .returned
  | label {origin name inner rest trace outcome}
      (onward : Runs (inner.toList ++ rest) trace outcome) :
      Runs (.label origin name inner :: rest)
        (.executed (.label origin name inner) :: trace) outcome
  | branch {stmt chosen taken rest trace outcome} (choice : chosen ∈ stmt.branches)
      (inside : Runs chosen taken .done) (onward : Runs rest trace outcome) :
      Runs (stmt :: rest) (.executed stmt :: (taken ++ trace)) outcome
  | branchOut {stmt chosen taken rest outcome} (choice : chosen ∈ stmt.branches)
      (inside : Runs chosen taken outcome) (out : outcome ≠ .done) :
      Runs (stmt :: rest) (.executed stmt :: taken) outcome
  | unmatched {origin subject arms rest trace outcome} (onward : Runs rest trace outcome) :
      Runs (.select origin subject arms none :: rest)
        (.executed (.select origin subject arms none) ::
          .unmatched (.select origin subject arms none) :: trace) outcome
  | loopOver {origin head body rest trace outcome} (never : head.runsOnce = false)
      (onward : Runs rest trace outcome) :
      Runs (.loop origin head body :: rest) (.executed (.loop origin head body) :: trace) outcome
  | loopRound {origin head body round taken rest trace outcome}
      (inside : Runs body.stmts taken round)
      (goesOn : round = .done ∨ round = .again)
      (onward : Runs (.loop origin head body :: rest) trace outcome) :
      Runs (.loop origin head body :: rest)
        (.executed (.loop origin head body) :: (taken ++ trace)) outcome
  | loopLast {origin head body round taken rest trace outcome}
      (inside : Runs body.stmts taken round)
      (stays : round ≠ .returned) (onward : Runs rest trace outcome) :
      Runs (.loop origin head body :: rest)
        (.executed (.loop origin head body) :: (taken ++ trace)) outcome
  | loopReturn {origin head body taken rest} (inside : Runs body.stmts taken .returned) :
      Runs (.loop origin head body :: rest) (.executed (.loop origin head body) :: taken) .returned

/-- No satisfying statement is executed. -/
def Event.Misses (pred : Stmt → Bool) : Event → Prop
  | .executed stmt => pred stmt = false
  | .unmatched _ => True

/-- How code can end, as far as no satisfying statement is executed. -/
abbrev Exits := Outcome → Bool

namespace Exits

def only (outcome : Outcome) : Exits := fun other => decide (other = outcome)

def onlyIf (exits : Exits) (condition : Bool) : Exits := fun outcome => condition && exits outcome

def either (first second : Exits) : Exits := fun outcome => first outcome || second outcome

def andThen (first second : Exits) : Exits := fun outcome =>
  (first .done && second outcome) || (decide (outcome ≠ .done) && first outcome)

/-- The exits of a loop from those of its body. -/
def looped (body : Exits) (head : LoopHead) : Exits
  | .done => !head.runsOnce || body .done || body .again || body .left
  | .returned => body .returned
  | .left => false
  | .again => false

/-- An execution can come to its end. -/
def terminates (exits : Exits) : Bool := exits .done || exits .returned

variable {first second body : Exits} {outcome ending round : Outcome} {head : LoopHead}

theorem only_eq_true : only ending outcome = true ↔ outcome = ending := by
  rw [only, decide_eq_true_eq]

theorem onlyIf_not {satisfied : Bool} :
    first.onlyIf (!satisfied) outcome = true ↔ satisfied = false ∧ first outcome = true := by
  rw [onlyIf, Bool.and_eq_true, Bool.not_eq_true']

theorem andThen_eq_true :
    first.andThen second outcome = true ↔
      (first .done = true ∧ second outcome = true) ∨ (outcome ≠ .done ∧ first outcome = true) := by
  simp only [andThen, Bool.or_eq_true, Bool.and_eq_true, decide_eq_true_eq]

/-- A loop is left when its body is, in whatever way but by `RETURN`. -/
theorem looped_done :
    body.looped head .done = true ↔
      head.runsOnce = false ∨ ∃ round, round ≠ .returned ∧ body round = true := by
  simp only [looped, Bool.or_eq_true, Bool.not_eq_true']
  constructor
  · rintro (((never | falls) | continues) | leaves)
    · exact .inl never
    · exact .inr ⟨.done, by simp, falls⟩
    · exact .inr ⟨.again, by simp, continues⟩
    · exact .inr ⟨.left, by simp, leaves⟩
  · rintro (never | ⟨round, stays, exits⟩)
    · exact .inl (.inl (.inl never))
    · cases round with
      | done => exact .inl (.inl (.inr exits))
      | again => exact .inl (.inr exits)
      | left => exact .inr exits
      | returned => exact absurd rfl stays

end Exits

mutual

def stmtExits (pred : Stmt → Bool) (stmt : Stmt) : Exits :=
  match stmt with
  | .action _ _ => (Exits.only .done).onlyIf (!pred stmt)
  | .exitStmt _ => (Exits.only .left).onlyIf (!pred stmt)
  | .continueStmt _ => (Exits.only .again).onlyIf (!pred stmt)
  | .returnStmt _ => (Exits.only .returned).onlyIf (!pred stmt)
  | .jump _ _ => fun _ => false
  | .foreign _ _ => fun _ => false
  | .label _ _ inner =>
    let behind := match inner with
      | some inner => stmtExits pred inner
      | none => .only .done
    behind.onlyIf (!pred stmt)
  | .ifThen _ _ body elseIfs otherwise =>
    let last := match otherwise with
      | some block => blockExits pred block
      | none => .only .done
    (((blockExits pred body).either (elseIfsExits pred elseIfs)).either last).onlyIf (!pred stmt)
  | .select _ _ arms otherwise =>
    let last := match otherwise with
      | some block => blockExits pred block
      | none => .only .done
    ((armsExits pred arms).either last).onlyIf (!pred stmt)
  | .loop _ head body => ((blockExits pred body).looped head).onlyIf (!pred stmt)

def blockExits (pred : Stmt → Bool) (block : Block) : Exits :=
  match block with
  | .missing => .only .done
  | .given stmts => stmtsExits pred stmts

def elseIfsExits (pred : Stmt → Bool) (elseIfs : List ElseIf) : Exits :=
  match elseIfs with
  | [] => fun _ => false
  | .mk _ body :: rest => (blockExits pred body).either (elseIfsExits pred rest)

def armsExits (pred : Stmt → Bool) (arms : List Arm) : Exits :=
  match arms with
  | [] => fun _ => false
  | .mk _ body :: rest => (blockExits pred body).either (armsExits pred rest)

def stmtsExits (pred : Stmt → Bool) (stmts : List Stmt) : Exits :=
  match stmts with
  | [] => .only .done
  | stmt :: rest => (stmtExits pred stmt).andThen (stmtsExits pred rest)

end

section

variable {pred : Stmt → Bool} {outcome last : Outcome} {rest chosen : List Stmt}

theorem stmtExits_ifThen {origin : Origin} {condition : Expr} {body : Block}
    {elseIfs : List ElseIf} {otherwise : Option Block} :
    stmtExits pred (.ifThen origin condition body elseIfs otherwise) outcome = true ↔
      pred (.ifThen origin condition body elseIfs otherwise) = false ∧
        (blockExits pred body outcome = true ∨ elseIfsExits pred elseIfs outcome = true ∨
          blockExits pred (otherwise.getD .missing) outcome = true) := by
  cases otherwise <;> simp [stmtExits, blockExits, Exits.onlyIf, Exits.either, or_assoc]

theorem stmtExits_select {origin : Origin} {subject : Expr} {arms : List Arm}
    {otherwise : Option Block} :
    stmtExits pred (.select origin subject arms otherwise) outcome = true ↔
      pred (.select origin subject arms otherwise) = false ∧
        (armsExits pred arms outcome = true ∨
          blockExits pred (otherwise.getD .missing) outcome = true) := by
  cases otherwise <;> simp [stmtExits, blockExits, Exits.onlyIf, Exits.either]

theorem blockExits_stmts (block : Block) : blockExits pred block = stmtsExits pred block.stmts := by
  cases block with
  | missing => rw [blockExits, Block.stmts, stmtsExits]
  | given stmts => rw [blockExits, Block.stmts]

theorem elseIfsExits_body {elseIfs : List ElseIf} {elseIf : ElseIf} (membership : elseIf ∈ elseIfs)
    (exits : stmtsExits pred elseIf.body.stmts outcome = true) :
    elseIfsExits pred elseIfs outcome = true := by
  induction elseIfs with
  | nil => cases membership
  | cons first rest inductionHypothesis =>
      obtain ⟨condition, body⟩ := first
      rw [elseIfsExits, Exits.either, Bool.or_eq_true, blockExits_stmts]
      rcases List.mem_cons.mp membership with rfl | later
      · exact .inl exits
      · exact .inr (inductionHypothesis later)

theorem armsExits_body {arms : List Arm} {arm : Arm} (membership : arm ∈ arms)
    (exits : stmtsExits pred arm.body.stmts outcome = true) :
    armsExits pred arms outcome = true := by
  induction arms with
  | nil => cases membership
  | cons first rest inductionHypothesis =>
      obtain ⟨values, body⟩ := first
      rw [armsExits, Exits.either, Bool.or_eq_true, blockExits_stmts]
      rcases List.mem_cons.mp membership with rfl | later
      · exact .inl exits
      · exact .inr (inductionHypothesis later)

/-- An exit of a branch is an exit of the statement. -/
theorem branch_exits {stmt : Stmt} (missed : pred stmt = false) (choice : chosen ∈ stmt.branches)
    (exits : stmtsExits pred chosen outcome = true) : stmtExits pred stmt outcome = true := by
  cases stmt with
  | ifThen origin condition body elseIfs otherwise =>
      rw [stmtExits_ifThen, blockExits_stmts, blockExits_stmts]
      refine ⟨missed, ?_⟩
      rcases Stmt.mem_branches_ifThen.mp choice with rfl | ⟨elseIf, membership, rfl⟩ | rfl
      · exact .inl exits
      · exact .inr (.inl (elseIfsExits_body membership exits))
      · exact .inr (.inr exits)
  | select origin subject arms otherwise =>
      rw [stmtExits_select, blockExits_stmts]
      refine ⟨missed, ?_⟩
      rcases Stmt.mem_branches_select.mp choice with ⟨arm, membership, rfl⟩ | ⟨block, rfl, rfl⟩
      · exact .inl (armsExits_body membership exits)
      · exact .inr exits
  | _ => simp [Stmt.branches] at choice

theorem stmtsExits_cons {stmt : Stmt} :
    stmtsExits pred (stmt :: rest) outcome = true ↔
      (stmtExits pred stmt .done = true ∧ stmtsExits pred rest outcome = true) ∨
        (outcome ≠ .done ∧ stmtExits pred stmt outcome = true) := by
  rw [stmtsExits, Exits.andThen_eq_true]

theorem Runs.exits {stmts : List Stmt} {trace : List Event} (runs : Runs stmts trace outcome)
    (misses : ∀ event ∈ trace, event.Misses pred) : stmtsExits pred stmts outcome = true := by
  -- By induction on the execution. After a round of a loop that is not its last, what remains is
  -- an execution of the same code.
  induction runs with
  | nil => rw [stmtsExits, Exits.only_eq_true]
  | action onward inductionHypothesis =>
      rw [List.forall_mem_cons] at misses
      refine stmtsExits_cons.mpr (.inl ⟨?_, inductionHypothesis misses.2⟩)
      rw [stmtExits, Exits.onlyIf_not, Exits.only_eq_true]
      exact ⟨misses.1, rfl⟩
  | exitStmt =>
      refine stmtsExits_cons.mpr (.inr ⟨by simp, ?_⟩)
      rw [stmtExits, Exits.onlyIf_not, Exits.only_eq_true]
      exact ⟨misses _ List.mem_cons_self, rfl⟩
  | continueStmt =>
      refine stmtsExits_cons.mpr (.inr ⟨by simp, ?_⟩)
      rw [stmtExits, Exits.onlyIf_not, Exits.only_eq_true]
      exact ⟨misses _ List.mem_cons_self, rfl⟩
  | returnStmt =>
      refine stmtsExits_cons.mpr (.inr ⟨by simp, ?_⟩)
      rw [stmtExits, Exits.onlyIf_not, Exits.only_eq_true]
      exact ⟨misses _ List.mem_cons_self, rfl⟩
  | @label origin name inner rest trace outcome onward inductionHypothesis =>
      rw [List.forall_mem_cons] at misses
      have missed : pred _ = false := misses.1
      have behind := inductionHypothesis misses.2
      cases inner with
      | none =>
          simpa [stmtsExits, stmtExits, Exits.andThen, Exits.onlyIf, Exits.only, missed]
            using behind
      | some inner =>
          simpa [stmtsExits, stmtExits, Exits.andThen, Exits.onlyIf, Exits.only, missed]
            using behind
  | branch choice inside onward insideHypothesis inductionHypothesis =>
      rw [List.forall_mem_cons, List.forall_mem_append] at misses
      have through := branch_exits misses.1 choice (insideHypothesis misses.2.1)
      exact stmtsExits_cons.mpr (.inl ⟨through, inductionHypothesis misses.2.2⟩)
  | branchOut choice inside out insideHypothesis =>
      rw [List.forall_mem_cons] at misses
      have leaves := branch_exits misses.1 choice (insideHypothesis misses.2)
      exact stmtsExits_cons.mpr (.inr ⟨out, leaves⟩)
  | unmatched onward inductionHypothesis =>
      rw [List.forall_mem_cons, List.forall_mem_cons] at misses
      refine stmtsExits_cons.mpr (.inl ⟨?_, inductionHypothesis misses.2.2⟩)
      rw [stmtExits_select, Option.getD_none, blockExits, Exits.only_eq_true]
      exact ⟨misses.1, .inr rfl⟩
  | loopOver never onward inductionHypothesis =>
      rw [List.forall_mem_cons] at misses
      refine stmtsExits_cons.mpr (.inl ⟨?_, inductionHypothesis misses.2⟩)
      rw [stmtExits, Exits.onlyIf_not, Exits.looped_done]
      exact ⟨misses.1, .inl never⟩
  | loopRound inside goesOn onward insideHypothesis inductionHypothesis =>
      rw [List.forall_mem_cons, List.forall_mem_append] at misses
      exact inductionHypothesis misses.2.2
  | loopLast inside stays onward insideHypothesis inductionHypothesis =>
      rw [List.forall_mem_cons, List.forall_mem_append] at misses
      refine stmtsExits_cons.mpr (.inl ⟨?_, inductionHypothesis misses.2.2⟩)
      rw [stmtExits, Exits.onlyIf_not, Exits.looped_done, blockExits_stmts]
      exact ⟨misses.1, .inr ⟨_, stays, insideHypothesis misses.2.1⟩⟩
  | loopReturn inside insideHypothesis =>
      rw [List.forall_mem_cons] at misses
      refine stmtsExits_cons.mpr (.inr ⟨by simp, ?_⟩)
      rw [stmtExits, Exits.onlyIf_not, Exits.looped, blockExits_stmts]
      exact ⟨misses.1, insideHypothesis misses.2⟩

/-- Some execution ends so and executes no satisfying statement. -/
def Escapes (pred : Stmt → Bool) (stmts : List Stmt) (outcome : Outcome) : Prop :=
  ∃ trace, Runs stmts trace outcome ∧ ∀ event ∈ trace, event.Misses pred

/-- What the first statement came to, and what then the whole block comes to. -/
def Follows (pred : Stmt → Bool) (first : Outcome) (rest : List Stmt) (last : Outcome) : Prop :=
  (first = .done ∧ Escapes pred rest last) ∨ (first ≠ .done ∧ first = last)

theorem Follows.onward (follows : Follows pred .done rest last) : Escapes pred rest last := by
  rcases follows with ⟨_, escapes⟩ | ⟨out, _⟩
  · exact escapes
  · exact absurd rfl out

theorem Follows.eq_of_ne (follows : Follows pred outcome rest last) (out : outcome ≠ .done) :
    outcome = last := by
  rcases follows with ⟨isDone, _⟩ | ⟨_, same⟩
  · exact absurd isDone out
  · exact same

namespace Escapes

theorem branch {stmt : Stmt} (missed : pred stmt = false) (choice : chosen ∈ stmt.branches)
    (inside : Escapes pred chosen outcome) (follows : Follows pred outcome rest last) :
    Escapes pred (stmt :: rest) last := by
  obtain ⟨taken, runsInside, missesInside⟩ := inside
  rcases follows with ⟨rfl, trace, runs, misses⟩ | ⟨out, rfl⟩
  · refine ⟨_, .branch choice runsInside runs, ?_⟩
    rw [List.forall_mem_cons, List.forall_mem_append]
    exact ⟨missed, missesInside, misses⟩
  · refine ⟨_, .branchOut choice runsInside out, ?_⟩
    rw [List.forall_mem_cons]
    exact ⟨missed, missesInside⟩

theorem nil (exits : Exits.only .done outcome = true) : Escapes pred [] outcome := by
  obtain rfl := Exits.only_eq_true.mp exits
  exact ⟨[], .nil, by simp⟩

theorem unmatched {origin : Origin} {subject : Expr} {arms : List Arm}
    (missed : pred (.select origin subject arms none) = false)
    (exits : Exits.only .done outcome = true) (follows : Follows pred outcome rest last) :
    Escapes pred (.select origin subject arms none :: rest) last := by
  obtain rfl := Exits.only_eq_true.mp exits
  obtain ⟨trace, runs, misses⟩ := follows.onward
  refine ⟨_, .unmatched runs, ?_⟩
  rw [List.forall_mem_cons, List.forall_mem_cons]
  exact ⟨missed, trivial, misses⟩

theorem loop {origin : Origin} {head : LoopHead} {body : Block}
    (missed : pred (.loop origin head body) = false)
    (inside : ∀ round, blockExits pred body round = true → Escapes pred body.stmts round)
    (exits : (blockExits pred body).looped head outcome = true)
    (follows : Follows pred outcome rest last) :
    Escapes pred (.loop origin head body :: rest) last := by
  cases outcome with
  | left => simp [Exits.looped] at exits
  | again => simp [Exits.looped] at exits
  | returned =>
      obtain ⟨taken, runsInside, missesInside⟩ := inside .returned exits
      obtain rfl := follows.eq_of_ne (by simp)
      refine ⟨_, .loopReturn runsInside, ?_⟩
      rw [List.forall_mem_cons]
      exact ⟨missed, missesInside⟩
  | done =>
      obtain ⟨trace, runs, misses⟩ := follows.onward
      rcases Exits.looped_done.mp exits with never | ⟨round, stays, isExit⟩
      · refine ⟨_, .loopOver never runs, ?_⟩
        rw [List.forall_mem_cons]
        exact ⟨missed, misses⟩
      · obtain ⟨taken, runsInside, missesInside⟩ := inside round isExit
        refine ⟨_, .loopLast runsInside stays runs, ?_⟩
        rw [List.forall_mem_cons, List.forall_mem_append]
        exact ⟨missed, missesInside, misses⟩

end Escapes

end

mutual

theorem stmt_escapes {pred : Stmt → Bool} {outcome last : Outcome} {rest : List Stmt} (stmt : Stmt)
    (exits : stmtExits pred stmt outcome = true) (follows : Follows pred outcome rest last) :
    Escapes pred (stmt :: rest) last := by
  cases stmt with
  | action origin deed =>
      rw [stmtExits, Exits.onlyIf_not, Exits.only_eq_true] at exits
      obtain ⟨missed, rfl⟩ := exits
      obtain ⟨trace, runs, misses⟩ := follows.onward
      refine ⟨_, .action runs, ?_⟩
      rw [List.forall_mem_cons]
      exact ⟨missed, misses⟩
  | exitStmt origin =>
      rw [stmtExits, Exits.onlyIf_not, Exits.only_eq_true] at exits
      obtain ⟨missed, rfl⟩ := exits
      obtain rfl := follows.eq_of_ne (by simp)
      exact ⟨_, .exitStmt, by simpa [Event.Misses] using missed⟩
  | continueStmt origin =>
      rw [stmtExits, Exits.onlyIf_not, Exits.only_eq_true] at exits
      obtain ⟨missed, rfl⟩ := exits
      obtain rfl := follows.eq_of_ne (by simp)
      exact ⟨_, .continueStmt, by simpa [Event.Misses] using missed⟩
  | returnStmt origin =>
      rw [stmtExits, Exits.onlyIf_not, Exits.only_eq_true] at exits
      obtain ⟨missed, rfl⟩ := exits
      obtain rfl := follows.eq_of_ne (by simp)
      exact ⟨_, .returnStmt, by simpa [Event.Misses] using missed⟩
  | jump origin target => simp [stmtExits] at exits
  | foreign origin name => simp [stmtExits] at exits
  | label origin name inner =>
      cases inner with
      | none =>
          simp only [stmtExits, Exits.onlyIf_not, Exits.only_eq_true] at exits
          obtain ⟨missed, rfl⟩ := exits
          obtain ⟨trace, runs, misses⟩ := follows.onward
          refine ⟨_, .label runs, ?_⟩
          rw [List.forall_mem_cons]
          exact ⟨missed, misses⟩
      | some inner =>
          simp only [stmtExits, Exits.onlyIf_not] at exits
          obtain ⟨trace, runs, misses⟩ := stmt_escapes inner exits.2 follows
          refine ⟨_, .label runs, ?_⟩
          rw [List.forall_mem_cons]
          exact ⟨exits.1, misses⟩
  | ifThen origin condition body elseIfs otherwise =>
      obtain ⟨missed, byBody | byElseIf | byElse⟩ := stmtExits_ifThen.mp exits
      · exact .branch missed (Stmt.mem_branches_ifThen.mpr (.inl rfl)) (block_escapes body byBody)
          follows
      · obtain ⟨elseIf, membership, inside⟩ := elseIfs_escapes elseIfs byElseIf
        refine .branch missed (Stmt.mem_branches_ifThen.mpr (.inr (.inl ?_))) inside follows
        exact ⟨elseIf, membership, rfl⟩
      · have inside : Escapes pred (otherwise.getD .missing).stmts outcome := by
          cases otherwise with
          | none =>
              rw [Option.getD_none, blockExits] at byElse
              exact .nil byElse
          | some block => exact block_escapes block byElse
        exact .branch missed (Stmt.mem_branches_ifThen.mpr (.inr (.inr rfl))) inside follows
  | select origin subject arms otherwise =>
      obtain ⟨missed, byArm | byElse⟩ := stmtExits_select.mp exits
      · obtain ⟨arm, membership, inside⟩ := arms_escapes arms byArm
        refine .branch missed (Stmt.mem_branches_select.mpr (.inl ?_)) inside follows
        exact ⟨arm, membership, rfl⟩
      · cases otherwise with
        | none =>
            rw [Option.getD_none, blockExits] at byElse
            exact .unmatched missed byElse follows
        | some block =>
            exact .branch missed (Stmt.mem_branches_select.mpr (.inr ⟨block, rfl, rfl⟩))
              (block_escapes block byElse) follows
  | loop origin head body =>
      rw [stmtExits, Exits.onlyIf_not] at exits
      exact .loop exits.1 (fun round isExit => block_escapes body isExit) exits.2 follows
termination_by structural stmt

theorem block_escapes {pred : Stmt → Bool} {outcome : Outcome} (block : Block)
    (exits : blockExits pred block outcome = true) : Escapes pred block.stmts outcome := by
  cases block with
  | missing =>
      rw [blockExits] at exits
      exact .nil exits
  | given stmts =>
      rw [blockExits] at exits
      exact stmts_escapes stmts exits
termination_by structural block

theorem elseIfs_escapes {pred : Stmt → Bool} {outcome : Outcome} (elseIfs : List ElseIf)
    (exits : elseIfsExits pred elseIfs outcome = true) :
    ∃ elseIf ∈ elseIfs, Escapes pred elseIf.body.stmts outcome := by
  cases elseIfs with
  | nil => simp [elseIfsExits] at exits
  | cons first rest =>
      obtain ⟨condition, body⟩ := first
      rw [elseIfsExits, Exits.either, Bool.or_eq_true] at exits
      rcases exits with here | later
      · exact ⟨_, List.mem_cons_self, block_escapes body here⟩
      · obtain ⟨elseIf, membership, escapes⟩ := elseIfs_escapes rest later
        exact ⟨elseIf, List.mem_cons_of_mem _ membership, escapes⟩
termination_by structural elseIfs

theorem arms_escapes {pred : Stmt → Bool} {outcome : Outcome} (arms : List Arm)
    (exits : armsExits pred arms outcome = true) :
    ∃ arm ∈ arms, Escapes pred arm.body.stmts outcome := by
  cases arms with
  | nil => simp [armsExits] at exits
  | cons first rest =>
      obtain ⟨values, body⟩ := first
      rw [armsExits, Exits.either, Bool.or_eq_true] at exits
      rcases exits with here | later
      · exact ⟨_, List.mem_cons_self, block_escapes body here⟩
      · obtain ⟨arm, membership, escapes⟩ := arms_escapes rest later
        exact ⟨arm, List.mem_cons_of_mem _ membership, escapes⟩
termination_by structural arms

theorem stmts_escapes {pred : Stmt → Bool} {outcome : Outcome} (stmts : List Stmt)
    (exits : stmtsExits pred stmts outcome = true) : Escapes pred stmts outcome := by
  cases stmts with
  | nil =>
      rw [stmtsExits] at exits
      exact .nil exits
  | cons stmt rest =>
      rcases stmtsExits_cons.mp exits with ⟨through, behind⟩ | ⟨out, leaves⟩
      · exact stmt_escapes stmt through (.inl ⟨rfl, stmts_escapes rest behind⟩)
      · exact stmt_escapes stmt leaves (.inr ⟨out, rfl⟩)
termination_by structural stmts

end

/-- The recursion on the syntax is exact. -/
theorem escapes_iff {pred : Stmt → Bool} {stmts : List Stmt} {outcome : Outcome} :
    Escapes pred stmts outcome ↔ stmtsExits pred stmts outcome = true := by
  constructor
  · rintro ⟨trace, runs, misses⟩
    exact runs.exits misses
  · exact stmts_escapes stmts

/-- The execution comes to its end, behind the last statement or by `RETURN`. -/
def Completes (stmts : List Stmt) (trace : List Event) : Prop :=
  Runs stmts trace .done ∨ Runs stmts trace .returned

/-- A satisfying statement is executed. -/
def Executes (pred : Stmt → Bool) (trace : List Event) : Prop :=
  ∃ stmt, .executed stmt ∈ trace ∧ pred stmt = true

theorem not_executes_iff {pred : Stmt → Bool} {trace : List Event} :
    ¬Executes pred trace ↔ ∀ event ∈ trace, event.Misses pred := by
  constructor
  · rintro nowhere (stmt | stmt) membership
    · exact Bool.eq_false_iff.mpr fun holds => nowhere ⟨stmt, membership, holds⟩
    · trivial
  · rintro misses ⟨stmt, membership, holds⟩
    have missed : pred stmt = false := misses _ membership
    rw [missed] at holds
    cases holds

/-- All executions that come to their end execute a satisfying statement exactly if the recursion
finds no such end for the others. -/
theorem all_execute_iff {pred : Stmt → Bool} {stmts : List Stmt} :
    (∀ trace, Completes stmts trace → Executes pred trace) ↔
      (stmtsExits pred stmts).terminates = false := by
  rw [Exits.terminates, Bool.or_eq_false_iff, ← Bool.not_eq_true, ← Bool.not_eq_true,
    ← escapes_iff, ← escapes_iff]
  constructor
  · intro execute
    constructor
    · rintro ⟨trace, runs, misses⟩
      exact not_executes_iff.mpr misses (execute trace (.inl runs))
    · rintro ⟨trace, runs, misses⟩
      exact not_executes_iff.mpr misses (execute trace (.inr runs))
  · rintro ⟨notDone, notReturned⟩ trace completes
    apply Classical.byContradiction
    intro nowhere
    have misses := not_executes_iff.mp nowhere
    rcases completes with runs | runs
    · exact notDone ⟨trace, runs, misses⟩
    · exact notReturned ⟨trace, runs, misses⟩

end PlcLint.Flow
