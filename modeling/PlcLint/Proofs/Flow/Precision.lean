import PlcLint.Proofs.Flow.Coverage

/-!
When a failing path is an execution. Program graphs have paths that no execution takes: past a
`REPEAT` loop without a round, past the head of an `IF` statement by any branch but its first, and
to an end at a `CASE` statement without branches. Where none of them lets a path through that
executions do not have, the search gives a path only if some execution meets no satisfying
statement.
-/

namespace PlcLint.Flow

variable {pred : Stmt → Bool}

/-! Code in which the graph opens no way out that executions do not have. -/

mutual

def exactStmt (pred : Stmt → Bool) (stmt : Stmt) : Bool :=
  match stmt with
  | .action _ _ => true
  | .exitStmt _ => true
  | .continueStmt _ => true
  | .returnStmt _ => true
  | .jump _ _ => true
  | .foreign _ _ => true
  | .label _ _ _ => true
  | .ifThen _ _ body elseIfs otherwise =>
    let last := match otherwise with
      | some block => blockWays pred block
      | none => .passing
    let lastExact := match otherwise with
      | some block => exactBlock pred block
      | none => true
    -- The other branches bypass the node of the statement itself.
    if pred stmt then !((elseIfsWays pred elseIfs).either last).isOpen
    else exactBlock pred body && exactElseIfs pred elseIfs && lastExact
  | .select _ _ arms otherwise =>
    let lastExact := match otherwise with
      | some block => exactBlock pred block
      | none => !arms.isEmpty
    pred stmt || (exactArms pred arms && lastExact)
  | .loop _ head body =>
    pred stmt || (exactBlock pred body && (blockExits pred body).looped head .done)

def exactBlock (pred : Stmt → Bool) (block : Block) : Bool :=
  match block with
  | .missing => true
  | .given stmts => exactStmts pred stmts

def exactElseIfs (pred : Stmt → Bool) (elseIfs : List ElseIf) : Bool :=
  match elseIfs with
  | [] => true
  | .mk _ body :: rest => exactBlock pred body && exactElseIfs pred rest

def exactArms (pred : Stmt → Bool) (arms : List Arm) : Bool :=
  match arms with
  | [] => true
  | .mk _ body :: rest => exactBlock pred body && exactArms pred rest

/-- What is behind statements that no path passes does not matter. -/
def exactStmts (pred : Stmt → Bool) (stmts : List Stmt) : Bool :=
  match stmts with
  | [] => true
  | stmt :: rest =>
    exactStmt pred stmt && (!(stmtWays pred stmt).through || exactStmts pred rest)

end

/-- A missing `ELSE` of an `IF` is a branch without statements. -/
theorem exactStmt_ifThen {origin : Origin} {condition : Expr} {body : Block}
    {elseIfs : List ElseIf} {otherwise : Option Block}
    (exact : exactStmt pred (.ifThen origin condition body elseIfs otherwise) = true) :
    if pred (.ifThen origin condition body elseIfs otherwise) then
      ((elseIfsWays pred elseIfs).either (blockWays pred (otherwise.getD .missing))).isOpen = false
    else exactBlock pred body = true ∧ exactElseIfs pred elseIfs = true ∧
      exactBlock pred (otherwise.getD .missing) = true := by
  cases otherwise <;> rw [exactStmt] at exact <;> split at exact <;>
    simp_all [blockWays, exactBlock]

/-- Every way out is one of the executions that execute no satisfying statement. -/
structure Ways.Taken (ways : Ways) (exits : Exits) : Prop where
  through : ways.through = true → exits .done = true
  ends : ways.ends = true → exits .returned = true

namespace Ways.Taken

variable {first second : Ways} {firstExits secondExits exits : Exits}

theorem of_shut (shut : first.isOpen = false) : first.Taken exits := by
  rw [isOpen, Bool.or_eq_false_iff] at shut
  exact ⟨by simp [shut.1], by simp [shut.2]⟩

theorem either (firstTaken : first.Taken firstExits) (secondTaken : second.Taken secondExits) :
    (first.either second).Taken (firstExits.either secondExits) := by
  constructor
  · intro isOpen
    rcases Bool.or_eq_true_iff.mp isOpen with byFirst | bySecond
    · simp [Exits.either, firstTaken.through byFirst]
    · simp [Exits.either, secondTaken.through bySecond]
  · intro isOpen
    rcases Bool.or_eq_true_iff.mp isOpen with byFirst | bySecond
    · simp [Exits.either, firstTaken.ends byFirst]
    · simp [Exits.either, secondTaken.ends bySecond]

/-- Only a way through the first part leads to the second. -/
theorem andThen (firstTaken : first.Taken firstExits)
    (secondTaken : first.through = true → second.Taken secondExits) :
    (first.andThen second).Taken (firstExits.andThen secondExits) := by
  constructor
  · intro isOpen
    obtain ⟨byFirst, bySecond⟩ := (Bool.and_eq_true _ _).mp isOpen
    exact Exits.andThen_eq_true.mpr
      (.inl ⟨firstTaken.through byFirst, (secondTaken byFirst).through bySecond⟩)
  · intro isOpen
    rcases Bool.or_eq_true_iff.mp isOpen with byFirst | later
    · exact Exits.andThen_eq_true.mpr (.inr ⟨by simp, firstTaken.ends byFirst⟩)
    · obtain ⟨byFirst, bySecond⟩ := (Bool.and_eq_true _ _).mp later
      exact Exits.andThen_eq_true.mpr
        (.inl ⟨firstTaken.through byFirst, (secondTaken byFirst).ends bySecond⟩)

theorem onlyIf {condition : Bool} (taken : condition = true → first.Taken exits) :
    (first.onlyIf condition).Taken (exits.onlyIf condition) := by
  cases condition with
  | false => exact of_shut (by simp [Ways.onlyIf, isOpen])
  | true =>
      have same : exits.onlyIf true = exits := funext fun _ => Bool.true_and _
      rw [onlyIf_true, same]
      exact taken rfl

theorem passing : Ways.passing.Taken (.only .done) :=
  ⟨fun _ => Exits.only_eq_true.mpr rfl, nofun⟩

theorem ending : Ways.ending.Taken (.only .returned) :=
  ⟨nofun, fun _ => Exits.only_eq_true.mpr rfl⟩

theorem shut : Ways.shut.Taken exits := of_shut rfl

/-- A loop is left with no round or after one. -/
theorem looped {head : LoopHead} (taken : first.Taken exits)
    (leaves : exits.looped head .done = true) :
    Ways.Taken ⟨true, first.ends⟩ (exits.looped head) :=
  ⟨fun _ => leaves, taken.ends⟩

end Ways.Taken

/-! By induction on the syntax, the ways out of exact code are taken. -/

mutual

theorem stmtWays_taken {pred : Stmt → Bool} (stmt : Stmt) (plain : plainStmt stmt = true)
    (exact : exactStmt pred stmt = true) : (stmtWays pred stmt).Taken (stmtExits pred stmt) := by
  cases stmt with
  | action origin deed =>
      rw [stmtWays, stmtExits]
      exact .onlyIf fun _ => .passing
  | exitStmt origin => exact .shut
  | continueStmt origin => exact .shut
  | returnStmt origin =>
      rw [stmtWays, stmtExits]
      exact .onlyIf fun _ => .ending
  | jump origin target => simp [plainStmt] at plain
  | foreign origin name => exact .shut
  | label origin name inner => simp [plainStmt] at plain
  | ifThen origin condition body elseIfs otherwise =>
      have parts := exactStmt_ifThen exact
      rw [stmtWays_ifThen]
      split at parts
      next satisfied =>
        refine .of_shut ?_
        simpa [Ways.onlyIf, Ways.either, Ways.isOpen, satisfied] using parts
      next missed =>
        have plainParts : plainBlock body = true ∧ plainElseIfs elseIfs = true ∧
            plainBlock (otherwise.getD .missing) = true := by
          cases otherwise <;> simpa [plainStmt, plainBlock, and_assoc] using plain
        have byBody := blockWays_taken body plainParts.1 parts.1
        have byElseIf := elseIfsWays_taken elseIfs plainParts.2.1 parts.2.1
        have byElse : (blockWays pred (otherwise.getD .missing)).Taken
            (blockExits pred (otherwise.getD .missing)) := by
          cases otherwise with
          | none =>
              rw [Option.getD_none, blockWays, blockExits]
              exact .passing
          | some block => exact blockWays_taken block plainParts.2.2 parts.2.2
        have unsatisfied := Bool.not_eq_true _ ▸ missed
        rw [unsatisfied, Bool.not_false, Ways.onlyIf_true]
        have taken := (byBody.either byElseIf).either byElse
        constructor
        · intro isOpen
          refine stmtExits_ifThen.mpr ⟨unsatisfied, ?_⟩
          simpa [Exits.either, or_assoc] using taken.through isOpen
        · intro isOpen
          refine stmtExits_ifThen.mpr ⟨unsatisfied, ?_⟩
          simpa [Exits.either, or_assoc] using taken.ends isOpen
  | select origin subject arms otherwise =>
      cases otherwise with
      | none =>
          rw [exactStmt, Bool.or_eq_true] at exact
          rw [stmtWays, stmtExits]
          refine .onlyIf fun missed => ?_
          have parts := exact.resolve_left (by simpa using missed)
          simp only [Bool.and_eq_true, Bool.not_eq_true', plainStmt, and_true] at parts plain
          have taken := armsWays_taken arms plain parts.1
          rw [if_neg (by simp [parts.2])]
          constructor
          · intro isOpen
            simp [Exits.either, taken.through isOpen]
          · intro isOpen
            simp [Exits.either, taken.ends isOpen]
      | some block =>
          rw [exactStmt, Bool.or_eq_true] at exact
          rw [stmtWays, stmtExits]
          refine .onlyIf fun missed => ?_
          have parts := exact.resolve_left (by simpa using missed)
          simp only [Bool.and_eq_true, plainStmt] at parts plain
          exact (armsWays_taken arms plain.1 parts.1).either (blockWays_taken block plain.2 parts.2)
  | loop origin head body =>
      rw [exactStmt, Bool.or_eq_true] at exact
      rw [stmtWays, stmtExits]
      refine .onlyIf fun missed => ?_
      have parts := exact.resolve_left (by simpa using missed)
      rw [Bool.and_eq_true] at parts
      rw [plainStmt] at plain
      exact (blockWays_taken body plain parts.1).looped parts.2
termination_by structural stmt

theorem blockWays_taken {pred : Stmt → Bool} (block : Block) (plain : plainBlock block = true)
    (exact : exactBlock pred block = true) :
    (blockWays pred block).Taken (blockExits pred block) := by
  cases block with
  | missing => exact .passing
  | given stmts =>
      rw [plainBlock] at plain
      rw [exactBlock] at exact
      rw [blockWays, blockExits]
      exact stmtsWays_taken stmts plain exact
termination_by structural block

theorem elseIfsWays_taken {pred : Stmt → Bool} (elseIfs : List ElseIf)
    (plain : plainElseIfs elseIfs = true) (exact : exactElseIfs pred elseIfs = true) :
    (elseIfsWays pred elseIfs).Taken (elseIfsExits pred elseIfs) := by
  cases elseIfs with
  | nil => exact .shut
  | cons first rest =>
      obtain ⟨condition, body⟩ := first
      rw [plainElseIfs, Bool.and_eq_true] at plain
      rw [exactElseIfs, Bool.and_eq_true] at exact
      rw [elseIfsWays, elseIfsExits]
      exact (blockWays_taken body plain.1 exact.1).either
        (elseIfsWays_taken rest plain.2 exact.2)
termination_by structural elseIfs

theorem armsWays_taken {pred : Stmt → Bool} (arms : List Arm) (plain : plainArms arms = true)
    (exact : exactArms pred arms = true) : (armsWays pred arms).Taken (armsExits pred arms) := by
  cases arms with
  | nil => exact .shut
  | cons first rest =>
      obtain ⟨values, body⟩ := first
      rw [plainArms, Bool.and_eq_true] at plain
      rw [exactArms, Bool.and_eq_true] at exact
      rw [armsWays, armsExits]
      exact (blockWays_taken body plain.1 exact.1).either (armsWays_taken rest plain.2 exact.2)
termination_by structural arms

theorem stmtsWays_taken {pred : Stmt → Bool} (stmts : List Stmt) (plain : plainStmts stmts = true)
    (exact : exactStmts pred stmts = true) :
    (stmtsWays pred stmts).Taken (stmtsExits pred stmts) := by
  cases stmts with
  | nil => exact .passing
  | cons stmt rest =>
      rw [plainStmts, Bool.and_eq_true] at plain
      rw [exactStmts, Bool.and_eq_true] at exact
      rw [stmtsWays, stmtsExits]
      refine .andThen (stmtWays_taken stmt plain.1 exact.1) fun passed => ?_
      exact stmtsWays_taken rest plain.2 (by simpa [passed] using exact.2)
termination_by structural stmts

end

/-- If every execution that comes to its end executes a satisfying statement, the search gives no
path, in code whose graph opens no way out beyond those of its executions. -/
theorem no_failingPath_of_executes {graph : Graph} (pred : Stmt → Bool) (source : Source)
    (built : source.graph = .ok graph) (plain : plainStmts source.stmts = true)
    (exact : exactStmts pred source.stmts = true)
    (execute : ∀ trace, Completes source.stmts trace → Executes pred trace) :
    graph.failingPath (fun stmt => .ok (pred stmt)) = .ok none := by
  have never := all_execute_iff.mp execute
  rw [Exits.terminates, Bool.or_eq_false_iff] at never
  have taken := stmtsWays_taken source.stmts plain exact
  have shut : (stmtsWays pred source.stmts).isOpen = false := by
    rw [Ways.isOpen, Bool.or_eq_false_iff]
    constructor
    · exact Bool.eq_false_iff.mpr fun through => by simp [taken.through through] at never
    · exact Bool.eq_false_iff.mpr fun ends => by simp [taken.ends ends] at never
  obtain ⟨answer, searched, right⟩ := failingPath_answers pred (Source.linked_graph built)
  have unanswered : answer = none := by
    rw [← Option.not_isSome_iff_eq_none, right.isSome_eq_isOpen built, shut]
    simp
  rw [searched, unanswered]
  rfl

/-- `REPEAT IF TRUE THEN EXIT; END_IF UNTIL TRUE END_REPEAT`, then an `IF` statement both of whose
branches hold a statement with a number from `5` on. -/
def repeatedExit : List Stmt :=
  [.loop ⟨1, none, none⟩ (.repeatUntil always) (.given
      [.ifThen ⟨2, none, none⟩ always (.given [.exitStmt ⟨3, none, none⟩]) [] none]),
    .ifThen ⟨4, none, none⟩ always (.given [mark 5]) []
      (some (.given [mark 6, .returnStmt ⟨7, none, none⟩]))]

theorem no_failingPath_repeatedExit :
    ∃ graph, (Source.block repeatedExit).graph = .ok graph ∧
      graph.failingPath (fun stmt => .ok (decide (5 ≤ stmt.origin.serial))) = .ok none := by
  refine ⟨_, rfl, no_failingPath_of_executes (fun stmt => decide (5 ≤ stmt.origin.serial))
    (.block repeatedExit) rfl rfl rfl ?_⟩
  exact all_execute_iff.mpr (by decide)

/-- `IF TRUE THEN …; END_IF`, where the `IF` statement itself has number `1`. -/
def satisfyingIf : List Stmt :=
  [.ifThen ⟨1, none, none⟩ always (.given [mark 2]) [] none]

/-- `REPEAT …; UNTIL TRUE END_REPEAT`, where the body holds the statement with number `2`. -/
def satisfyingRound : List Stmt :=
  [.loop ⟨1, none, none⟩ (.repeatUntil always) (.given [mark 2])]

/-- The search gives a path although every execution executes the `IF` statement, and although
every execution goes through the body of the loop. -/
theorem spurious_failingPath :
    (∀ trace, Completes satisfyingIf trace →
      Executes (fun stmt => stmt.origin.serial == 1) trace) ∧
    (∃ graph path, (Source.block satisfyingIf).graph = .ok graph ∧
      graph.failingPath (fun stmt => .ok (stmt.origin.serial == 1)) = .ok (some path)) ∧
    (∀ trace, Completes satisfyingRound trace →
      Executes (fun stmt => stmt.origin.serial == 2) trace) ∧
    ∃ graph path, (Source.block satisfyingRound).graph = .ok graph ∧
      graph.failingPath (fun stmt => .ok (stmt.origin.serial == 2)) = .ok (some path) :=
  ⟨all_execute_iff.mpr (by decide), ⟨_, _, rfl, rfl⟩, all_execute_iff.mpr (by decide),
    ⟨_, _, rfl, rfl⟩⟩

end PlcLint.Flow
