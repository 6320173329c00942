import PlcLint.Proofs.Flow.Rooted

/-!
Code that has no program graph. The statements of the code are listed in textual order, each with
where it stands; the construction of the graph fails exactly if a statement that it comes to is
faulty there, and then with the fault of the first one.
-/

namespace PlcLint.Flow

/-- A statement and where it stands: whether a loop is around it, and whether the construction comes
to it. -/
structure Occurrence where
  stmt : Stmt
  inLoop : Bool
  processed : Bool

/-- What is wrong with the statement where it stands. -/
def Occurrence.fault? (occurrence : Occurrence) : Option Fault :=
  match occurrence.stmt with
  | .exitStmt _ => if occurrence.inLoop then none else some .exitOutsideLoop
  | .continueStmt _ => if occurrence.inLoop then none else some .continueOutsideLoop
  | .jump _ _ => some .jump
  | .foreign _ _ => some .foreignStatement
  | _ => none

mutual

/-- A statement and all statements inside it. What stands under a label is not processed. -/
def stmtOccurrences (inLoop processed : Bool) (stmt : Stmt) : List Occurrence :=
  match stmt with
  | .action _ _ | .exitStmt _ | .continueStmt _ | .returnStmt _ | .jump _ _ | .foreign _ _ =>
    [⟨stmt, inLoop, processed⟩]
  | .label _ _ inner =>
    ⟨stmt, inLoop, processed⟩ :: match inner with
      | some inner => stmtOccurrences inLoop false inner
      | none => []
  | .ifThen _ _ body elseIfs otherwise =>
    let last := match otherwise with
      | some block => blockOccurrences inLoop processed block
      | none => []
    ⟨stmt, inLoop, processed⟩ :: (blockOccurrences inLoop processed body ++
      (elseIfsOccurrences inLoop processed elseIfs ++ last))
  | .select _ _ arms otherwise =>
    let last := match otherwise with
      | some block => blockOccurrences inLoop processed block
      | none => []
    ⟨stmt, inLoop, processed⟩ :: (armsOccurrences inLoop processed arms ++ last)
  | .loop _ _ body => ⟨stmt, inLoop, processed⟩ :: blockOccurrences true processed body

def blockOccurrences (inLoop processed : Bool) (block : Block) : List Occurrence :=
  match block with
  | .missing => []
  | .given stmts => stmtsOccurrences inLoop processed stmts

def elseIfsOccurrences (inLoop processed : Bool) (elseIfs : List ElseIf) : List Occurrence :=
  match elseIfs with
  | [] => []
  | .mk _ body :: rest =>
    blockOccurrences inLoop processed body ++ elseIfsOccurrences inLoop processed rest

def armsOccurrences (inLoop processed : Bool) (arms : List Arm) : List Occurrence :=
  match arms with
  | [] => []
  | .mk _ body :: rest =>
    blockOccurrences inLoop processed body ++ armsOccurrences inLoop processed rest

/-- Behind `RETURN`, `EXIT` or `CONTINUE` the rest of a block is not processed. -/
def stmtsOccurrences (inLoop processed : Bool) (stmts : List Stmt) : List Occurrence :=
  match stmts with
  | [] => []
  | stmt :: rest =>
    stmtOccurrences inLoop processed stmt ++
      stmtsOccurrences inLoop (processed && !leavesBlock stmt) rest

end

/-- All statements of the code, in textual order. -/
def Source.occurrences (source : Source) : List Occurrence :=
  stmtsOccurrences false true source.stmts

/-- This is the fault of the first processed statement that is faulty. -/
def FirstFault (occurrences : List Occurrence) (fault : Fault) : Prop :=
  ∃ before first after, occurrences = before ++ first :: after ∧
    first.processed = true ∧ first.fault? = some fault ∧
    ∀ earlier ∈ before, earlier.processed = true → earlier.fault? = none

/-! A missing `ELSE` is one without statements, so that one equation serves `IF` and `CASE` with and
without `ELSE`. -/

theorem stmtOccurrences_ifThen (inLoop processed : Bool) (origin : Origin) (condition : Expr)
    (body : Block) (elseIfs : List ElseIf) (otherwise : Option Block) :
    stmtOccurrences inLoop processed (.ifThen origin condition body elseIfs otherwise) =
      ⟨.ifThen origin condition body elseIfs otherwise, inLoop, processed⟩ ::
        (blockOccurrences inLoop processed body ++ (elseIfsOccurrences inLoop processed elseIfs ++
          blockOccurrences inLoop processed (otherwise.getD .missing))) := by
  cases otherwise <;> simp [stmtOccurrences, blockOccurrences]

theorem stmtOccurrences_select (inLoop processed : Bool) (origin : Origin) (subject : Expr)
    (arms : List Arm) (otherwise : Option Block) :
    stmtOccurrences inLoop processed (.select origin subject arms otherwise) =
      ⟨.select origin subject arms otherwise, inLoop, processed⟩ ::
        (armsOccurrences inLoop processed arms ++
          blockOccurrences inLoop processed (otherwise.getD .missing)) := by
  cases otherwise <;> simp [stmtOccurrences, blockOccurrences]

theorem stmtOccurrences_label (inLoop processed : Bool) (origin : Origin) (name : String)
    (inner : Option Stmt) :
    stmtOccurrences inLoop processed (.label origin name inner) =
      ⟨.label origin name inner, inLoop, processed⟩ ::
        inner.toList.flatMap (stmtOccurrences inLoop false) := by
  cases inner <;> simp [stmtOccurrences]

/-! Nothing inside a statement that is not processed is processed. -/

mutual

theorem stmtOccurrences_unprocessed (inLoop : Bool) (stmt : Stmt) :
    ∀ occurrence ∈ stmtOccurrences inLoop false stmt, occurrence.processed = false := by
  cases stmt with
  | action | exitStmt | continueStmt | returnStmt | jump | foreign => simp [stmtOccurrences]
  | label origin name inner =>
      cases inner with
      | none => simp [stmtOccurrences]
      | some inner =>
          rw [stmtOccurrences]
          exact List.forall_mem_cons.mpr ⟨rfl, stmtOccurrences_unprocessed inLoop inner⟩
  | ifThen origin condition body elseIfs otherwise =>
      have inElse : ∀ occurrence ∈ blockOccurrences inLoop false (otherwise.getD .missing),
          occurrence.processed = false := by
        cases otherwise with
        | none => simp [blockOccurrences]
        | some block => exact blockOccurrences_unprocessed inLoop block
      rw [stmtOccurrences_ifThen, List.forall_mem_cons, List.forall_mem_append,
        List.forall_mem_append]
      exact ⟨rfl, blockOccurrences_unprocessed inLoop body,
        elseIfsOccurrences_unprocessed inLoop elseIfs, inElse⟩
  | select origin subject arms otherwise =>
      have inElse : ∀ occurrence ∈ blockOccurrences inLoop false (otherwise.getD .missing),
          occurrence.processed = false := by
        cases otherwise with
        | none => simp [blockOccurrences]
        | some block => exact blockOccurrences_unprocessed inLoop block
      rw [stmtOccurrences_select, List.forall_mem_cons, List.forall_mem_append]
      exact ⟨rfl, armsOccurrences_unprocessed inLoop arms, inElse⟩
  | loop origin head body =>
      rw [stmtOccurrences]
      exact List.forall_mem_cons.mpr ⟨rfl, blockOccurrences_unprocessed true body⟩
termination_by structural stmt

theorem blockOccurrences_unprocessed (inLoop : Bool) (block : Block) :
    ∀ occurrence ∈ blockOccurrences inLoop false block, occurrence.processed = false := by
  cases block with
  | missing => simp [blockOccurrences]
  | given stmts =>
      rw [blockOccurrences]
      exact stmtsOccurrences_unprocessed inLoop stmts
termination_by structural block

theorem elseIfsOccurrences_unprocessed (inLoop : Bool) (elseIfs : List ElseIf) :
    ∀ occurrence ∈ elseIfsOccurrences inLoop false elseIfs, occurrence.processed = false := by
  cases elseIfs with
  | nil => simp [elseIfsOccurrences]
  | cons first rest =>
      obtain ⟨condition, body⟩ := first
      rw [elseIfsOccurrences]
      exact List.forall_mem_append.mpr ⟨blockOccurrences_unprocessed inLoop body,
        elseIfsOccurrences_unprocessed inLoop rest⟩
termination_by structural elseIfs

theorem armsOccurrences_unprocessed (inLoop : Bool) (arms : List Arm) :
    ∀ occurrence ∈ armsOccurrences inLoop false arms, occurrence.processed = false := by
  cases arms with
  | nil => simp [armsOccurrences]
  | cons first rest =>
      obtain ⟨values, body⟩ := first
      rw [armsOccurrences]
      exact List.forall_mem_append.mpr ⟨blockOccurrences_unprocessed inLoop body,
        armsOccurrences_unprocessed inLoop rest⟩
termination_by structural arms

theorem stmtsOccurrences_unprocessed (inLoop : Bool) (stmts : List Stmt) :
    ∀ occurrence ∈ stmtsOccurrences inLoop false stmts, occurrence.processed = false := by
  cases stmts with
  | nil => simp [stmtsOccurrences]
  | cons stmt rest =>
      rw [stmtsOccurrences, Bool.false_and]
      exact List.forall_mem_append.mpr ⟨stmtOccurrences_unprocessed inLoop stmt,
        stmtsOccurrences_unprocessed inLoop rest⟩
termination_by structural stmts

end

/-! The fault of a computation, and of a list of statements. Both go through sequences alike. -/

/-- The fault with which a computation ends. -/
def faultOf {α : Type} : Except Fault α → Option Fault
  | .ok _ => none
  | .error fault => some fault

theorem faultOf_eq_some {α : Type} {outcome : Except Fault α} {fault : Fault} :
    faultOf outcome = some fault ↔ outcome = .error fault := by
  cases outcome <;> simp [faultOf]

theorem faultOf_bind {α β : Type} {first : Except Fault α} {second : α → Except Fault β}
    {later : Option Fault}
    (after : ∀ middle, first = .ok middle → faultOf (second middle) = later) :
    faultOf (first >>= second) = (faultOf first).or later := by
  cases first with
  | error fault => rfl
  | ok middle => exact after middle rfl

theorem faultOf_bind_of_succeeds {α β : Type} {first : Except Fault α}
    {second : α → Except Fault β} (succeeds : ∀ middle, faultOf (second middle) = none) :
    faultOf (first >>= second) = faultOf first := by
  rw [faultOf_bind fun middle _ => succeeds middle, Option.or_none]

namespace Occurrence

/-- The fault that the construction meets at the statement. -/
def raised? (occurrence : Occurrence) : Option Fault :=
  if occurrence.processed then occurrence.fault? else none

theorem raised?_eq_some {occurrence : Occurrence} {fault : Fault} :
    occurrence.raised? = some fault ↔
      occurrence.processed = true ∧ occurrence.fault? = some fault := by
  simp [raised?]

theorem raised?_eq_none {occurrence : Occurrence} :
    occurrence.raised? = none ↔ (occurrence.processed = true → occurrence.fault? = none) := by
  simp [raised?]

end Occurrence

def firstRaised (occurrences : List Occurrence) : Option Fault :=
  occurrences.findSome? Occurrence.raised?

theorem firstRaised_append (first second : List Occurrence) :
    firstRaised (first ++ second) = (firstRaised first).or (firstRaised second) :=
  List.findSome?_append

theorem firstRaised_cons_of_sound {occurrence : Occurrence} (sound : occurrence.fault? = none)
    (rest : List Occurrence) : firstRaised (occurrence :: rest) = firstRaised rest := by
  have silent : occurrence.raised? = none := Occurrence.raised?_eq_none.mpr fun _ => sound
  rw [firstRaised, List.findSome?_cons, silent]
  rfl

theorem firstRaised_of_unprocessed {occurrences : List Occurrence}
    (unprocessed : ∀ occurrence ∈ occurrences, occurrence.processed = false) :
    firstRaised occurrences = none := by
  refine List.findSome?_eq_none_iff.mpr fun occurrence inside => ?_
  simp [Occurrence.raised?, unprocessed occurrence inside]

theorem firstRaised_eq_some {occurrences : List Occurrence} {fault : Fault} :
    firstRaised occurrences = some fault ↔ FirstFault occurrences fault := by
  simp only [firstRaised, List.findSome?_eq_some_iff, FirstFault, Occurrence.raised?_eq_some,
    Occurrence.raised?_eq_none, and_assoc]

/-- `EXIT` and `CONTINUE` have targets exactly inside a loop. -/
def LoopTargets.Within (targets : LoopTargets) (inLoop : Bool) : Prop :=
  targets.onExit.isSome = inLoop ∧ targets.onContinue.isSome = inLoop

/-! By induction on the syntax, each part of the construction ends with the first fault that is met
in it, whatever the graph is to which it adds. -/

mutual

theorem faultOf_addStmt {targets : LoopTargets} {inLoop : Bool} (within : targets.Within inLoop)
    (graph : Graph) (here : Nat) (stmt : Stmt) :
    faultOf (addStmt targets graph here stmt) = firstRaised (stmtOccurrences inLoop true stmt) := by
  cases stmt with
  | action origin deed => rfl
  | returnStmt origin => rfl
  | jump origin target => rfl
  | foreign origin name => rfl
  | exitStmt origin =>
      rw [addStmt, stmtOccurrences, ← within.1]
      cases targets.onExit <;> rfl
  | continueStmt origin =>
      rw [addStmt, stmtOccurrences, ← within.2]
      cases targets.onContinue <;> rfl
  | label origin name inner =>
      have insideLabel :
          firstRaised (inner.toList.flatMap (stmtOccurrences inLoop false)) = none := by
        refine firstRaised_of_unprocessed fun occurrence inside => ?_
        obtain ⟨stmt, _, inStmt⟩ := List.mem_flatMap.mp inside
        exact stmtOccurrences_unprocessed inLoop stmt occurrence inStmt
      rw [addStmt, stmtOccurrences_label, firstRaised_cons_of_sound rfl, insideLabel]
      rfl
  | ifThen origin condition body elseIfs otherwise =>
      rw [addStmt, stmtOccurrences_ifThen, firstRaised_cons_of_sound rfl, firstRaised_append,
        firstRaised_append, ← faultOf_addBranch within _ _ _ body]
      refine faultOf_bind fun afterThen _ => ?_
      rw [← faultOf_addElseIfs within afterThen here graph.size elseIfs]
      refine faultOf_bind fun afterElseIfs _ => ?_
      cases otherwise with
      | none => rfl
      | some block =>
          rw [Option.getD_some, ← faultOf_addBranch within _ _ _ block]
          exact faultOf_bind_of_succeeds fun _ => rfl
  | select origin subject arms otherwise =>
      rw [addStmt, stmtOccurrences_select, firstRaised_cons_of_sound rfl, firstRaised_append,
        ← faultOf_addArms within _ _ _ _ arms]
      refine faultOf_bind fun afterArms _ => ?_
      cases otherwise with
      | none => rfl
      | some block =>
          rw [Option.getD_some, ← faultOf_addBranch within _ _ _ block]
          exact faultOf_bind_of_succeeds fun _ => rfl
  | loop origin head body =>
      have inside (final first : Nat) : LoopTargets.Within ⟨some final, some first⟩ true :=
        ⟨rfl, rfl⟩
      rw [addStmt, stmtOccurrences, firstRaised_cons_of_sound rfl,
        ← faultOf_addBranch (inside _ _) _ _ _ body]
      exact faultOf_bind_of_succeeds fun _ => rfl
termination_by structural stmt

theorem faultOf_addBranch {targets : LoopTargets} {inLoop : Bool} (within : targets.Within inLoop)
    (graph : Graph) (here final : Nat) (block : Block) :
    faultOf (addBranch targets graph here final block) =
      firstRaised (blockOccurrences inLoop true block) := by
  cases block with
  | missing => rfl
  | given stmts =>
      rw [addBranch, blockOccurrences, ← faultOf_addStmts within graph here stmts]
      exact faultOf_bind_of_succeeds fun _ => rfl
termination_by structural block

theorem faultOf_addElseIfs {targets : LoopTargets} {inLoop : Bool} (within : targets.Within inLoop)
    (graph : Graph) (here final : Nat) (elseIfs : List ElseIf) :
    faultOf (addElseIfs targets graph here final elseIfs) =
      firstRaised (elseIfsOccurrences inLoop true elseIfs) := by
  cases elseIfs with
  | nil => rfl
  | cons first rest =>
      obtain ⟨condition, body⟩ := first
      rw [addElseIfs, elseIfsOccurrences, firstRaised_append,
        ← faultOf_addBranch within _ _ _ body]
      exact faultOf_bind fun middle _ => faultOf_addElseIfs within middle here final rest
termination_by structural elseIfs

theorem faultOf_addArms {targets : LoopTargets} {inLoop : Bool} (within : targets.Within inLoop)
    (graph : Graph) (owner : Stmt) (head final : Nat) (arms : List Arm) :
    faultOf (addArms targets graph owner head final arms) =
      firstRaised (armsOccurrences inLoop true arms) := by
  cases arms with
  | nil => rfl
  | cons first rest =>
      obtain ⟨values, body⟩ := first
      rw [addArms, armsOccurrences, firstRaised_append, ← faultOf_addBranch within _ _ _ body]
      exact faultOf_bind fun middle _ => faultOf_addArms within middle owner head final rest
termination_by structural arms

theorem faultOf_addStmts {targets : LoopTargets} {inLoop : Bool} (within : targets.Within inLoop)
    (graph : Graph) (here : Nat) (stmts : List Stmt) :
    faultOf (addStmts targets graph (some here) stmts) =
      firstRaised (stmtsOccurrences inLoop true stmts) := by
  cases stmts with
  | nil => rfl
  | cons stmt rest =>
      rw [addStmts, stmtsOccurrences, firstRaised_append, ← faultOf_addStmt within graph here stmt]
      refine faultOf_bind fun front builtStmt => ?_
      obtain ⟨middle, reached⟩ := front
      have stays : reached.isSome = !leavesBlock stmt := addStmt_isSome builtStmt
      rw [← stays, Bool.true_and]
      cases reached with
      | none =>
          change faultOf (addStmts targets middle none rest) = _
          rw [Option.isSome_none, addStmts_of_none,
            firstRaised_of_unprocessed (stmtsOccurrences_unprocessed inLoop rest)]
          rfl
      | some number => exact faultOf_addStmts within middle number rest
termination_by structural stmts

end

theorem Source.faultOf_graph (source : Source) :
    faultOf source.graph = firstRaised source.occurrences := by
  have within : LoopTargets.Within {} false := ⟨rfl, rfl⟩
  rw [Source.occurrences, ← faultOf_addStmts within source.seed 0 source.stmts,
    source.graph_eq_addStmts]
  cases addStmts {} source.seed (some 0) source.stmts <;> rfl

/-- The construction of a graph fails exactly if it comes to a faulty statement, with the fault of
the first of them; how the code is given makes no difference. -/
theorem graph_fails_at_first_fault (source : Source) :
    (∀ fault, source.graph = .error fault ↔ FirstFault source.occurrences fault) ∧
    ((∃ fault, source.graph = .error fault) ↔
      ∃ occurrence ∈ source.occurrences,
        occurrence.processed = true ∧ ∃ fault, occurrence.fault? = some fault) ∧
    ∀ other : Source, other.stmts = source.stmts →
      ∀ fault, other.graph = .error fault ↔ source.graph = .error fault := by
  have fails (source : Source) (fault : Fault) :
      source.graph = .error fault ↔ firstRaised source.occurrences = some fault := by
    rw [← faultOf_eq_some, source.faultOf_graph]
  refine ⟨fun fault => (fails source fault).trans firstRaised_eq_some, ?_, ?_⟩
  · simp only [fails, ← Option.isSome_iff_exists]
    rw [firstRaised, List.findSome?_isSome_iff]
    simp only [Option.isSome_iff_exists, Occurrence.raised?_eq_some, exists_and_left]
  · intro other sameStmts fault
    rw [fails, fails, Source.occurrences, Source.occurrences, sameStmts]

end PlcLint.Flow
