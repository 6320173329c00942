import PlcLint.Proofs.Check.SetterWrites
import PlcLint.Proofs.Flow.Shape

/-!
Where the search for assignments fails. If all blocks are there, the only obstacle is a call to
`ADR` whose first argument is missing or names nothing, and only if taking an address counts as
assignment; the search fails at the first such call unless an assignment stands before it.
-/

namespace PlcLint

namespace Walk

variable {α : Type} {test : α → Except Fault Bool} {items : List α} {fault : Fault}

theorem anyOf_eq_ok_false (none : ∀ item ∈ items, test item = .ok false) :
    anyOf test items = .ok false := by
  induction items with
  | nil => rfl
  | cons item rest inductionHypothesis =>
      obtain ⟨first, later⟩ := List.forall_mem_cons.mp none
      rw [anyOf_cons, first, orElse]
      exact inductionHypothesis later

/-- A test of a list fails where it first fails, unless it holds before. -/
theorem anyOf_eq_error_iff :
    anyOf test items = .error fault ↔
      ∃ before item after, items = before ++ item :: after ∧ test item = .error fault ∧
        ∀ earlier ∈ before, test earlier = .ok false := by
  constructor
  · intro failed
    induction items with
    | nil => cases failed
    | cons item rest inductionHypothesis =>
        rw [anyOf_cons] at failed
        cases outcome : test item with
        | error cause =>
            rw [outcome] at failed
            cases failed
            exact ⟨[], item, rest, rfl, outcome, by simp⟩
        | ok holds =>
            rw [outcome] at failed
            cases holds with
            | true => cases failed
            | false =>
                obtain ⟨before, culprit, after, rfl, failing, passed⟩ := inductionHypothesis failed
                exact ⟨item :: before, culprit, after, rfl, failing,
                  List.forall_mem_cons.mpr ⟨outcome, passed⟩⟩
  · rintro ⟨before, item, after, rfl, failing, passed⟩
    rw [anyOf_append, anyOf_eq_ok_false passed, anyOf_cons, failing]
    rfl

end Walk

/-! Calls that take an address. -/

/-- What is wrong with the arguments of a call to `ADR`: nothing stands in the first place, or
neither a variable nor a call. -/
def addressFault? : List Argument → Option Fault
  | [] => some .addressOfNothing
  | argument :: _ =>
    match argument.value with
    | some (.var _) | some (.call _ _ _ _) => none
    | _ => some .addressOfUnnamed

/-- What stands in the first place has the name. -/
def firstIsNamed (name : String) : List Argument → Bool
  | [] => false
  | argument :: _ =>
    match argument.value with
    | some (.var value) => Text.sameName value.nameText name
    | some (.call _ _ callee _) => Text.sameName callee.text name
    | _ => false

namespace Expr

def addressFault? (expr : Expr) : Option Fault :=
  match expr with
  | .call _ _ _ arguments =>
    if expr.isCallTo "ADR" then PlcLint.addressFault? arguments else none
  | _ => none

/-- The expression is a call that takes the address of the variable. -/
def takesAddress (name : String) (expr : Expr) : Bool :=
  match expr with
  | .call _ _ _ arguments => expr.isCallTo "ADR" && firstIsNamed name arguments
  | _ => false

theorem assigns_true (name : String) (expr : Expr) :
    expr.assigns name true =
      match expr.addressFault? with
      | some fault => .error fault
      | none => .ok (expr.takesAddress name || expr.takesOut name) := by
  cases expr with
  | call origin asStatement callee arguments =>
      unfold assigns addressFault? takesAddress takesOut
      cases isCallTo "ADR" (.call origin asStatement callee arguments) with
      | false => rfl
      | true =>
          cases arguments with
          | nil => rfl
          | cons argument rest =>
              dsimp only [addressed, PlcLint.addressFault?, firstIsNamed]
              cases argument.value with
              | none => rfl
              | some value =>
                  cases value with
                  | var value =>
                      change (if Text.sameName value.nameText name then Except.ok true
                        else .ok _) = .ok (Text.sameName value.nameText name || _)
                      cases Text.sameName value.nameText name <;> rfl
                  | call origin asStatement callee arguments =>
                      change (if Text.sameName callee.text name then Except.ok true
                        else .ok _) = .ok (Text.sameName callee.text name || _)
                      cases Text.sameName callee.text name <;> rfl
                  | _ => rfl
  | _ => rfl

theorem assigns_eq_error_iff {name : String} {expr : Expr} {fault : Fault} :
    expr.assigns name true = .error fault ↔ expr.addressFault? = some fault := by
  rw [assigns_true]
  cases expr.addressFault? <;> simp

theorem assigns_eq_false_iff {name : String} {expr : Expr} :
    expr.assigns name true = .ok false ↔
      expr.addressFault? = none ∧ expr.takesAddress name = false ∧ expr.takesOut name = false := by
  rw [assigns_true]
  cases expr.addressFault? <;> simp

end Expr

/-! Statements all of whose blocks are there. -/

mutual

/-- No block in the statement is missing. -/
def Stmt.isComplete (stmt : Stmt) : Bool :=
  match stmt with
  | .action _ _ | .exitStmt _ | .continueStmt _ | .returnStmt _ | .jump _ _ | .foreign _ _ => true
  | .label _ _ inner =>
    match inner with
    | some inner => inner.isComplete
    | none => true
  | .ifThen _ _ body elseIfs otherwise =>
    body.isComplete && elseIfsComplete elseIfs &&
      match otherwise with
      | some block => block.isComplete
      | none => true
  | .select _ _ arms otherwise =>
    armsComplete arms &&
      match otherwise with
      | some block => block.isComplete
      | none => true
  | .loop _ _ body => body.isComplete

def Block.isComplete : Block → Bool
  | .missing => false
  | .given stmts => stmtsComplete stmts

def elseIfsComplete : List ElseIf → Bool
  | [] => true
  | .mk _ body :: rest => body.isComplete && elseIfsComplete rest

def armsComplete : List Arm → Bool
  | [] => true
  | .mk _ body :: rest => body.isComplete && armsComplete rest

def stmtsComplete : List Stmt → Bool
  | [] => true
  | stmt :: rest => stmt.isComplete && stmtsComplete rest

end

mutual

theorem Stmt.fault_readExprs_of_isComplete (stmt : Stmt) (complete : stmt.isComplete = true) :
    stmt.readExprs.fault = none := by
  cases stmt with
  | loop origin head body =>
      rw [Stmt.isComplete] at complete
      cases head with
      | forTo control first last step =>
          change ((Walk.ofList [first, last]).append body.readExprs).fault = none
          exact body.fault_readExprs_of_isComplete complete
      | _ => rfl
  | _ => rfl
termination_by structural stmt

theorem Block.fault_readExprs_of_isComplete (block : Block) (complete : block.isComplete = true) :
    block.readExprs.fault = none := by
  cases block with
  | missing => cases complete
  | given stmts => exact fault_readExprsOfAll stmts complete
termination_by structural block

theorem fault_readExprsOfAll (stmts : List Stmt) (complete : stmtsComplete stmts = true) :
    (readExprsOfAll stmts).fault = none := by
  cases stmts with
  | nil => rfl
  | cons stmt rest =>
      rw [stmtsComplete, Bool.and_eq_true] at complete
      change (stmt.readExprs.append (readExprsOfAll rest)).fault = none
      rw [Walk.append, stmt.fault_readExprs_of_isComplete complete.1]
      exact fault_readExprsOfAll rest complete.2
termination_by structural stmts

end

theorem Stmt.fault_readSubexprs {stmt : Stmt} (complete : stmt.isComplete = true) :
    stmt.readSubexprs.fault = none := by
  rw [readSubexprs, Walk.flatMap_ofList]
  exact stmt.fault_readExprs_of_isComplete complete

theorem Stmt.assigns_eq_error_iff {name : String} {stmt : Stmt} {fault : Fault}
    (complete : stmt.isComplete = true) :
    stmt.assigns name true = .error fault ↔
      stmt.hasTarget name = false ∧ ∃ before call after,
        stmt.readSubexprs.found = before ++ call :: after ∧ call.addressFault? = some fault ∧
          ∀ earlier ∈ before, earlier.addressFault? = none ∧ earlier.takesAddress name = false ∧
            earlier.takesOut name = false := by
  have searched : stmt.readSubexprs.any (·.assigns name true) = .error fault ↔
      Walk.anyOf (·.assigns name true) stmt.readSubexprs.found = .error fault := by
    rw [Walk.any_eq, Stmt.fault_readSubexprs complete]
    cases Walk.anyOf (·.assigns name true) stmt.readSubexprs.found with
    | error cause => rfl
    | ok holds => cases holds <;> simp [Walk.orElse]
  rw [assigns]
  cases stmt.hasTarget name with
  | true => simp
  | false =>
      simp only [Bool.false_eq_true, if_false, true_and]
      rw [searched, Walk.anyOf_eq_error_iff]
      simp only [Expr.assigns_eq_error_iff, Expr.assigns_eq_false_iff]

namespace Flow

mutual

theorem stmtOccurrences_complete {inLoop processed : Bool} (stmt : Stmt)
    (complete : stmt.isComplete = true) :
    ∀ occurrence ∈ stmtOccurrences inLoop processed stmt, occurrence.stmt.isComplete = true := by
  cases stmt with
  | action | exitStmt | continueStmt | returnStmt | jump | foreign => simpa [stmtOccurrences]
  | label origin name inner =>
      cases inner with
      | none => simpa [stmtOccurrences]
      | some inner =>
          rw [stmtOccurrences]
          refine List.forall_mem_cons.mpr ⟨complete, ?_⟩
          rw [Stmt.isComplete] at complete
          exact stmtOccurrences_complete inner complete
  | ifThen origin condition body elseIfs otherwise =>
      rw [stmtOccurrences_ifThen]
      refine List.forall_mem_cons.mpr ⟨complete, ?_⟩
      cases otherwise with
      | none =>
          simp only [Stmt.isComplete, Bool.and_true, Bool.and_eq_true] at complete
          rw [Option.getD_none, blockOccurrences, List.append_nil, List.forall_mem_append]
          exact ⟨blockOccurrences_complete body complete.1,
            elseIfsOccurrences_complete elseIfs complete.2⟩
      | some block =>
          simp only [Stmt.isComplete, Bool.and_eq_true] at complete
          rw [List.forall_mem_append, List.forall_mem_append]
          exact ⟨blockOccurrences_complete body complete.1.1,
            elseIfsOccurrences_complete elseIfs complete.1.2,
            blockOccurrences_complete block complete.2⟩
  | select origin subject arms otherwise =>
      rw [stmtOccurrences_select]
      refine List.forall_mem_cons.mpr ⟨complete, ?_⟩
      cases otherwise with
      | none =>
          simp only [Stmt.isComplete, Bool.and_true] at complete
          rw [Option.getD_none, blockOccurrences, List.append_nil]
          exact armsOccurrences_complete arms complete
      | some block =>
          simp only [Stmt.isComplete, Bool.and_eq_true] at complete
          rw [List.forall_mem_append]
          exact ⟨armsOccurrences_complete arms complete.1,
            blockOccurrences_complete block complete.2⟩
  | loop origin head body =>
      rw [stmtOccurrences]
      exact List.forall_mem_cons.mpr ⟨complete, blockOccurrences_complete body complete⟩
termination_by structural stmt

theorem blockOccurrences_complete {inLoop processed : Bool} (block : Block)
    (complete : block.isComplete = true) :
    ∀ occurrence ∈ blockOccurrences inLoop processed block, occurrence.stmt.isComplete = true := by
  cases block with
  | missing => cases complete
  | given stmts => exact stmtsOccurrences_complete stmts complete
termination_by structural block

theorem elseIfsOccurrences_complete {inLoop processed : Bool} (elseIfs : List ElseIf)
    (complete : elseIfsComplete elseIfs = true) :
    ∀ occurrence ∈ elseIfsOccurrences inLoop processed elseIfs,
      occurrence.stmt.isComplete = true := by
  cases elseIfs with
  | nil => simp [elseIfsOccurrences]
  | cons elseIf rest =>
      obtain ⟨condition, body⟩ := elseIf
      rw [elseIfsComplete, Bool.and_eq_true] at complete
      rw [elseIfsOccurrences, List.forall_mem_append]
      exact ⟨blockOccurrences_complete body complete.1,
        elseIfsOccurrences_complete rest complete.2⟩
termination_by structural elseIfs

theorem armsOccurrences_complete {inLoop processed : Bool} (arms : List Arm)
    (complete : armsComplete arms = true) :
    ∀ occurrence ∈ armsOccurrences inLoop processed arms, occurrence.stmt.isComplete = true := by
  cases arms with
  | nil => simp [armsOccurrences]
  | cons arm rest =>
      obtain ⟨values, body⟩ := arm
      rw [armsComplete, Bool.and_eq_true] at complete
      rw [armsOccurrences, List.forall_mem_append]
      exact ⟨blockOccurrences_complete body complete.1, armsOccurrences_complete rest complete.2⟩
termination_by structural arms

theorem stmtsOccurrences_complete {inLoop processed : Bool} (stmts : List Stmt)
    (complete : stmtsComplete stmts = true) :
    ∀ occurrence ∈ stmtsOccurrences inLoop processed stmts, occurrence.stmt.isComplete = true := by
  cases stmts with
  | nil => simp [stmtsOccurrences]
  | cons stmt rest =>
      rw [stmtsComplete, Bool.and_eq_true] at complete
      rw [stmtsOccurrences, List.forall_mem_append]
      exact ⟨stmtOccurrences_complete stmt complete.1, stmtsOccurrences_complete rest complete.2⟩
termination_by structural stmts

end

/-! A search fails only where its test fails. -/

section

variable {source : Source} {graph : Graph} {pred : Stmt → Except Fault Bool} {fault : Fault}

theorem openPath_eq_error {stops : Nat → Except Fault Bool} {edges : Nat → List Nat} {fuel : Nat}
    {pending : Pending} {taken : List Nat}
    (failed : openPath stops edges fuel pending taken = .error fault) :
    ∃ number, stops number = .error fault := by
  induction fuel generalizing pending taken with
  | zero => cases failed
  | succ fuel inductionHypothesis =>
      cases pending with
      | nil => cases failed
      | cons entry pending =>
          obtain ⟨number, path⟩ := entry
          rw [openPath] at failed
          cases outcome : stops number with
          | error cause =>
              rw [outcome] at failed
              cases failed
              exact ⟨number, outcome⟩
          | ok holds =>
              rw [outcome] at failed
              cases holds with
              | true => exact inductionHypothesis failed
              | false =>
                  change (if (edges number).isEmpty then _ else _) = _ at failed
                  split at failed
                  · cases failed
                  · exact inductionHypothesis failed

/-- A computation that fails does so in its first or in its second part. -/
theorem bind_eq_error {α β : Type} {first : Except Fault α} {second : α → Except Fault β}
    (failed : (first >>= second) = .error fault) :
    first = .error fault ∨ ∃ middle, first = .ok middle ∧ second middle = .error fault := by
  cases first with
  | error cause =>
      cases failed
      exact .inl rfl
  | ok middle => exact .inr ⟨middle, rfl, failed⟩

/-- The statements of a program graph stand in the code. -/
theorem Source.exists_occurrence (built : source.graph = .ok graph) {number : Nat} {stmt : Stmt}
    (stands : stmt ∈ graph.stmtsAt number) :
    ∃ occurrence ∈ source.occurrences, occurrence.stmt = stmt :=
  ((source.shaped_seed _).run (Source.steps_graph built)).ofCode number stmt stands

/-- A test of nodes that fails does so at a statement of the code. -/
theorem Source.exists_failing (built : source.graph = .ok graph) {stmts : Nat → List Stmt}
    (onNodes : ∀ number, stmts number ⊆ graph.stmtsAt number) {edges : Nat → List Nat}
    {fuel : Nat} {pending : Pending} {taken : List Nat}
    (failed : openPath (fun number => Walk.anyOf pred (stmts number)) edges fuel pending taken =
      .error fault) :
    ∃ occurrence ∈ source.occurrences, pred occurrence.stmt = .error fault := by
  obtain ⟨number, nodeFailed⟩ := openPath_eq_error failed
  obtain ⟨before, stmt, after, split, stmtFailed, _⟩ := Walk.anyOf_eq_error_iff.mp nodeFailed
  obtain ⟨occurrence, stands, rfl⟩ := Source.exists_occurrence built
    (onNodes number (split ▸ List.mem_append_right before List.mem_cons_self))
  exact ⟨occurrence, stands, stmtFailed⟩

theorem Source.onAllPaths_eq_error (failed : source.onAllPaths pred = .error fault) :
    source.graph = .error fault ∨
      ∃ occurrence ∈ source.occurrences, pred occurrence.stmt = .error fault := by
  rcases bind_eq_error failed with unbuilt | ⟨graph, built, searched⟩
  · exact .inl unbuilt
  · rcases bind_eq_error searched with pathFailed | ⟨_, _, done⟩
    · rcases bind_eq_error pathFailed with openFailed | ⟨_, _, done⟩
      · exact .inr (Source.exists_failing built (fun _ => List.Subset.refl _) openFailed)
      · cases done
    · cases done

theorem Source.onAllPathsTo_eq_error {target : Stmt}
    (failed : source.onAllPathsTo target pred = .error fault) :
    source.graph = .error fault ∨
      ∃ occurrence ∈ source.occurrences, pred occurrence.stmt = .error fault := by
  rcases bind_eq_error failed with unbuilt | ⟨graph, built, searched⟩
  · exact .inl unbuilt
  · rcases bind_eq_error searched with pathFailed | ⟨_, _, done⟩
    · rw [Graph.failingPathTo] at pathFailed
      cases found : graph.nodeOf? target with
      | none => simp [found] at pathFailed
      | some number =>
          rw [found] at pathFailed
          exact .inr (Source.exists_failing built
            (fun _ => List.takeWhile_subset _) pathFailed)
    · cases done

end

end Flow

theorem Stmt.isWhole_of_isComplete {stmt : Stmt} (complete : stmt.isComplete = true) :
    stmt.isWhole = true := by
  have noFault := stmt.fault_readExprs_of_isComplete complete
  rw [Stmt.fault_readExprs] at noFault
  by_contra lacking
  rw [if_neg lacking] at noFault
  cases noFault

/-- Without regard to addresses every statement whose blocks are all there gets an answer. With
regard to them it gets one unless a call to `ADR` that names nothing comes before all that assigns;
and a search through code then fails only where its graph or such a call does. -/
theorem assignment_fails_only_at_addresses (name : String) :
    (∀ stmt : Stmt, stmt.isComplete = true →
      stmt.assigns name false = .ok (stmt.shows name) ∧
      ∀ fault, stmt.assigns name true = .error fault ↔
        stmt.hasTarget name = false ∧ ∃ before call after,
          stmt.readSubexprs.found = before ++ call :: after ∧ call.addressFault? = some fault ∧
            ∀ earlier ∈ before, earlier.addressFault? = none ∧
              earlier.takesAddress name = false ∧ earlier.takesOut name = false) ∧
    ∀ source : Flow.Source, stmtsComplete source.stmts = true → ∀ fault,
      (source.graph = .error fault → source.assignsAlways name = .error fault ∧
        ∀ target, source.assignsBefore target name = .error fault) ∧
      ((source.assignsAlways name = .error fault ∨
          ∃ target, source.assignsBefore target name = .error fault) →
        source.graph = .error fault ∨ ∃ occurrence ∈ source.occurrences,
          ∃ call ∈ occurrence.stmt.readSubexprs.found, call.addressFault? = some fault) := by
  refine ⟨fun stmt complete => ⟨?_, fun fault => Stmt.assigns_eq_error_iff complete⟩, ?_⟩
  · rw [Stmt.assigns_of_shows, Stmt.isWhole_of_isComplete complete, if_pos rfl]
    cases stmt.shows name <;> rfl
  · intro source complete fault
    refine ⟨fun unbuilt => ⟨?_, fun target => ?_⟩, fun failed => ?_⟩
    · rw [Flow.Source.assignsAlways, Flow.Source.onAllPaths, unbuilt]
      rfl
    · rw [Flow.Source.assignsBefore, Flow.Source.onAllPathsTo, unbuilt]
      rfl
    · have inside := failed.elim Flow.Source.onAllPaths_eq_error
        fun ⟨_, before⟩ => Flow.Source.onAllPathsTo_eq_error before
      refine inside.imp_right fun ⟨occurrence, stands, stmtFailed⟩ => ?_
      have whole := Flow.stmtsOccurrences_complete source.stmts complete occurrence stands
      obtain ⟨_, before, call, after, split, isFault, _⟩ :=
        (Stmt.assigns_eq_error_iff whole).mp stmtFailed
      refine ⟨occurrence, stands, call, ?_, isFault⟩
      exact split ▸ List.mem_append_right before List.mem_cons_self

/-! The statements `p := ADR(5);` and `p := ADR();`. -/

def addressOf (arguments : List Argument) : Stmt :=
  .action ⟨1, none, none⟩ (.assign [variableNamed 2 "p"]
    (.call ⟨3, none, none⟩ false (.simple ⟨4, none, none⟩ "ADR" false) arguments))

def addressOfNumber : Stmt :=
  addressOf [.input ⟨5, none, none⟩ none (some (number 6 "5"))]

theorem assignment_fails_in_addressOfNumber :
    addressOfNumber.isComplete = true ∧ addressOfNumber.assigns "y" false = .ok false ∧
      addressOfNumber.assigns "y" true = .error .addressOfUnnamed ∧
      ∃ occurrence ∈ (Flow.Source.block [addressOfNumber]).occurrences,
        ∃ call ∈ occurrence.stmt.readSubexprs.found,
          call.addressFault? = some .addressOfUnnamed := by
  obtain ⟨inStmts, inSources⟩ := assignment_fails_only_at_addresses "y"
  obtain ⟨answered, failing⟩ := inStmts addressOfNumber rfl
  refine ⟨rfl, answered, (failing _).mpr ⟨rfl, [], _, _, rfl, rfl, by simp⟩, ?_⟩
  exact ((inSources (.block [addressOfNumber]) rfl _).2 (.inl rfl)).resolve_left (by rintro ⟨⟩)

/-- Taking the address of a number or of nothing makes the search for assignments fail, although all
blocks are there and the code has a graph. -/
theorem addressOf_fails :
    stmtsComplete [addressOfNumber, addressOf []] = true ∧
      (∃ graph, (Flow.Source.block [addressOfNumber]).graph = .ok graph) ∧
      (Flow.Source.block [addressOfNumber]).assignsAlways "y" = .error .addressOfUnnamed ∧
      (∃ graph, (Flow.Source.block [addressOf []]).graph = .ok graph) ∧
      (Flow.Source.block [addressOf []]).assignsAlways "y" = .error .addressOfNothing :=
  ⟨rfl, ⟨_, rfl⟩, rfl, ⟨_, rfl⟩, rfl⟩

end PlcLint
