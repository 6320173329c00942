import Mathlib.Data.List.TakeWhile
import PlcLint.Check.Method
import PlcLint.Proofs.Flow.OpenPath
import PlcLint.Proofs.Flow.Reached
import PlcLint.Proofs.Syntax.Held
import PlcLint.Proofs.Syntax.Nested

/-!
Which writes of a setter to the variable of its property are reported. Each statement that shows a
write is, until a `FOR` loop without body ends the search. Not shown are writes by `S=` and `R=`, to
an element that is reached by a path that goes on from another path, and by calls in the step of a
`FOR` loop or where the walk through an expression does not go; all other writes are.
-/

namespace PlcLint

open Flow

/-! Writes. -/

/-- The variable at the start of all paths. -/
def Variable.root : Variable → String
  | .simple _ name _ => name
  | .path _ base _ => base.root

/-- The expression is the variable or an element of it. -/
def Expr.isPartOf (name : String) : Expr → Bool
  | .var value => Text.sameName value.root name
  | _ => false

/-- The expression is a call with an argument that takes its value out into the variable. -/
def Expr.takesOut (name : String) : Expr → Bool
  | .call _ _ _ arguments => arguments.any (·.writes name)
  | _ => false

/-- What a statement assigns to by `:=` or `REF=`. -/
def Stmt.assigned : Stmt → List Expr
  | .action _ (.assign targets _) => targets
  | .action _ (.bind target _) => [target]
  | _ => []

/-- What a statement assigns to by `S=` or `R=`. -/
def Stmt.latched : Stmt → List Expr
  | .action _ (.set target _) | .action _ (.reset target _) => [target]
  | _ => []

/-- The variable that a `FOR` loop counts. -/
def Stmt.counter? : Stmt → Option String
  | .loop _ (.forTo control _ _ _) _ => control.simpleName?
  | _ => none

def Stmt.step? : Stmt → Option Expr
  | .loop _ (.forTo _ _ _ step) _ => step
  | _ => none

/-- The statement itself writes to the variable, by its kind or by a call in what it holds. -/
inductive Stmt.Writes (name : String) (stmt : Stmt) : Prop
  | target {target} (isTarget : target ∈ stmt.assigned ++ stmt.latched)
      (part : target.isPartOf name = true) : Stmt.Writes name stmt
  | counter {counter} (counts : stmt.counter? = some counter)
      (same : Text.sameName counter name = true) : Stmt.Writes name stmt
  | output {held call} (isHeld : held ∈ stmt.heldExprs) (nests : held.Nests call)
      (takesOut : call.takesOut name = true) : Stmt.Writes name stmt

/-- The statement writes to the variable in a way that is not looked for. -/
inductive Stmt.Escapes (name : String) (stmt : Stmt) : Prop
  | latched {target} (isTarget : target ∈ stmt.latched) (part : target.isPartOf name = true) :
      Stmt.Escapes name stmt
  | pathOnPath {origin start base lower upper}
      (isTarget : .var (.path origin (.path start base lower) upper) ∈ stmt.assigned)
      (part : Text.sameName base.root name = true) : Stmt.Escapes name stmt
  | step {held call} (isStep : stmt.step? = some held) (isHeld : held ∈ stmt.heldExprs)
      (nests : held.Nests call) (takesOut : call.takesOut name = true) : Stmt.Escapes name stmt
  | skipped {held outer part call} (isHeld : held ∈ stmt.heldExprs)
      (walked : outer ∈ held.subexprs) (skips : outer.Skips part) (nests : part.Nests call)
      (takesOut : call.takesOut name = true) : Stmt.Escapes name stmt

/-- A write is found in the statement, or in what it reads. -/
def Stmt.shows (name : String) (stmt : Stmt) : Bool :=
  stmt.hasTarget name || stmt.readSubexprs.found.any (·.takesOut name)

/-- No `FOR` loop that is read lacks its body. -/
def Stmt.isWhole (stmt : Stmt) : Bool :=
  stmt.entered.all fun inner => match inner.forBody? with
    | some .missing => false
    | _ => true

/-- The search for writes goes on behind the statement. -/
def Stmt.isPassed (name : String) (stmt : Stmt) : Bool := stmt.shows name || stmt.isWhole

theorem Stmt.fault_readExprs (stmt : Stmt) :
    stmt.readExprs.fault = if stmt.isWhole then none else some .missingLoopBody := by
  rw [readExprs_eq_entered, isWhole]
  induction stmt.entered with
  | nil => rfl
  | cons inner rest inductionHypothesis =>
      rw [List.map_cons, Walk.concat, List.all_cons]
      change (Walk.append inner.headWalk _).fault = _
      rw [Walk.append, headWalk]
      rcases inner.forBody? with _ | _ | stmts
      · exact inductionHypothesis
      · rfl
      · exact inductionHypothesis

theorem Expr.assigns_false (name : String) (expr : Expr) :
    expr.assigns name false = .ok (expr.takesOut name) := by
  cases expr <;> rfl

theorem Stmt.assigns_of_shows (name : String) (stmt : Stmt) :
    stmt.assigns name false =
      if stmt.shows name then .ok true
      else if stmt.isWhole then .ok false else .error .missingLoopBody := by
  have fault : stmt.readSubexprs.fault = stmt.readExprs.fault := by
    rw [readSubexprs, Walk.flatMap_ofList]
  rw [assigns, shows, funext (Expr.assigns_false name), Walk.any_eq, Walk.anyOf_ok, fault,
    fault_readExprs]
  cases stmt.hasTarget name <;> cases stmt.readSubexprs.found.any (·.takesOut name) <;>
    cases stmt.isWhole <;> rfl

/-! Writes that are shown, and those that are not. -/

theorem Expr.isTarget_or_pathOnPath {name : String} {target : Expr}
    (part : target.isPartOf name = true) :
    target.isTarget name = true ∨ ∃ origin start base lower upper,
      target = .var (.path origin (.path start base lower) upper) ∧
        Text.sameName base.root name = true := by
  cases target with
  | var value =>
      cases value with
      | simple origin root deref => exact .inl part
      | path origin base upper =>
          cases base with
          | simple start root deref => exact .inl part
          | path start base lower => exact .inr ⟨origin, start, base, lower, upper, rfl, part⟩
  | _ => cases part

theorem Stmt.hasTarget_of_assigned {name : String} {stmt : Stmt} {target : Expr}
    (isAssigned : target ∈ stmt.assigned) (isTarget : target.isTarget name = true) :
    stmt.hasTarget name = true := by
  cases stmt with
  | action origin deed =>
      cases deed with
      | assign targets value => exact List.any_eq_true.mpr ⟨target, isAssigned, isTarget⟩
      | bind bound value =>
          cases List.mem_singleton.mp isAssigned
          exact isTarget
      | _ => cases isAssigned
  | _ => cases isAssigned

theorem Stmt.hasTarget_of_counter {name counter : String} {stmt : Stmt}
    (counts : stmt.counter? = some counter) (same : Text.sameName counter name = true) :
    stmt.hasTarget name = true := by
  cases stmt with
  | loop origin head body =>
      cases head with
      | forTo control first last step =>
          change control.simpleName? = some counter at counts
          rw [hasTarget, counts]
          exact same
      | _ => cases counts
  | _ => cases counts

theorem Expr.eq_of_mem_asPart {expr part : Expr} (membership : part ∈ expr.asPart) :
    part = expr := by
  rw [asPart] at membership
  split at membership
  · cases membership
  · exact List.mem_singleton.mp membership

theorem Stmt.mem_headExprs_of_readsHeld {stmt : Stmt} {held : Expr} (noBody : stmt.forBody? = none)
    (reads : stmt.ReadsHeld) (isHeld : held ∈ stmt.heldExprs) : held ∈ stmt.headExprs := by
  have read := (readExprs_eq_heldExprs_iff stmt).mpr reads
  rw [readExprs_of_noBody noBody, ofList_eq_ofList] at read
  rwa [read]

/-- What a statement holds is read, but for the step of a `FOR` loop. -/
theorem Stmt.mem_headExprs_or_step {stmt : Stmt} {held : Expr} (isHeld : held ∈ stmt.heldExprs) :
    held ∈ stmt.headExprs ∨ stmt.step? = some held := by
  cases stmt with
  | action origin deed =>
      cases deed with
      | assign targets value =>
          have isValue : held ∈ value.asPart := by
            simpa [heldExprs, pieces, Action.pieces, List.flatMap_map] using isHeld
          exact .inl (List.mem_singleton.mpr (Expr.eq_of_mem_asPart isValue))
      | bind target value =>
          have isValue : held ∈ value.asPart := by
            simpa [heldExprs, pieces, Action.pieces] using isHeld
          exact .inl (List.mem_singleton.mpr (Expr.eq_of_mem_asPart isValue))
      | _ => exact .inl (mem_headExprs_of_readsHeld rfl trivial isHeld)
  | loop origin head body =>
      cases head with
      | forTo control first last step =>
          have inHead : held ∈ first.asPart ∨ held ∈ last.asPart ∨
              ∃ given, step = some given ∧ held ∈ given.asPart := by
            simpa [heldExprs, pieces, LoopHead.pieces, List.flatMap_map] using isHeld
          rcases inHead with isFirst | isLast | ⟨given, rfl, isStep⟩
          · cases Expr.eq_of_mem_asPart isFirst
            exact .inl List.mem_cons_self
          · cases Expr.eq_of_mem_asPart isLast
            exact .inl (List.mem_cons_of_mem _ List.mem_cons_self)
          · cases Expr.eq_of_mem_asPart isStep
            exact .inr rfl
      | _ => exact .inl (mem_headExprs_of_readsHeld rfl trivial isHeld)
  | _ => exact .inl (mem_headExprs_of_readsHeld rfl trivial isHeld)

theorem Stmt.shows_of_call {name : String} {stmt : Stmt} {held call : Expr}
    (isRead : held ∈ stmt.headExprs) (walked : call ∈ held.subexprs)
    (takesOut : call.takesOut name = true) : stmt.shows name = true := by
  have read : call ∈ stmt.readSubexprs.found := by
    rw [readSubexprs_found, readExprs_eq]
    exact List.mem_flatMap.mpr ⟨held, List.mem_append_left _ isRead, walked⟩
  rw [shows, List.any_eq_true.mpr ⟨call, read, takesOut⟩, Bool.or_true]

theorem Stmt.Writes.shows_or_escapes {name : String} {stmt : Stmt} (writes : stmt.Writes name) :
    stmt.shows name = true ∨ stmt.Escapes name := by
  cases writes with
  | target isTarget part =>
      rcases List.mem_append.mp isTarget with isAssigned | isLatched
      · rcases Expr.isTarget_or_pathOnPath part with found | ⟨_, _, _, _, _, rfl, inRoot⟩
        · exact .inl (by rw [shows, hasTarget_of_assigned isAssigned found, Bool.true_or])
        · exact .inr (.pathOnPath isAssigned inRoot)
      · exact .inr (.latched isLatched part)
  | counter counts same =>
      exact .inl (by rw [shows, hasTarget_of_counter counts same, Bool.true_or])
  | output isHeld nests takesOut =>
      -- the walk through the statement can miss the expression, that through the expression the call
      rcases mem_headExprs_or_step isHeld with isRead | isStep
      · rcases nests.mem_subexprs_or_skipped with walked | ⟨outer, isOuter, part, skips, onward⟩
        · exact .inl (shows_of_call isRead walked takesOut)
        · exact .inr (.skipped isHeld isOuter skips onward takesOut)
      · exact .inr (.step isStep isHeld nests takesOut)

theorem Stmt.Escapes.writes {name : String} {stmt : Stmt} (escapes : stmt.Escapes name) :
    stmt.Writes name := by
  cases escapes with
  | latched isTarget part => exact .target (List.mem_append_right _ isTarget) part
  | pathOnPath isTarget part => exact .target (List.mem_append_left _ isTarget) part
  | step _ isHeld nests takesOut => exact .output isHeld nests takesOut
  | skipped isHeld walked skips nests takesOut =>
      exact .output isHeld ((Expr.nests_of_mem_subexprs walked).trans (nests.head skips.holds))
        takesOut

namespace Check

/-- The remark that a statement of the setter writes to the variable. -/
def writtenRemark (name : String) (stmt : Stmt) : Remark where
  message := "Property setter variable '" ++ name ++ "' is written to"
  violating := some (.node stmt.origin)

/-- The search for writes in the statements gives a remark for each of them that shows one, in
order, up to a `FOR` loop without body in which none was found before. -/
structure WritesReported (name : String) (stmts : List Stmt) (remarks : Walk Remark) : Prop where
  found : remarks.found =
    ((stmts.takeWhile (·.isPassed name)).filter (·.shows name)).map (writtenRemark name)
  fault : remarks.fault = if stmts.all (·.isPassed name) then none else some .missingLoopBody
  whole : (∀ stmt ∈ stmts, stmt.isWhole = true) →
    remarks = Walk.ofList ((stmts.filter (·.shows name)).map (writtenRemark name))
  complete : (∀ stmt ∈ stmts, stmt.isWhole = true) → ∀ stmt ∈ stmts, stmt.Writes name →
    writtenRemark name stmt ∈ remarks.found ∨ stmt.Escapes name

theorem writes_cons (name : String) (stmt : Stmt) (rest : List Stmt) :
    writes name (Walk.ofList (stmt :: rest)) =
      if stmt.shows name then
        Walk.ofList [writtenRemark name stmt] ++ writes name (Walk.ofList rest)
      else if stmt.isWhole then writes name (Walk.ofList rest)
      else ⟨[], some .missingLoopBody⟩ := by
  rw [writes, Walk.flatMap, Walk.ofList, List.map_cons, Walk.concat, Walk.append_assoc,
    Stmt.assigns_of_shows]
  cases stmt.shows name <;> cases stmt.isWhole <;> rfl

theorem found_writes (name : String) (stmts : List Stmt) :
    (writes name (Walk.ofList stmts)).found =
      ((stmts.takeWhile (·.isPassed name)).filter (·.shows name)).map (writtenRemark name) := by
  induction stmts with
  | nil => rfl
  | cons stmt rest inductionHypothesis =>
      rw [writes_cons, List.takeWhile_cons, Stmt.isPassed]
      cases shown : stmt.shows name with
      | true =>
          rw [Bool.true_or, if_pos rfl, if_pos rfl, List.filter_cons_of_pos shown, List.map_cons,
            ← inductionHypothesis]
          rfl
      | false =>
          cases stmt.isWhole with
          | true =>
              rw [Bool.or_true, if_neg Bool.false_ne_true, if_pos rfl, if_pos rfl,
                List.filter_cons_of_neg (by simp [shown])]
              exact inductionHypothesis
          | false => rfl

theorem fault_writes (name : String) (stmts : List Stmt) :
    (writes name (Walk.ofList stmts)).fault =
      if stmts.all (·.isPassed name) then none else some .missingLoopBody := by
  induction stmts with
  | nil => rfl
  | cons stmt rest inductionHypothesis =>
      rw [writes_cons, List.all_cons, Stmt.isPassed]
      cases stmt.shows name <;> cases stmt.isWhole
      · rfl
      all_goals exact inductionHypothesis

theorem writes_of_whole (name : String) {stmts : List Stmt}
    (allWhole : ∀ stmt ∈ stmts, stmt.isWhole = true) :
    writes name (Walk.ofList stmts) =
      Walk.ofList ((stmts.filter (·.shows name)).map (writtenRemark name)) := by
  induction stmts with
  | nil => rfl
  | cons stmt rest inductionHypothesis =>
      obtain ⟨here, later⟩ := List.forall_mem_cons.mp allWhole
      rw [writes_cons, inductionHypothesis later, here, List.filter_cons]
      cases stmt.shows name <;> rfl

theorem writesReported_writes (name : String) (stmts : List Stmt) :
    WritesReported name stmts (writes name (Walk.ofList stmts)) where
  found := found_writes name stmts
  fault := fault_writes name stmts
  whole := writes_of_whole name
  complete allWhole stmt membership writing := by
    refine writing.shows_or_escapes.imp_left fun shown => ?_
    rw [writes_of_whole name allWhole]
    exact List.mem_map_of_mem (List.mem_filter.mpr ⟨membership, shown⟩)

/-- A setter whose body has a graph is searched for writes, in some order of the statements that are
reached. In any such order, if no `FOR` loop lacks its body, exactly the statements that show a
write are reported, and with them each that writes to the variable and does not escape the search;
of the others exactly those write that do. -/
theorem setter_writes_reported {property : Property} {body : List Stmt} {graph : Graph}
    (given : property.setter.body = some body) (built : property.setter.flow.graph = .ok graph)
    (scope : Scope) :
    (∃ order, order.Perm (stmtsReached body) ∧
      (setterValueNotWritten.run scope (.property property)).result =
        .ok (writes property.name (Walk.ofList order))) ∧
    (∀ order, order.Perm (stmtsReached body) →
      WritesReported property.name order (writes property.name (Walk.ofList order))) ∧
    ∀ stmt ∈ stmtsReached body, stmt.shows property.name = false →
      (stmt.Writes property.name ↔ stmt.Escapes property.name) := by
  refine ⟨⟨graph.reachableStmts, ?_, ?_⟩, fun order _ => writesReported_writes _ order,
    fun stmt _ hidden => ⟨fun writes => ?_, Stmt.Escapes.writes⟩⟩
  · have reached := Source.reachableStmts_perm built
    rwa [Routine.flow, Source.stmts, given, Option.getD_some] at reached
  · have walk : property.setter.flow.statements = Walk.ofList graph.reachableStmts := by
      rw [Source.statements, built]
      rfl
    change (if property.setter.body.isNone = true then noRemarks else _).result = _
    rw [given, walk]
    rfl
  · exact writes.shows_or_escapes.resolve_left (by rw [hidden]; exact Bool.false_ne_true)

/-! Setters of a property `Level`. -/

def levelProperty (body : List Stmt) : Property where
  name := "Level"
  getter := { name := "Level", kind := .accessor }
  setter := { name := "Level", kind := .accessor, body := some body }

/-- The call `Read(...)`. -/
def readCall (serial : Nat) (arguments : List Argument) : Expr :=
  .call ⟨serial, none, none⟩ false (.simple ⟨serial + 1, none, none⟩ "Read" false) arguments

def intoLevel (serial : Nat) : Argument :=
  .output ⟨serial, none, none⟩ none (some (variableNamed (serial + 1) "LEVEL")) false

/-- `level.low := 1` -/
def lowWrite : Stmt :=
  .action ⟨1, none, none⟩ (.assign
    [.var (.path ⟨2, none, none⟩ (.simple ⟨3, none, none⟩ "level" false)
      [.field (.simple ⟨4, none, none⟩ "low" false) false])] (number 5 "1"))

/-- `IF Read(Read( => LEVEL)) THEN level.low := 1; END_IF` -/
def readBranch : Stmt :=
  .ifThen ⟨6, none, none⟩
    (readCall 7 [.input ⟨9, none, none⟩ none (some (readCall 10 [intoLevel 12]))])
    (.given [lowWrite]) [] none

/-- `Level REF= x` -/
def levelBinding : Stmt :=
  .action ⟨14, none, none⟩ (.bind (variableNamed 15 "Level") (variableNamed 16 "x"))

/-- `FOR level := 1 TO 9 DO END_FOR` -/
def levelCount : Stmt :=
  .loop ⟨17, none, none⟩ (.forTo (variableNamed 18 "level") (number 19 "1") (number 20 "9") none)
    (.given [])

theorem level_writes_reported : ∃ graph remarks,
    (levelProperty [readBranch, levelBinding, levelCount]).setter.flow.graph = .ok graph ∧
      (setterValueNotWritten.run (.outermost {} {})
        (.property (levelProperty [readBranch, levelBinding, levelCount]))).result = .ok remarks ∧
      remarks.fault = none ∧ remarks.found.Perm
        ([readBranch, lowWrite, levelBinding, levelCount].map (writtenRemark "Level")) := by
  obtain ⟨graph, built⟩ : ∃ graph,
    (levelProperty [readBranch, levelBinding, levelCount]).setter.flow.graph = .ok graph := ⟨_, rfl⟩
  obtain ⟨⟨order, arranged, result⟩, reported, _⟩ :=
    setter_writes_reported rfl built (.outermost {} {})
  have allWhole : ∀ stmt ∈ order, stmt.isWhole = true := by
    intro stmt membership
    have reached : stmt ∈ [readBranch, lowWrite, levelBinding, levelCount] :=
      arranged.mem_iff.mp membership
    simp only [List.mem_cons, List.not_mem_nil, or_false] at reached
    rcases reached with rfl | rfl | rfl | rfl <;> rfl
  rw [(reported order arranged).whole allWhole] at result
  exact ⟨graph, _, built, result, rfl, (arranged.filter _).map _⟩

/-- `Level S= TRUE` -/
def levelLatch : Stmt :=
  .action ⟨1, none, none⟩
    (.set (variableNamed 2 "Level") (.literal ⟨3, none, none⟩ (.boolean "TRUE")))

/-- `Read( => z, Read( => LEVEL))` -/
def readBehindOutput : Stmt :=
  .action ⟨4, none, none⟩ (.call (.simple ⟨5, none, none⟩ "Read" false)
    [.output ⟨6, none, none⟩ none (some (variableNamed 7 "z")) false,
      .input ⟨8, none, none⟩ none (some (readCall 9 [intoLevel 11]))])

/-- `FOR i := 1 TO 9 BY Read( => LEVEL) DO END_FOR` -/
def readInStep : Stmt :=
  .loop ⟨13, none, none⟩ (.forTo (variableNamed 14 "i") (number 15 "1") (number 16 "9")
    (some (readCall 17 [intoLevel 19]))) (.given [])

theorem level_writes_unnoticed :
    (setterValueNotWritten.run (.outermost {} {})
        (.property (levelProperty [levelLatch, readBehindOutput, readInStep]))).result = .ok {} ∧
      stmtsReached [levelLatch, readBehindOutput, readInStep] =
        [levelLatch, readBehindOutput, readInStep] ∧
      levelLatch.Writes "Level" ∧ readBehindOutput.Writes "Level" ∧ readInStep.Writes "Level" := by
  refine ⟨rfl, rfl, .target List.mem_cons_self rfl, ?_, ?_⟩
  · exact .output List.mem_cons_self
      (.single (.argument (List.mem_cons_of_mem _ List.mem_cons_self) rfl)) rfl
  · exact .output (List.mem_cons_of_mem _ (List.mem_cons_of_mem _ List.mem_cons_self)) .refl rfl

end Check

end PlcLint
