import PlcLint.Proofs.Lint.Nodes

/-!
What a statement holds itself, place by place, and what it is said to read. A statement that is
not a `FOR` loop reads what it holds, whatever its blocks contain. A `FOR` loop reads its bounds,
but not its step, and all that the statements of its body read.
-/

namespace PlcLint

/-- What stands in one place of a statement. -/
inductive Piece where
  | held (expr : Expr)
  /-- A variable that the statement assigns to. -/
  | assigned (target : Expr)
  | stmt (inner : Stmt)
  | block (inner : Block)
  /-- An arm is a statement of its own. -/
  | arm (inner : Arm)

/-- An expression in a place of a statement. A call that stands as a statement is one there too. -/
def Piece.ofExpr (expr : Expr) : Piece :=
  match expr.asStmt? with
  | some inner => .stmt inner
  | none => .held expr

/-- The expression that is held in a place. -/
def Piece.exprs : Piece → List Expr
  | .held expr => [expr]
  | _ => []

/-- The places of a statement without control flow; a call holds itself. -/
def Action.pieces (origin : Origin) : Action → List Piece
  | assign targets value => targets.map .assigned ++ [.ofExpr value]
  | bind target value => [.assigned target, .ofExpr value]
  | set target value | reset target value => [.ofExpr target, .ofExpr value]
  | mention target => [.ofExpr target]
  | call callee arguments => [.held (.call origin true callee arguments)]
  | chain calls => calls.map .ofExpr

def LoopHead.pieces (body : Block) : LoopHead → List Piece
  | whileDo condition => [.ofExpr condition, .block body]
  | repeatUntil condition => [.block body, .ofExpr condition]
  | forTo control first last step =>
    [.assigned control, .ofExpr first, .ofExpr last] ++ step.toList.map .ofExpr ++ [.block body]

def ElseIf.pieces : ElseIf → List Piece
  | mk condition body => [.ofExpr condition, .block body]

/-- The places of a statement, in order. -/
def Stmt.pieces : Stmt → List Piece
  | .action origin deed => deed.pieces origin
  | .exitStmt _ | .continueStmt _ | .returnStmt _ | .jump _ _ | .foreign _ _ => []
  | .label _ _ inner => inner.toList.map .stmt
  | .ifThen _ condition body elseIfs otherwise =>
    [.ofExpr condition, .block body] ++ elseIfs.flatMap ElseIf.pieces ++
      otherwise.toList.map .block
  | .select _ subject arms otherwise =>
    [.ofExpr subject] ++ arms.map .arm ++ otherwise.toList.map .block
  | .loop _ head body => head.pieces body

/-- The expressions that a statement holds itself, without the variables that it assigns to. -/
def Stmt.heldExprs (stmt : Stmt) : List Expr := stmt.pieces.flatMap Piece.exprs

/-! A statement as data, by its fields. Looking through the data for expressions finds the
expressions that are its own. -/

def Block.datum : Block → Datum
  | missing => .plain
  | given stmts => .record [.items (stmts.map fun _ => .statement)]

def ElseIf.datum : ElseIf → Datum
  | mk condition body => .record [.expr condition, body.datum]

/-- A call is an expression as a whole, so its fields are not looked at. -/
def Action.fields : Action → List Datum
  | assign targets value => [.items (targets.map .expr), .expr value]
  | set target value | reset target value | bind target value => [.expr target, .expr value]
  | mention target => [.expr target]
  | call _ _ => []
  | chain calls => [.items (calls.map .expr)]

def LoopHead.fields (body : Block) : LoopHead → List Datum
  | whileDo condition => [.expr condition, body.datum]
  | repeatUntil condition => [body.datum, .expr condition]
  | forTo control first last step =>
    [.expr control, .expr first, .expr last, step.elim .plain .expr, body.datum]

def Stmt.fields : Stmt → List Datum
  | .action _ deed => deed.fields
  | .exitStmt _ | .continueStmt _ | .returnStmt _ | .jump _ _ | .foreign _ _ => []
  | .label _ _ inner => [inner.elim .plain fun _ => .statement]
  | .ifThen _ condition body elseIfs otherwise =>
    [.expr condition, body.datum, .items (elseIfs.map ElseIf.datum),
      otherwise.elim .plain fun block => .record [block.datum]]
  | .select _ subject arms otherwise =>
    [.expr subject, .items (arms.map fun _ => .statement),
      otherwise.elim .plain fun block => .record [block.datum]]
  | .loop _ head body => head.fields body

/-- The value of an assignment or of a reference assignment. -/
def Stmt.assignedValue? : Stmt → Option Expr
  | .action _ (.assign _ value) | .action _ (.bind _ value) => some value
  | _ => none

theorem Datum.exprsOfAll_eq_flatMap (data : List Datum) :
    Datum.exprsOfAll data = data.flatMap Datum.exprs := by
  induction data with
  | nil => rfl
  | cons datum rest inductionHypothesis =>
      rw [Datum.exprsOfAll, inductionHypothesis, List.flatMap_cons]

theorem Datum.exprsOfAll_statements (count : Nat) :
    Datum.exprsOfAll (List.replicate count .statement) = [] := by
  rw [exprsOfAll_eq_flatMap, List.flatMap_eq_nil_iff]
  intro datum isStatement
  rw [List.eq_of_mem_replicate isStatement]
  rfl

theorem Datum.exprsOfAll_exprs (exprs : List Expr) :
    Datum.exprsOfAll (exprs.map .expr) = exprs.flatMap Expr.asPart := by
  rw [exprsOfAll_eq_flatMap, List.flatMap_map]
  rfl

theorem Block.exprs_datum (block : Block) : block.datum.exprs = [] := by
  cases block with
  | missing => rfl
  | given stmts =>
      simp [datum, Datum.exprs, Datum.exprsOfAll, Datum.exprsOfAll_statements]

theorem ElseIf.exprs_datum (elseIf : ElseIf) : elseIf.datum.exprs = elseIf.condition.asPart := by
  cases elseIf
  simp [datum, Datum.exprs, Datum.exprsOfAll, Block.exprs_datum, condition]

theorem LoopHead.exprs_eq_fields (head : LoopHead) (body : Block) :
    head.exprs = Datum.exprsOfAll (head.fields body) := by
  cases head with
  | forTo control first last step =>
      cases step <;>
        simp [exprs, fields, Datum.exprsOfAll, Datum.exprs, Block.exprs_datum, List.append_assoc]
  | _ => simp [exprs, fields, Datum.exprsOfAll, Datum.exprs, Block.exprs_datum]

theorem Action.exprs_eq_fields (deed : Action) :
    deed.exprs true = Datum.exprsOfAll deed.fields := by
  cases deed <;> simp [exprs, fields, Datum.exprsOfAll, Datum.exprs, Datum.exprsOfAll_exprs]

theorem Stmt.ownExprs_eq_fields {stmt : Stmt} (notCall : stmt.asExpr? = none) :
    stmt.ownExprs true = Datum.exprsOfAll stmt.fields ∧
      stmt.ownExprs false =
        stmt.assignedValue?.elim (Datum.exprsOfAll stmt.fields) fun value => [value] := by
  cases stmt with
  | action origin deed =>
      have own (targets : Bool) :
          (Stmt.action origin deed).ownExprs targets = deed.exprs targets := by
        rw [ownExprs, notCall]
      rw [own, own, fields, ← deed.exprs_eq_fields]
      refine ⟨rfl, ?_⟩
      cases deed <;> rfl
  | label origin name inner =>
      cases inner <;> simp [ownExprs, fields, assignedValue?, Datum.exprsOfAll, Datum.exprs]
  | ifThen origin condition body elseIfs otherwise =>
      have conditions : Datum.exprsOfAll (elseIfs.map ElseIf.datum) =
          elseIfs.flatMap fun elseIf => elseIf.condition.asPart := by
        rw [Datum.exprsOfAll_eq_flatMap, List.flatMap_map]
        exact List.flatMap_congr fun elseIf _ => elseIf.exprs_datum
      cases otherwise <;>
        simp [ownExprs, fields, assignedValue?, Datum.exprsOfAll, Datum.exprs, Block.exprs_datum,
          conditions]
  | select origin subject arms otherwise =>
      cases otherwise <;>
        simp [ownExprs, fields, assignedValue?, Datum.exprsOfAll, Datum.exprs, Block.exprs_datum,
          Datum.exprsOfAll_statements]
  | loop origin head body =>
      exact ⟨head.exprs_eq_fields body, head.exprs_eq_fields body⟩
  | _ => exact ⟨rfl, rfl⟩

/-! Statements without the contents of their blocks. -/

def ElseIf.hollow : ElseIf → ElseIf
  | mk condition _ => mk condition .missing

def Arm.hollow : Arm → Arm
  | mk values _ => mk values .missing

/-- The statement without what is nested in it. -/
def Stmt.hollow (stmt : Stmt) : Stmt :=
  match stmt with
  | .label origin name _ => .label origin name none
  | .ifThen origin condition _ elseIfs otherwise =>
    .ifThen origin condition .missing (elseIfs.map ElseIf.hollow) (otherwise.map fun _ => .missing)
  | .select origin subject arms otherwise =>
    .select origin subject (arms.map Arm.hollow) (otherwise.map fun _ => .missing)
  | .loop origin head _ => .loop origin head .missing
  | .action _ _ | .exitStmt _ | .continueStmt _ | .returnStmt _ | .jump _ _ | .foreign _ _ => stmt

/-- The body of a `FOR` loop. -/
def Stmt.forBody? : Stmt → Option Block
  | .loop _ (.forTo _ _ _ _) body => some body
  | _ => none

/-! What is held does not depend on what is nested. -/

@[simp] theorem Piece.exprs_ofExpr (expr : Expr) : (Piece.ofExpr expr).exprs = expr.asPart := by
  cases expr with
  | call origin asStatement callee arguments => cases asStatement <;> rfl
  | _ => rfl

@[simp] theorem Piece.exprs_assigned (target : Expr) : (Piece.assigned target).exprs = [] := rfl

@[simp] theorem Piece.exprs_stmt (inner : Stmt) : (Piece.stmt inner).exprs = [] := rfl

@[simp] theorem Piece.exprs_block (inner : Block) : (Piece.block inner).exprs = [] := rfl

@[simp] theorem Piece.exprs_arm (inner : Arm) : (Piece.arm inner).exprs = [] := rfl

@[simp] theorem ElseIf.exprs_pieces (elseIf : ElseIf) :
    elseIf.pieces.flatMap Piece.exprs = elseIf.condition.asPart := by
  cases elseIf
  simp [ElseIf.pieces, ElseIf.condition]

@[simp] theorem ElseIf.condition_hollow (elseIf : ElseIf) :
    elseIf.hollow.condition = elseIf.condition := by
  cases elseIf
  rfl

theorem Stmt.heldExprs_hollow (stmt : Stmt) : stmt.hollow.heldExprs = stmt.heldExprs := by
  cases stmt with
  | label origin name inner => cases inner <;> rfl
  | ifThen origin condition body elseIfs otherwise =>
      cases otherwise <;>
        simp [hollow, heldExprs, pieces, List.flatMap_assoc, List.flatMap_map]
  | select origin subject arms otherwise =>
      cases otherwise <;> simp [hollow, heldExprs, pieces, List.flatMap_map]
  | loop origin head body =>
      cases head <;> simp [hollow, heldExprs, pieces, LoopHead.pieces]
  | _ => rfl

/-! What is read. -/

theorem Stmt.headExprs_hollow (stmt : Stmt) : stmt.hollow.headExprs = stmt.headExprs := by
  cases stmt with
  | ifThen origin condition body elseIfs otherwise =>
      simp [hollow, headExprs, ownExprs, List.flatMap_map]
  | loop origin head body => cases head <;> rfl
  | _ => rfl

theorem Stmt.isSome_forBody?_hollow (stmt : Stmt) :
    stmt.hollow.forBody?.isSome = stmt.forBody?.isSome := by
  cases stmt with
  | loop origin head body => cases head <;> rfl
  | _ => rfl

/-- What is read in the body of a `FOR` loop. -/
def Stmt.bodyExprs (stmt : Stmt) : Walk Expr := (stmt.forBody?.map Block.readExprs).getD {}

theorem Stmt.readExprs_eq (stmt : Stmt) :
    stmt.readExprs =
      ⟨stmt.headExprs ++ stmt.bodyExprs.found, stmt.bodyExprs.fault⟩ := by
  cases stmt with
  | loop origin head body =>
      cases head with
      | forTo control first last step => rw [readExprs]; rfl
      | _ => simp [readExprs, headExprs, bodyExprs, forBody?, Walk.ofList]
  | _ => simp [readExprs, headExprs, bodyExprs, forBody?, Walk.ofList]

theorem readExprs_eq_iff_of_hollow {stmt other : Stmt} (same : stmt.hollow = other.hollow) :
    stmt.readExprs = other.readExprs ↔
      stmt.forBody?.map Block.readExprs = other.forBody?.map Block.readExprs := by
  have sameHeads : stmt.headExprs = other.headExprs := by
    rw [← stmt.headExprs_hollow, same, other.headExprs_hollow]
  have sameKinds : stmt.forBody?.isSome = other.forBody?.isSome := by
    rw [← stmt.isSome_forBody?_hollow, same, other.isSome_forBody?_hollow]
  rw [stmt.readExprs_eq, other.readExprs_eq, sameHeads, Walk.mk.injEq, List.append_cancel_left_eq,
    ← Walk.mk.injEq]
  change stmt.bodyExprs = other.bodyExprs ↔ _
  rw [Stmt.bodyExprs, Stmt.bodyExprs]
  cases inFirst : stmt.forBody? <;> cases inSecond : other.forBody? <;>
    simp_all

/-- The statement reads what it holds: the body of a `FOR` loop is read just as the step would be,
and no statement stands in the place of a bound or of a right-hand side. -/
def Stmt.ReadsHeld : Stmt → Prop
  | .loop _ (.forTo _ first last step) body =>
    first.isStatement = false ∧ last.isStatement = false ∧
      body.readExprs = Walk.ofList (step.toList.flatMap Expr.asPart)
  | .action _ (.assign _ value) | .action _ (.bind _ value) => value.isStatement = false
  | _ => True

theorem Expr.asPart_of_not {expr : Expr} (plain : expr.isStatement = false) :
    expr.asPart = [expr] := by
  simp [asPart, plain]

theorem Expr.isStatement_of_mem_asPart {expr part : Expr} (membership : part ∈ expr.asPart) :
    part.isStatement = false := by
  by_cases isCall : expr.isStatement = true
  · simp [asPart, isCall] at membership
  · rw [Bool.not_eq_true] at isCall
    rw [asPart_of_not isCall, List.mem_singleton] at membership
    rw [membership, isCall]

theorem Expr.singleton_eq_asPart_iff {expr : Expr} :
    [expr] = expr.asPart ↔ expr.isStatement = false := by
  constructor
  · intro same
    exact isStatement_of_mem_asPart (same ▸ List.mem_singleton_self expr)
  · exact fun plain => (asPart_of_not plain).symm

theorem bounds_eq_iff {first last : Expr} {inBody rest : List Expr}
    (plain : ∀ expr ∈ rest, expr.isStatement = false) :
    [first, last] ++ inBody = first.asPart ++ last.asPart ++ rest ↔
      first.isStatement = false ∧ last.isStatement = false ∧ inBody = rest := by
  constructor
  · intro same
    have allPlain : ∀ expr ∈ [first, last] ++ inBody, expr.isStatement = false := by
      intro expr membership
      rw [same, List.append_assoc, List.mem_append, List.mem_append] at membership
      rcases membership with inFirst | inLast | inRest
      · exact Expr.isStatement_of_mem_asPart inFirst
      · exact Expr.isStatement_of_mem_asPart inLast
      · exact plain expr inRest
    have firstPlain := allPlain first (by simp)
    have lastPlain := allPlain last (by simp)
    rw [Expr.asPart_of_not firstPlain, Expr.asPart_of_not lastPlain] at same
    exact ⟨firstPlain, lastPlain, by simpa using same⟩
  · rintro ⟨firstPlain, lastPlain, rfl⟩
    rw [Expr.asPart_of_not firstPlain, Expr.asPart_of_not lastPlain]
    rfl

theorem ofList_eq_ofList {first second : List Expr} :
    Walk.ofList first = Walk.ofList second ↔ first = second := by
  simp [Walk.ofList]

theorem Stmt.readExprs_of_noBody {stmt : Stmt} (noBody : stmt.forBody? = none) :
    stmt.readExprs = Walk.ofList stmt.headExprs := by
  rw [readExprs_eq, bodyExprs, noBody]
  simp [Walk.ofList]

theorem Stmt.readsHeld_of_heldExprs {stmt : Stmt} (noBody : stmt.forBody? = none)
    (held : stmt.heldExprs = stmt.headExprs) (reads : stmt.ReadsHeld) :
    stmt.readExprs = Walk.ofList stmt.heldExprs ↔ stmt.ReadsHeld := by
  rw [readExprs_of_noBody noBody, held]
  exact iff_of_true rfl reads

theorem readExprs_eq_heldExprs_iff (stmt : Stmt) :
    stmt.readExprs = Walk.ofList stmt.heldExprs ↔ stmt.ReadsHeld := by
  cases stmt with
  | action origin deed =>
      have rightHandSide {value : Expr} (held : (Stmt.action origin deed).heldExprs = value.asPart)
          (read : (Stmt.action origin deed).headExprs = [value]) :
          (Stmt.action origin deed).readExprs = Walk.ofList (Stmt.action origin deed).heldExprs ↔
            value.isStatement = false := by
        rw [Stmt.readExprs_of_noBody rfl, held, read, ofList_eq_ofList]
        exact Expr.singleton_eq_asPart_iff
      cases deed with
      | assign targets value =>
          refine rightHandSide ?_ rfl
          simp [Stmt.heldExprs, Stmt.pieces, Action.pieces, List.flatMap_map]
      | bind target value =>
          refine rightHandSide ?_ rfl
          simp [Stmt.heldExprs, Stmt.pieces, Action.pieces]
      | call callee arguments => exact Stmt.readsHeld_of_heldExprs rfl rfl trivial
      | _ =>
          refine Stmt.readsHeld_of_heldExprs rfl ?_ trivial
          simp [Stmt.heldExprs, Stmt.pieces, Action.pieces, Stmt.headExprs, Stmt.ownExprs,
            Stmt.asExpr?, Action.exprs, List.flatMap_map]
  | loop origin head body =>
      cases head with
      | forTo control first last step =>
          have held : (Stmt.loop origin (.forTo control first last step) body).heldExprs =
              first.asPart ++ last.asPart ++ step.toList.flatMap Expr.asPart := by
            simp [Stmt.heldExprs, Stmt.pieces, LoopHead.pieces, List.flatMap_map]
          have plain : ∀ expr ∈ step.toList.flatMap Expr.asPart, expr.isStatement = false := by
            intro expr membership
            obtain ⟨source, _, inPart⟩ := List.mem_flatMap.mp membership
            exact Expr.isStatement_of_mem_asPart inPart
          rw [Stmt.readExprs_eq, held, Walk.ofList, Walk.mk.injEq]
          change [first, last] ++ body.readExprs.found = _ ∧ body.readExprs.fault = none ↔ _
          rw [bounds_eq_iff plain, and_assoc, and_assoc, ← Walk.mk.injEq]
          rfl
      | _ =>
          refine Stmt.readsHeld_of_heldExprs rfl ?_ trivial
          simp [Stmt.heldExprs, Stmt.pieces, LoopHead.pieces, Stmt.headExprs, Stmt.ownExprs,
            LoopHead.exprs]
  | ifThen origin condition body elseIfs otherwise =>
      refine Stmt.readsHeld_of_heldExprs rfl ?_ trivial
      simp [Stmt.heldExprs, Stmt.pieces, Stmt.headExprs, Stmt.ownExprs, List.flatMap_assoc,
        List.flatMap_map]
  | select origin subject arms otherwise =>
      refine Stmt.readsHeld_of_heldExprs rfl ?_ trivial
      simp [Stmt.heldExprs, Stmt.pieces, Stmt.headExprs, Stmt.ownExprs, List.flatMap_map]
  | label origin name inner =>
      refine Stmt.readsHeld_of_heldExprs rfl ?_ trivial
      simp [Stmt.heldExprs, Stmt.pieces, Stmt.headExprs, Stmt.ownExprs, List.flatMap_map]
  | _ => exact Stmt.readsHeld_of_heldExprs rfl rfl trivial

/-! A `FOR` loop is entered, at any depth of such loops. -/

mutual

/-- The statements whose heads are read: the statement, and those in the body of a `FOR` loop. -/
def Stmt.entered (stmt : Stmt) : List Stmt :=
  match stmt with
  | .loop _ (.forTo _ _ _ _) body => stmt :: body.entered
  | .action _ _ | .exitStmt _ | .continueStmt _ | .returnStmt _ | .jump _ _ | .label _ _ _
  | .ifThen _ _ _ _ _ | .select _ _ _ _ | .loop _ _ _ | .foreign _ _ => [stmt]

def Block.entered : Block → List Stmt
  | .missing => []
  | .given stmts => enteredOfAll stmts

def enteredOfAll : List Stmt → List Stmt
  | [] => []
  | stmt :: rest => stmt.entered ++ enteredOfAll rest

end

/-- The head of a statement, with the fault of a `FOR` loop without body. -/
def Stmt.headWalk (stmt : Stmt) : Walk Expr :=
  ⟨stmt.headExprs, match stmt.forBody? with
    | some .missing => some .missingLoopBody
    | _ => none⟩

theorem Stmt.concat_headWalk {stmt : Stmt} (noBody : stmt.forBody? = none) :
    Walk.concat [stmt.headWalk] = stmt.readExprs := by
  rw [readExprs_of_noBody noBody]
  change stmt.headWalk.append {} = _
  simp [headWalk, noBody, Walk.append, Walk.ofList]

mutual

theorem Stmt.readExprs_eq_entered (stmt : Stmt) :
    stmt.readExprs = Walk.concat (stmt.entered.map Stmt.headWalk) := by
  cases stmt with
  | loop origin head body =>
      cases head with
      | forTo control first last step =>
          cases body with
          | missing => rfl
          | given stmts =>
              rw [Stmt.entered, Block.entered, List.map_cons, Walk.concat,
                ← readExprsOfAll_eq_entered stmts]
              rfl
      | _ => exact (Stmt.concat_headWalk rfl).symm
  | _ => exact (Stmt.concat_headWalk rfl).symm
termination_by structural stmt

theorem readExprsOfAll_eq_entered (stmts : List Stmt) :
    readExprsOfAll stmts = Walk.concat ((enteredOfAll stmts).map Stmt.headWalk) := by
  cases stmts with
  | nil => rfl
  | cons stmt rest =>
      rw [readExprsOfAll, enteredOfAll, List.map_append, Walk.concat_append,
        ← Stmt.readExprs_eq_entered stmt, ← readExprsOfAll_eq_entered rest]
termination_by structural stmts

end

/-- A statement reads exactly what it holds if it is no `FOR` loop, whatever its blocks contain. In
general the heads of all statements are read that are entered, one after the other; and of two
statements that differ only in what is nested in them, which therefore hold the same, the same is
read exactly if it is in the bodies of `FOR` loops. -/
theorem readExprs_versus_heldExprs (stmt : Stmt) :
    (stmt.readExprs = Walk.ofList stmt.heldExprs ↔ stmt.ReadsHeld) ∧
      stmt.readExprs = Walk.concat (stmt.entered.map Stmt.headWalk) ∧
      ∀ other : Stmt, stmt.hollow = other.hollow →
        stmt.heldExprs = other.heldExprs ∧
          (stmt.readExprs = other.readExprs ↔
            stmt.forBody?.map Block.readExprs = other.forBody?.map Block.readExprs) := by
  refine ⟨readExprs_eq_heldExprs_iff stmt, stmt.readExprs_eq_entered, fun other same => ⟨?_, ?_⟩⟩
  · rw [← stmt.heldExprs_hollow, same, other.heldExprs_hollow]
  · exact readExprs_eq_iff_of_hollow same

/-! The loop `FOR i := 1 TO 9 BY 2 DO ... END_FOR`. -/

def number (serial : Nat) (digits : String) : Expr :=
  .literal ⟨serial, none, none⟩ (.integer .decimal digits none)

def variableNamed (serial : Nat) (name : String) : Expr :=
  .var (.simple ⟨serial, none, none⟩ name false)

def countingLoop (body : List Stmt) : Stmt :=
  .loop ⟨0, none, none⟩
    (.forTo (variableNamed 1 "i") (number 2 "1") (number 3 "9") (some (number 4 "2")))
    (.given body)

def mentionX : Stmt := .action ⟨5, none, none⟩ (.mention (variableNamed 6 "x"))

/-- An `IF` statement around the loop reads its condition only, whatever the loop contains. -/
def guarded (stmt : Stmt) : Stmt :=
  .ifThen ⟨7, none, none⟩ (variableNamed 8 "c") (.given [stmt]) [] none

theorem guarded_reads_condition :
    (guarded (countingLoop [mentionX])).hollow = (guarded (countingLoop [])).hollow ∧
      (guarded (countingLoop [mentionX])).readExprs = (guarded (countingLoop [])).readExprs ∧
      (guarded (countingLoop [mentionX])).readExprs = Walk.ofList [variableNamed 8 "c"] :=
  ⟨rfl, (((readExprs_versus_heldExprs _).2.2 _ rfl).2).mpr rfl,
    (readExprs_versus_heldExprs _).1.mpr trivial⟩

/-- The loop reads `x`, which a statement nested in it holds, and not its step; with another body it
reads something else. -/
theorem countingLoop_reads_body :
    (countingLoop [mentionX]).readExprs =
        Walk.ofList [number 2 "1", number 3 "9", variableNamed 6 "x"] ∧
      (countingLoop [mentionX]).heldExprs = [number 2 "1", number 3 "9", number 4 "2"] ∧
      (countingLoop [mentionX]).hollow = (countingLoop []).hollow ∧
      (countingLoop [mentionX]).readExprs ≠ (countingLoop []).readExprs := by
  refine ⟨rfl, rfl, rfl, fun same => ?_⟩
  cases congrArg (fun walk => walk.found.length) same

end PlcLint
