import PlcLint.Proofs.Lint.Order
import PlcLint.Proofs.Reading.Marks
import PlcLint.Reading.Source

/-!
Serial numbers of statements and of whole code. All nodes that are read in one go are told apart by
their numbers, so what is known of linting numbered code is known of every code that is read.
-/

namespace PlcLint

/-! The numbers of the nodes inside statements. -/

def Stmt.marks (stmt : Stmt) : List (Option Nat) := stmt.nodes.map Subject.serial?

def Block.marks (block : Block) : List (Option Nat) := block.nodes.map Subject.serial?

def ElseIf.marks (elseIf : ElseIf) : List (Option Nat) := elseIf.condition.marks ++ elseIf.body.marks

def LoopHead.marks (head : LoopHead) : List (Option Nat) :=
  match head with
  | .whileDo condition | .repeatUntil condition => condition.marks
  | .forTo _ first last _ => first.marks ++ last.marks

def Action.marks (deed : Action) : List (Option Nat) :=
  match deed with
  | .call _ arguments => exprMarks (inputSubexprs arguments)
  | deed => (deed.exprs false).flatMap Expr.marks

theorem serials_exprNodes (exprs : List Expr) :
    (exprNodes exprs).map Subject.serial? = exprs.flatMap Expr.marks := by
  rw [exprNodes, List.map_map, List.map_flatMap]
  rfl

/-- Some of the expressions are left to themselves. -/
theorem asParts_sublist (exprs : List Expr) :
    ((exprs.flatMap Expr.asPart).flatMap Expr.marks).Sublist (exprs.flatMap Expr.marks) := by
  induction exprs with
  | nil => exact .slnil
  | cons expr rest inductionHypothesis =>
      rw [List.flatMap_cons, List.flatMap_append, List.flatMap_cons]
      refine List.Sublist.append ?_ inductionHypothesis
      unfold Expr.asPart
      split
      · exact List.nil_sublist _
      · simp

theorem Expr.asPart_sublist (expr : Expr) : (expr.asPart.flatMap Expr.marks).Sublist expr.marks := by
  simpa using asParts_sublist [expr]

theorem stmtsNodes_marks (stmts : List Stmt) :
    (stmtsNodes stmts).map Subject.serial? = stmts.flatMap Stmt.marks := by
  induction stmts with
  | nil => rfl
  | cons stmt rest inductionHypothesis =>
      rw [stmtsNodes, List.map_append, inductionHypothesis, List.flatMap_cons, Stmt.marks]

theorem Stmt.serials_ownNodes {stmt : Stmt} (plain : stmt.asExpr? = none) :
    stmt.ownNodes.map Subject.serial? =
      some stmt.origin.serial :: stmt.headExprs.flatMap Expr.marks := by
  rw [Stmt.ownNodes, plain, List.map_cons, serials_exprNodes]
  rfl

theorem Stmt.marks_action (origin : Origin) (deed : Action) :
    (Stmt.action origin deed).marks = some origin.serial :: deed.marks := by
  cases deed with
  | call callee arguments =>
      -- The nodes are those of the expression that the call is.
      change (exprNodes [.call origin true callee arguments]).map Subject.serial? = _
      rw [serials_exprNodes, List.flatMap_singleton, Expr.marks_call, Action.marks]
  | _ =>
      rw [Stmt.marks, Stmt.nodes, serials_ownNodes rfl]
      rfl

theorem Block.marks_otherwise (otherwise : Option Block) :
    (otherwise.getD .missing).nodes.map Subject.serial? =
      otherwise.toList.flatMap Block.marks := by
  cases otherwise with
  | none => rfl
  | some block => rw [Option.getD_some, Option.toList_some, List.flatMap_singleton, Block.marks]

theorem elseIfsNodes_marks (elseIfs : List ElseIf) :
    (elseIfsNodes elseIfs).map Subject.serial? = elseIfs.flatMap fun elseIf => elseIf.body.marks := by
  induction elseIfs with
  | nil => rfl
  | cons elseIf rest inductionHypothesis =>
      obtain ⟨condition, body⟩ := elseIf
      rw [elseIfsNodes, List.map_append, inductionHypothesis, List.flatMap_cons]
      rfl

theorem armsNodes_marks (arms : List Arm) :
    (armsNodes arms).map Subject.serial? = arms.flatMap fun arm => arm.body.marks := by
  induction arms with
  | nil => rfl
  | cons arm rest inductionHypothesis =>
      obtain ⟨values, body⟩ := arm
      rw [armsNodes, List.map_append, inductionHypothesis, List.flatMap_cons]
      rfl

/-- The conditions of all `ELSIF` branches come before their bodies. -/
theorem elseIfs_subperm (elseIfs : List ElseIf) :
    ((elseIfs.flatMap fun elseIf => elseIf.condition.asPart.flatMap Expr.marks) ++
      elseIfs.flatMap fun elseIf => elseIf.body.marks).Subperm (elseIfs.flatMap ElseIf.marks) := by
  refine (List.flatMap_append_perm elseIfs _ _).subperm.trans (List.Sublist.subperm ?_)
  induction elseIfs with
  | nil => exact .slnil
  | cons elseIf rest inductionHypothesis =>
      rw [List.flatMap_cons, List.flatMap_cons]
      exact (elseIf.condition.asPart_sublist.append_right _).append inductionHypothesis

theorem Stmt.marks_label (origin : Origin) (name : String) (inner : Option Stmt) :
    (Stmt.label origin name inner).marks =
      some origin.serial :: inner.toList.flatMap Stmt.marks := by
  cases inner with
  | none => rfl
  | some inner =>
      rw [Stmt.marks, Stmt.nodes, List.map_append, serials_ownNodes rfl, Option.toList_some,
        List.flatMap_singleton]
      rfl

/-- A call is numbered alike as an expression and as a statement. -/
theorem Stmt.marks_of_asStmt {expr : Expr} {stmt : Stmt} (isCall : expr.asStmt? = some stmt) :
    stmt.marks = expr.marks := by
  unfold Expr.asStmt? at isCall
  split at isCall
  · cases isCall
    rw [Stmt.marks_action, Action.marks, Expr.marks_call]
  · cases isCall

theorem Stmt.marks_ifThen (origin : Origin) (condition : Expr) (body : Block)
    (elseIfs : List ElseIf) (otherwise : Option Block) :
    (Stmt.ifThen origin condition body elseIfs otherwise).marks.Subperm
      (some origin.serial :: (condition.marks ++ (body.marks ++
        (elseIfs.flatMap ElseIf.marks ++ otherwise.toList.flatMap Block.marks)))) := by
  have own : (Stmt.ifThen origin condition body elseIfs otherwise).ownNodes.map Subject.serial? =
      some origin.serial :: (condition.asPart.flatMap Expr.marks ++
        elseIfs.flatMap fun elseIf => elseIf.condition.asPart.flatMap Expr.marks) := by
    have heads : (Stmt.ifThen origin condition body elseIfs otherwise).headExprs =
        condition.asPart ++ elseIfs.flatMap fun elseIf => elseIf.condition.asPart := rfl
    rw [serials_ownNodes rfl, heads, List.flatMap_append, List.flatMap_assoc]
    rfl
  rw [Stmt.marks, Stmt.nodes_ifThen, List.map_append, List.map_append, List.map_append, own,
    Block.marks_otherwise, elseIfsNodes_marks, List.subperm_ext_iff]
  -- The two sides differ in the order of their parts, so they are compared by counting.
  intro mark _
  have ofCondition := condition.asPart_sublist.count_le mark
  have ofElseIfs := (elseIfs_subperm elseIfs).count_le mark
  simp only [List.count_append, List.count_cons, Block.marks] at ofElseIfs ⊢
  omega

theorem Stmt.marks_select (origin : Origin) (subject : Expr) (arms : List Arm)
    (otherwise : Option Block) :
    (Stmt.select origin subject arms otherwise).marks.Sublist
      (some origin.serial :: (subject.marks ++ ((arms.flatMap fun arm => arm.body.marks) ++
        otherwise.toList.flatMap Block.marks))) := by
  have own : (Stmt.select origin subject arms otherwise).ownNodes.map Subject.serial? =
      some origin.serial :: subject.asPart.flatMap Expr.marks := serials_ownNodes rfl
  rw [Stmt.marks, Stmt.nodes_select, List.map_append, List.map_append, own, Block.marks_otherwise,
    armsNodes_marks, List.cons_append]
  exact (subject.asPart_sublist.append_right _).cons_cons _

theorem LoopHead.marks_sublist (origin : Origin) (head : LoopHead) (body : Block) :
    ((Stmt.loop origin head body).headExprs.flatMap Expr.marks).Sublist head.marks := by
  cases head with
  | whileDo condition => exact condition.asPart_sublist
  | repeatUntil condition => exact condition.asPart_sublist
  | forTo control first last step => simp [Stmt.headExprs, LoopHead.marks]

theorem Stmt.marks_loop (origin : Origin) (head : LoopHead) (body : Block) :
    (Stmt.loop origin head body).marks.Sublist
      (some origin.serial :: (head.marks ++ body.marks)) := by
  rw [Stmt.marks, Stmt.nodes, List.map_append, serials_ownNodes rfl, List.cons_append]
  exact ((LoopHead.marks_sublist origin head body).append_right _).cons_cons _

namespace Reading

theorem loopHead_marks (json : Json) (kind : String) : Marks (loopHead json kind) LoopHead.marks := by
  intro known
  unfold loopHead
  split
  · exact .bind (exprField_marks json "cond") fun condition => .exactly rfl
  · exact .bind (exprField_marks json "cond") fun condition => .exactly rfl
  · refine .bind (exprField_marks json "control") fun control =>
      .bind (exprField_marks json "from") fun first =>
        .bind (exprField_marks json "to") fun last =>
          .bind (.option exprOf_marks _) fun step => .pure (List.Sublist.subperm ?_)
    simp [LoopHead.marks]

theorem actionOf_marks (json : Json) (kind : String) : Marks (actionOf json kind) Action.marks := by
  intro known
  unfold actionOf
  split
  · refine .bind (.mapM exprOf_marks _) fun targets =>
      .bind (exprField_marks json "expr") fun value => .pure (List.Sublist.subperm ?_)
    simp [Action.marks, Action.exprs]
  · refine .bind (exprField_marks json "var") fun target =>
      .bind (exprField_marks json "expr") fun value => .pure (List.Sublist.subperm ?_)
    simpa [Action.marks, Action.exprs] using asParts_sublist [target, value]
  · refine .bind (exprField_marks json "var") fun target =>
      .bind (exprField_marks json "expr") fun value => .pure (List.Sublist.subperm ?_)
    simpa [Action.marks, Action.exprs] using asParts_sublist [target, value]
  · refine .bind (exprField_marks json "var") fun target =>
      .bind (exprField_marks json "expr") fun value => .pure (List.Sublist.subperm ?_)
    simp [Action.marks, Action.exprs]
  · refine .bind (exprField_marks json "var") fun target => .pure (List.Sublist.subperm ?_)
    simpa [Action.marks, Action.exprs] using target.asPart_sublist
  · refine .bind (.mapM exprOf_marks _) fun calls => .pure (List.Sublist.subperm ?_)
    simpa [Action.marks, Action.exprs] using asParts_sublist calls
  · exact .malformed

/-- The values of a `CASE` arm are not looked at. -/
theorem matchOf_marks (json : Json) : Marks (matchOf json) fun _ => [] := by
  intro known
  refine .bind (.stringField json "k") fun kind => ?_
  split
  · exact .bind (.stringField json "name") fun name => .exactly (by simp)
  · refine .bind (exprOf_marks json) fun value => .pure (List.Sublist.subperm ?_)
    simp

structure NumbersStmts (fuel : Nat) : Prop where
  ofStmt : ∀ json, Marks (stmt fuel json) Stmt.marks
  ofBlock : ∀ json, Marks (block fuel json) Block.marks
  ofElseIf : ∀ json, Marks (elseIf fuel json) ElseIf.marks
  ofArm : ∀ json, Marks (arm fuel json) fun arm => arm.body.marks

namespace NumbersStmts

variable {fuel : Nat} (numbers : NumbersStmts fuel)

include numbers

theorem block (json : Json) : Marks (block (fuel + 1) json) Block.marks := by
  intro known
  rw [Reading.block.eq_def]
  cases json with
  | array items =>
      refine .bind (.mapM numbers.ofStmt _) fun stmts => .exactly ?_
      rw [Block.marks, Block.nodes, stmtsNodes_marks]
  | _ => exact .exactly (by simp [Block.marks, Block.nodes])

theorem elseIf (json : Json) : Marks (elseIf (fuel + 1) json) ElseIf.marks := by
  intro known
  rw [Reading.elseIf]
  refine .bind (exprField_marks json "cond") fun condition =>
    .bind (numbers.ofBlock _) fun body => .exactly ?_
  simp [ElseIf.marks, ElseIf.condition, ElseIf.body]

theorem arm (json : Json) : Marks (arm (fuel + 1) json) fun arm => arm.body.marks := by
  intro known
  rw [Reading.arm]
  refine .bind (.unnumbered matchOf_marks _) fun values =>
    .bind (numbers.ofBlock _) fun body => .exactly ?_
  simp [Arm.body]

theorem loop (json : Json) (kind : String) (origin : Origin) (known : List (Option Nat)) :
    Reads (known ++ [some origin.serial]) (do
      let head ← loopHead json kind
      return Stmt.loop origin head (← Reading.block fuel ((json.get? "body").getD .null)))
      fun stmt => known ++ stmt.marks := by
  refine .bind (loopHead_marks json kind) fun head => .bind (numbers.ofBlock _) fun body =>
    .pure (List.Sublist.subperm ?_)
  simpa using Stmt.marks_loop origin head body

theorem stmt (json : Json) : Marks (stmt (fuel + 1) json) Stmt.marks := by
  intro known
  rw [Reading.stmt]
  refine .bind (.stringField json "k") fun kind => ?_
  rw [List.append_nil]
  split
  · refine .bind (exprOf_marks json) fun expr => ?_
    cases isCall : expr.asStmt? with
    | none => exact .malformed
    | some stmt => exact .exactly (by rw [Stmt.marks_of_asStmt isCall])
  · refine .bind (.origin json) fun origin => ?_
    split
    · refine .bind (exprField_marks json "cond") fun condition =>
        .bind (numbers.ofBlock _) fun body => .bind (.mapM numbers.ofElseIf _) fun elseIfs =>
          .bind (.option numbers.ofBlock _) fun otherwise => .pure ?_
      have inside := Stmt.marks_ifThen origin condition body elseIfs otherwise
      simpa using (List.subperm_append_left known).mpr inside
    · refine .bind (exprField_marks json "expr") fun subject =>
        .bind (.mapM numbers.ofArm _) fun arms =>
          .bind (.option numbers.ofBlock _) fun otherwise => .pure (List.Sublist.subperm ?_)
      simpa using Stmt.marks_select origin subject arms otherwise
    · exact numbers.loop json _ origin known
    · exact numbers.loop json _ origin known
    · exact numbers.loop json _ origin known
    · exact .bind (.stringField json "label") fun label =>
        .bind (.option numbers.ofStmt _) fun inner => .exactly (by simp [Stmt.marks_label])
    · exact .bind (.stringField json "label") fun target => .exactly (List.append_nil _).symm
    · exact .exactly rfl
    · exact .exactly rfl
    · exact .exactly rfl
    · exact .bind (.stringField json "name") fun name => .exactly (List.append_nil _).symm
    · refine .bind (actionOf_marks json _) fun deed => .exactly ?_
      rw [Stmt.marks_action, List.append_assoc, List.singleton_append]

end NumbersStmts

theorem numbersStmts (fuel : Nat) : NumbersStmts fuel := by
  induction fuel with
  | zero =>
      refine ⟨fun json known => ?_, fun json known => ?_, fun json known => ?_,
        fun json known => ?_⟩
      all_goals
        simp only [stmt, block, elseIf, arm]
        exact .malformed
  | succ fuel inductionHypothesis =>
      exact ⟨inductionHypothesis.stmt, inductionHypothesis.block, inductionHypothesis.elseIf,
        inductionHypothesis.arm⟩

theorem stmtOf_marks (json : Json) : Marks (stmtOf json) Stmt.marks := (numbersStmts _).ofStmt json

theorem bodyOf_marks (json : Option Json) :
    Marks (bodyOf json) fun body => (body.getD []).flatMap Stmt.marks := by
  intro known
  unfold bodyOf
  split
  · exact .bind (.mapM stmtOf_marks _) fun stmts => .exactly rfl
  · exact .exactly (by simp)

end Reading

/-! The numbers in whole code. -/

def Routine.marks (routine : Routine) : List (Option Nat) :=
  (routine.body.getD []).flatMap Stmt.marks

def Property.marks (property : Property) : List (Option Nat) :=
  property.getter.marks ++ property.setter.marks

def FunctionBlock.marks (block : FunctionBlock) : List (Option Nat) :=
  (block.places.flatMap Place.nodes).map Subject.serial?

theorem FunctionBlock.marks_eq (block : FunctionBlock) :
    block.marks = (block.body.getD []).flatMap Stmt.marks ++
      (block.methods.flatMap Routine.marks ++ block.properties.flatMap Property.marks) := by
  have own (place : Place) : place.nodes.map Subject.serial? = place.stmts.flatMap Stmt.marks :=
    stmtsNodes_marks _
  simp [FunctionBlock.marks, places, List.map_flatMap, own, accessors, List.flatMap_map,
    List.flatMap_assoc]
  rfl

namespace Reading

theorem declaration_marks (json : Json) : Marks (declaration json) fun _ => [] := by
  intro known
  refine .bind (.stringField json "name") fun name => .bind (.stringField json "type") fun type =>
    .bind (.stringField json "block") fun block => .exactly ?_
  simp

theorem declarations_marks (items : List Json) : Marks (declarations items) fun _ => [] := by
  intro known
  refine .bind (.unnumbered declaration_marks items) fun read => .exactly ?_
  simp

theorem routine_marks (kind : RoutineKind) (json : Json) :
    Marks (routine kind json) Routine.marks := by
  intro known
  refine .bind (declarations_marks _) fun declared => .bind (bodyOf_marks _) fun body => .exactly ?_
  simp [Routine.marks]

theorem property_marks (json : Json) : Marks (property json) Property.marks := by
  intro known
  refine .bind (.stringField json "name") fun name => .bind (.field json "getter") fun first =>
    .bind (routine_marks _ first) fun getter => .bind (.field json "setter") fun second =>
      .bind (routine_marks _ second) fun setter => .exactly ?_
  simp [Property.marks]

theorem functionBlock_marks (json : Json) : Marks (functionBlock json) FunctionBlock.marks := by
  intro known
  refine .bind (.stringField json "name") fun name => .bind (declarations_marks _) fun declared =>
    .bind (.mapM (routine_marks _) _) fun methods => .bind (.mapM property_marks _) fun properties =>
      .bind (bodyOf_marks _) fun body => .pure ?_
  rw [FunctionBlock.marks_eq]
  have order : ((body.getD []).flatMap Stmt.marks ++
      (methods.flatMap Routine.marks ++ properties.flatMap Property.marks)).Perm
        (methods.flatMap Routine.marks ++ properties.flatMap Property.marks ++
          (body.getD []).flatMap Stmt.marks) := List.perm_append_comm
  simpa using (order.append_left known).subperm

theorem function_marks (json : Json) : Marks (function json) fun _ => [] := by
  intro known
  exact .bind (.stringField json "name") fun name => .exactly (by simp)

theorem dataType_marks (json : Json) : Marks (dataType json) fun _ => [] := by
  intro known
  exact .bind (.stringField json "name") fun name =>
    .bind (declarations_marks _) fun declared => .exactly (by simp)

theorem globalList_marks (json : Json) : Marks (globalList json) fun _ => [] := by
  intro known
  exact .bind (.stringField json "name") fun name =>
    .bind (declarations_marks _) fun declared => .exactly (by simp)

end Reading

def Code.marks (code : Code) : List (Option Nat) := code.blocks.values.flatMap FunctionBlock.marks

theorem flatMap_subperm {α β : Type} {first second : List α} (sub : first.Subperm second)
    (f : α → List β) : (first.flatMap f).Subperm (second.flatMap f) := by
  obtain ⟨middle, perm, sublist⟩ := sub
  refine (perm.symm.flatMap_right f).subperm.trans (List.Sublist.subperm ?_)
  rw [List.flatMap_def, List.flatMap_def]
  exact (sublist.map f).flatten

theorem Code.concat_marks_subperm (parts : List Code) :
    (Code.concat parts).marks.Subperm (parts.flatMap Code.marks) := by
  have values : (Code.concat parts).blocks.values.Subperm (parts.flatMap (·.blocks.values)) := by
    have updated := Table.values_update_subperm {} ((parts.map Code.blocks).flatMap Table.entries)
    rw [← Table.merged_eq_update, ← Code.concat_table Code.blocks rfl (fun _ _ => rfl)] at updated
    rw [List.flatMap_map, List.map_flatMap] at updated
    exact updated
  have inside := flatMap_subperm values FunctionBlock.marks
  rwa [List.flatMap_assoc] at inside

namespace Reading

theorem code_marks (json : Json) : Marks (code json) Code.marks := by
  intro known
  refine .bind (.unnumbered function_marks _) fun functions =>
    .bind (.mapM functionBlock_marks _) fun blocks =>
      .bind (.unnumbered dataType_marks _) fun dataTypes =>
        .bind (.unnumbered globalList_marks _) fun globals => .pure ?_
  have values := Table.values_update_subperm {} (blocks.map fun block => (block.name, block))
  rw [List.map_map, show Prod.snd ∘ (fun block : FunctionBlock => (block.name, block)) = id from rfl,
    List.map_id] at values
  have inside := flatMap_subperm values FunctionBlock.marks
  rw [List.append_nil, List.append_nil, List.append_nil]
  exact (List.subperm_append_left known).mpr inside

/-- The nodes of code that is read in one go are told apart by their numbers. -/
theorem numbered_of_run {found : List ParseResult} {parts : List Code}
    (read : run (found.mapM fun result => code result.content) = .ok parts) :
    (Code.concat parts).Numbered := by
  have marks := Marks.mapM (fun result : ParseResult => code_marks result.content) found []
  change ((found.mapM fun result => code result.content) 0).map Prod.fst = .ok parts at read
  cases isRead : (found.mapM fun result => code result.content) 0 with
  | error fault =>
      rw [isRead] at read
      cases read
  | ok result =>
      rw [isRead] at read
      cases read
      have below := marks 0 result.1 result.2 ⟨List.nodup_nil, nofun⟩ isRead
      have distinct := (below.subperm (Code.concat_marks_subperm result.1)).1
      rw [Code.Numbered, Code.places, List.flatMap_assoc, List.map_flatMap]
      exact distinct

end Reading

theorem Parser.numbered_of_summarize {found : List ParseResult} {code : Code}
    (read : Parser.json.summarize found = .ok code) : code.Numbered := by
  dsimp only [Parser.json] at read
  cases isRead : Reading.run (found.mapM fun result => Reading.code result.content) with
  | error fault =>
      rw [isRead] at read
      cases read
  | ok parts =>
      rw [isRead] at read
      cases read
      exact Reading.numbered_of_run isRead

end PlcLint
