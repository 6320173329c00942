import PlcLint.Check.Builtin
import PlcLint.Proofs.Syntax.Origins

/-!
Checks that stay inside the object they look at: the nodes that they remark on stand in its body.
Of the built-in checks all but one do. The one on writes to the value of a setter looks at a
property, which has no body, and remarks on statements of the setter.
-/

namespace PlcLint

/-- The origins of the nodes that stand in an object. A property has no nodes of its own: those of
its accessors stand in them. -/
def Subject.origins : Subject → List Origin
  | .stmt found => found.origins
  | .expr found => found.origins
  | .method found => stmtsOrigins (found.body.getD [])
  | .block found => stmtsOrigins (found.body.getD [])
  | .property _ | .declaration _ => []

theorem Subject.origins_of_expr {subject : Subject} {expr : Expr}
    (isExpr : subject.expr? = some expr) : expr.origins ⊆ subject.origins := by
  cases subject with
  | stmt found =>
      rw [Stmt.ownOrigins_of_asExpr isExpr]
      exact found.ownOrigins_subset_origins
  | expr found =>
      obtain rfl := Option.some.inj isExpr
      exact List.Subset.refl _
  | _ => cases isExpr

/-- What an object reads as a statement stands in it. -/
theorem Subject.origins_of_stmt {subject : Subject} {stmt : Stmt} {expr : Expr}
    (isStmt : subject.stmt? = some stmt) (read : expr ∈ stmt.readSubexprs.found) :
    expr.origins ⊆ subject.origins := by
  cases subject with
  | stmt found =>
      obtain rfl := Option.some.inj isStmt
      exact found.origins_readSubexprs read
  | expr found =>
      -- A call is the only expression that it reads as a statement.
      change found.asStmt? = some stmt at isStmt
      unfold Expr.asStmt? at isStmt
      split at isStmt
      · cases isStmt
        rw [Stmt.readSubexprs_found] at read
        obtain ⟨whole, isWhole, inside⟩ := List.mem_flatMap.mp read
        obtain rfl := List.mem_singleton.mp isWhole
        exact Expr.origins_subexprs _ inside
      · cases isStmt
  | _ => cases isStmt

/-- If the remark is about a node, the node is one of these. -/
def Remark.Inside (region : List Origin) (remark : Remark) : Prop :=
  ∀ origin, remark.violating = some (.node origin) → origin ∈ region

namespace Remarks

variable {α : Type} {region : List Origin}

def Inside (region : List Origin) (said : Remarks) : Prop :=
  ∀ walk, said.result = .ok walk → ∀ remark ∈ walk.found, remark.Inside region

theorem inside_pure {walk : Walk Remark} (all : ∀ remark ∈ walk.found, remark.Inside region) :
    Inside region (pure walk) := by
  intro given isGiven
  obtain rfl := Except.ok.inj isGiven
  exact all

theorem inside_noRemarks : Inside region noRemarks :=
  inside_pure fun _ given => absurd given List.not_mem_nil

theorem inside_remarkIf {condition : Bool} {remark : Remark} (inside : remark.Inside region) :
    Inside region (remarkIf condition remark) := by
  refine inside_pure fun given isGiven => ?_
  cases condition with
  | false => cases isGiven
  | true =>
      obtain rfl := List.mem_singleton.mp isGiven
      exact inside

theorem inside_singleton {remark : Remark} (inside : remark.Inside region) :
    Inside region (remarks [remark]) :=
  inside_pure (List.forall_mem_singleton.mpr inside)

theorem inside_throw {fault : Fault} : Inside region (throw fault) := by
  intro walk returned
  cases returned

theorem inside_bind {first : Logged α} {next : α → Remarks}
    (each : ∀ value, Inside region (next value)) : Inside region (first >>= next) := by
  obtain ⟨result, notices⟩ := first
  cases result with
  | error fault =>
      intro walk returned
      cases returned
  | ok value => exact each value

theorem inside_tryCatch {action : Remarks} {handle : Fault → Remarks}
    (done : Inside region action) (failed : ∀ fault, Inside region (handle fault)) :
    Inside region (tryCatch action handle) := by
  obtain ⟨result, notices⟩ := action
  cases result with
  | error fault => exact failed fault
  | ok walk => exact done

end Remarks

theorem Remark.inside_node {region : List Origin} {message : String} {origin : Origin}
    (inside : origin ∈ region) : Remark.Inside region ⟨message, some (.node origin)⟩ := by
  rintro other ⟨⟩
  exact inside

theorem Remark.inside_none {region : List Origin} {message : String} :
    Remark.Inside region ⟨message, none⟩ := by
  intro origin isNode
  cases isNode

theorem Remark.inside_declaration {region : List Origin} {message : String}
    {declaration : Declaration} :
    Remark.Inside region ⟨message, some (.declaration declaration)⟩ := by
  intro origin isNode
  cases isNode

namespace Check

open Remarks Remark

/-- The nodes that the check remarks on stand in the object it looks at. -/
def StaysInside (check : Check) : Prop :=
  ∀ scope subject, Remarks.Inside subject.origins (check.run scope subject)

theorem constant_staysInside (code name doc : String) (target : Target) (messages : List String) :
    (constant code name doc target messages).StaysInside := by
  intro scope subject
  refine inside_pure fun remark isRemark => ?_
  obtain ⟨message, _, rfl⟩ := List.mem_map.mp isRemark
  cases subject with
  | stmt found => exact inside_node found.origin_mem
  | expr found => exact inside_node found.origin_mem
  | declaration found => exact inside_declaration
  | _ => exact inside_none

/-! Checks of calls. -/

theorem namedArguments_staysInside : namedArguments.StaysInside := by
  intro scope subject
  simp only [namedArguments]
  split
  · rename_i callOrigin asStatement callee arguments isCall
    split
    · exact inside_noRemarks
    split
    · exact inside_noRemarks
    refine inside_bind fun called => inside_bind fun exempt => ?_
    split
    · exact inside_noRemarks
    refine inside_pure fun remark isRemark => ?_
    obtain ⟨argument, nameless, rfl⟩ := List.mem_map.mp isRemark
    refine inside_node (Subject.origins_of_expr isCall (List.mem_cons_of_mem _ ?_))
    exact List.mem_append_right _ (Argument.origin_mem (List.mem_filter.mp nameless).1)
  · exact inside_noRemarks

theorem functionExists_staysInside : functionExists.StaysInside := by
  intro scope subject
  simp only [functionExists]
  split
  · rename_i callOrigin asStatement origin name deref arguments isCall
    split
    · exact inside_noRemarks
    refine inside_bind fun type => ?_
    have inside : origin ∈ subject.origins :=
      Subject.origins_of_expr isCall (by simp [Expr.origins, Variable.origins])
    split
    · split
      · exact inside_bind fun suggestion => inside_singleton (inside_node inside)
      · exact inside_bind fun suggestion => inside_singleton (inside_node inside)
    · exact inside_noRemarks
  · exact inside_noRemarks

theorem superCallRemarks_inside {region : List Origin} {origin : Origin} (inside : origin ∈ region)
    (routine : String) (elements : List Element) :
    ∀ remark ∈ (superCallRemarks routine origin elements).found, remark.Inside region := by
  have each (message : String) : Remark.Inside region ⟨message, some (.node origin)⟩ :=
    inside_node inside
  have many (remark : Remark) (isMany : remark ∈ if elements.length > 1 then
      [(⟨"Unknown access into SUPER^ for method call", some (.node origin)⟩ : Remark)] else []) :
      remark.Inside region := by
    split at isMany
    · rw [List.mem_singleton.mp isMany]
      exact each _
    · cases isMany
  have more (message : String) (remark : Remark) (given : remark ∈ (if elements.length > 1 then
      [(⟨"Unknown access into SUPER^ for method call", some (.node origin)⟩ : Remark)] else []) ++
        [⟨message, some (.node origin)⟩]) : remark.Inside region := by
    rcases List.mem_append.mp given with isMany | isLast
    · exact many remark isMany
    · rw [List.mem_singleton.mp isLast]
      exact each _
  cases elements with
  | nil => exact many
  | cons element rest =>
      cases element with
      | subscripts indices deref => exact more _
      | field selected deref =>
          rw [superCallRemarks]
          split
          · exact many
          · exact more _

theorem superCallOnlyCurrentMethod_staysInside : superCallOnlyCurrentMethod.StaysInside := by
  intro scope subject
  simp only [superCallOnlyCurrentMethod]
  split
  · rename_i routine callOrigin asStatement pathOrigin base elements arguments isRoutine isCall
    split
    · refine inside_pure (superCallRemarks_inside ?_ _ _)
      exact Subject.origins_of_expr isCall List.mem_cons_self
    · exact inside_noRemarks
  · exact inside_noRemarks

theorem superCallWhenPossible_staysInside : superCallWhenPossible.StaysInside := by
  intro scope subject
  simp only [superCallWhenPossible]
  split
  · refine inside_bind fun inherited => ?_
    split
    · exact inside_noRemarks
    split
    · exact inside_noRemarks
    · exact inside_bind fun calls => inside_remarkIf inside_none
  · exact inside_noRemarks

theorem superCallInFunctionBlock_staysInside : superCallInFunctionBlock.StaysInside := by
  intro scope subject
  simp only [superCallInFunctionBlock]
  split
  · split
    · exact inside_noRemarks
    split
    · exact inside_noRemarks
    refine inside_bind fun concrete => ?_
    split
    · exact inside_noRemarks
    · exact inside_bind fun calls => inside_remarkIf inside_none
  · exact inside_noRemarks

/-! Checks of expressions and `CASE` statements. -/

theorem unsignedUnderflow_staysInside : unsignedUnderflow.StaysInside := by
  intro scope subject
  simp only [unsignedUnderflow]
  split
  · split
    · exact inside_noRemarks
    · exact inside_bind fun type => inside_remarkIf (inside_node (Expr.origin_mem _))
  · exact inside_noRemarks

theorem divisionByZero_staysInside : divisionByZero.StaysInside := by
  intro scope subject
  simp only [divisionByZero]
  split
  · exact inside_remarkIf (inside_node (Expr.origin_mem _))
  · exact inside_noRemarks

theorem allCases_staysInside : allCases.StaysInside := by
  intro scope subject
  simp only [allCases]
  split
  · refine inside_bind fun type => inside_bind fun dataType => ?_
    split
    · exact inside_bind fun left => inside_remarkIf (inside_node (Stmt.origin_mem _))
    · exact inside_noRemarks
  · exact inside_noRemarks

/-! Checks of methods and properties. -/

theorem methodNotOnlySuper_staysInside : methodNotOnlySuper.StaysInside := by
  intro scope subject
  simp only [methodNotOnlySuper]
  split
  · rename_i method
    split
    · rename_i origin callee arguments isBody
      have inside : origin ∈ (Subject.method method).origins := by
        simp only [Subject.origins, isBody, Option.getD_some, stmtsOrigins, stmtsNodes,
          List.append_nil]
        exact Stmt.origin_mem (.action origin (.call callee arguments))
      split
      · exact inside_noRemarks
      split
      · exact inside_singleton (inside_node inside)
      · exact inside_remarkIf (inside_node inside)
    · exact inside_noRemarks
  · exact inside_noRemarks

theorem methodHasReturn_staysInside : methodHasReturn.StaysInside := by
  intro scope subject
  simp only [methodHasReturn]
  split
  · split
    · split
      · exact inside_noRemarks
      · exact inside_bind fun assigned => inside_remarkIf inside_none
    · exact inside_noRemarks
  · exact inside_noRemarks

theorem unassignedOutputs_inside (region : List Origin) (block : FunctionBlock) (method : Routine)
    (outputs : List Declaration) :
    ∀ remark ∈ (unassignedOutputs block method outputs).found, remark.Inside region := by
  induction outputs with
  | nil =>
      intro remark given
      cases given
  | cons output rest inductionHypothesis =>
      intro remark given
      rw [unassignedOutputs] at given
      split at given
      · cases given
      · exact inductionHypothesis remark given
      · rcases Walk.mem_append given with isFirst | inRest
        · rw [List.mem_singleton.mp isFirst]
          exact inside_none
        · exact inductionHypothesis remark inRest

theorem methodReturnsAllOutVars_staysInside : methodReturnsAllOutVars.StaysInside := by
  intro scope subject
  simp only [methodReturnsAllOutVars]
  split
  · split
    · exact inside_noRemarks
    · exact inside_pure (unassignedOutputs_inside _ _ _ _)
  · exact inside_noRemarks

theorem propertyHasReturn_staysInside : propertyHasReturn.StaysInside := by
  intro scope subject
  simp only [propertyHasReturn]
  split
  · split
    · exact inside_bind fun assigned => inside_remarkIf inside_none
    · exact inside_noRemarks
  · exact inside_noRemarks

theorem setterReadsValue_staysInside : setterReadsValue.StaysInside := by
  intro scope subject
  simp only [setterReadsValue]
  split
  · split
    · exact inside_noRemarks
    · exact inside_bind fun read => inside_remarkIf inside_none
  · exact inside_noRemarks

/-! Checks of variables. -/

theorem validScoping_staysInside : validScoping.StaysInside := by
  intro scope subject
  simp only [validScoping]
  split
  · refine inside_tryCatch (inside_bind fun type => inside_noRemarks) fun fault => ?_
    split
    · exact inside_singleton (inside_node (Variable.origin_mem _))
    · exact inside_throw
  · exact inside_noRemarks

theorem variableExists_staysInside : variableExists.StaysInside := by
  intro scope subject
  simp only [variableExists]
  split
  · refine inside_bind fun type => ?_
    split
    · exact inside_noRemarks
    · exact inside_bind fun suggestion => inside_singleton (inside_node (Variable.origin_mem _))
  · exact inside_noRemarks

theorem namingConvention_staysInside : namingConvention.StaysInside := by
  intro scope subject
  simp only [namingConvention]
  split
  · split
    · exact inside_bind fun warned => inside_noRemarks
    · refine inside_bind fun letters => ?_
      split
      · exact inside_bind fun leads => inside_remarkIf inside_declaration
      · exact inside_bind fun warned => inside_bind fun leads =>
          inside_remarkIf inside_declaration
  · exact inside_noRemarks

theorem mem_readSubexprs_of_mem_reads {stmt : Stmt} {expr : Expr}
    (read : expr ∈ (reads stmt).found) : expr ∈ stmt.readSubexprs.found := by
  obtain ⟨whole, isRead, inside⟩ := Walk.mem_flatMap read
  rw [Stmt.readSubexprs_found]
  refine List.mem_flatMap.mpr ⟨whole, isRead, ?_⟩
  change expr ∈ whole.subexprsWith _ false at inside
  unfold Expr.subexprsWith at inside
  split at inside
  · cases inside
  · exact inside

theorem uninitializedRead_staysInside : uninitializedRead.StaysInside := by
  intro scope subject
  simp only [uninitializedRead]
  split
  · rename_i routine stmt isRoutine isStmt
    split
    · exact inside_noRemarks
    refine inside_pure fun remark isRemark => ?_
    obtain ⟨expr, isRead, given⟩ := Walk.mem_flatMap isRemark
    have stands := Subject.origins_of_stmt isStmt (mem_readSubexprs_of_mem_reads isRead)
    unfold earlyRead at given
    split at given
    · split at given
      · cases given
      split at given
      · cases given
      · cases given
      split at given
      · cases given
      · cases given
      · rw [List.mem_singleton.mp given]
        exact inside_node (stands (Variable.origin_mem _))
    · cases given
  · exact inside_noRemarks

theorem builtin_staysInside {check : Check} (membership : check ∈ builtin)
    (other : check ≠ setterValueNotWritten) : check.StaysInside := by
  simp only [builtin, List.mem_cons, List.not_mem_nil, or_false] at membership
  rcases membership with rfl | rfl | rfl | rfl | rfl | rfl | rfl | rfl | rfl | rfl | rfl | rfl |
    rfl | rfl | rfl | rfl | rfl | rfl
  · exact namedArguments_staysInside
  · exact unsignedUnderflow_staysInside
  · exact divisionByZero_staysInside
  · exact functionExists_staysInside
  · exact superCallOnlyCurrentMethod_staysInside
  · exact superCallWhenPossible_staysInside
  · exact superCallInFunctionBlock_staysInside
  · exact methodNotOnlySuper_staysInside
  · exact setterReadsValue_staysInside
  · exact absurd rfl other
  · exact methodHasReturn_staysInside
  · exact methodReturnsAllOutVars_staysInside
  · exact propertyHasReturn_staysInside
  · exact allCases_staysInside
  · exact validScoping_staysInside
  · exact variableExists_staysInside
  · exact namingConvention_staysInside
  · exact uninitializedRead_staysInside

end Check

end PlcLint
