import PlcLint.Proofs.Assignment.Pairs
import PlcLint.Proofs.Syntax.Folded

/-!
Assignment in a copy of a body whose names are written in other ASCII letters, small or capital. The
two graphs differ in their labels only, and all comparisons of names ignore case, also those of the
texts of whole variables, so that the analysis gives the same for body and copy.
-/

namespace PlcLint

open Flow

variable {name other : String}

theorem Text.sameName_recased {first second : String} (targets : first.toLower = second.toLower)
    (names : name.toLower = other.toLower) : sameName first other = sameName second name := by
  rw [sameName, sameName, lower_eq_of_toLower_eq targets, lower_eq_of_toLower_eq names]

/-! Expressions. -/

namespace Expr

theorem isTarget_folded (names : name.toLower = other.toLower) (expr : Expr) :
    expr.folded.isTarget other = expr.isTarget name := by
  cases expr with
  | var value =>
      cases value with
      | simple origin target deref => exact Text.sameName_recased (Text.toLower_idem target) names
      | path origin base elements =>
          exact Text.sameName_recased base.toLower_nameText_folded names
  | _ => rfl

theorem simpleName?_folded (expr : Expr) :
    expr.folded.simpleName? = expr.simpleName?.map String.toLower := by
  cases expr with
  | var value => cases value <;> rfl
  | _ => rfl

theorem toLower_nameText?_folded (expr : Expr) :
    expr.folded.nameText?.map String.toLower = expr.nameText?.map String.toLower := by
  cases expr with
  | var value => exact congrArg some value.toLower_nameText_folded
  | call origin asStatement callee arguments => exact congrArg some callee.toLower_text_folded
  | _ => rfl

theorem isCallTo_folded (expr : Expr) (function : String) :
    expr.folded.isCallTo function = expr.isCallTo function := by
  cases expr with
  | call origin asStatement callee arguments =>
      cases callee with
      | simple place name deref => exact Text.sameName_recased (Text.toLower_idem name) rfl
      | path place base elements => rfl
  | _ => rfl

end Expr

/-- The simple name that an expression is, compared with a name. -/
theorem sameSimpleName_folded (names : name.toLower = other.toLower) (expr : Option Expr) :
    (match (foldedValue expr).bind Expr.simpleName? with
      | some target => Text.sameName target other
      | none => false) =
    match expr.bind Expr.simpleName? with
      | some target => Text.sameName target name
      | none => false := by
  cases expr with
  | none => rfl
  | some expr =>
      simp only [foldedValue, Option.bind_some, Expr.simpleName?_folded]
      cases expr.simpleName? with
      | none => rfl
      | some target => exact Text.sameName_recased (Text.toLower_idem target) names

theorem Argument.writes_folded (names : name.toLower = other.toLower) (argument : Argument) :
    argument.folded.writes other = argument.writes name := by
  cases argument with
  | input origin parameter value => rfl
  | output origin parameter value inverted => exact sameSimpleName_folded names value

theorem Argument.value_folded (argument : Argument) :
    argument.folded.value = foldedValue argument.value := by
  cases argument <;> rfl

theorem addressed_folded (arguments : List Argument) :
    EndAlike (fun text recased => recased.toLower = text.toLower) (addressed arguments)
      (addressed (foldedArguments arguments)) := by
  cases arguments with
  | nil => exact .error _
  | cons argument rest =>
      rw [foldedArguments, addressed, addressed, argument.value_folded]
      cases argument.value with
      | none => exact .error _
      | some value =>
          have texts := value.toLower_nameText?_folded
          simp only [foldedValue, Option.bind_some]
          cases found : value.nameText? with
          | none =>
              rw [found, Option.map_none, Option.map_eq_none_iff] at texts
              rw [texts]
              exact .error _
          | some text =>
              rw [found, Option.map_some, Option.map_eq_some_iff] at texts
              obtain ⟨recased, foundToo, same⟩ := texts
              rw [foundToo]
              exact .ok same

theorem Expr.assigns_folded (names : name.toLower = other.toLower) (address : Bool) (expr : Expr) :
    expr.folded.assigns other address = expr.assigns name address := by
  cases expr with
  | call origin asStatement callee arguments =>
      have isCall := (Expr.call origin asStatement callee arguments).isCallTo_folded "ADR"
      have writes : (foldedArguments arguments).any (·.writes other) =
          arguments.any (·.writes name) := by
        rw [foldedArguments_eq_map, List.any_map]
        exact congrArg arguments.any (funext fun argument => argument.writes_folded names)
      rw [Expr.folded] at isCall ⊢
      rw [Expr.assigns, Expr.assigns, isCall, writes]
      split
      · refine (addressed_folded arguments).bind_eq fun text recased same => ?_
        rw [Text.sameName_recased same names]
      · rfl
  | _ => rfl

theorem Expr.assignsInside_folded (names : name.toLower = other.toLower) (address : Bool)
    (expr : Expr) :
    expr.folded.assignsInside other address = expr.assignsInside name address := by
  rw [Expr.assignsInside, Expr.assignsInside, Expr.subexprs_folded, Walk.anyOf_map]
  exact congrArg (Walk.anyOf · expr.subexprs) (funext (Expr.assigns_folded names address))

theorem Expr.assignsInside_call (origin place : Origin) (asStatement address : Bool)
    (callee : Variable) (arguments : List Argument) :
    (Expr.call origin asStatement callee arguments).assignsInside name address =
      (Expr.call place asStatement callee arguments).assignsInside name address := by
  rw [Expr.assignsInside, Expr.assignsInside, Expr.subexprs, Expr.subexprs, Walk.anyOf_cons,
    Walk.anyOf_cons]
  cases callee <;> rfl

/-! Heads of statements. -/

theorem Expr.asPart_folded (expr : Expr) : expr.folded.asPart = expr.asPart.map Expr.folded := by
  have same : expr.folded.isStatement = expr.isStatement := by cases expr <;> rfl
  rw [asPart, asPart, same]
  split <;> rfl

theorem LoopHead.exprs_folded (head : LoopHead) :
    head.folded.exprs = head.exprs.map Expr.folded := by
  cases head with
  | whileDo condition => exact condition.asPart_folded
  | repeatUntil condition => exact condition.asPart_folded
  | forTo control first last step =>
      cases step <;> simp [LoopHead.folded, LoopHead.exprs, Expr.asPart_folded]

theorem Action.exprs_folded (targets : Bool) (deed : Action) :
    deed.folded.exprs targets = (deed.exprs targets).map Expr.folded := by
  cases deed <;> cases targets <;>
    simp [Action.folded, Action.exprs, Expr.asPart_folded, List.flatMap_map, List.map_flatMap]

namespace Stmt

variable (renumber : Nat → Nat)

theorem headExprs_foldedHead {stmt : Stmt} (noCall : stmt.asExpr? = none) :
    (stmt.foldedHead renumber).headExprs = stmt.headExprs.map Expr.folded := by
  cases stmt with
  | action origin deed =>
      have held := deed.exprs_folded false
      cases deed with
      | call callee arguments => cases noCall
      | _ => exact held
  | ifThen origin condition body elseIfs otherwise =>
      simp [foldedHead, headExprs, ownExprs, Expr.asPart_folded, ElseIf.condition,
        List.flatMap_map, List.map_flatMap]
  | select origin subject arms otherwise => exact subject.asPart_folded
  | loop origin head body =>
      cases head with
      | forTo control first last step => rfl
      | whileDo condition => exact condition.asPart_folded
      | repeatUntil condition => exact condition.asPart_folded
  | _ => rfl

theorem anyOf_headExprs_foldedHead (names : name.toLower = other.toLower) (address : Bool)
    (stmt : Stmt) :
    Walk.anyOf (·.assignsInside other address) (stmt.foldedHead renumber).headExprs =
      Walk.anyOf (·.assignsInside name address) stmt.headExprs := by
  have inside := funext (Expr.assignsInside_folded names address)
  by_cases noCall : stmt.asExpr? = none
  · rw [headExprs_foldedHead renumber noCall, Walk.anyOf_map]
    exact congrArg (Walk.anyOf · stmt.headExprs) inside
  · cases stmt with
    | action origin deed =>
        cases deed with
        | call callee arguments =>
            -- The call has the origin of the statement, which is not that of a folded expression.
            change Walk.anyOf (Expr.assignsInside other address)
              [Expr.call (origin.renumbered renumber) true callee.folded
                (foldedArguments arguments)] = _
            rw [Walk.anyOf_cons, Expr.assignsInside_call _ .nowhere, ← Walk.anyOf_cons]
            exact congrArg (Walk.anyOf · [Expr.call origin true callee arguments]) inside
        | _ => exact absurd rfl noCall
    | _ => exact absurd rfl noCall

theorem hasTarget_foldedHead (names : name.toLower = other.toLower) (stmt : Stmt) :
    (stmt.foldedHead renumber).hasTarget other = stmt.hasTarget name := by
  cases stmt with
  | action origin deed =>
      cases deed with
      | assign targets value =>
          simp only [foldedHead, Action.folded, hasTarget, List.any_map]
          exact congrArg targets.any (funext (Expr.isTarget_folded names))
      | bind target value => exact target.isTarget_folded names
      | _ => rfl
  | loop origin head body =>
      cases head with
      | forTo control first last step => exact sameSimpleName_folded names (some control)
      | _ => rfl
  | _ => rfl

theorem isSome_forBody?_foldedHead (stmt : Stmt) :
    (stmt.foldedHead renumber).forBody?.isSome = stmt.forBody?.isSome := by
  cases stmt with
  | loop origin head body => cases head <;> rfl
  | _ => rfl

/-- Apart from what is nested in it, the second statement is the first with names in another case.
It has its own number and place. -/
def RecasedHead (stmt copy : Stmt) : Prop := copy.foldedHead id = stmt.foldedHead renumber

variable {renumber}

theorem RecasedHead.serial {stmt copy : Stmt} (recased : RecasedHead renumber stmt copy) :
    copy.origin.serial = renumber stmt.origin.serial := by
  have serials := congrArg (·.origin.serial) recased
  rwa [serial_foldedHead, serial_foldedHead] at serials

end Stmt

/-- The second body is a copy of the first in which names may be written in another case. The copy
of the statement with a number `n` has the number `renumber n`. -/
def Flow.Source.RecasedAs (renumber : Nat → Nat) (source copy : Source) : Prop :=
  StmtsPair (Stmt.RecasedHead renumber) (fun _ => False) source.stmts copy.stmts

variable {renumber : Nat → Nat}

variable (renumber) in
theorem assignAlike_recased (names : name.toLower = other.toLower) :
    AssignAlike (Stmt.RecasedHead renumber) (fun _ => False) name other where
  head {stmt copy} recased := by
    rw [← Stmt.anyOf_headExprs_foldedHead id rfl true copy, recased,
      Stmt.anyOf_headExprs_foldedHead renumber names true stmt]
  kind {stmt copy} recased := by
    rw [← copy.isSome_forBody?_foldedHead id, recased, stmt.isSome_forBody?_foldedHead renumber]
  added := False.elim
  target {stmt copy} recased := by
    rw [← Stmt.hasTarget_foldedHead id rfl copy, recased,
      Stmt.hasTarget_foldedHead renumber names stmt]
  addedTarget := False.elim

theorem targetPair_recased (distinct : Function.Injective renumber) {target copied : Stmt}
    (stands : copied.origin.serial = renumber target.origin.serial) :
    TargetPair (Stmt.RecasedHead renumber) (fun _ => False) target copied where
  same {stmt copy} pair := by
    rw [Stmt.same, Stmt.same, pair.head.serial, stands, Bool.eq_iff_iff, beq_iff_eq, beq_iff_eq]
    exact distinct.eq_iff
  added := False.elim

/-- The analysis of assignments ignores the case of ASCII letters in the body and in the name of the
variable. It gives the same or fails with the same fault: for all ways through the code, and for all
ways to a statement and to its copy. -/
theorem assignment_ignores_case (distinct : Function.Injective renumber) {source copy : Source}
    (recased : source.RecasedAs renumber copy) (names : name.toLower = other.toLower) :
    copy.assignsAlways other = source.assignsAlways name ∧
      ∀ target copied : Stmt, copied.origin.serial = renumber target.origin.serial →
        copy.assignsBefore copied other = source.assignsBefore target name := by
  have tests := (assignAlike_recased renumber names).testPair
  have noExtra : ∀ _ : Stmt, ¬False := fun _ => id
  constructor
  · exact Source.onAllPaths_eq_of_pairs recased tests noExtra
  · intro target copied stands
    have targets := targetPair_recased distinct stands
    exact Source.onAllPathsTo_eq_of_pairs recased targets tests noExtra

/-! The body `IF Go THEN Start(=> Buf); ELSE p := ADR(Buf[K]); END_IF; Done;` in any spelling. -/

def startOrPoint (serial : Nat) (spelling : String → String) : List Stmt :=
  let place : Origin := ⟨0, none, none⟩
  let named (name : String) : Variable := .simple place (spelling name) false
  let element : Expr := .var (.path place (named "Buf") [.subscripts [.var (named "K")] false])
  [.ifThen ⟨serial, none, none⟩ (.var (named "Go"))
      (.given [.action ⟨1 + serial, none, none⟩
        (.call (named "Start") [.output place none (some (.var (named "Buf"))) false])]) []
      (some (.given [.action ⟨2 + serial, none, none⟩ (.assign [.var (named "p")]
        (.call place false (named "ADR") [.input place none (some element)]))])),
    mentionNamed (3 + serial) (spelling "Done")]

theorem startOrPoint_recased {spelling : String → String}
    (recases : ∀ name, (spelling name).toLower = name.toLower) (serial : Nat) :
    Source.RecasedAs (· + serial) (.block (startOrPoint 0 id))
      (.block (startOrPoint serial spelling)) := by
  refine .cons (.ifThen ?_ (.given (.cons (.action ?_) .nil)) .nil
    (.some (.given (.cons (.action ?_) .nil)))) (.cons (.action ?_) .nil)
  all_goals
    simp [Stmt.RecasedHead, Stmt.foldedHead, Action.folded, Expr.folded, Variable.folded,
      foldedArguments, Argument.folded, foldedName, foldedValue, foldedElements, Element.folded,
      foldedExprs, Origin.renumbered, variableNamed, recases]

def respelt (name : String) : String :=
  if name = "Buf" then "bUF" else if name = "ADR" then "Adr" else name

theorem startOrPoint_assigns_in_any_case :
    Source.RecasedAs (· + 10) (.block (startOrPoint 0 id)) (.block (startOrPoint 10 respelt)) ∧
      "Buf".toLower = "bUF".toLower ∧
      Source.assignsAlways (.block (startOrPoint 10 respelt)) "bUF" = .ok true ∧
      Source.assignsBefore (.block (startOrPoint 10 respelt)) (mentionNamed 13 "Done") "bUF" =
        .ok true := by
  have names : "Buf".toLower = "bUF".toLower := Text.toLower_eq_iff.mpr (by decide)
  have recases : ∀ name, (respelt name).toLower = name.toLower := by
    intro name
    unfold respelt
    split
    next isBuffer => rw [isBuffer, names]
    next =>
      split
      next isAddress => exact isAddress ▸ Text.toLower_eq_iff.mpr (by decide)
      next => rfl
  have recased := startOrPoint_recased recases 10
  have same := assignment_ignores_case (fun _ _ => Nat.add_right_cancel) recased names
  refine ⟨recased, names, ?_, ?_⟩
  · rw [same.1]
    decide +kernel
  · rw [same.2 (mentionNamed 3 "Done") (mentionNamed 13 "Done") rfl]
    decide +kernel

end PlcLint
