import PlcLint.Assignment
import PlcLint.Proofs.Flow.ParallelPaths
import PlcLint.Proofs.Syntax.Held

/-!
Assignment in two bodies of one shape. A `FOR` loop is read with all that is nested in it, so the
statements of a pair assign alike only if the pairs inside them do; extra actions inside must then
read nothing that assigns. Where they fill a block that was left out, reading no longer fails.
-/

namespace PlcLint

open Flow

/-- Something inside the expression assigns to the variable. -/
def Expr.assignsInside (name : String) (address : Bool) (expr : Expr) : Except Fault Bool :=
  Walk.anyOf (·.assigns name address) expr.subexprs

theorem Stmt.assigns_eq (name : String) (address : Bool) (stmt : Stmt) :
    stmt.assigns name address =
      if stmt.hasTarget name then .ok true
      else stmt.readExprs.any (·.assignsInside name address) := by
  rw [Stmt.assigns, Stmt.readSubexprs, Walk.any_flatMap_ofList]
  rfl

theorem Stmt.any_readExprs (test : Expr → Except Fault Bool) (stmt : Stmt) :
    stmt.readExprs.any test =
      Walk.orElse (Walk.anyOf test stmt.headExprs) (stmt.bodyExprs.any test) := by
  rw [stmt.readExprs_eq, Walk.any_eq, Walk.any_eq, Walk.anyOf_append, Walk.orElse_assoc]

section Reading

variable (heads : Stmt → Stmt → Prop) (extra : Stmt → Prop)

/-- Tests that give the same for what the statements of a pair read themselves. The second one fails
to hold in extra actions. -/
structure ReadAlike (first second : Expr → Except Fault Bool) : Prop where
  head : ∀ {stmt other : Stmt}, heads stmt other →
    Walk.anyOf second other.headExprs = Walk.anyOf first stmt.headExprs
  kind : ∀ {stmt other : Stmt}, heads stmt other →
    other.forBody?.isSome = stmt.forBody?.isSome
  added : ∀ {stmt : Stmt}, extra stmt → Walk.anyOf second stmt.headExprs = .ok false

end Reading

variable {heads : Stmt → Stmt → Prop} {extra : Stmt → Prop}
  {first second : Expr → Except Fault Bool}

theorem ReadAlike.readExprs_of_bodies (alike : ReadAlike heads extra first second)
    {stmt other : Stmt} (head : heads stmt other)
    (bodies : RaisedBy extra (stmt.bodyExprs.any first) (other.bodyExprs.any second)) :
    RaisedBy extra (stmt.readExprs.any first) (other.readExprs.any second) := by
  rw [Stmt.any_readExprs, Stmt.any_readExprs, alike.head head]
  exact (RaisedBy.refl _).orElse bodies

/-- Only the body of a `FOR` loop is read. -/
theorem ReadAlike.loop (alike : ReadAlike heads extra first second) {origin copied : Origin}
    {control further : LoopHead} {body other : Block}
    (head : heads (.loop origin control body) (.loop copied further other))
    (bodies : RaisedBy extra (body.readExprs.any first) (other.readExprs.any second)) :
    RaisedBy extra ((Stmt.loop origin control body).readExprs.any first)
      ((Stmt.loop copied further other).readExprs.any second) := by
  apply alike.readExprs_of_bodies head
  have sameKind := alike.kind head
  cases control with
  | forTo =>
      cases further with
      | forTo => exact bodies
      | _ => cases sameKind
  | _ =>
      cases further with
      | forTo => cases sameKind
      | _ => exact .refl _

mutual

theorem Flow.StmtPair.any_readExprs (alike : ReadAlike heads extra first second) :
    ∀ {stmt other : Stmt}, StmtPair heads extra stmt other →
      RaisedBy extra (stmt.readExprs.any first) (other.readExprs.any second)
  | _, _, .action head => alike.readExprs_of_bodies head (.refl _)
  | _, _, .exitStmt head => alike.readExprs_of_bodies head (.refl _)
  | _, _, .continueStmt head => alike.readExprs_of_bodies head (.refl _)
  | _, _, .returnStmt head => alike.readExprs_of_bodies head (.refl _)
  | _, _, .jump head => alike.readExprs_of_bodies head (.refl _)
  | _, _, .foreign head => alike.readExprs_of_bodies head (.refl _)
  | _, _, .label head _ => alike.readExprs_of_bodies head (.refl _)
  | _, _, .ifThen head _ _ _ => alike.readExprs_of_bodies head (.refl _)
  | _, _, .select head _ _ => alike.readExprs_of_bodies head (.refl _)
  | _, _, .loop head bodies => alike.loop head (bodies.any_readExprs alike)

theorem Flow.BlockPair.any_readExprs (alike : ReadAlike heads extra first second) :
    ∀ {block other : Block}, BlockPair heads extra block other →
      RaisedBy extra (block.readExprs.any first) (other.readExprs.any second)
  | _, _, .missing => .refl _
  -- Reading a block that is left out is a fault.
  | _, _, .filled added _ => .inr ⟨.inr ⟨.missingLoopBody, rfl⟩, _, added⟩
  | _, _, .given inside => inside.any_readExprs alike

theorem Flow.StmtsPair.any_readExprs (alike : ReadAlike heads extra first second) :
    ∀ {stmts others : List Stmt}, StmtsPair heads extra stmts others →
      RaisedBy extra ((readExprsOfAll stmts).any first) ((readExprsOfAll others).any second)
  | _, _, .nil => .refl _
  | _, _, .cons pair behind => by
      rw [readExprsOfAll, readExprsOfAll, Walk.any_append, Walk.any_append]
      exact (pair.any_readExprs alike).orElse (behind.any_readExprs alike)
  | _, _, .insert added behind => by
      rw [readExprsOfAll, Walk.any_append, Stmt.any_readExprs, alike.added added]
      exact behind.any_readExprs alike

end

section Assigning

variable (heads : Stmt → Stmt → Prop) (extra : Stmt → Prop)

/-- The statements of a pair assign alike, one to `name` and the other to `second`, as far as they
do so themselves. Extra actions assign to `second`, but read nothing that does. -/
structure AssignAlike (name second : String) : Prop extends
    ReadAlike heads extra (·.assignsInside name true) (·.assignsInside second true) where
  target : ∀ {stmt other : Stmt}, heads stmt other → other.hasTarget second = stmt.hasTarget name
  addedTarget : ∀ {stmt : Stmt}, extra stmt → stmt.hasTarget second = true

end Assigning

theorem AssignAlike.testPair {name second : String} (alike : AssignAlike heads extra name second) :
    TestPair heads extra (·.assigns name true) (·.assigns second true) := by
  constructor
  · intro stmt other pair
    rw [Stmt.assigns_eq, Stmt.assigns_eq, alike.target pair.head]
    split
    · exact .refl _
    · exact pair.any_readExprs alike.toReadAlike
  · intro stmt added
    rw [Stmt.assigns_eq, if_pos (alike.addedTarget added)]

/-- A statement that mentions a variable and does nothing else. -/
def mentionNamed (serial : Nat) (name : String) : Stmt :=
  .action ⟨serial, none, none⟩ (.mention (variableNamed 0 name))

end PlcLint
