import PlcLint.Proofs.Assignment.Pairs

/-!
Assignments put into a body. An assignment of a literal reads nothing that assigns, adds no node and
no edge, and can only stop a search earlier. So a variable that is assigned on all ways through the
code, or on all ways to a statement, stays so wherever such assignments to it are inserted: in a
branch, in the body of a loop, in a block that was left out, in code that is not reached, or next to
the statement itself.
-/

namespace PlcLint

open Flow

/-- The statement `name := literal`. -/
def Stmt.setsToLiteral (name : String) : Stmt → Bool
  | .action _ (.assign [.var (.simple _ target _)] (.literal _ _)) => Text.sameName target name
  | _ => false

/-- The statements differ at most in what is nested in them. -/
def Stmt.SameHead (stmt other : Stmt) : Prop := other.hollow = stmt.hollow

/-- The second body is the first with some of the added statements at any places of its blocks, at
any depth. A block that the first body leaves out counts as empty. -/
def Flow.Source.Gains (added : List Stmt) (source larger : Source) : Prop :=
  StmtsPair Stmt.SameHead (· ∈ added) source.stmts larger.stmts

theorem Stmt.origin_hollow (stmt : Stmt) : stmt.hollow.origin = stmt.origin := by
  cases stmt <;> rfl

theorem Stmt.hasTarget_hollow (name : String) (stmt : Stmt) :
    stmt.hollow.hasTarget name = stmt.hasTarget name := by
  cases stmt with
  | loop origin head body => cases head <;> rfl
  | _ => rfl

variable {name : String}

theorem Stmt.exists_of_setsToLiteral {stmt : Stmt} (sets : stmt.setsToLiteral name = true) :
    ∃ origin place valuePlace target deref value,
      stmt = .action origin
        (.assign [.var (.simple place target deref)] (.literal valuePlace value)) ∧
        Text.sameName target name = true := by
  unfold setsToLiteral at sets
  split at sets
  · exact ⟨_, _, _, _, _, _, rfl, sets⟩
  · cases sets

theorem assignAlike_inserted {added : List Stmt}
    (literals : ∀ stmt ∈ added, stmt.setsToLiteral name = true) :
    AssignAlike Stmt.SameHead (· ∈ added) name name where
  head {stmt other} same := by rw [← other.headExprs_hollow, same, stmt.headExprs_hollow]
  kind {stmt other} same := by
    rw [← other.isSome_forBody?_hollow, same, stmt.isSome_forBody?_hollow]
  added {stmt} isAdded := by
    obtain ⟨_, _, _, _, _, _, rfl, _⟩ := Stmt.exists_of_setsToLiteral (literals stmt isAdded)
    rfl
  target {stmt other} same := by
    rw [← other.hasTarget_hollow, same, stmt.hasTarget_hollow]
  addedTarget {stmt} isAdded := by
    obtain ⟨_, _, _, _, _, _, rfl, agrees⟩ := Stmt.exists_of_setsToLiteral (literals stmt isAdded)
    simpa [Stmt.hasTarget, Expr.isTarget] using agrees

theorem targetPair_inserted {added : List Stmt} {target : Stmt}
    (another : ∀ stmt ∈ added, stmt.same target = false) :
    TargetPair Stmt.SameHead (· ∈ added) target target where
  same {stmt other} pair := by
    have same : other.hollow = stmt.hollow := pair.head
    rw [Stmt.same, Stmt.same, ← other.origin_hollow, same, stmt.origin_hollow]
  added {stmt} isAdded := another stmt isAdded

/-- Assignments to a variable that are put into a body leave it true that the variable is assigned
on all ways through the code, and that it is assigned on all ways to another statement. -/
theorem assignment_survives_insertion {added : List Stmt}
    (literals : ∀ stmt ∈ added, stmt.setsToLiteral name = true) {source larger : Source}
    (gains : source.Gains added larger) :
    (source.assignsAlways name = .ok true → larger.assignsAlways name = .ok true) ∧
      ∀ target : Stmt, (∀ stmt ∈ added, stmt.same target = false) →
        source.assignsBefore target name = .ok true →
        larger.assignsBefore target name = .ok true := by
  have tests := (assignAlike_inserted literals).testPair
  constructor
  · intro holds
    exact Source.onAllPaths_of_pairs gains tests holds
  · intro target another holds
    exact Source.onAllPathsTo_of_pairs gains (targetPair_inserted another) tests holds

/-! The body `IF c THEN x := 1; ELSE WHILE d DO END_WHILE; x := 2; END_IF; y;`. -/

def setNumber (serial : Nat) (name digits : String) : Stmt :=
  .action ⟨serial, none, none⟩ (.assign [variableNamed 0 name] (number 0 digits))

def setOnBothWays (inLoop : Block) (front : List Stmt) : Source :=
  .block (front ++ [.ifThen ⟨1, none, none⟩ (variableNamed 0 "c") (.given [setNumber 2 "x" "1"]) []
      (some (.given [.loop ⟨3, none, none⟩ (.whileDo (variableNamed 0 "d")) inLoop,
        setNumber 5 "x" "2"])),
    mentionNamed 6 "y"])

theorem setOnBothWays_gains :
    (setOnBothWays .missing []).Gains [setNumber 7 "X" "3"]
      (setOnBothWays (.given [setNumber 7 "X" "3"]) [setNumber 7 "X" "3"]) := by
  have unchanged : ∀ stmt, Stmt.SameHead stmt stmt := fun _ => rfl
  have isAdded : setNumber 7 "X" "3" ∈ [setNumber 7 "X" "3"] := List.mem_singleton_self _
  refine .insert isAdded (.cons (.ifThen rfl (.refl unchanged _) .nil (.some (.given ?_)))
    (.refl unchanged _))
  exact .cons (.loop rfl (.filled isAdded .nil)) (.refl unchanged _)

theorem setOnBothWays_stays_assigned :
    (setOnBothWays .missing []).assignsAlways "x" = .ok true ∧
      (setOnBothWays (.given [setNumber 7 "X" "3"]) [setNumber 7 "X" "3"]).assignsAlways "x" =
        .ok true ∧
      (setNumber 7 "X" "3").same (mentionNamed 6 "y") = false ∧
      (setOnBothWays .missing []).assignsBefore (mentionNamed 6 "y") "x" = .ok true ∧
      (setOnBothWays (.given [setNumber 7 "X" "3"]) [setNumber 7 "X" "3"]).assignsBefore
        (mentionNamed 6 "y") "x" = .ok true := by
  have always : (setOnBothWays .missing []).assignsAlways "x" = .ok true := by decide +kernel
  have before : (setOnBothWays .missing []).assignsBefore (mentionNamed 6 "y") "x" = .ok true := by
    decide +kernel
  have literals : ∀ stmt ∈ [setNumber 7 "X" "3"], stmt.setsToLiteral "x" = true := by
    simp only [List.mem_singleton, forall_eq]
    decide +kernel
  have another : ∀ stmt ∈ [setNumber 7 "X" "3"], stmt.same (mentionNamed 6 "y") = false := by
    simp only [List.mem_singleton, forall_eq]
    rfl
  have kept := assignment_survives_insertion literals setOnBothWays_gains
  exact ⟨always, kept.1 always, rfl, before, kept.2 _ another before⟩

end PlcLint
