import PlcLint.Flow.Build

/-!
How code can be left without meeting a statement that satisfies a predicate, read off the syntax
alone: by falling through to what follows, or by ending the routine.
-/

namespace PlcLint

def Block.stmts : Block → List Stmt
  | missing => []
  | given stmts => stmts

def ElseIf.body : ElseIf → Block
  | mk _ body => body

def Arm.body : Arm → Block
  | mk _ body => body

end PlcLint

namespace PlcLint.Flow

/-- Which of the two ways out are open. -/
structure Ways where
  through : Bool
  ends : Bool

namespace Ways

def shut : Ways := ⟨false, false⟩

def passing : Ways := ⟨true, false⟩

def ending : Ways := ⟨false, true⟩

def either (first second : Ways) : Ways :=
  ⟨first.through || second.through, first.ends || second.ends⟩

def andThen (first second : Ways) : Ways :=
  ⟨first.through && second.through, first.ends || (first.through && second.ends)⟩

def onlyIf (ways : Ways) (condition : Bool) : Ways :=
  ⟨condition && ways.through, condition && ways.ends⟩

def isOpen (ways : Ways) : Bool := ways.through || ways.ends

@[simp]
theorem onlyIf_true (ways : Ways) : ways.onlyIf true = ways := by
  simp [onlyIf]

theorem onlyIf_onlyIf (ways : Ways) (first second : Bool) :
    (ways.onlyIf first).onlyIf second = ways.onlyIf (second && first) := by
  simp [onlyIf, Bool.and_assoc]

end Ways

mutual

/-- The ways out of a statement. `EXIT` and `CONTINUE` leave neither way: where they lead, the
loop around them accounts for. -/
def stmtWays (pred : Stmt → Bool) (stmt : Stmt) : Ways :=
  match stmt with
  | .action _ _ => Ways.passing.onlyIf (!pred stmt)
  | .returnStmt _ => Ways.ending.onlyIf (!pred stmt)
  | .exitStmt _ => .shut
  | .continueStmt _ => .shut
  | .jump _ _ => .shut
  | .foreign _ _ => .shut
  | .label _ _ inner => Ways.passing.onlyIf (!pred stmt && inner.all fun inner => !pred inner)
  | .ifThen _ _ body elseIfs otherwise =>
    let first := (blockWays pred body).onlyIf (!pred stmt)
    let last := match otherwise with
      | some block => blockWays pred block
      | none => .passing
    (first.either (elseIfsWays pred elseIfs)).either last
  | .select _ _ arms otherwise =>
    let chosen := match otherwise with
      | some block => (armsWays pred arms).either (blockWays pred block)
      | none => if arms.isEmpty then .ending else armsWays pred arms
    chosen.onlyIf (!pred stmt)
  | .loop _ _ body =>
    Ways.onlyIf ⟨true, (blockWays pred body).ends⟩ (!pred stmt)

def blockWays (pred : Stmt → Bool) (block : Block) : Ways :=
  match block with
  | .missing => .passing
  | .given stmts => stmtsWays pred stmts

def elseIfsWays (pred : Stmt → Bool) (elseIfs : List ElseIf) : Ways :=
  match elseIfs with
  | [] => .shut
  | .mk _ body :: rest => (blockWays pred body).either (elseIfsWays pred rest)

def armsWays (pred : Stmt → Bool) (arms : List Arm) : Ways :=
  match arms with
  | [] => .shut
  | .mk _ body :: rest => (blockWays pred body).either (armsWays pred rest)

/-- The ways out of statements that follow one another. -/
def stmtsWays (pred : Stmt → Bool) (stmts : List Stmt) : Ways :=
  match stmts with
  | [] => .passing
  | stmt :: rest => (stmtWays pred stmt).andThen (stmtsWays pred rest)

end

/-- A missing `ELSE` of an `IF` is a branch without statements. -/
theorem stmtWays_ifThen (pred : Stmt → Bool) (origin : Origin) (condition : Expr) (body : Block)
    (elseIfs : List ElseIf) (otherwise : Option Block) :
    stmtWays pred (.ifThen origin condition body elseIfs otherwise) =
      (((blockWays pred body).onlyIf
        (!pred (.ifThen origin condition body elseIfs otherwise))).either
          (elseIfsWays pred elseIfs)).either (blockWays pred (otherwise.getD .missing)) := by
  cases otherwise with
  | none => rw [stmtWays, Option.getD_none, blockWays]
  | some block => rw [stmtWays, Option.getD_some]

/-! Parts of the examples that the theorems are applied to. -/

def always : Expr := .literal ⟨0, none, none⟩ (.boolean "TRUE")

/-- A statement without effect, known by its number. -/
def mark (serial : Nat) : Stmt := .action ⟨serial, none, none⟩ (.mention always)

end PlcLint.Flow
