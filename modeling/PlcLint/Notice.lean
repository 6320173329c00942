import PlcLint.Fault

/-!
Notices that an analysis leaves behind while it runs. They are kept also when the analysis ends
with a fault.
-/

namespace PlcLint

inductive Severity where
  | info
  | warning
  | error
  deriving DecidableEq

def Severity.text : Severity → String
  | info => "INFO"
  | warning => "WARNING"
  | error => "ERROR"

structure Notice where
  severity : Severity
  message : String

def Notice.text (notice : Notice) : String := notice.severity.text ++ ": " ++ notice.message

/-- A computation that may fail and leaves notices in the order of their making. It cannot see
the notices of others. -/
structure Logged (α : Type) where
  result : Except Fault α
  notices : List Notice := []

namespace Logged

variable {α : Type}

instance : Monad Logged where
  pure value := ⟨.ok value, []⟩
  bind first next :=
    match first.result with
    | .ok value =>
      let rest := next value
      ⟨rest.result, first.notices ++ rest.notices⟩
    | .error fault => ⟨.error fault, first.notices⟩

instance : MonadExceptOf Fault Logged where
  throw fault := ⟨.error fault, []⟩
  tryCatch action handle :=
    match action.result with
    | .ok _ => action
    | .error fault =>
      let rest := handle fault
      ⟨rest.result, action.notices ++ rest.notices⟩

def note (severity : Severity) (message : String) : Logged Unit :=
  ⟨.ok (), [⟨severity, message⟩]⟩

def warn (message : String) : Logged Unit := note .warning message

def ofExcept : Except Fault α → Logged α
  | .ok value => pure value
  | .error fault => throw fault

/-- The outcome and the notices. -/
def outcome (action : Logged α) : Except Fault α × List Notice := (action.result, action.notices)

end Logged

end PlcLint
