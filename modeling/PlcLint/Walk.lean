import PlcLint.Fault

/-!
Walks: results given one after the other, until the walk is done or a fault ends it. A reader
that stops early never meets a fault that lies further on.
-/

namespace PlcLint

structure Walk (α : Type) where
  found : List α := []
  fault : Option Fault := none

namespace Walk

variable {α β : Type}

def ofList (found : List α) : Walk α := ⟨found, none⟩

def ofExcept : Except Fault (List α) → Walk α
  | .ok found => ⟨found, none⟩
  | .error fault => ⟨[], some fault⟩

/-- The second walk follows the first, unless the first fails. -/
def append (first second : Walk α) : Walk α :=
  match first.fault with
  | some fault => ⟨first.found, some fault⟩
  | none => ⟨first.found ++ second.found, second.fault⟩

instance : Append (Walk α) := ⟨append⟩

def concat : List (Walk α) → Walk α
  | [] => ⟨[], none⟩
  | walk :: rest => walk ++ concat rest

/-- For each result in turn the results of a further walk; then the first walk's fault. -/
def flatMap (f : α → Walk β) (walk : Walk α) : Walk β :=
  concat (walk.found.map f) ++ ⟨[], walk.fault⟩

/-- All results, if the walk comes to its end. -/
def toExcept (walk : Walk α) : Except Fault (List α) :=
  match walk.fault with
  | some fault => .error fault
  | none => .ok walk.found

/-- Whether some result of the list passes the test; the first that does ends the search. -/
def anyOf (test : α → Except Fault Bool) : List α → Except Fault Bool
  | [] => .ok false
  | item :: rest => do
    if ← test item then return true
    anyOf test rest

/-- Whether some result passes the test; the first that does ends the walk. -/
def any (test : α → Except Fault Bool) (walk : Walk α) : Except Fault Bool := do
  if ← anyOf test walk.found then return true
  match walk.fault with
  | some fault => throw fault
  | none => return false

end Walk

end PlcLint
