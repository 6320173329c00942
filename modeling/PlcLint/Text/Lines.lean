/-!
Lines of a text, and parts of a list given by places that may count from its end.
-/

namespace PlcLint.Text

/-- The pieces between line feeds; a text without one is its only line. -/
def splitLines : List Char → List (List Char)
  | [] => [[]]
  | c :: rest =>
    if c = '\n' then [] :: splitLines rest
    else match splitLines rest with
      | [] => [[c]]
      | line :: more => (c :: line) :: more

def lines (text : String) : List String := (splitLines text.toList).map String.ofList

def joinLines (lines : List String) : String := String.intercalate "\n" lines

/-- Every way to end a line becomes a line feed. -/
def unifyLineEnds : List Char → List Char
  | [] => []
  | '\r' :: '\n' :: rest => '\n' :: unifyLineEnds rest
  | '\r' :: rest => '\n' :: unifyLineEnds rest
  | c :: rest => c :: unifyLineEnds rest

/-- A place in a list of `length` items; a negative one counts from the end, and one outside
moves to the nearer end. -/
def boundary (length : Nat) (place : Int) : Nat :=
  if place < 0 then (place + length).toNat else min place.toNat length

/-- The items from one place up to another. -/
def slice {α : Type} (items : List α) (first last : Int) : List α :=
  let low := boundary items.length first
  (items.drop low).take (boundary items.length last - low)

/-- The item at a place; a negative place counts from the end. -/
def item? {α : Type} (items : List α) (place : Int) : Option α :=
  if 0 ≤ place then items[place.toNat]?
  else if 0 ≤ place + items.length then items[(place + items.length).toNat]?
  else none

/-- The line of this number, counted from one; nothing outside of the text. -/
def lineOf (chars : List Char) (number : Int) : String :=
  let found := splitLines (unifyLineEnds chars)
  if 1 ≤ number then String.ofList ((found[number.toNat - 1]?).getD []) else ""

end PlcLint.Text
