import PlcLint.Binary64
import PlcLint.Text.Quoted

/-!
Values of YAML documents. Mappings keep the order of their entries.
-/

namespace PlcLint

inductive Yaml where
  | null
  | bool (value : Bool)
  | int (value : Int)
  | float (value : Binary64)
  | string (text : String)
  | sequence (items : List Yaml)
  | mapping (entries : List (Yaml × Yaml))
  /-- A value of another kind, such as a date, known by the way it is shown. -/
  | foreign (shown : String)

namespace Yaml

instance : Inhabited Yaml := ⟨null⟩

/-- Truth values count as the numbers zero and one. -/
def number? : Yaml → Option Int
  | bool value => some (if value then 1 else 0)
  | int value => some value
  | _ => none

/-- The integer that a number, of whatever kind, is equal to. -/
def integral? : Yaml → Option Int
  | float value => value.int?
  | other => other.number?

mutual

/-- Equality as keys of a mapping; numbers of different kinds can be equal. -/
def sameKey : Yaml → Yaml → Bool
  | null, null => true
  | string x, string y => x == y
  | sequence xs, sequence ys => sameItems xs ys
  | mapping xs, mapping ys => sameEntries xs ys
  | foreign x, foreign y => x == y
  | a, b =>
    match a.integral?, b.integral? with
    | some x, some y => x == y
    | none, none =>
      match a, b with
      | float x, float y => x.same y
      | _, _ => false
    | _, _ => false

def sameItems : List Yaml → List Yaml → Bool
  | [], [] => true
  | x :: xs, y :: ys => x.sameKey y && sameItems xs ys
  | _, _ => false

def sameEntries : List (Yaml × Yaml) → List (Yaml × Yaml) → Bool
  | [], [] => true
  | (k, x) :: xs, (l, y) :: ys => k.sameKey l && x.sameKey y && sameEntries xs ys
  | _, _ => false

end

/-- The value of a key among entries. -/
def valueOf? (entries : List (Yaml × Yaml)) (key : Yaml) : Option Yaml :=
  (entries.find? fun entry => entry.1.sameKey key).map Prod.snd

/-- The entry of a mapping under a name. -/
def get? (yaml : Yaml) (name : String) : Option Yaml :=
  match yaml with
  | mapping entries => valueOf? entries (string name)
  | _ => none

def string? : Yaml → Option String
  | string text => some text
  | _ => none

/-- A value that does not change, so that a mapping can be looked up by it: a scalar, or a
collection of scalars. -/
def isScalar : Yaml → Bool
  | sequence _ | mapping _ => false
  | _ => true

def canBeKey : Yaml → Bool
  | sequence items => items.all isScalar
  | mapping entries => entries.all fun entry => entry.2.isScalar
  | _ => true

/-- How messages show a mapping: in braces, or as the list of its entries. -/
inductive Display where
  | braces
  | entries

def Display.mapping (display : Display) (keys values : List String) : String :=
  match display with
  | braces =>
    let entry (key value : String) : String := key ++ ": " ++ value
    "\x7b" ++ String.intercalate ", " (List.zipWith entry keys values) ++ "\x7d"
  | entries =>
    let entry (key value : String) : String := "(" ++ key ++ ", " ++ value ++ ")"
    if keys.isEmpty then "ordereddict()"
    else "ordereddict([" ++ String.intercalate ", " (List.zipWith entry keys values) ++ "])"

mutual

/-- The value as messages show it. -/
def shown (display : Display) : Yaml → String
  | null => "None"
  | bool true => "True"
  | bool false => "False"
  | int value => toString value
  | float value => value.text
  | string text => Text.quoted text
  | sequence items => "[" ++ String.intercalate ", " (shownItems display items) ++ "]"
  | mapping entries => display.mapping (shownKeys display entries) (shownValues display entries)
  | foreign shown => shown

def shownItems (display : Display) : List Yaml → List String
  | [] => []
  | item :: rest => item.shown display :: shownItems display rest

def shownKeys (display : Display) : List (Yaml × Yaml) → List String
  | [] => []
  | (key, _) :: rest => key.shown display :: shownKeys display rest

def shownValues (display : Display) : List (Yaml × Yaml) → List String
  | [] => []
  | (_, value) :: rest => value.shown display :: shownValues display rest

end

end Yaml

end PlcLint
