import PlcLint.Text.Quoted

/-!
JSON values. Numbers keep their text, so that none loses digits; objects keep the order of
their members.
-/

namespace PlcLint

inductive Json where
  | null
  | bool (value : Bool)
  | number (text : String)
  | string (text : String)
  | array (items : List Json)
  | object (members : List (String × Json))

namespace Json

instance : Inhabited Json := ⟨null⟩

def ofInt (value : Int) : Json := number (toString value)

def ofNat (value : Nat) : Json := number (toString value)

def isNull : Json → Bool
  | null => true
  | _ => false

def bool? : Json → Option Bool
  | bool value => some value
  | _ => none

def string? : Json → Option String
  | string text => some text
  | _ => none

def array? : Json → Option (List Json)
  | array items => some items
  | _ => none

def object? : Json → Option (List (String × Json))
  | object members => some members
  | _ => none

/-- The value of a number that is written without fraction and exponent. -/
def int? : Json → Option Int
  | number text => text.toInt?
  | _ => none

/-- The last member of this name. -/
def get? (json : Json) (name : String) : Option Json :=
  match json with
  | object members => members.reverse.lookup name
  | _ => none

/-- A member that is present and not `null`. -/
def given? (json : Json) (name : String) : Option Json :=
  (json.get? name).filter fun value => !value.isNull

mutual

/-- Nesting depth; it bounds the depth of what is read from a value. -/
def depth : Json → Nat
  | array items => depthOfItems items + 1
  | object members => depthOfMembers members + 1
  | null | bool _ | number _ | string _ => 1

def depthOfItems : List Json → Nat
  | [] => 0
  | item :: rest => max item.depth (depthOfItems rest)

def depthOfMembers : List (String × Json) → Nat
  | [] => 0
  | (_, value) :: rest => max value.depth (depthOfMembers rest)

end

def escapeChar (c : Char) : List Char :=
  if c = '"' || c = '\\' then ['\\', c]
  else if c = '\n' then ['\\', 'n']
  else if c.toNat < 0x20 then '\\' :: 'u' :: Text.hexText 4 c.toNat
  else [c]

def renderString (text : String) : String :=
  String.ofList ('"' :: text.toList.flatMap escapeChar ++ ['"'])

mutual

def render : Json → String
  | null => "null"
  | bool true => "true"
  | bool false => "false"
  | number text => text
  | string text => renderString text
  | array items => "[" ++ String.intercalate "," (renderItems items) ++ "]"
  | object members => "\x7b" ++ String.intercalate "," (renderMembers members) ++ "\x7d"

def renderItems : List Json → List String
  | [] => []
  | item :: rest => item.render :: renderItems rest

def renderMembers : List (String × Json) → List String
  | [] => []
  | (name, value) :: rest => (renderString name ++ ":" ++ value.render) :: renderMembers rest

end

end Json

end PlcLint
