import PlcLint.Text.Letters

/-!
Tables of named entries. A table keeps the order in which its names first came; a later entry
of the same name takes the place of the earlier one.
-/

namespace PlcLint

structure Table (α : Type) where
  entries : List (String × α) := []

namespace Table

variable {α β : Type}

instance : Inhabited (Table α) := ⟨⟨[]⟩⟩

def putEntry (name : String) (value : α) : List (String × α) → List (String × α)
  | [] => [(name, value)]
  | entry :: rest =>
    if entry.1 = name then (name, value) :: rest else entry :: putEntry name value rest

def put (table : Table α) (name : String) (value : α) : Table α :=
  ⟨putEntry name value table.entries⟩

/-- The entries of `later` put into `table` one after the other. -/
def update (table later : Table α) : Table α :=
  later.entries.foldl (fun acc entry => acc.put entry.1 entry.2) table

def ofList (entries : List (String × α)) : Table α :=
  entries.foldl (fun acc entry => acc.put entry.1 entry.2) ⟨[]⟩

def names (table : Table α) : List String := table.entries.map Prod.fst

def values (table : Table α) : List α := table.entries.map Prod.snd

def map (f : α → β) (table : Table α) : Table β :=
  ⟨table.entries.map fun entry => (entry.1, f entry.2)⟩

/-- The entry of exactly this name. -/
def find? (table : Table α) (name : String) : Option α := table.entries.lookup name

def contains (table : Table α) (name : String) : Bool := (table.find? name).isSome

/-- The entry of this name, with the name as the table spells it: the exact one if there is
one, else the first that agrees when case is ignored. -/
def findNamed? (table : Table α) (name : String) : Option (String × α) :=
  match table.find? name with
  | some value => some (name, value)
  | none =>
    let key := Text.lower name
    table.entries.find? fun entry => Text.lower entry.1 == key

/-- The entry of this name, ignoring case, without its spelling. -/
def findFolded? (table : Table α) (name : String) : Option α :=
  (table.findNamed? name).map Prod.snd

end Table

/-- Membership of a name in a list of names, ignoring case. -/
def hasName (names : List String) (name : String) : Bool :=
  names.contains name || names.any (Text.sameName · name)

end PlcLint
