import PlcLint.Text.Lines
import PlcLint.Yaml.Node
import PlcLint.Yaml.Scalar

/-!
Values read from YAML text. Of several faults in the values of a text, one in a shallow sequence
is met before one in a sequence inside it; inside a mapping they are met in their order.
-/

namespace PlcLint.Yaml

/-- Adds the entries of a mapping under keys that are not there yet. -/
def mergeEntries (entries more : List (Yaml × Yaml)) : List (Yaml × Yaml) :=
  more.foldl (fun entries (key, value) =>
    if (valueOf? entries key).isSome then entries else entries ++ [(key, value)]) entries

namespace Node

def isMergeKey : Node → Bool
  | scalar .merge _ _ => true
  | _ => false

/-- Adds an entry under a key that is new. -/
def insertNew (entries : List (Yaml × Yaml)) (key value : Yaml) :
    Except Fault (List (Yaml × Yaml)) :=
  if !key.canBeKey then .error .yamlKey
  else if (valueOf? entries key).isSome then .error .yamlDuplicateKey
  else .ok (entries ++ [(key, value)])

/-- What the tag of a collection asks for. -/
inductive Demand where
  | items
  | entries
  | orderedEntries
  | pairs
  | members
  /-- The tag says nothing about collections. -/
  | anything
  /-- The tag is one of scalars. -/
  | scalar

def demand : Tag → Demand
  | .sequence => .items
  | .mapping => .entries
  | .orderedMapping => .orderedEntries
  | .pairs => .pairs
  | .set => .members
  | .other _ | .merge | .default => .anything
  | .null | .bool | .int | .float | .string | .timestamp | .binary => .scalar

/-- Faults of a collection whose tag is not known are not told apart. -/
def undistinguished {α : Type} (result : Except Fault α) : Except Fault α :=
  match result with
  | .ok value => .ok value
  | .error _ => .error .yamlConstruct

mutual

/-- The value of a node. -/
def value (minor : Nat) : Node → Except Fault Yaml
  | cycle => .error .yamlCycle
  | scalar tag anchored text => Scalar.value minor tag anchored text
  | sequence tag items =>
    match demand tag with
    | .items => return .sequence (← itemValues minor items)
    | .anything => return .sequence (← undistinguished (itemValues minor items))
    | .orderedEntries => return .mapping (← orderedEntries minor [] items)
    | .pairs => return .sequence (← pairValues minor items)
    | .entries | .members | .scalar => .error .yamlConstruct
  | mapping tag entries =>
    match demand tag with
    | .entries => return .mapping (← entryValues minor entries)
    | .anything => return .mapping (← undistinguished (entryValues minor entries))
    | .members => do
      let _ ← entryValues minor entries
      return .foreign "set"
    | .items | .orderedEntries | .pairs | .scalar => .error .yamlConstruct

def itemValues (minor : Nat) : List Node → Except Fault (List Yaml)
  | [] => .ok []
  | item :: rest => do
    let first ← value minor item
    return first :: (← itemValues minor rest)

/-- The entries of a mapping: first what it takes over is read, then its own entries, which win. -/
def entryValues (minor : Nat) (entries : List (Node × Node)) :
    Except Fault (List (Yaml × Yaml)) := do
  let merged ← mergedEntries minor [] entries
  let own ← ownEntries minor [] entries
  return merged.foldl mergeEntries own

/-- The mappings that a mapping takes over, under one merge key at most. -/
def mergedEntries (minor : Nat) (found : List (List (Yaml × Yaml))) :
    List (Node × Node) → Except Fault (List (List (Yaml × Yaml)))
  | [] => .ok found
  | (key, content) :: rest =>
    if !key.isMergeKey then mergedEntries minor found rest
    else if !found.isEmpty then .error .yamlDuplicateKey
    else do
      let more ← match content with
        | sequence _ items => mergedItems minor items
        | mapping _ entries => return [← entryValues minor entries]
        | scalar _ _ _ | cycle => throw .yamlConstruct
      mergedEntries minor (found ++ more) rest

def mergedItems (minor : Nat) : List Node → Except Fault (List (List (Yaml × Yaml)))
  | [] => .ok []
  | mapping _ entries :: rest => do
    let first ← entryValues minor entries
    return first :: (← mergedItems minor rest)
  | _ :: _ => .error .yamlConstruct

/-- The entries of a mapping that are its own. -/
def ownEntries (minor : Nat) (found : List (Yaml × Yaml)) :
    List (Node × Node) → Except Fault (List (Yaml × Yaml))
  | [] => .ok found
  | (key, content) :: rest =>
    if key.isMergeKey then ownEntries minor found rest
    else do
      let name ← keyValue minor key
      let content ← value minor content
      let found ← insertNew found name content
      ownEntries minor found rest

/-- The sign of a default value is an ordinary text as a key. -/
def keyValue (minor : Nat) : Node → Except Fault Yaml
  | scalar .default _ text => .ok (.string text)
  | other => value minor other

/-- A sequence of mappings with one entry each, as one mapping. -/
def orderedEntries (minor : Nat) (found : List (Yaml × Yaml)) :
    List Node → Except Fault (List (Yaml × Yaml))
  | [] => .ok found
  | mapping _ [(key, content)] :: rest => do
    let name ← value minor key
    let content ← value minor content
    orderedEntries minor (← insertNew found name content) rest
  | _ :: _ => .error .yamlConstruct

def pairValues (minor : Nat) : List Node → Except Fault (List Yaml)
  | [] => .ok []
  | mapping _ [(key, content)] :: rest => do
    let name ← value minor key
    let content ← value minor content
    return .sequence [name, content] :: (← pairValues minor rest)
  | _ :: _ => .error .yamlConstruct

end

/-- A fault with the number of sequences around it. -/
abbrev Leveled := Except (Nat × Fault)

def atLevel {α : Type} (level : Nat) (result : Except Fault α) : Leveled α :=
  match result with
  | .ok value => .ok value
  | .error fault => .error (level, fault)

mutual

/-- The value of a node, with the level of its first fault. -/
def leveledValue (minor level : Nat) : Node → Leveled Yaml
  | sequence .sequence items => return .sequence (← leveledItems minor (level + 1) items)
  | sequence tag items => atLevel (level + 1) (value minor (sequence tag items))
  | mapping tag entries => atLevel (level + 1) (value minor (mapping tag entries))
  | other => atLevel level (value minor other)

/-- Of two faults the one in the shallower sequence is met first. -/
def leveledItems (minor level : Nat) : List Node → Leveled (List Yaml)
  | [] => .ok []
  | item :: rest =>
    match leveledValue minor level item, leveledItems minor level rest with
    | .ok first, .ok more => .ok (first :: more)
    | .ok _, .error later => .error later
    | .error first, .ok _ => .error first
    | .error first, .error later => .error (if later.1 < first.1 then later else first)

end

end Node

/-- The value of the document in a text; an empty text stands for nothing. -/
def load (text : String) : Except Fault Yaml :=
  let chars := Text.unifyLineEnds text.toList
  if !chars.all isPrintable then .error .yamlCharacter
  else do
    let (node, minor) ← Node.ofText chars
    match node with
    | none => return .null
    | some node =>
      match node.leveledValue minor 0 with
      | .ok value => return value
      | .error (_, fault) => throw fault

end PlcLint.Yaml
