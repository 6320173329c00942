import PlcLint.Fault
import PlcLint.Json.Basic
import PlcLint.Table
import PlcLint.Text.Encoding
import PlcLint.Text.Lines

/-!
The files below a working directory, as a value. Paths are relative, with `/` between their
parts; directories stay when their files go.
-/

namespace PlcLint

/-- A check as a plug-in declares it: it gives its messages for every object of its kind. -/
structure PluginCheck where
  code : String
  target : String
  name : String := "check"
  doc : String := ""
  messages : List String := []

/-- A result of parsing as it is stored: its name, its plain data, and the texts of the XML data
that it holds. -/
structure StoredResult where
  name : Option String
  content : Json
  xml : List String := []

/-- What a file holds: a text, the checks of a plug-in, results of parsing that were stored, or
the beginning of results that could not be stored. -/
inductive Content where
  | text (value : String)
  | plugin (checks : List PluginCheck)
  | parsed (results : List StoredResult)
  | unfinished

def Content.text? : Content → Option String
  | text value => some value
  | plugin _ | parsed _ | unfinished => none

structure FileTree where
  files : Table Content := {}
  directories : List String := []

namespace Path

/-- The pieces of a path between its slashes. -/
def pieces (path : String) : List String := (path.toList.splitOn '/').map String.ofList

/-- The parts of a path; `.` and empty parts mean nothing. -/
def parts (path : String) : List String :=
  (pieces path).filter fun part => part != "" && part != "."

def isAbsolute (path : String) : Bool := path.toList.head? == some '/'

def join (parts : List String) : String := String.intercalate "/" parts

/-- A path that ends in a slash or a dot. -/
def namesDirectory (path : String) : Bool :=
  let last := (pieces path).getLast?.getD ""
  last = "" || last = "."

/-- A path in its shortest spelling; the working directory itself is `.`. -/
def normal (path : String) : String :=
  let text := join (parts path)
  if isAbsolute path then "/" ++ text else if text = "" then "." else text

/-- A path below a directory. -/
def below (directory path : String) : String := normal (normal directory ++ "/" ++ path)

/-- The last part of a path. -/
def name (path : String) : String := (parts path).getLast?.getD ""

/-- The directories above a file or directory, outermost first. -/
def ancestors (path : String) : List String :=
  let all := parts path
  ((List.range all.length).drop 1).map fun count => join (all.take count)

end Path

namespace FileTree

def isDirectory (tree : FileTree) (place : List String) : Bool :=
  place.isEmpty || tree.directories.contains (Path.join place)

/-- Follows the parts of a path; a step up needs a directory to step up from. -/
def walk (tree : FileTree) : List String → List String → Option (List String)
  | place, [] => some place
  | place, part :: rest =>
    if part = ".." then
      if tree.isDirectory place && !place.isEmpty then walk tree place.dropLast rest else none
    else walk tree (place ++ [part]) rest

/-- The place in the tree that a path leads to; a path that ends in a slash or a dot leads to a
directory. -/
def resolve? (tree : FileTree) (path : String) : Option String :=
  if Path.isAbsolute path then none
  else match tree.walk [] (Path.parts path) with
    | none => none
    | some place =>
      if Path.namesDirectory path && !tree.isDirectory place then none
      else some (Path.join place)

def file? (tree : FileTree) (path : String) : Option Content :=
  (tree.resolve? path).bind tree.files.find?

def hasDirectory (tree : FileTree) (path : String) : Bool :=
  match tree.resolve? path with
  | some place => place = "" || tree.directories.contains place
  | none => false

def has (tree : FileTree) (path : String) : Bool :=
  (tree.file? path).isSome || tree.hasDirectory path

def addDirectories (tree : FileTree) (paths : List String) : FileTree :=
  let add (known : List String) (path : String) : List String :=
    if known.contains path then known else known ++ [path]
  { tree with directories := paths.foldl add tree.directories }

/-- The place at which a file of this path is written. -/
def target (tree : FileTree) (path : String) : String :=
  (tree.resolve? path).getD (Path.join (Path.parts path))

/-- Writes a file, with the directories that it needs. -/
def write (tree : FileTree) (path : String) (content : Content) : FileTree :=
  let place := tree.target path
  let tree := tree.addDirectories (Path.ancestors place)
  { tree with files := tree.files.put place content }

/-- A directory that has to be there; a file in its place, or above it, is in the way. -/
def makeDirectory (tree : FileTree) (path : String) : Except Fault FileTree :=
  let place := tree.target path
  if (Path.ancestors place).any tree.files.contains then .error .notADirectory
  else if tree.files.contains place then .error .fileExists
  else if place = "" then .ok tree
  else .ok (tree.addDirectories (Path.ancestors place ++ [place]))

/-- The text of a file. -/
def read (tree : FileTree) (path : String) : Except Fault String :=
  match tree.file? path with
  | some (.text value) => .ok value
  | some _ => .error .malformedSource
  | none =>
    if tree.hasDirectory path then .error .isADirectory
    else if (Path.ancestors (tree.target path)).any tree.files.contains then .error .notADirectory
    else .error .fileNotFound

/-- The names in a directory, in increasing order. -/
def children (tree : FileTree) (path : String) : List String :=
  match tree.resolve? path with
  | none => []
  | some place =>
    let parent := Path.parts place
    let names := (tree.files.names ++ tree.directories).filterMap fun found =>
      let parts := Path.parts found
      if parts.dropLast == parent then parts.getLast? else none
    (names.mergeSort fun a b => decide (a ≤ b)).eraseReps

def remove (tree : FileTree) (path : String) : FileTree :=
  let place := Path.join (Path.parts path)
  { tree with files := ⟨tree.files.entries.filter (·.1 != place)⟩ }

def ofList (files : List (String × Content)) : FileTree :=
  files.foldl (fun tree (path, content) => tree.write path content) {}

/-- The characters of a file of source code; none if they cannot be told. -/
def sourceChars (text : String) : Except Fault (List Char) :=
  let (marked, chars) := match text.toList with
    | c :: rest => if c.toNat = 0xFEFF then (true, rest) else (false, c :: rest)
    | [] => (false, [])
  match Text.Encoding.ofLines? marked ((Text.splitLines chars).take 2) with
  | none => .ok []
  | some .unmarked => .error .noByteOrder
  | some .binary => .error .notATextEncoding
  | some encoding => .ok ((encoding.reread? (String.ofList chars)).getD [])

/-- A line of a file, counted from one; nothing if there is no such line or no such file. A name
in angle brackets is not the name of a file. -/
def line (tree : FileTree) (path : String) (number : Int) : Except Fault String :=
  let chars := path.toList
  if chars.head? = some '<' && chars.getLast? = some '>' then .ok ""
  else if chars.contains '\x00' then .error .nullInPath
  else match (tree.file? path).bind Content.text? with
    | some text => (sourceChars text).map fun chars => Text.lineOf chars number
    | none => .ok ""

def paths (tree : FileTree) : List String :=
  tree.files.names.mergeSort fun a b => decide (a ≤ b)

end FileTree

end PlcLint
