import PlcLint.FileTree
import PlcLint.Text.Wildcard

/-!
Paths in a file tree that match a pattern. The parts of a pattern are wildcard patterns for
names; `**` stands for any number of directories. Names that start with a dot are matched only
by patterns that do.
-/

namespace PlcLint.Glob

/-- A path without its last part, and the last part; a path that ends in a slash has an empty
one. -/
def split (path : String) : String × String :=
  let reversed := path.toList.reverse
  let base := (reversed.takeWhile (· != '/')).reverse
  let lead := reversed.dropWhile (· != '/')
  let stripped := lead.dropWhile (· = '/')
  let directory := if stripped.isEmpty then lead else stripped
  (String.ofList directory.reverse, String.ofList base)

/-- Two paths one below the other; an empty one means nothing. -/
def join (directory name : String) : String :=
  if directory = "" then name
  else if directory.toList.getLast? == some '/' then directory ++ name
  else directory ++ "/" ++ name

/-- As `join`, without a slash behind a directory. -/
def place (directory name : String) : String :=
  if name = "" then directory else join directory name

def isHidden (name : String) : Bool := name.toList.head? == some '.'

def isRecursive (pattern : String) : Bool := pattern = "**"

/-- The names in a directory, or of its directories only. -/
def namesIn (files : FileTree) (directory : String) (directoriesOnly : Bool) : List String :=
  if files.hasDirectory directory then
    (files.children directory).filter fun name =>
      !directoriesOnly || files.hasDirectory (place directory name)
  else []

/-- The names in a directory that match a pattern. -/
def matching (files : FileTree) (directory pattern : String) (directoriesOnly : Bool) :
    List String :=
  (namesIn files directory directoriesOnly).filter fun name =>
    (isHidden pattern || !isHidden name) && Text.wildcardMatch pattern name

/-- All paths below a directory; the number bounds their depth. -/
def descendants (files : FileTree) (directoriesOnly : Bool) : Nat → String → List String
  | 0, _ => []
  | depth + 1, directory =>
    ((namesIn files directory directoriesOnly).filter (!isHidden ·)).flatMap fun name =>
      name :: (descendants files directoriesOnly depth (place directory name)).map (place name)

/-- A directory itself, be it there or not, and all paths below it. -/
def recursive (files : FileTree) (directory : String) (directoriesOnly : Bool) : List String :=
  "" :: descendants files directoriesOnly (files.directories.length + 1) directory

/-- The name itself if there is such a file or directory. -/
def literal (files : FileTree) (directory name : String) : List String :=
  let found := if name = "" then files.hasDirectory directory
    else files.has (place directory name)
  if found then [name] else []

/-- The names in a directory that the last part of a pattern stands for. -/
def lastPart (files : FileTree) (directory pattern : String) (directoriesOnly : Bool) :
    List String :=
  if isRecursive pattern then recursive files directory directoriesOnly
  else if Text.Wildcard.isPattern pattern then matching files directory pattern directoriesOnly
  else literal files directory pattern

/-- The paths below a root that match a pattern; the number bounds its parts. -/
def expandFrom (files : FileTree) (root : String) : Nat → Bool → String → List String
  | 0, _, _ => []
  | fuel + 1, directoriesOnly, pattern =>
    let (directory, base) := split pattern
    if !Text.Wildcard.isPattern pattern then
      let found := if base = "" then files.hasDirectory (place root directory)
        else files.has (place root pattern)
      if found then [pattern] else []
    else if directory = "" then lastPart files root base directoriesOnly
    else
      let directories := if Text.Wildcard.isPattern directory && directory != pattern then
          expandFrom files root fuel true directory
        else [directory]
      directories.flatMap fun directory =>
        (lastPart files (place root directory) base directoriesOnly).map (join directory)

end Glob

/-- The paths below a root directory that match a pattern, the root itself left out. -/
def FileTree.glob (files : FileTree) (root pattern : String) : List String :=
  let found := Glob.expandFrom files root (pattern.length + 1) false pattern
  if pattern = "" || "**".toList.isPrefixOf pattern.toList then
    match found with
    | "" :: rest => rest
    | _ => found
  else found

end PlcLint
