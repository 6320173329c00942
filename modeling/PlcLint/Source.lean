import PlcLint.Notice
import PlcLint.Parser
import PlcLint.Sha256

/-!
Source files and the results of parsing them. Results are stored in a cache directory under a
digest of the file that they come from, so that a file is parsed again only if it has changed.
Files that are parsed at once are taken and finished in an order that nobody has a say in.
-/

namespace PlcLint

namespace Source

section

variable {Item : Type} (parser : Parser Item)

/-- Smaller files hold no source code. -/
def leastSize : Nat := 10

/-- The source items in a file of this text. -/
def items (path text : String) : Except Fault (List Item) :=
  if text.utf8ByteSize < leastSize then .ok []
  else do return (← parser.load path text).flatMap SourcePiece.parts

/-- The source items of a file. -/
def itemsOf (files : FileTree) (path : String) : Except Fault (List Item) := do
  items parser (Path.normal path) (← files.read (Path.normal path))

/-- The results of parsing a file of this text. -/
def parse (path text : String) : Except Fault (List ParseResult) := do
  return (← (← items parser path text).mapM parser.parse).flatten

end

/-- Files, notices and results after parsing. -/
structure Parsed where
  files : FileTree
  notices : List Notice := []
  outcome : Except Fault (List ParseResult)

/-- The digest of a file's text, for this version of the parser. -/
def digest (version text : String) : String :=
  Sha256.digest (version.toUTF8.toList ++ text.toUTF8.toList)

/-- Where the results for a file of this text are stored. -/
def entryPath (version directory path text : String) : String :=
  Path.below directory (Path.name path ++ "." ++ digest version text ++ ".pkl")

def parsing (path : String) : Notice := ⟨.info, "Parsing " ++ path⟩

def usingCache (path : String) : Notice := ⟨.info, "Using cached file for " ++ Path.name path⟩

/-- The results in an entry. -/
def ofEntry : Content → Except Fault (List ParseResult)
  | .parsed stored => stored.mapM ParseResult.ofStored
  | .text _ | .plugin _ | .unfinished => .error .brokenEntry

/-- Stores results, and gives them back as they are. What cannot be stored leaves an entry that
is not finished. -/
def store (files : FileTree) (directory entry : String) (found : List ParseResult) :
    FileTree × Except Fault (List ParseResult) :=
  match files.makeDirectory directory with
  | .error fault => (files, .error fault)
  | .ok files =>
    match found.mapM ParseResult.stored with
    | .ok stored => (files.write entry (.parsed stored), .ok found)
    | .error fault => (files.write entry .unfinished, .error fault)

section

variable {Item : Type} (parser : Parser Item)

/-- Parses a file without looking at a cache. -/
def parseFresh (files : FileTree) (path : String) : Parsed where
  files := files
  notices := [parsing path]
  outcome := do parse parser path (← files.read path)

/-- Parses a file, or takes the results for its text from a cache directory. -/
def parseCached (directory : String) (files : FileTree) (path : String) : Parsed :=
  match files.read path with
  | .error fault => { files := files, outcome := .error fault }
  | .ok text =>
    let entry := entryPath parser.version directory path text
    match files.file? entry with
    | some content => { files := files, notices := [usingCache path], outcome := ofEntry content }
    | none =>
      if files.hasDirectory entry then
        { files := files, notices := [usingCache path], outcome := .error .isADirectory }
      else match parse parser path text with
        | .error fault => { files := files, notices := [parsing path], outcome := .error fault }
        | .ok found =>
          let (files, outcome) := store files directory entry found
          { files := files, notices := [parsing path], outcome := outcome }

/-- Parses one file, with a cache directory or without. -/
def parseFile (directory : Option String) (files : FileTree) (path : String) : Parsed :=
  match directory with
  | some directory => parseCached parser directory files (Path.normal path)
  | none => parseFresh parser files (Path.normal path)

/-- Parses files one after the other, up to the first that fails. -/
def parseInTurn (directory : Option String) (files : FileTree) : List String → Parsed
  | [] => { files := files, outcome := .ok [] }
  | path :: rest =>
    let first := parseFile parser directory files path
    match first.outcome with
    | .error fault => { first with outcome := .error fault }
    | .ok found =>
      let later := parseInTurn directory first.files rest
      { files := later.files
        notices := first.notices ++ later.notices
        outcome := later.outcome.map (found ++ ·) }

/-- What another process receives: results go the same way as those that are stored. -/
def received : Except Fault (List ParseResult) → Except Fault (List ParseResult)
  | .error fault => .error fault.received
  | .ok found => do
    let stored ← found.mapM ParseResult.stored
    match stored.mapM ParseResult.ofStored with
    | .ok found => .ok found
    | .error _ => .error .brokenPool

/-- A file that a worker is done with. -/
structure Finished where
  path : String
  outcome : Except Fault (List ParseResult)

/-- Workers parse all files, also those behind one that fails. -/
def work (directory : Option String) (files : FileTree) :
    List String → FileTree × List Finished
  | [] => (files, [])
  | path :: rest =>
    let first := parseFile parser directory files path
    let (files, later) := work directory first.files rest
    (files, ⟨path, received first.outcome⟩ :: later)

end

/-- The results of all files, up to the first that has failed. -/
def collect : List Finished → Logged (List ParseResult)
  | [] => return []
  | finished :: rest => do
    let found ← Logged.ofExcept finished.outcome
    Logged.note .info ("Parsed " ++ Path.name finished.path)
    return found ++ (← collect rest)

/-- The order in which workers take files, and the order in which the files are finished. -/
structure Schedule where
  taken : List String → List String
  finished : List Finished → List Finished
  taken_perm : ∀ paths, (taken paths).Perm paths
  finished_perm : ∀ done, (finished done).Perm done

/-- Files are taken and finished in the order in which they are given. -/
def Schedule.asGiven : Schedule := ⟨id, id, fun _ => .refl _, fun _ => .refl _⟩

/-- Parses all files at once. -/
def parseTogether {Item : Type} (parser : Parser Item) (schedule : Schedule)
    (directory : Option String) (files : FileTree) (paths : List String) : Parsed :=
  let (files, done) := work parser directory files (schedule.taken paths)
  let (outcome, notices) := (collect (schedule.finished done)).outcome
  { files := files
    notices := ⟨.info, "Submitting files for parsing..."⟩
      :: ⟨.info, toString paths.length ++ " files submitted for parsing"⟩ :: notices
    outcome := outcome }

end Source

end PlcLint
