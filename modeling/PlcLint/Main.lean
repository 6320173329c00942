import PlcLint.Command
import PlcLint.Json.Parser
import PlcLint.Reading.Content
import PlcLint.Reading.Source

/-!
The program: it takes the files below the working directory, runs the command line on them, and
writes what is new to the cache.
-/

namespace PlcLint.Main

/-- What a file on disk holds, told by the ending of its name. -/
def contentOf (name text : String) : Content :=
  let read := if Plugin.isPluginName name then (Json.parse? text).bind Reading.plugin?
    else if ".pkl".toList.isSuffixOf name.toList then (Json.parse? text).bind Reading.stored?
    else none
  read.getD (.text text)

/-- Adds a file, or a directory and all that is below it. -/
partial def addEntry (files : FileTree) (place : String) (entry : IO.FS.DirEntry) :
    IO FileTree := do
  let place := if place = "" then entry.fileName else place ++ "/" ++ entry.fileName
  if ← entry.path.isDir then
    let mut files := files.addDirectories [place]
    for inner in ← entry.path.readDir do
      files ← addEntry files place inner
    return files
  else
    let text ← try IO.FS.readFile entry.path catch _ => pure ""
    return files.write place (contentOf entry.fileName text)

/-- The files below the working directory. -/
def snapshot : IO FileTree := do
  let mut files : FileTree := {}
  for entry in ← (← IO.currentDir).readDir do
    files ← addEntry files "" entry
  return files

/-- Writes stored results that were not there before. -/
def save (before after : FileTree) : IO Unit := do
  for (path, content) in after.files.entries do
    match content, before.files.find? path with
    | .parsed results, none =>
      IO.FS.createDirAll (Path.join (Path.parts path).dropLast)
      IO.FS.writeFile path (Reading.storedJson results).render
    | _, _ => pure ()

def report (run : Command.Run) : IO UInt32 := do
  let errors ← IO.getStderr
  for notice in run.notices do
    errors.putStrLn notice.text
  match run.outcome with
  | .misused =>
    errors.putStrLn "Usage: [-s SETTINGS] [--plugin PATH]... (list | lint OPTIONS)"
    return 2
  | .failed fault =>
    errors.putStrLn ("Error: " ++ fault.message?.getD (toString (repr fault)))
    return 1
  | .finished exitCode output printed =>
    IO.print (output ++ String.join printed)
    return exitCode.toUInt32

end PlcLint.Main

def main (args : List String) : IO UInt32 := do
  let files ← PlcLint.Main.snapshot
  let run := PlcLint.Command.run .json .asGiven files args
  PlcLint.Main.save files run.files
  PlcLint.Main.report run
