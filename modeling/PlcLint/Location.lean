import PlcLint.FileTree
import PlcLint.Notice
import PlcLint.Syntax.Expr

/-!
Where a finding points: a file, a place in the code, and a line of the text around it.
-/

namespace PlcLint

structure Location where
  file : Option String
  block : Option String := none
  routine : Option String := none
  /-- Lines and columns in the file. -/
  inFile : Extent := {}
  /-- The declaration or implementation text, and lines and columns in it. -/
  source : Option String := none
  inSource : Extent := {}

namespace Location

def fileText (location : Location) : String := location.file.getD "None"

/-- The line that the finding is about, if it can be told. -/
def errorLine (location : Location) (files : FileTree) : Logged (Option String) :=
  match location.source, location.inSource.line, location.inFile.line with
  | some source, some line, _ =>
    let all := Text.lines source
    if line > all.length then do
      Logged.warn ("Source line " ++ toString line ++ " out of range for source " ++ source
        ++ " (no. lines: " ++ toString all.length ++ ")")
      return none
    else match Text.item? all (line - 1) with
      | some text => return some text
      | none => throw .lineOutOfRange
  | _, _, some line => return some (← Logged.ofExcept (files.line location.fileText line))
  | _, _, none => return none

/-- The place in words. -/
def heading (location : Location) : String :=
  "In " ++ location.fileText ++
    match location.block, location.routine with
    | none, _ => ""
    | some block, none => " in function block " ++ block
    | some block, some routine => " in function block " ++ block ++ " in method " ++ routine

/-- Blanks up to a column; tabs are kept, so that what follows stands below its column. -/
def indent (line : String) (column : Int) : String :=
  String.ofList ((line.toList.take (column - 1).toNat).map fun c => if c = '\t' then c else ' ')

def carets (column : Int) (endColumn : Option Int) : String :=
  String.ofList (List.replicate (max ((endColumn.getD column) - column) 1).toNat '^')

/-- The line that marks columns of the line above it. -/
def marker (line : String) (column : Int) (endColumn : Option Int) : String :=
  indent line column ++ carets column endColumn

/-- Lines up to the marked one, the marker, and lines behind it. -/
def excerpt (before : List String) (extent : Extent) (behind : Option (List String)) : String :=
  let marked := match extent.column with
    | some column => "\n" ++ marker (before.getLast?.getD "") column extent.endColumn
    | none => ""
  let rest := match behind with
    | some lines => "\n" ++ Text.joinLines lines
    | none => ""
  Text.joinLines before ++ marked ++ rest

def shownNumber (number : Option Int) : String := (number.map toString).getD "None"

/-- The place and what stands there, with up to `size` lines around it. -/
def pretty (location : Location) (files : FileTree) (size : Int := 2) : Except Fault String :=
  match location.source, location.inSource.line, location.inFile.line with
  | some source, some line, _ =>
    let all := Text.lines source
    let before := Text.slice all (max (line - size) 0) line
    let behind := Text.slice all line (min (line + size) all.length)
    .ok (location.heading ++ " in line " ++ toString line ++ ":"
      ++ shownNumber location.inSource.column ++ "\n\n"
      ++ excerpt before location.inSource (some behind))
  | _, _, some line =>
    match location.file with
    | none => .error .noFile
    | some file =>
      if files.has (Path.normal file) then do
        let text ← files.line file line
        return location.heading ++ "\n\n" ++ excerpt [text] location.inFile none
      else .ok location.heading
  | _, _, none => .ok location.heading

end Location

end PlcLint
