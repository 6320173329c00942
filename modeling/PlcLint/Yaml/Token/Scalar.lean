import PlcLint.Fault
import PlcLint.Yaml.Cursor
import PlcLint.Yaml.Tag

/-!
The text of a scalar at a place: in quotes, plain, or as a block of lines.
-/

namespace PlcLint.Yaml.ScalarText

/-- What one character behind a backslash stands for. -/
def escapes : List (Char × Nat) :=
  [('0', 0), ('a', 7), ('b', 8), ('t', 9), ('\t', 9), ('n', 10), ('v', 11), ('f', 12), ('r', 13),
    ('e', 27), (' ', 32), ('"', 34), ('/', 47), ('\\', 92), ('N', 0x85), ('_', 0xA0),
    ('L', 0x2028), ('P', 0x2029)]

/-- How many hexadecimal digits an escape has. -/
def escapeWidths : List (Char × Nat) := [('x', 2), ('u', 4), ('U', 8)]

def hexValue (digits : List Char) : Nat :=
  digits.foldl (fun value c =>
    16 * value + (if c.isDigit then c.toNat - '0'.toNat else c.toLower.toNat - 'a'.toNat + 10)) 0

/-- The number of an escape with `width` digits, at the first of them. -/
def code (width : Nat) (here : Cursor) : Except Fault (Nat × Cursor) :=
  let digits := here.rest.take width
  if digits.length = width && digits.all Tag.isHexDigit then
    .ok (hexValue digits, here.advanceBy width)
  else .error .yamlScan

def isHighSurrogate (number : Nat) : Bool := 0xD800 ≤ number && number ≤ 0xDBFF

def isLowSurrogate (number : Nat) : Bool := 0xDC00 ≤ number && number ≤ 0xDFFF

/-- The character of a number. Two halves of a character that stand side by side are joined; a
half alone has no character. -/
def character (number : Nat) (here : Cursor) : Except Fault (Char × Cursor) :=
  if 0x7FFFFFFF < number then .error .yamlCodeOverflow
  else if 0x10FFFF < number then .error .yamlCodePoint
  else if isHighSurrogate number && here.startsWith "\\u" then
    match code 4 (here.advanceBy 2) with
    | .ok (low, behind) =>
      if isLowSurrogate low then
        .ok (Char.ofNat (0x10000 + (number - 0xD800) * 0x400 + (low - 0xDC00)), behind)
      else .ok (Char.ofNat 0xFFFD, here)
    | .error _ => .ok (Char.ofNat 0xFFFD, here)
  else if isHighSurrogate number || isLowSurrogate number then .ok (Char.ofNat 0xFFFD, here)
  else .ok (Char.ofNat number, here)

/-- Empty lines inside quotes, and the blanks of the line behind them. No document may start or
end there. -/
def quotedBreaks : Nat → List Char → Cursor → Except Fault (List Char × Cursor)
  | 0, _, _ => .error .yamlScan
  | fuel + 1, done, here =>
    if here.atDocumentMarker then .error .yamlScan
    else
      let here := here.skip isTabOrSpace
      match here.lineBreak? with
      | some (c, here) => quotedBreaks fuel (c :: done) here
      | none => .ok (done.reverse, here)

/-- Blanks or a fold of lines inside quotes. -/
def quotedGap (here : Cursor) : Except Fault (List Char × Cursor) :=
  let (blanks, here) := here.span isTabOrSpace
  if here.peek = endSign then .error .yamlScan
  else match here.lineBreak? with
    | none => .ok (blanks, here)
    | some (c, here) => do
      let (breaks, here) ← quotedBreaks (here.rest.length + 1) [] here
      let lead := if c != '\n' then [c] else if breaks.isEmpty then [' '] else []
      return (lead ++ breaks, here)

/-- What follows a backslash. -/
def escape (here : Cursor) : Except Fault (List Char × Cursor) :=
  let c := here.peek
  match escapes.lookup c, escapeWidths.lookup c with
  | some number, _ => .ok ([Char.ofNat number], here.advance)
  | none, some width => do
    let (number, here) ← code width here.advance
    let (found, here) ← character number here
    return ([found], here)
  | none, none =>
    match here.lineBreak? with
    | some (_, here) => quotedBreaks (here.rest.length + 1) [] here
    | none => .error .yamlScan

/-- The text up to the closing quote, and the place behind that. Quotes of the single kind are
doubled inside, those of the double kind escaped. -/
def quoted (quote : Char) : Nat → List Char → Cursor → Except Fault (List Char × Cursor)
  | 0, _, _ => .error .yamlScan
  | fuel + 1, done, here =>
    let c := here.peek
    if quote = '\'' && c = '\'' && here.peekAt 1 = '\'' then
      quoted quote fuel ('\'' :: done) (here.advanceBy 2)
    else if c = quote then .ok (done.reverse, here.advance)
    else if quote = '"' && c = '\\' then do
      let (chars, here) ← escape here.advance
      quoted quote fuel (chars.reverse ++ done) here
    else if isTabOrSpace c || isBreak c || c = endSign then do
      let (chars, here) ← quotedGap here
      quoted quote fuel (chars.reverse ++ done) here
    else quoted quote fuel (c :: done) here.advance

/-- What ends a run of a plain scalar; a colon does so only before a gap. -/
def plainRun (inFlow : Bool) (minor : Nat) : List Char → List Char
  | [] => []
  | c :: rest =>
    let goesOn := if c = ':' then !endsWord (rest.headD endSign)
      else if c = '?' && minor != 1 then true
      else
        !endsWord c &&
          !(inFlow && (c = ',' || c = '?' || c = '[' || c = ']' || c = '\x7b' || c = '\x7d'))
    if goesOn then c :: plainRun inFlow minor rest else []

/-- Spaces and line breaks behind a run of a plain scalar; `none` before a document marker. -/
def plainBreaks : Nat → List Char → Cursor → Option (List Char) × Cursor
  | 0, done, here => (some done.reverse, here)
  | fuel + 1, done, here =>
    let here := here.skip (· = ' ')
    match here.lineBreak? with
    | none => (some done.reverse, here)
    | some (c, here) =>
      if here.atDocumentMarker then (none, here) else plainBreaks fuel (c :: done) here

/-- What stands between two runs of a plain scalar, and whether a line ended there. -/
def plainGap (here : Cursor) : List Char × Bool × Cursor :=
  let (blanks, here) := here.span (· = ' ')
  match here.lineBreak? with
  | none => (blanks, false, here)
  | some (c, here) =>
    if here.atDocumentMarker then ([], true, here)
    else match plainBreaks (here.rest.length + 1) [] here with
      | (none, here) => ([], true, here)
      | (some breaks, here) =>
        ((if c != '\n' then [c] else if breaks.isEmpty then [' '] else []) ++ breaks, true, here)

/-- A plain scalar that has been read. -/
structure Plain where
  text : List Char
  /-- The line on which it ends. -/
  endLine : Nat
  /-- A line ended behind it, so that a key can follow. -/
  lineEnded : Bool
  /-- Empty lines stand behind it. -/
  linesBehind : Bool
  here : Cursor

/-- Runs and gaps of a plain scalar; a line that is indented less than `indent` ends it. -/
def plain (inFlow : Bool) (minor : Nat) (indent : Int) :
    Nat → List Char → List Char → Bool → Nat → Cursor → Plain
  | 0, done, gap, ended, line, here => ⟨done, line, ended, gap.head? == some '\n', here⟩
  | fuel + 1, done, gap, ended, line, here =>
    let run := if here.peek = '#' then [] else plainRun inFlow minor here.rest
    if run.isEmpty then ⟨done, line, ended, gap.head? == some '\n', here⟩
    else
      let done := done ++ gap ++ run
      let here := here.advanceBy run.length
      let line := here.line
      let (gap, ended, here) := plainGap here
      if gap.isEmpty || here.peek = '#' || (!inFlow && (here.column : Int) < indent) then
        ⟨done, line, ended, gap.head? == some '\n', here⟩
      else plain inFlow minor indent fuel done gap ended line here

/-- What becomes of the line breaks at the end of a block. -/
inductive Chomping where
  | clip
  | strip
  | keep
  deriving DecidableEq

def chomping? (c : Char) : Option Chomping :=
  if c = '+' then some .keep else if c = '-' then some .strip else none

/-- A digit for the indentation of a block. -/
def increment? (here : Cursor) : Except Fault (Option Nat × Cursor) :=
  let c := here.peek
  if c = '0' then .error .yamlScan
  else if c.isDigit then .ok (some (c.toNat - '0'.toNat), here.advance)
  else .ok (none, here)

/-- The signs behind the start of a block: chomping and indentation, in either order. -/
def blockSigns (here : Cursor) : Except Fault (Chomping × Option Nat × Cursor) := do
  let (chomping, increment, here) ← match chomping? here.peek with
    | some chomping => do
      let (increment, here) ← increment? here.advance
      pure (chomping, increment, here)
    | none => do
      let (increment, here) ← increment? here
      match increment.bind fun _ => chomping? here.peek with
      | some chomping => pure (chomping, increment, here.advance)
      | none => pure (.clip, increment, here)
  if endsName here.peek then return (chomping, increment, here) else throw .yamlScan

/-- The rest of the first line of a block: spaces and a comment. -/
def blockHeaderEnd (here : Cursor) : Except Fault (Bool × Cursor) :=
  let here := here.skip (· = ' ')
  let commented := here.peek = '#'
  let here := if commented then here.skip (!endsLine ·) else here
  if endsLine here.peek then .ok (commented, here.afterBreak) else .error .yamlScan

/-- Empty lines at the start of a block, and the deepest indentation in them and behind them. -/
def blockIndentation : Nat → List Char → Nat → Nat → Cursor → List Char × Nat × Nat × Cursor
  | 0, done, deepest, line, here => (done.reverse, deepest, line, here)
  | fuel + 1, done, deepest, line, here =>
    if here.peek = ' ' then
      let here := here.advance
      blockIndentation fuel done (max deepest here.column) line here
    else match here.lineBreak? with
      | some (c, here) => blockIndentation fuel (c :: done) deepest here.line here
      | none => (done.reverse, deepest, line, here)

/-- Spaces up to the indentation of a block. -/
def indented (indent : Nat) (here : Cursor) : Cursor :=
  here.advanceBy (min (here.rest.takeWhile (· = ' ')).length (indent - here.column))

/-- Empty lines inside a block, and the line on which they end. -/
def blockBreaks (indent : Nat) : Nat → List Char → Nat → Cursor → List Char × Nat × Cursor
  | 0, done, line, here => (done.reverse, line, here)
  | fuel + 1, done, line, here =>
    let here := indented indent here
    match here.lineBreak? with
    | some (c, here) => blockBreaks indent fuel (c :: done) here.line here
    | none => (done.reverse, line, here)

/-- A block that has been read: its text up to the last line break, that break, and the empty
lines behind it. -/
structure Block where
  text : List Char
  lastBreak : List Char
  breaks : List Char
  endLine : Nat
  here : Cursor

/-- The lines of a block. In a folded one a single break between two lines that are not
indented further is a space. A block at the margin ends at a document marker. -/
def blockLines (folded atMargin : Bool) (indent : Nat) : Nat → Block → Block
  | 0, block => block
  | fuel + 1, block =>
    let here := block.here
    if here.column != indent || here.peek = endSign then block
    else
      let flush := !isTabOrSpace here.peek
      let (line, here) := here.span (!endsLine ·)
      let text := block.text ++ block.lastBreak ++ block.breaks ++ line
      let (lastBreak, here) := match here.lineBreak? with
        | some (c, here) => ([c], here)
        | none => ([], here)
      let (breaks, endLine, here) := blockBreaks indent (here.rest.length + 1) [] here.line here
      if (atMargin && here.column = 0 && here.atDocumentMarker)
          || here.column != indent || here.peek = endSign then
        ⟨text, lastBreak, breaks, endLine, here⟩
      else
        let joined := if folded && lastBreak == ['\n'] && flush && !isTabOrSpace here.peek then
            (if breaks.isEmpty then [' '] else [])
          else lastBreak
        blockLines folded atMargin indent fuel ⟨text, joined, breaks, endLine, here⟩

/-- A block with its header. -/
structure BlockScalar where
  text : List Char
  endLine : Nat
  headerComment : Bool
  /-- Empty lines behind it that are no part of its text. -/
  linesBehind : Bool
  here : Cursor

/-- A block scalar from behind its first sign; `parent` is the indentation around it. -/
def block (folded : Bool) (parent : Int) (here : Cursor) : Except Fault BlockScalar := do
  let (chomping, increment, here) ← blockSigns here
  let (headerComment, here) ← blockHeaderEnd here
  let least := (parent + 1).toNat
  let fuel := here.rest.length + 1
  let (indent, atMargin, breaks, line, here) := match increment with
    | none =>
      let (breaks, deepest, line, here) := blockIndentation fuel [] 0 here.line here
      (max least deepest, decide (least = 0), breaks, line, here)
    | some increment =>
      let indent := max least 1 + increment - 1
      let (breaks, line, here) := blockBreaks indent fuel [] here.line here
      (indent, false, breaks, line, here)
  let found := blockLines folded atMargin indent fuel ⟨[], [], breaks, line, here⟩
  let text := found.text ++ (if chomping = .strip then [] else found.lastBreak)
    ++ (if chomping = .keep then found.breaks else [])
  return ⟨text, found.endLine, headerComment, chomping != .keep && !found.breaks.isEmpty, found.here⟩

end PlcLint.Yaml.ScalarText
