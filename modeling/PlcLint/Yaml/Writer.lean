import PlcLint.Yaml.Cursor
import PlcLint.Yaml.Scalar

/-!
YAML text of a value, in block style: mappings are indented by two, sequences not below their
key. A text is quoted where it would read as something else, and long lines are broken at spaces.
-/

namespace PlcLint.Yaml

/-- What has been written so far, and where the pen stands. -/
structure Pen where
  /-- The last character first. -/
  written : List Char := []
  column : Nat := 0
  /-- What stands before the pen separates words. -/
  afterGap : Bool := true
  /-- Only signs of the block style stand before the pen on its line. -/
  atIndentation : Bool := true

namespace Pen

def write (pen : Pen) (text : List Char) : Pen :=
  { pen with written := text.reverse ++ pen.written, column := pen.column + text.length }

def newLine (pen : Pen) (lineBreak : Char := '\n') : Pen :=
  { written := lineBreak :: pen.written, column := 0, afterGap := true, atIndentation := true }

/-- Goes to a column, on a new line unless the pen can still reach it. -/
def goTo (pen : Pen) (indent : Nat) : Pen :=
  let pen := if !pen.atIndentation || indent < pen.column || (pen.column = indent && !pen.afterGap)
    then pen.newLine else pen
  if pen.column < indent then
    { pen.write (List.replicate (indent - pen.column) ' ') with afterGap := true }
  else pen

/-- A sign of the format, if need be behind a space. -/
def sign (pen : Pen) (text : String) (needsGap : Bool) (ofBlock : Bool := false) : Pen :=
  let chars := if pen.afterGap || !needsGap then text.toList else ' ' :: text.toList
  { pen.write chars with afterGap := false, atIndentation := pen.atIndentation && ofBlock }

/-- Goes on with a scalar. -/
def inScalar (pen : Pen) : Pen := { pen with afterGap := false, atIndentation := false }

end Pen

/-- The greatest column behind which a line is broken. -/
def lineWidth : Nat := 80

/-- What a plain scalar may not begin with. -/
def startSigns : List Char := "#,[]\x7b\x7d&*!|>'\"%@`".toList

def endsPlainWord (c : Char) : Bool := c = endSign || isTabOrSpace c || c = '\r' || isBreak c

/-- A sign inside the text that would end it: a colon before a gap, or a number sign behind
one. -/
def hasEndSign (previous : Char) : List Char → Bool
  | [] => false
  | c :: rest =>
    (c = ':' && endsPlainWord (rest.headD endSign)) || (c = '#' && endsPlainWord previous)
      || hasEndSign c rest

/-- Signs that a plain scalar in block style must not hold. -/
def hasBlockSign (text : List Char) : Bool :=
  match text with
  | [] => false
  | c :: rest =>
    startSigns.contains c || ((c = '-' || c = '?' || c = ':') && endsPlainWord (rest.headD endSign))
      || hasEndSign c rest || text.take 3 == "---".toList || text.take 3 == "...".toList

/-- Characters that need an escape. -/
def isSpecial (c : Char) : Bool :=
  c != '\n' && (!isPrintable c || c = '\t' || c = '\r' || isByteOrderMark c)

/-- A space next to a line break, which only double quotes keep. -/
def hasSpaceAtBreak : List Char → Bool
  | c :: d :: rest =>
    (c = ' ' && isBreak d) || (isBreak c && d = ' ') || hasSpaceAtBreak (d :: rest)
  | _ => false

def canBePlain (text : List Char) : Bool :=
  !(text.head?.any (· = ' ')) && !(text.getLast?.any (· = ' ')) && !text.any isBreak
    && !text.any isSpecial && !hasBlockSign text

def canBeSingleQuoted (text : List Char) : Bool := !text.any isSpecial && !hasSpaceAtBreak text

inductive Style where
  | plain
  | single
  | double
  deriving DecidableEq

/-- The style of a text; `reads` tells that it keeps its tag without quotes. -/
def styleOf (reads inKey : Bool) (text : List Char) : Style :=
  if reads && canBePlain text && !(inKey && text.isEmpty) then .plain
  else if text.contains '\'' || text.contains '\n' then .double
  else if canBeSingleQuoted text && !(inKey && text.any isBreak) then .single
  else .double

/-- What a character is between other characters of a scalar. -/
inductive Role where
  | space
  | lineBreak
  | visible
  deriving DecidableEq

def roleOf (c : Char) : Role :=
  if c = ' ' then .space else if isBreak c then .lineBreak else .visible

/-- Runs of characters of the same role. -/
def runs : List Char → List (Role × List Char)
  | [] => []
  | c :: rest =>
    match runs rest with
    | (role, run) :: more => if roleOf c = role then (role, c :: run) :: more
      else (roleOf c, [c]) :: (role, run) :: more
    | [] => [(roleOf c, [c])]

/-- Line breaks inside quotes; the first one is written twice, since a single one is a space. -/
def writeBreaks (pen : Pen) (indent : Nat) (run : List Char) : Pen :=
  let pen := if run.head? == some '\n' then pen.newLine else pen
  (run.foldl (fun (pen : Pen) c => pen.newLine c) pen).goTo indent

/-- Runs of a scalar that is not in double quotes. A single space far to the right becomes a
line break. -/
def writeRuns (quoted split : Bool) (indent : Nat) :
    Bool → Pen → List (Role × List Char) → Pen
  | _, pen, [] => pen
  | atStart, pen, (role, run) :: rest =>
    let pen := match role with
      | .space =>
        if run.length = 1 && lineWidth < pen.column && split
            && !(quoted && (atStart || rest.isEmpty)) then
          if quoted then pen.goTo indent else (pen.goTo indent).inScalar
        else pen.write run
      | .lineBreak => writeBreaks pen indent run
      | .visible =>
        pen.write (if quoted then run.flatMap fun c => if c = '\'' then [c, c] else [c] else run)
    writeRuns quoted split indent false pen rest

def writePlain (pen : Pen) (split : Bool) (indent : Nat) (text : List Char) : Pen :=
  if text.isEmpty then pen
  else
    let pen := if pen.afterGap then pen else pen.write [' ']
    writeRuns false split indent true pen.inScalar (runs text)

def writeSingle (pen : Pen) (split : Bool) (indent : Nat) (text : List Char) : Pen :=
  (writeRuns true split indent true (pen.sign "'" true) (runs text)).sign "'" false

def escapeLetters : List (Nat × Char) :=
  [(0, '0'), (7, 'a'), (8, 'b'), (9, 't'), (10, 'n'), (11, 'v'), (12, 'f'), (13, 'r'), (27, 'e'),
    (34, '"'), (92, '\\'), (0x85, 'N'), (0x2028, 'L'), (0x2029, 'P')]

def isEscaped (c : Char) : Bool :=
  c = '"' || c = '\\' || isBreak c || isSpecial c || 0x10000 ≤ c.toNat

def upperHex (width code : Nat) : List Char := (Text.hexText width code).map Char.toUpper

def escapeText (c : Char) : List Char :=
  '\\' :: match escapeLetters.lookup c.toNat with
    | some letter => [letter]
    | none =>
      if c.toNat ≤ 0xFF then 'x' :: upperHex 2 c.toNat
      else if c.toNat ≤ 0xFFFF then 'u' :: upperHex 4 c.toNat
      else 'U' :: upperHex 8 c.toNat

/-- Breaks a line inside double quotes; the sign at its end keeps the break out of the text, and
a space at the start of the next line needs one too. -/
def breakDouble (pen : Pen) (indent : Nat) (pending : List Char) (next : Option Char) : Pen :=
  let pen := ((pen.write (pending ++ ['\\'])).goTo indent).inScalar
  if next == some ' ' then pen.write ['\\'] else pen

/-- Text in double quotes, with the characters that wait to be written; the first and the last
place of the text are no places for a line break. -/
def writeDoubleFrom (split : Bool) (indent : Nat) : Bool → Pen → List Char → List Char → Pen
  | _, pen, pending, [] => pen.write pending
  | atStart, pen, pending, c :: rest =>
    let inside := !atStart && !rest.isEmpty && split
    if isEscaped c then
      let pen := (pen.write pending).write (escapeText c)
      let pen := if inside && lineWidth + 1 < pen.column then breakDouble pen indent [] rest.head?
        else pen
      writeDoubleFrom split indent false pen [] rest
    else if inside && (c = ' ' || pending.isEmpty) && lineWidth < pen.column + pending.length then
      writeDoubleFrom split indent false (breakDouble pen indent pending (some c)) [c] rest
    else writeDoubleFrom split indent false pen (pending ++ [c]) rest

def writeDouble (pen : Pen) (split : Bool) (indent : Nat) (text : List Char) : Pen :=
  (writeDoubleFrom split indent true (pen.sign "\"" true) [] text).sign "\"" false

/-- A scalar with its tag and its text. What is not there has no text. -/
def scalarText : Yaml → Tag × String
  | null => (.null, "")
  | bool value => (.bool, if value then "true" else "false")
  | int value => (.int, toString value)
  | float .nan => (.float, ".nan")
  | float (.infinite negative) => (.float, if negative then "-.inf" else ".inf")
  | float value => (.float, value.text)
  | string text => (.string, text)
  | foreign text => (.string, text)
  | sequence _ => (.sequence, "[]")
  | mapping _ => (.mapping, "\x7b\x7d")

/-- The length of a tag in its short form. -/
def tagLength : Tag → Nat
  | .bool | .null => 6
  | .float => 7
  | _ => 5

/-- Keys up to this length stand before their colon. -/
def keyLimit : Nat := 128

/-- A key that fits before its colon on one line. -/
def isSimpleKey (key : Yaml) : Bool :=
  let (tag, text) := scalarText key
  decide (text.length + tagLength tag < keyLimit) && !text.toList.any isBreak

/-- A scalar from the pen on. Inside a key nothing is broken, and what is not there has to be
written. -/
def writeScalar (pen : Pen) (inKey : Bool) (indent : Nat) (value : Yaml) : Pen :=
  let (tag, text) := scalarText value
  let text := if inKey && tag = .null then "null" else text
  match styleOf (Tag.ofPlain 2 text = tag) inKey text.toList with
  | .plain => writePlain pen (!inKey) indent text.toList
  | .single => writeSingle pen (!inKey) indent text.toList
  | .double => writeDouble pen (!inKey) indent text.toList

/-- A key with its colon. A key that does not fit before it stands behind a question mark. -/
def writeKey (pen : Pen) (indent : Nat) (key : Yaml) : Pen :=
  let pen := pen.goTo indent
  if key.isSimpleKey then (writeScalar pen true (indent + 2) key).sign ":" false
  else ((writeScalar (pen.sign "?" true true) false (indent + 2) key).goTo indent).sign ":" true true

def writeEmpty (pen : Pen) (sign : String) : Pen := (pen.sign sign true).newLine

mutual

/-- A value behind the sign of an item or an entry: the column of its own keys and lines, and
the column of its dashes. -/
def writeBehind (ofItem : Bool) (indent dashes : Nat) : Pen → Yaml → Pen
  | pen, sequence items =>
    if items.isEmpty then writeEmpty pen "[]" else writeItems dashes pen items
  | pen, mapping entries =>
    if entries.isEmpty then writeEmpty pen "\x7b\x7d" else writeEntries indent pen entries
  | pen, scalar => writeScalar (if ofItem then pen.goTo indent else pen) false indent scalar

/-- The items of a sequence whose dashes stand in a column. -/
def writeItems (indent : Nat) : Pen → List Yaml → Pen
  | pen, [] => pen
  | pen, item :: rest =>
    let pen := (pen.goTo indent).sign "-" true true
    writeItems indent (writeBehind true (indent + 2) (indent + 2) pen item) rest

/-- The entries of a mapping whose keys stand in a column. -/
def writeEntries (indent : Nat) : Pen → List (Yaml × Yaml) → Pen
  | pen, [] => pen
  | pen, (key, value) :: rest =>
    let pen := writeKey pen indent key
    let dashes := if pen.atIndentation then indent + 2 else indent
    writeEntries indent (writeBehind false (indent + 2) dashes pen value) rest

end

/-- A value alone in a document, and whether the document needs a sign at its end. -/
def writeRoot : Yaml → Pen × Bool
  | sequence items => (writeBehind false 0 0 {} (sequence items), false)
  | mapping entries => (writeBehind false 0 0 {} (mapping entries), false)
  | null => (writePlain {} true 0 "null".toList, true)
  | scalar =>
    let (tag, text) := scalarText scalar
    (writeScalar {} false 0 scalar, styleOf (Tag.ofPlain 2 text = tag) false text.toList = .plain)

/-- The text of a document with this value. -/
def save (value : Yaml) : String :=
  let (pen, isOpen) := writeRoot value
  let pen := pen.goTo 0
  String.ofList (if isOpen then pen.written.reverse ++ "...\n".toList else pen.written.reverse)

/-- Entries under different keys: a later value takes the place of an earlier one. -/
def ofEntries (entries : List (Yaml × Yaml)) : Yaml :=
  mapping <| entries.foldl (fun (found : List (Yaml × Yaml)) (key, value) =>
    if (valueOf? found key).isSome then
      found.map fun entry => if entry.1.sameKey key then (entry.1, value) else entry
    else found ++ [(key, value)]) []

end PlcLint.Yaml
