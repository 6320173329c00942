/-!
A place in a YAML text, and the character classes that the format is built from. The text ends
with a sign of its own, so that there is always a next character.
-/

namespace PlcLint.Yaml

/-- The sign behind the last character. -/
def endSign : Char := '\x00'

/-- The line separators that do not start a new line of the count. -/
def isSeparator (c : Char) : Bool := c.toNat = 0x2028 || c.toNat = 0x2029

def isNextLine (c : Char) : Bool := c.toNat = 0x85

def isByteOrderMark (c : Char) : Bool := c.toNat = 0xFEFF

def isBreak (c : Char) : Bool := c = '\n' || isNextLine c || isSeparator c

def endsLine (c : Char) : Bool := c = '\n' || c = endSign || isNextLine c

def isTabOrSpace (c : Char) : Bool := c = ' ' || c = '\t'

/-- What can follow a sign of the block style. -/
def endsWord (c : Char) : Bool := endsLine c || isTabOrSpace c

/-- What can follow the name of a tag or a directive. -/
def endsName (c : Char) : Bool := c = ' ' || c = endSign || isBreak c

/-- Characters that a text may hold. -/
def isPrintable (c : Char) : Bool :=
  let code := c.toNat
  c = '\t' || c = '\n' || c = '\r' || (0x20 ≤ code && code ≤ 0x7E) || code = 0x85
    || (0xA0 ≤ code && code ≤ 0xFFFD) || 0x10000 ≤ code

structure Cursor where
  rest : List Char
  index : Nat := 0
  line : Nat := 0
  column : Nat := 0

namespace Cursor

def peekAt (here : Cursor) (distance : Nat) : Char := here.rest.getD distance endSign

def peek (here : Cursor) : Char := here.rest.headD endSign

/-- One character further; a byte order mark takes no column. -/
def advance (here : Cursor) : Cursor :=
  match here.rest with
  | [] => here
  | c :: rest =>
    if c = '\n' then ⟨rest, here.index + 1, here.line + 1, 0⟩
    else if isByteOrderMark c then ⟨rest, here.index + 1, here.line, here.column⟩
    else ⟨rest, here.index + 1, here.line, here.column + 1⟩

def advanceBy : Nat → Cursor → Cursor
  | 0, here => here
  | count + 1, here => advanceBy count here.advance

/-- The longest run of such characters, and the place behind it. -/
def span (here : Cursor) (among : Char → Bool) : List Char × Cursor :=
  let run := here.rest.takeWhile among
  (run, here.advanceBy run.length)

def skip (here : Cursor) (among : Char → Bool) : Cursor := (here.span among).2

def startsWith (here : Cursor) (text : String) : Bool := text.toList.isPrefixOf here.rest

/-- A line break, with the character that it stands for. -/
def lineBreak? (here : Cursor) : Option (Char × Cursor) :=
  let c := here.peek
  if isSeparator c then some (c, here.advance)
  else if isBreak c then some ('\n', here.advance)
  else none

/-- The place behind a line break, if there is one. -/
def afterBreak (here : Cursor) : Cursor := (here.lineBreak?.map Prod.snd).getD here

/-- Three signs that start or end a document, as a word of their own. -/
def atMarker (here : Cursor) (marker : String) : Bool :=
  here.startsWith marker && endsWord (here.peekAt 3)

def atDocumentMarker (here : Cursor) : Bool := here.atMarker "---" || here.atMarker "..."

end Cursor

end PlcLint.Yaml
