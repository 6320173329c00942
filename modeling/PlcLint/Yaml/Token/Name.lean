import PlcLint.Fault
import PlcLint.Yaml.Token.Scalar
import PlcLint.Yaml.Token

/-!
Names at a place: of anchors and aliases, of tags, and of directives with their values.
-/

namespace PlcLint.Yaml.NameText

def isWordChar (c : Char) : Bool := c.isAlphanum || c = '-' || c = '_'

/-- Visible characters that do not belong to the flow style. -/
def isAnchorChar (c : Char) : Bool :=
  let code := c.toNat
  ((0x21 ≤ code && code ≤ 0x7E) || (0xA0 ≤ code && code ≤ 0xFFFD && !isByteOrderMark c)
    || 0x10000 ≤ code) && !(c = ',' || c = '[' || c = ']' || c = '\x7b' || c = '\x7d')

/-- What can follow the name of an anchor. -/
def endsAnchor (c : Char) : Bool :=
  endsName c || "\t?:,[]\x7b\x7d%@`".toList.contains c

/-- The name of an anchor or alias, from behind its sign. -/
def anchor (here : Cursor) : Except Fault (String × Cursor) :=
  let (name, here) := here.span isAnchorChar
  if name.isEmpty || !endsAnchor here.peek then .error .yamlScan
  else .ok (String.ofList name, here)

def isAddressChar (minor : Nat) (c : Char) : Bool :=
  c.isAlphanum || "-;/?:@&=+$,_.!~*'()[]".toList.contains c || (c = '#' && 1 < minor)

/-- Bytes written as percent signs with two hexadecimal digits. -/
def escapedBytes : Nat → List UInt8 → Cursor → Except Fault (List UInt8 × Cursor)
  | 0, done, here => .ok (done.reverse, here)
  | fuel + 1, done, here =>
    if here.peek != '%' then .ok (done.reverse, here)
    else do
      let (byte, here) ← ScalarText.code 2 here.advance
      escapedBytes fuel (byte.toUInt8 :: done) here

/-- The characters of an address, which can be given as bytes. -/
def address (minor : Nat) : Nat → List Char → Cursor → Except Fault (List Char × Cursor)
  | 0, done, here => .ok (done, here)
  | fuel + 1, done, here =>
    let (run, here) := here.span (isAddressChar minor)
    let done := done ++ run
    if here.peek != '%' then .ok (done, here)
    else do
      let (bytes, here) ← escapedBytes here.rest.length [] here
      match String.fromUTF8? ⟨bytes.toArray⟩ with
      | some text => address minor fuel (done ++ text.toList) here
      | none => throw .yamlScan

/-- An address of at least one character. -/
def someAddress (minor : Nat) (here : Cursor) : Except Fault (String × Cursor) := do
  let (chars, behind) ← address minor (here.rest.length + 1) [] here
  if behind.index = here.index then throw .yamlScan else return (String.ofList chars, behind)

/-- A handle: an exclamation mark, or a word between two. -/
def handle (here : Cursor) : Except Fault (String × Cursor) :=
  if here.peek != '!' then .error .yamlScan
  else if here.peekAt 1 = ' ' then .ok ("!", here.advance)
  else
    let (word, here) := here.advance.span isWordChar
    if here.peek = '!' then .ok (String.ofList ('!' :: word ++ ['!']), here.advance)
    else .error .yamlScan

/-- A tag: complete between angle brackets, without a name, or behind a handle. -/
def tagText (minor : Nat) (here : Cursor) : Except Fault (TagText × Cursor) :=
  let c := here.peekAt 1
  if c = '<' then do
    let (name, here) ← someAddress minor (here.advanceBy 2)
    if here.peek != '>' then throw .yamlScan
    return (⟨none, name⟩, here.advance)
  else if endsWord c then .ok (⟨none, "!"⟩, here.advance)
  else
    let word := here.advance.rest.takeWhile (!endsName ·)
    do
      let (lead, here) ← if word.contains '!' then handle here else pure ("!", here.advance)
      let (name, here) ← someAddress minor here
      return (⟨some lead, name⟩, here)

def tag (minor : Nat) (here : Cursor) : Except Fault (TagText × Cursor) := do
  let (text, here) ← tagText minor here
  if endsName here.peek then return (text, here) else throw .yamlScan

def number (here : Cursor) : Except Fault (Nat × Cursor) :=
  let (digits, here) := here.span Char.isDigit
  if digits.isEmpty then .error .yamlScan
  else .ok (digits.foldl (fun value c => 10 * value + (c.toNat - '0'.toNat)) 0, here)

/-- The value of a version directive. -/
def version (here : Cursor) : Except Fault (TokenKind × Cursor) := do
  let (major, here) ← number (here.skip (· = ' '))
  if here.peek != '.' then throw .yamlScan
  let (minor, here) ← number here.advance
  if endsName here.peek then return (.versionDirective major minor, here) else throw .yamlScan

/-- The value of a tag directive. -/
def tagLead (minor : Nat) (here : Cursor) : Except Fault (TokenKind × Cursor) := do
  let (lead, here) ← handle (here.skip (· = ' '))
  if here.peek != ' ' then throw .yamlScan
  let (name, here) ← someAddress minor (here.skip (· = ' '))
  if endsName here.peek then return (.tagDirective lead name, here) else throw .yamlScan

/-- A directive, from behind its percent sign to the end of its line. -/
def directive (minor : Nat) (here : Cursor) : Except Fault (TokenKind × Cursor) := do
  let (name, here) := here.span fun c => isWordChar c || c = ':' || c = '.'
  if name.isEmpty || !endsName here.peek then throw .yamlScan
  let (kind, here) ←
    if name == "YAML".toList then version here
    else if name == "TAG".toList then tagLead minor here
    else pure (.otherDirective, here.skip (!endsLine ·))
  let (_, here) ← ScalarText.blockHeaderEnd here
  return (kind, here)

end PlcLint.Yaml.NameText
