import PlcLint.Text.CharClass
import PlcLint.Text.CodePage

/-!
Files are written in UTF-8, but a comment in one of the first two lines can declare another
encoding, in which the lines of the file are then read.
-/

namespace PlcLint.Text

/-- How bytes stand for characters. -/
inductive Encoding where
  | utf8
  | ascii
  /-- ASCII in which a plus sign opens characters by number. -/
  | plusMarked
  | page (chars : Array Char)
  /-- Units of 16 bits. -/
  | units (highFirst : Bool)
  /-- Bytes of source code never have this encoding. -/
  | wide
  /-- Cannot be read without a mark of byte order. -/
  | unmarked
  /-- Not an encoding of text. -/
  | binary

namespace Encoding

/-- A byte without a character. -/
def noChar : Char := Char.ofNat 0xFFFE

def latin : Encoding := page ((List.range 256).map Char.ofNat).toArray

def ofPage (codePage : CodePage) : Encoding :=
  let chars := (String.join codePage.rows).toList
  let low := if chars.length < 256 then (List.range 128).map Char.ofNat else []
  page (low ++ chars).toArray

/-- A name in lower case, with an underscore for signs between its letters and digits. -/
def plainName (name : String) : String :=
  let step (found : List Char × Bool) (c : Char) : List Char × Bool :=
    if c.isAlphanum || c = '.' then
      let lead := if found.2 && !found.1.isEmpty then [c.toLower, '_'] else [c.toLower]
      (lead ++ found.1, false)
    else (found.1, true)
  String.ofList (name.toList.foldl step ([], false)).1.reverse

/-- The encoding of a plain name. -/
def ofPlainName? (name : String) : Option Encoding :=
  if utf8Names.contains name then some .utf8
  else if latinNames.contains name then some latin
  else if asciiNames.contains name then some .ascii
  else if plusNames.contains name then some .plusMarked
  else if littleNames.contains name then some (.units false)
  else if bigNames.contains name then some (.units true)
  else if wideNames.contains name then some .wide
  else if unmarkedNames.contains name then some .unmarked
  else if binaryNames.contains name then some .binary
  else (codePages.find? fun codePage => codePage.names.contains name).map ofPage

/-- The encoding of a name; a dot can stand for an underscore. -/
def ofName? (name : String) : Option Encoding :=
  let plain := plainName name
  let undotted := String.ofList (plain.toList.map fun c => if c = '.' then '_' else c)
  (ofPlainName? plain).orElse fun _ => if undotted = plain then none else ofPlainName? undotted

def startsWith (lead : String) (name : String) : Bool := lead.toList.isPrefixOf name.toList

/-- The common spellings of the two most common encodings; other names stay as they are. -/
def commonName (name : String) : String :=
  let short := String.ofList ((name.toList.take 12).map fun c =>
    if c = '_' then '-' else c.toLower)
  let isOf (word : String) : Bool := short = word || startsWith (word ++ "-") short
  if isOf "utf-8" then "utf-8"
  else if isOf "latin-1" || isOf "iso-8859-1" || isOf "iso-latin-1" then "iso-8859-1"
  else name

def isNameChar (c : Char) : Bool := c.isAlphanum || c = '-' || c = '_' || c = '.'

def isLead (c : Char) : Bool := c = ' ' || c = '\t' || c = '\x0c'

/-- The name behind the first declaration in a comment. -/
def declaredIn : List Char → Option String
  | [] => none
  | c :: rest =>
    let name := match (c :: rest).drop 6 with
      | sign :: behind =>
        if "coding".toList.isPrefixOf (c :: rest) && (sign = ':' || sign = '=') then
          (behind.dropWhile fun c => c = ' ' || c = '\t').takeWhile isNameChar
        else []
      | [] => []
    if name.isEmpty then declaredIn rest else some (String.ofList name)

/-- The encoding that a line declares. -/
def declared? (line : List Char) : Option String :=
  match line.dropWhile isLead with
  | '#' :: rest => (declaredIn rest).map commonName
  | _ => none

/-- A line that is blank, or nothing but a comment. -/
def isIdle (line : List Char) : Bool :=
  match line.dropWhile isLead with
  | [] => true
  | c :: _ => c = '#' || c = '\r'

/-- The name of the encoding that the first lines declare. -/
def declaredName? (lines : List (List Char)) : Option String :=
  match lines with
  | [] => none
  | [first] => declared? first
  | first :: second :: _ =>
    (declared? first).orElse fun _ => if isIdle first then declared? second else none

/-- The encoding of a file whose bytes are these lines in UTF-8; `none` if what is declared is not
known, or does not agree with a mark at the start. -/
def ofLines? (marked : Bool) (lines : List (List Char)) : Option Encoding :=
  match declaredName? lines with
  | none => some .utf8
  | some name => if marked && name != "utf-8" then none else ofName? name

/-- Characters of 16-bit units. -/
def ofUnits : List Nat → Option (List Char)
  | [] => some []
  | [unit] => if 0xD800 ≤ unit ∧ unit < 0xE000 then none else some [Char.ofNat unit]
  | high :: low :: rest =>
    if 0xD800 ≤ high ∧ high < 0xDC00 ∧ 0xDC00 ≤ low ∧ low < 0xE000 then
      let code := 0x10000 + (high - 0xD800) * 0x400 + (low - 0xDC00)
      (ofUnits rest).map (Char.ofNat code :: ·)
    else if 0xD800 ≤ high ∧ high < 0xE000 then none
    else (ofUnits (low :: rest)).map (Char.ofNat high :: ·)

/-- Pairs of bytes as units. -/
def pairs (highFirst : Bool) : List Nat → Option (List Nat)
  | [] => some []
  | [_] => none
  | a :: b :: rest =>
    (pairs highFirst rest).map ((if highFirst then a * 256 + b else b * 256 + a) :: ·)

/-- A plus sign is written with a minus sign behind it; characters by number are not read. -/
def plusSigns : List Char → Option (List Char)
  | [] => some []
  | '+' :: '-' :: rest => (plusSigns rest).map ('+' :: ·)
  | c :: rest => if c = '+' then none else (plusSigns rest).map (c :: ·)

/-- The characters that the bytes of a text in UTF-8 stand for. -/
def reread? (encoding : Encoding) (text : String) : Option (List Char) :=
  let bytes := text.toUTF8.toList.map UInt8.toNat
  match encoding with
  | utf8 => some text.toList
  | ascii => if bytes.all (· < 128) then some text.toList else none
  | plusMarked => if bytes.all (· < 128) then plusSigns text.toList else none
  | page chars =>
    bytes.mapM fun byte => (chars[byte]?).filter (· != noChar)
  | units highFirst => (pairs highFirst bytes).bind ofUnits
  | wide | unmarked | binary => none

end Encoding

end PlcLint.Text
