import PlcLint.Text.CharClass

/-!
Character classes of XML.
-/

namespace PlcLint.Xml

def isWhite (c : Char) : Bool := c = ' ' || c = '\t' || c = '\n' || c = '\r'

/-- A character that a document may hold. -/
def isAllowed (c : Char) : Bool :=
  isWhite c || (decide (0x20 ≤ c.toNat) && c.toNat != 0xFFFE && c.toNat != 0xFFFF)

/-- Letters beyond the first 128 characters that can start a name. -/
def startRanges : List (Nat × Nat) :=
  [(0xC0, 0xD6), (0xD8, 0xF6), (0xF8, 0x2FF), (0x370, 0x37D), (0x37F, 0x1FFF), (0x200C, 0x200D),
    (0x2070, 0x218F), (0x2C00, 0x2FEF), (0x3001, 0xD7FF), (0xF900, 0xFDCF), (0xFDF0, 0xFFFD),
    (0x10000, 0xEFFFF)]

/-- Further characters inside names. -/
def innerRanges : List (Nat × Nat) := [(0xB7, 0xB7), (0x300, 0x36F), (0x203F, 0x2040)]

/-- The start of a name without a colon. -/
def isWordStart (c : Char) : Bool := c.isAlpha || c = '_' || Text.inRanges startRanges c.toNat

def isWordChar (c : Char) : Bool :=
  isWordStart c || c.isDigit || c = '-' || c = '.' || Text.inRanges innerRanges c.toNat

def isNameStart (c : Char) : Bool := isWordStart c || c = ':'

def isNameChar (c : Char) : Bool := isWordChar c || c = ':'

/-- A name without a colon. -/
def isWord (text : List Char) : Bool :=
  match text with
  | c :: rest => isWordStart c && rest.all isWordChar
  | [] => false

/-- Characters of a public identifier. -/
def isPublicChar (c : Char) : Bool :=
  c.isAlphanum || c = '\n' || " -'()+,./:=?;!*#@$_%".toList.contains c

end PlcLint.Xml
