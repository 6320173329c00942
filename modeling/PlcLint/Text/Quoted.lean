import PlcLint.Text.CharClass

/-!
Text shown in quotes, as messages and listings show names. Single quotes are used unless the
text holds a single quote and no double quote; what has no visible form is written by number.
-/

namespace PlcLint.Text

/-- A number in lower-case hexadecimal digits, filled with zeros to `width`. -/
def hexText (width code : Nat) : List Char :=
  let digits := Nat.toDigits 16 code
  List.replicate (width - digits.length) '0' ++ digits

/-- One character between quotes of the kind `quote`. -/
def quotedChar (quote c : Char) : List Char :=
  if c = quote || c = '\\' then ['\\', c]
  else if c = '\n' then ['\\', 'n']
  else if c = '\r' then ['\\', 'r']
  else if c = '\t' then ['\\', 't']
  else if isPrintable c then [c]
  else if c.toNat < 0x100 then '\\' :: 'x' :: hexText 2 c.toNat
  else if c.toNat < 0x10000 then '\\' :: 'u' :: hexText 4 c.toNat
  else '\\' :: 'U' :: hexText 8 c.toNat

def quoteFor (text : List Char) : Char :=
  if text.contains '\'' && !text.contains '"' then '"' else '\''

def quoted (text : String) : String :=
  let quote := quoteFor text.toList
  String.ofList (quote :: text.toList.flatMap (quotedChar quote) ++ [quote])

/-- A set of texts in braces, each quoted, in increasing order without repetition. Braces alone
would not show a set, so the empty one is spelt out. -/
def quotedSet (texts : List String) : String :=
  let sorted := (texts.mergeSort fun a b => decide (a ≤ b)).eraseReps
  if sorted.isEmpty then "set()"
  else "\x7b" ++ String.intercalate ", " (sorted.map quoted) ++ "\x7d"

end PlcLint.Text
