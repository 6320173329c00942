import PlcLint.Text.CharClass

/-!
Check codes, and the comments that switch checks off for a line: `// noqa: CODE CODE`.
-/

namespace PlcLint

/-- Two to four capital letters and three or four digits. -/
def isCheckCode (text : List Char) : Bool :=
  let letters := text.takeWhile fun c => c.isUpper
  let digits := text.dropWhile fun c => c.isUpper
  decide (2 ≤ letters.length) && decide (letters.length ≤ 4)
    && decide (3 ≤ digits.length) && decide (digits.length ≤ 4) && digits.all Text.isDecimal

/-- Check codes with white space between them, and nothing else, up to the end of the text. -/
def isCodeList (text : List Char) : Bool :=
  let code := text.takeWhile fun c => !Text.isBlank c
  let rest := text.dropWhile fun c => !Text.isBlank c
  if rest.isEmpty then isCheckCode code
  else isCheckCode code && isCodeListFrom rest.length rest
where
  /-- White space and further codes; the number bounds their count. -/
  isCodeListFrom : Nat → List Char → Bool
    | 0, _ => false
    | fuel + 1, text =>
      let text := text.dropWhile Text.isBlank
      let code := text.takeWhile fun c => !Text.isBlank c
      let rest := text.dropWhile fun c => !Text.isBlank c
      if rest.isEmpty then isCheckCode code
      else isCheckCode code && isCodeListFrom fuel rest

/-- A line feed at the very end of a text does not count. -/
def withoutFinalBreak (text : List Char) : List Char :=
  if text.getLast? = some '\n' then text.dropLast else text

/-- The text is a suppression comment from its first character to its end. -/
def isSuppression (text : List Char) : Bool :=
  match text with
  | '/' :: '/' :: rest =>
    let rest := rest.dropWhile Text.isBlank
    "noqa:".toList.isPrefixOf rest
      && isCodeList (withoutFinalBreak ((rest.drop "noqa:".length).dropWhile Text.isBlank))
  | _ => false

/-- The line ends in a suppression comment. -/
def hasSuppression : List Char → Bool
  | [] => false
  | c :: rest => isSuppression (c :: rest) || hasSuppression rest

def hasInfix (part : List Char) : List Char → Bool
  | [] => part.isEmpty
  | c :: rest => part.isPrefixOf (c :: rest) || hasInfix part rest

/-- The line ends in a suppression comment and names the code. -/
def isSuppressed (line code : String) : Bool :=
  hasSuppression line.toList && hasInfix code.toList line.toList

end PlcLint
