import PlcLint.Text.CharClass

/-!
Paragraphs broken into lines of a bounded width. A line may end at a space, behind a hyphen
inside a word, and around a dash; a word that fits on no line is cut.
-/

namespace PlcLint.Text.Wrap

def isSpace (c : Char) : Bool :=
  c = ' ' || c = '\t' || c = '\n' || c = '\r' || c.toNat = 11 || c.toNat = 12

def isLetter (c : Char) : Bool := isWord c && !isDecimal c

/-- What a dash between words may follow. -/
def isWordEnd (c : Char) : Bool := isWord c || "!\"'&.,?".toList.contains c

/-- The text goes on with a dash of at least two hyphens and then a word. -/
def dashAhead (text : List Char) : Bool :=
  let hyphens := text.takeWhile (· = '-')
  decide (2 ≤ hyphens.length) && (text.drop hyphens.length).head?.any isWord

/-- Two letters, or two letters with a hyphen between them. -/
def lettersAhead : List Char → Bool
  | a :: '-' :: b :: _ => isLetter a && isLetter b
  | a :: b :: _ => isLetter a && isLetter b
  | _ => false

/-- The text goes on with a hyphen behind which a line may end. What comes before is given in
reverse. -/
def hyphenAhead (before : List Char) : List Char → Bool
  | '-' :: rest => lettersAhead before && lettersAhead rest
  | _ => false

/-- The rest of a word up to the first place where a line may end. -/
def takeWord (before : List Char) : List Char → List Char × List Char
  | [] => ([], [])
  | c :: rest =>
    if rest.isEmpty || rest.head?.any isSpace || (isWordEnd c && dashAhead rest) then ([c], rest)
    else if hyphenAhead (c :: before) rest then ([c, '-'], rest.drop 1)
    else
      let (word, behind) := takeWord (c :: before) rest
      (c :: word, behind)

/-- The first piece of a text that no line end may divide, and the rest. -/
def takePiece (before text : List Char) : List Char × List Char :=
  match text with
  | [] => ([], [])
  | c :: _ =>
    if isSpace c then (text.takeWhile isSpace, text.dropWhile isSpace)
    else if before.head?.any isWordEnd && dashAhead text then
      (text.takeWhile (· = '-'), text.dropWhile (· = '-'))
    else takeWord before text

/-- The pieces of a text; its length bounds their number. -/
def piecesFrom : Nat → List Char → List Char → List (List Char)
  | 0, _, _ => []
  | fuel + 1, before, text =>
    if text.isEmpty then []
    else
      let (piece, rest) := takePiece before text
      piece :: piecesFrom fuel (piece.reverse ++ before) rest

def pieces (text : List Char) : List (List Char) := piecesFrom text.length [] text

def isBlankPiece (piece : List Char) : Bool := piece.all isSpace

/-- Pieces for one line, as long as they fit, and the rest. -/
def fill (width : Nat) : Nat → List (List Char) → List (List Char) × List (List Char)
  | _, [] => ([], [])
  | used, piece :: rest =>
    if used + piece.length ≤ width then
      let (line, behind) := fill width (used + piece.length) rest
      (piece :: line, behind)
    else ([], piece :: rest)

/-- Where a word that fits on no line is cut: behind its last hyphen that fits, else where the
line is full. -/
def cutPlace (room : Nat) (word : List Char) : Nat :=
  let fitting := word.take room
  let back := (fitting.reverse.takeWhile (· != '-')).length
  let behindHyphen := fitting.length - back
  if fitting.contains '-' && (fitting.take (behindHyphen - 1)).any (· != '-') then behindHyphen
  else room

/-- A word that fits on no line is cut, and its first part fills the line. -/
def cutLong (width : Nat) (line rest : List (List Char)) : List (List Char) × List (List Char) :=
  match rest with
  | word :: behind =>
    if word.length > width then
      let place := cutPlace (width - line.flatten.length) word
      (line ++ [word.take place], word.drop place :: behind)
    else (line, rest)
  | [] => (line, [])

def dropBlankEnd (line : List (List Char)) : List (List Char) :=
  if line.getLast?.any isBlankPiece then line.dropLast else line

/-- The lines, each with its indentation: the first has one of its own. -/
def linesFrom (width : Nat) (first later : List Char) :
    Nat → Bool → List (List Char) → List (List Char)
  | 0, _, _ => []
  | _ + 1, _, [] => []
  | fuel + 1, atStart, piece :: rest =>
    let indent := if atStart then first else later
    let todo := if !atStart && isBlankPiece piece then rest else piece :: rest
    let room := width - indent.length
    let (line, behind) := fill room 0 todo
    let (line, behind) := cutLong room line behind
    let line := dropBlankEnd line
    if line.isEmpty then linesFrom width first later fuel atStart behind
    else (indent ++ line.flatten) :: linesFrom width first later fuel false behind

end Wrap

/-- A paragraph in lines of a width, the first line and later ones with their indentation. -/
def wrap (width firstIndent laterIndent : Nat) (text : String) : String :=
  let lines := Wrap.linesFrom width (List.replicate firstIndent ' ')
    (List.replicate laterIndent ' ') (2 * text.length + 1) true (Wrap.pieces text.toList)
  String.intercalate "\n" (lines.map String.ofList)

end PlcLint.Text
