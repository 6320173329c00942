import PlcLint.Text.CharClass

/-!
Wildcard patterns: `*` stands for any text, `?` for one character, and brackets for one
character of a set, or with `!` for one outside of it. A bracket that is never closed stands
for itself. A range whose ends are in the wrong order vanishes, also from in front of a `!`.
-/

namespace PlcLint.Text

inductive Wildcard where
  | anyText
  | anyChar
  | exactly (c : Char)
  | oneOf (ranges : List (Char × Char))
  | noneOf (ranges : List (Char × Char))

namespace Wildcard

/-- The text between brackets, cut at the minus signs that make ranges. Two of them stand at least
three characters apart, and none is at either end. The number tells how many characters cannot
be one; `chunk` is the current piece, reversed. -/
def chunksFrom : Nat → List Char → List Char → List (List Char)
  | _, chunk, [] => [chunk.reverse]
  | 0, chunk, '-' :: c :: rest => chunk.reverse :: chunksFrom 1 [c] rest
  | wait, chunk, c :: rest => chunksFrom (wait - 1) (c :: chunk) rest

def chunks (body : List Char) : List (List Char) :=
  match body with
  | '!' :: c :: rest => chunksFrom 0 [c, '!'] rest
  | c :: rest => chunksFrom 0 [c] rest
  | [] => [[]]

/-- Puts neighbouring pieces together if the range between them is empty, the last ones first. -/
def joinEmptyRanges : List (List Char) → List (List Char)
  | [] => []
  | chunk :: rest =>
    match joinEmptyRanges rest with
    | [] => [chunk]
    | next :: others =>
      match chunk.getLast?, next with
      | some low, high :: behind =>
        if high < low then (chunk.dropLast ++ behind) :: others else chunk :: next :: others
      | _, _ => chunk :: next :: others

/-- The characters and ranges of pieces with minus signs between them. The first character of a
piece behind another one is the end of a range. -/
def rangesOf : List (List Char) → List (Char × Char)
  | [] => []
  | [chunk] => chunk.map fun c => (c, c)
  | chunk :: next :: rest =>
    let single := chunk.map fun c => (c, c)
    match chunk.getLast?, next with
    | some low, high :: _ => single ++ (low, high) :: rangesOf (next :: rest)
    | _, _ => single ++ rangesOf (next :: rest)

/-- The pattern for what stands between brackets. -/
def ofBrackets (body : List Char) : Wildcard :=
  match joinEmptyRanges (chunks body) with
  | ('!' :: first) :: rest => noneOf (rangesOf (first :: rest))
  | pieces => oneOf (rangesOf pieces)

/-- What stands between brackets, and what follows them; a closing bracket at the very beginning
is part of the set. -/
def bracket? (text : List Char) : Option (List Char × List Char) :=
  let (lead, body) := match text with
    | '!' :: ']' :: rest => (['!', ']'], rest)
    | '!' :: rest => (['!'], rest)
    | ']' :: rest => ([']'], rest)
    | rest => ([], rest)
  match body.dropWhile (· != ']') with
  | [] => none
  | _ :: rest => some (lead ++ body.takeWhile (· != ']'), rest)

/-- The pattern that a text denotes; its length bounds the number of steps. -/
def parseFrom : Nat → List Char → List Wildcard
  | 0, _ => []
  | _ + 1, [] => []
  | fuel + 1, '*' :: rest => anyText :: parseFrom fuel rest
  | fuel + 1, '?' :: rest => anyChar :: parseFrom fuel rest
  | fuel + 1, '[' :: rest =>
    match bracket? rest with
    | some (body, rest) => ofBrackets body :: parseFrom fuel rest
    | none => exactly '[' :: parseFrom fuel rest
  | fuel + 1, c :: rest => exactly c :: parseFrom fuel rest

def parse (text : String) : List Wildcard := parseFrom text.length text.toList

def inRange (c : Char) (range : Char × Char) : Bool :=
  decide (range.1 ≤ c) && decide (c ≤ range.2)

/-- One character by itself; `anyText` is no such pattern. -/
def admits (c : Char) : Wildcard → Bool
  | anyText => false
  | anyChar => true
  | exactly d => c = d
  | oneOf ranges => ranges.any (inRange c)
  | noneOf ranges => !ranges.any (inRange c)

/-- Of each place, whether there is a `true` at it or behind it. -/
def orLater : List Bool → List Bool
  | [] => []
  | found :: rest =>
    match orLater rest with
    | [] => [found]
    | later :: others => (found || later) :: later :: others

/-- For every end of a text, the longest first, whether the pattern matches all of it. -/
def matchedEnds : List Wildcard → List Char → List Bool
  | [], text => text.map (fun _ => false) ++ [true]
  | anyText :: rest, text => orLater (matchedEnds rest text)
  | piece :: rest, text =>
    List.zipWith (fun c behind => admits c piece && behind) text (matchedEnds rest text).tail ++
      [false]

/-- The pattern matches the whole text. -/
def matchesList (pattern : List Wildcard) (text : List Char) : Bool :=
  (matchedEnds pattern text).headD false

/-- A text that is a pattern and not only itself. -/
def isPattern (text : String) : Bool := text.toList.any fun c => c = '*' || c = '?' || c = '['

end Wildcard

/-- The text matches the wildcard pattern. -/
def wildcardMatch (pattern text : String) : Bool :=
  Wildcard.matchesList (Wildcard.parse pattern) text.toList

end PlcLint.Text
