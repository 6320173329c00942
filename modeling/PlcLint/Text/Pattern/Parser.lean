import PlcLint.Text.Pattern

/-!
Patterns read from text.
-/

namespace PlcLint.Text.Pattern

inductive ParseError where
  | malformed
  /-- A number of repetitions that is too large. -/
  | tooManyRepetitions
  /-- Classes of characters cannot be limited to ASCII and not limited to it. -/
  | conflictingFlags
  deriving DecidableEq

/-- The numbers of characters that a pattern can match: the least and the most. -/
abbrev Width := Nat × Nat

/-- Longer than any text. -/
def maxWidth : Nat := 18446744073709551616

/-- The bound on numbers of repetitions. -/
def maxRepetitions : Nat := 4294967295

def width (groups : List (Option Width)) : Pattern → Width
  | empty | anchor _ | look _ _ _ => (0, 0)
  | chars _ => (1, 1)
  | seq left right =>
    let first := width groups left
    let second := width groups right
    (min (first.1 + second.1) maxWidth, min (first.2 + second.2) maxWidth)
  | alt left right | conditional _ left right =>
    let first := width groups left
    let second := width groups right
    (min first.1 second.1, max first.2 second.2)
  | repeated _ least most inner =>
    let (low, high) := width groups inner
    let bound := match most with
      | some most => min (high * most) maxWidth
      | none => if high = 0 then 0 else maxWidth
    (min (low * least) maxWidth, bound)
  | group _ inner | atomic inner => width groups inner
  | reference number _ _ => ((groups[number - 1]?).bind id).getD (0, 0)

/-- How a part of a pattern is to be read. -/
structure Flags where
  ignoreCase : Bool := false
  multiline : Bool := false
  dotAll : Bool := false
  verbose : Bool := false
  ascii : Bool := false
  /-- Said explicitly that classes are not limited to ASCII. -/
  unicode : Bool := false
  template : Bool := false

/-- How far a pattern has been read, and its groups so far. -/
structure Draft where
  rest : List Char
  /-- The widths of the groups, once they are closed. -/
  groups : List (Option Width) := []
  names : List (String × Nat) := []
  /-- Inside a look back, the number of groups that started before it. -/
  lookBack : Option Nat := none
  /-- Groups that have to exist in the end. -/
  required : List Nat := []

abbrev Reader := StateT Draft (Except ParseError)

namespace Reader

def malformed {α : Type} : Reader α := throw .malformed

/-- A character of the pattern, or one behind a backslash. -/
inductive Token where
  | plain (c : Char)
  | escaped (c : Char)
  deriving DecidableEq

def next? : Reader (Option Token) := do
  match (← get).rest with
  | [] => return none
  | ['\\'] => malformed
  | '\\' :: c :: _ => return some (.escaped c)
  | c :: _ => return some (.plain c)

def skip (count : Nat) : Reader Unit :=
  modify fun draft => { draft with rest := draft.rest.drop count }

/-- The next token, which is passed. -/
def token? : Reader (Option Token) := do
  let found ← next?
  match found with
  | some (.escaped _) => skip 2
  | some (.plain _) => skip 1
  | none => return none
  return found

def take? (c : Char) : Reader Bool := do
  let found := (← next?) = some (.plain c)
  if found then skip 1
  return found

def take (c : Char) : Reader Unit := do
  unless ← take? c do malformed

/-- At most so many characters of a kind. -/
def span (among : Char → Bool) (most : Nat) : Reader (List Char) := do
  let found := ((← get).rest.take most).takeWhile among
  skip found.length
  return found

def digitValue (c : Char) : Nat :=
  if c.isDigit then c.toNat - '0'.toNat
  else if c.isLower then c.toNat - 'a'.toNat + 10
  else c.toNat - 'A'.toNat + 10

def isHexDigit (c : Char) : Bool := c.isAlphanum && digitValue c < 16

def isOctalDigit (c : Char) : Bool := c.isDigit && digitValue c < 8

def numberOf (base : Nat) (digits : List Char) : Nat :=
  digits.foldl (fun value c => value * base + digitValue c) 0

/-- A part of a sequence. -/
structure Item where
  pattern : Pattern
  isAnchor : Bool := false
  isRepetition : Bool := false

def setOf (flags : Flags) (negated : Bool) (items : List SetItem) : Pattern :=
  .chars
    { negated := negated, items := items, ignoreCase := flags.ignoreCase, ascii := flags.ascii }

def literal (flags : Flags) (code : Nat) : Pattern := setOf flags false [.range code code]

def kindOf? (c : Char) : Option SetItem :=
  match c with
  | 'd' => some (.kind false .decimal)
  | 'D' => some (.kind true .decimal)
  | 's' => some (.kind false .blank)
  | 'S' => some (.kind true .blank)
  | 'w' => some (.kind false .word)
  | 'W' => some (.kind true .word)
  | _ => none

def controlCode? (c : Char) : Option Nat :=
  match c with
  | 'a' => some 7
  | 't' => some 9
  | 'n' => some 10
  | 'v' => some 11
  | 'f' => some 12
  | 'r' => some 13
  | _ => none

/-- A code point by so many hexadecimal digits. -/
def hexCode (digits : Nat) : Reader Nat := do
  let found ← span isHexDigit digits
  unless found.length = digits do malformed
  let code := numberOf 16 found
  if code < 0x110000 then return code else malformed

/-- A code point behind a backslash, wherever it stands. -/
def escapedCode (c : Char) : Reader Nat := do
  if let some code := controlCode? c then return code
  match c with
  | 'x' => hexCode 2
  | 'u' => hexCode 4
  | 'U' => hexCode 8
  | _ => if c.isAlphanum then malformed else return c.toNat

def octalCode (digits : List Char) : Reader Nat :=
  let code := numberOf 8 digits
  if code < 256 then return code else malformed

/-- What a backslash and a character stand for inside a set. -/
def setEscape (c : Char) : Reader SetItem := do
  if let some kind := kindOf? c then return kind
  let code ← if c = 'b' then pure 8
    else if isOctalDigit c then do octalCode (c :: (← span isOctalDigit 2))
    else escapedCode c
  return .range code code

def setItem : Token → Reader SetItem
  | .plain c => return .range c.toNat c.toNat
  | .escaped c => setEscape c

/-- The items of a set up to its closing bracket, which is an item itself at the start. The number
bounds how many there are. -/
def setItems : Nat → List SetItem → Reader (List SetItem)
  | 0, _ => malformed
  | bound + 1, items => do
    match ← token? with
    | none => malformed
    | some token =>
      if token = .plain ']' && !items.isEmpty then return items
      let low ← setItem token
      unless ← take? '-' do return ← setItems bound (items ++ [low])
      match ← token? with
      | none => malformed
      | some (.plain ']') => return items ++ [low, .range '-'.toNat '-'.toNat]
      | some token =>
        match low, ← setItem token with
        | .range first other, .range last _ =>
          if first = other && first ≤ last then setItems bound (items ++ [.range first last])
          else malformed
        | _, _ => malformed

def charSet (flags : Flags) : Reader Pattern := do
  let negated ← take? '^'
  let items ← setItems ((← get).rest.length + 1) []
  return setOf flags negated items

/-- The groups that are closed. -/
def isClosed (number : Nat) : Reader Bool := do
  return (((← get).groups[number - 1]?).bind id).isSome

/-- Inside a look back, only groups from before it can be referred to. -/
def checkLookBack (number : Nat) : Reader Unit := do
  if let some bound := (← get).lookBack then
    unless (← isClosed number) && number ≤ bound do malformed

def referenceTo (flags : Flags) (number : Nat) : Reader Item := do
  unless ← isClosed number do malformed
  checkLookBack number
  return { pattern := .reference number flags.ignoreCase flags.ascii }

/-- Digits behind a backslash: an octal number, or the number of a group. -/
def numberEscape (flags : Flags) (c : Char) : Reader Item := do
  if c = '0' then
    return { pattern := literal flags (numberOf 8 (c :: (← span isOctalDigit 2))) }
  let second ← span Char.isDigit 1
  let octal := (c :: second).all isOctalDigit && second.length = 1
  let third ← if octal then span isOctalDigit 1 else pure []
  if third.length = 1 then
    return { pattern := literal flags (← octalCode (c :: second ++ third)) }
  referenceTo flags (numberOf 10 (c :: second))

/-- What a backslash and a character stand for. -/
def escape (flags : Flags) (c : Char) : Reader Item := do
  if let some kind := kindOf? c then return { pattern := setOf flags false [kind] }
  match c with
  | 'A' => return { pattern := .anchor .start, isAnchor := true }
  | 'Z' => return { pattern := .anchor .finish, isAnchor := true }
  | 'b' => return { pattern := .anchor (.boundary flags.ascii false), isAnchor := true }
  | 'B' => return { pattern := .anchor (.boundary flags.ascii true), isAnchor := true }
  | _ =>
    if c.isDigit then numberEscape flags c
    else return { pattern := literal flags (← escapedCode c) }

/-- Bounds on the number of repetitions in braces, behind the opening one. -/
def bounds? : Reader (Option (Nat × Option Nat)) := do
  let outer ← get
  if outer.rest.head? = some '\x7d' then return none
  let length := outer.rest.length
  let low ← span Char.isDigit length
  let high ← if ← take? ',' then span Char.isDigit length else pure low
  unless ← take? '\x7d' do
    set outer
    return none
  let least := numberOf 10 low
  let most := if high.isEmpty then none else some (numberOf 10 high)
  if least ≥ maxRepetitions || most.any (· ≥ maxRepetitions) then throw .tooManyRepetitions
  if most.any (· < least) then malformed
  return some (least, most)

/-- The mark behind a repetition that tells what is preferred. -/
def preference : Reader Preference := do
  if ← take? '?' then return .lazy
  if ← take? '+' then return .possessive
  return .greedy

/-- Puts a repetition in place of the item before it. -/
def repetition (flags : Flags) (bounds : Nat × Option Nat) : List Item → Reader (List Item)
  | [] => malformed
  | item :: items => do
    if item.isAnchor || item.isRepetition || flags.template then malformed
    let pattern := Pattern.repeated (← preference) bounds.1 bounds.2 item.pattern
    return { pattern := pattern, isRepetition := true } :: items

/-- The text up to a mark, which is passed; it must not be empty. -/
def upTo (mark : Char) : Nat → List Char → Reader String
  | 0, _ => malformed
  | bound + 1, found => do
    match ← token? with
    | none => malformed
    | some (.plain c) =>
      if c != mark then upTo mark bound (c :: found)
      else if found.isEmpty then malformed
      else return String.ofList found.reverse
    | some (.escaped c) => upTo mark bound (c :: '\\' :: found)

def nameUpTo (mark : Char) : Reader String := do
  upTo mark ((← get).rest.length + 1) []

def isIdentifier (text : String) : Bool :=
  match text.toList with
  | c :: rest => isWord c && !isDecimal c && rest.all isWord
  | [] => false

/-- A number of a group, as it may be written. -/
def groupNumber? (text : String) : Option Nat :=
  let trimmed := ((text.toList.dropWhile isBlank).reverse.dropWhile isBlank).reverse
  let digits := match trimmed with
    | '+' :: digits => digits
    | digits => digits
  let parts := (String.ofList digits).splitOn "_"
  if parts.all fun part => part != "" && part.toList.all Char.isDigit then
    some (numberOf 10 (digits.filter (· != '_')))
  else none

/-- A comment up to its closing parenthesis. -/
def comment : Nat → Reader Unit
  | 0 => malformed
  | bound + 1 => do
    match ← token? with
    | none => malformed
    | some token => unless token = .plain ')' do comment bound

/-- A comment up to the end of the line, where blanks do not count. -/
def lineComment : Nat → Reader Unit
  | 0 => return
  | bound + 1 => do
    match ← token? with
    | none => return
    | some token => unless token = .plain '\n' do lineComment bound

def flagChars : List Char := ['i', 'L', 'm', 's', 'x', 'a', 't', 'u']

/-- Flags up to a character that is none. -/
def flagRun : Nat → List Char → Reader (List Char × Char)
  | 0, _ => malformed
  | bound + 1, found => do
    match ← token? with
    | some (.plain c) =>
      if flagChars.contains c then flagRun bound (found ++ [c]) else return (found, c)
    | _ => malformed

structure FlagChange where
  added : List Char
  removed : List Char := []
  /-- Does the change apply to the whole pattern? -/
  overall : Bool := false

def flagChange : Reader FlagChange := do
  let bound := (← get).rest.length + 1
  let (added, stop) ← flagRun bound []
  if added.contains 'L' || (added.contains 'a' && added.contains 'u') then malformed
  if stop = ')' && !added.isEmpty then return { added := added, overall := true }
  if added.contains 't' then malformed
  if stop = ':' && !added.isEmpty then return { added := added }
  unless stop = '-' do malformed
  let (removed, stop) ← flagRun bound []
  if removed.isEmpty || removed.any ['a', 'u', 'L', 't'].contains then malformed
  unless stop = ':' do malformed
  if added.any removed.contains then malformed
  return { added := added, removed := removed }

/-- The flags inside a group that changes some. -/
def FlagChange.apply (change : FlagChange) (flags : Flags) : Flags :=
  let value (c : Char) (before : Bool) : Bool :=
    (before || change.added.contains c) && !change.removed.contains c
  { flags with
    ignoreCase := value 'i' flags.ignoreCase
    multiline := value 'm' flags.multiline
    dotAll := value 's' flags.dotAll
    verbose := value 'x' flags.verbose
    ascii := change.added.contains 'a' || (flags.ascii && !change.added.contains 'u') }

/-- The flags of a whole pattern are never taken back. -/
def FlagChange.applyOverall (change : FlagChange) (flags : Flags) : Flags :=
  { change.apply flags with
    ascii := flags.ascii || change.added.contains 'a'
    unicode := flags.unicode || change.added.contains 'u'
    template := flags.template || change.added.contains 't' }

/-- Starts a group and gives its number. -/
def openGroup (name : Option String) : Reader Nat := do
  let draft ← get
  let number := draft.groups.length + 1
  if name.any fun name => (draft.names.lookup name).isSome then malformed
  set { draft with
    groups := draft.groups ++ [none]
    names := draft.names ++ (name.map fun name => (name, number)).toList }
  return number

def closeGroup (number : Nat) (inner : Pattern) : Reader Unit :=
  modify fun draft =>
    { draft with groups := draft.groups.set (number - 1) (some (inner.width draft.groups)) }

def sequence (items : List Item) : Pattern :=
  match items.map Item.pattern with
  | [] => .empty
  | first :: rest => rest.foldl (fun later pattern => .seq pattern later) first

/-- What stands in parentheses behind a look mark. -/
def looking (inside : Reader Pattern) (backward negated : Bool) : Reader Item := do
  let before := (← get).lookBack
  if backward && before.isNone then
    modify fun draft => { draft with lookBack := some draft.groups.length }
  let inner ← inside
  take ')'
  modify fun draft => { draft with lookBack := before }
  let (low, high) := inner.width (← get).groups
  unless backward do return { pattern := .look 0 negated inner }
  if low = high && low ≤ maxRepetitions then return { pattern := .look low negated inner }
  malformed

/-- The number of the group that a condition names. -/
def conditionGroup : Reader Nat := do
  let name ← nameUpTo ')'
  if isIdentifier name then
    match (← get).names.lookup name with
    | some number => return number
    | none => malformed
  match groupNumber? name with
  | some number =>
    if number = 0 then malformed
    modify fun draft => { draft with required := number :: draft.required }
    return number
  | none => malformed

/-- A condition on a group behind its opening marks. -/
def condition (part : Reader Pattern) : Reader Item := do
  let number ← conditionGroup
  checkLookBack number
  let met ← part
  let unmet ← if ← take? '|' then part else pure .empty
  take ')'
  return { pattern := .conditional number met unmet }

/-- A group whose content follows. -/
def enclosed (inside : Reader Pattern) : Reader Pattern := do
  let inner ← inside
  take ')'
  return inner

def capturing (inside : Reader Pattern) (name : Option String) : Reader Item := do
  let number ← openGroup name
  let inner ← enclosed inside
  closeGroup number inner
  return { pattern := .group number inner }

/-- A named group, or a reference to one. -/
def named (inside : Reader Pattern) (flags : Flags) : Reader Item := do
  if ← take? '<' then
    let name ← nameUpTo '>'
    unless isIdentifier name do malformed
    return ← capturing inside (some name)
  take '='
  let name ← nameUpTo ')'
  match (← get).names.lookup name with
  | some number => referenceTo flags number
  | none => malformed

/-- What starts with a parenthesis; a comment is nothing. `inside` reads alternatives under
flags, and `part` a sequence. -/
def parenthesis (inside : Flags → Reader Pattern) (part : Reader Pattern) (flags : Flags) :
    Reader (Option Item) := do
  unless ← take? '?' do return some (← capturing (inside flags) none)
  match (← get).rest.head? with
  | some 'P' =>
    skip 1
    return some (← named (inside flags) flags)
  | some ':' =>
    skip 1
    return some { pattern := ← enclosed (inside flags) }
  | some '#' =>
    comment ((← get).rest.length + 1)
    return none
  | some '=' =>
    skip 1
    return some (← looking (inside flags) false false)
  | some '!' =>
    skip 1
    return some (← looking (inside flags) false true)
  | some '<' =>
    skip 1
    if ← take? '=' then return some (← looking (inside flags) true false)
    take '!'
    return some (← looking (inside flags) true true)
  | some '(' =>
    skip 1
    return some (← condition part)
  | some '>' =>
    skip 1
    return some { pattern := .atomic (← enclosed (inside flags)) }
  | _ =>
    let change ← flagChange
    if change.overall then malformed
    return some { pattern := ← enclosed (inside (change.apply flags)) }

def isVerboseBlank (c : Char) : Bool := c = ' ' || (decide (9 ≤ c.toNat) && decide (c.toNat ≤ 13))

/-- One more item of a sequence, put in front of those before it. -/
def item (inside : Flags → Reader Pattern) (part : Reader Pattern) (flags : Flags)
    (items : List Item) : Token → Reader (List Item)
  | .escaped c => return (← escape flags c) :: items
  | .plain c => do
    if flags.verbose && isVerboseBlank c then return items
    if flags.verbose && c = '#' then
      lineComment ((← get).rest.length + 1)
      return items
    match c with
    | '[' => return { pattern := ← charSet flags } :: items
    | '.' =>
      return { pattern := setOf {} true (if flags.dotAll then [] else [.range 10 10]) } :: items
    | '^' =>
      let condition := if flags.multiline then Anchor.lineStart else .start
      return { pattern := .anchor condition, isAnchor := true } :: items
    | '$' =>
      let condition := if flags.multiline then Anchor.lineEnd else .lastLine
      return { pattern := .anchor condition, isAnchor := true } :: items
    | '*' => repetition flags (0, none) items
    | '+' => repetition flags (1, none) items
    | '?' => repetition flags (0, some 1) items
    | '\x7b' =>
      match ← bounds? with
      | some bounds => repetition flags bounds items
      | none => return { pattern := literal flags c.toNat } :: items
    | '(' => return (← parenthesis inside part flags).toList ++ items
    | _ => return { pattern := literal flags c.toNat } :: items

/-- The items of a sequence, the last first, up to a bar, a closing parenthesis or the end. -/
def items (inside : Flags → Reader Pattern) (part : Reader Pattern) (flags : Flags) :
    Nat → List Item → Reader (List Item)
  | 0, _ => malformed
  | bound + 1, found => do
    match ← next? with
    | none | some (.plain '|') | some (.plain ')') => return found
    | some token =>
      let _ ← token?
      items inside part flags bound (← item inside part flags found token)

/-- Sequences with bars between them. -/
def branches (part : Reader Pattern) : Nat → Reader Pattern
  | 0 => malformed
  | bound + 1 => do
    let first ← part
    if ← take? '|' then return .alt first (← branches part bound) else return first

/-- A sequence, or alternatives, up to a closing parenthesis or the end. The number bounds how
deeply groups are nested. -/
def nested : Nat → Bool → Flags → Reader Pattern
  | 0, _, _ => malformed
  | depth + 1, single, flags => do
    let bound := (← get).rest.length + 1
    let part : Reader Pattern := do
      return sequence (← items (nested depth false) (nested depth true flags) flags bound [])
    if single then part else branches part bound

/-- The flags that open a pattern; blanks and comments do not count. -/
def openingFlags : Nat → Flags → Reader Flags
  | 0, flags => return flags
  | bound + 1, flags => do
    let outer ← get
    match outer.rest with
    | '(' :: '?' :: '#' :: _ =>
      skip 2
      comment outer.rest.length
      openingFlags bound flags
    | '(' :: '?' :: c :: _ =>
      unless flagChars.contains c || c = '-' do return flags
      skip 2
      let change ← flagChange
      if change.overall then return ← openingFlags bound (change.applyOverall flags)
      set outer
      return flags
    | c :: _ =>
      unless flags.verbose && (isVerboseBlank c || c = '#') do return flags
      skip 1
      if c = '#' then lineComment outer.rest.length
      openingFlags bound flags
    | [] => return flags

def whole : Reader Pattern := do
  let length := (← get).rest.length
  let flags ← openingFlags (length + 1) {}
  let pattern ← nested (length + 1) false flags
  if flags.ascii && flags.unicode then throw .conflictingFlags
  let draft ← get
  unless draft.rest.isEmpty do malformed
  if draft.required.any (· > draft.groups.length) then malformed
  return pattern

end Reader

/-- The pattern that a text stands for. -/
def parse (text : String) : Except ParseError Pattern :=
  (Reader.whole.run { rest := text.toList }).map fun (pattern, _) => pattern.simplified

end PlcLint.Text.Pattern
