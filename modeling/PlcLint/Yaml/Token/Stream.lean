import PlcLint.Yaml.Token.Name

/-!
The tokens of a text. Whether a scalar is a key shows only at the colon behind it, so tokens wait
in a queue until it is clear that no key sign has to go before them. A fault in the text is met
when a token is wanted that cannot be had without reading on to it.
-/

namespace PlcLint.Yaml

/-- A token that becomes a key if a colon follows on the same line. -/
structure PossibleKey where
  /-- The number of the token. -/
  token : Nat
  /-- Nothing but a key can stand there. -/
  required : Bool
  index : Nat
  line : Nat
  column : Nat

structure Scan where
  here : Cursor
  queue : List Token := [Token.mark .streamStart 0]
  /-- How many tokens have left the queue. -/
  taken : Nat := 0
  indent : Int := -1
  outerIndents : List Int := []
  /-- The open brackets of the flow style, the innermost first. -/
  brackets : List Char := []
  keyAllowed : Bool := true
  /-- At most one for each depth of brackets. -/
  possibleKeys : List (Nat × PossibleKey) := []
  /-- The minor version of the format. -/
  minor : Nat := 2
  ended : Bool := false

namespace Scan

def depth (scan : Scan) : Nat := scan.brackets.length

def inFlow (scan : Scan) : Bool := !scan.brackets.isEmpty

def push (scan : Scan) (kind : TokenKind) : Scan :=
  { scan with queue := scan.queue ++ [Token.mark kind scan.here.line] }

/-- A token of `width` characters. -/
def pushSign (scan : Scan) (kind : TokenKind) (width : Nat := 1) : Scan :=
  { scan.push kind with here := scan.here.advanceBy width }

/-- The farthest that a colon can stand from the start of its key. -/
def keyReach : Nat := 1024

def isStale (scan : Scan) (key : PossibleKey) : Bool :=
  key.line != scan.here.line || keyReach < scan.here.index - key.index

/-- Tokens too far behind can no longer be keys. -/
def dropStale (scan : Scan) : Except Fault Scan :=
  if scan.possibleKeys.any fun entry => scan.isStale entry.2 && entry.2.required then
    .error .yamlScan
  else .ok { scan with possibleKeys := scan.possibleKeys.filter fun entry => !scan.isStale entry.2 }

/-- What comes next is no colon: the token at this depth is no key. -/
def dropKey (scan : Scan) : Except Fault Scan :=
  match scan.possibleKeys.lookup scan.depth with
  | none => .ok scan
  | some key =>
    if key.required then .error .yamlScan
    else .ok { scan with possibleKeys := scan.possibleKeys.filter (·.1 != scan.depth) }

/-- The next token may be a key. -/
def noteKey (scan : Scan) : Except Fault Scan :=
  if !scan.keyAllowed then .ok scan
  else do
    let cleared ← scan.dropKey
    let key : PossibleKey :=
      { token := scan.taken + scan.queue.length
        required := !scan.inFlow && scan.indent == scan.here.column
        index := scan.here.index
        line := scan.here.line
        column := scan.here.column }
    return { cleared with possibleKeys := cleared.possibleKeys ++ [(scan.depth, key)] }

/-- The block collections that are indented deeper than a column end; the number of open ones
bounds the steps. -/
def closeBlocks (column : Int) : Nat → Scan → Scan
  | 0, scan => scan
  | fuel + 1, scan =>
    if scan.indent ≤ column then scan
    else
      let scan := scan.push .blockEnd
      closeBlocks column fuel { scan with
        indent := scan.outerIndents.headD (-1), outerIndents := scan.outerIndents.tail }

def unindent (scan : Scan) (column : Int) : Scan :=
  if scan.inFlow then scan else closeBlocks column (scan.outerIndents.length + 1) scan

/-- A deeper column opens a block collection. -/
def deepens (scan : Scan) (column : Nat) : Bool := decide (scan.indent < column)

def indentTo (scan : Scan) (column : Nat) : Scan :=
  { scan with indent := column, outerIndents := scan.indent :: scan.outerIndents }

/-- A sign that starts an entry of a block collection of its own kind. -/
def openBlock (scan : Scan) (start : TokenKind) : Scan :=
  if scan.deepens scan.here.column then (scan.indentTo scan.here.column).push start else scan

/-- A line break with the blanks and empty lines behind it. -/
def isBlankOrBreak (c : Char) : Bool := isTabOrSpace c || isBreak c

/-- Goes on to the next token; the second part tells of a comment, or of empty lines, that were
met before it, by the line on which they start. -/
def gap (inFlow : Bool) : Nat → Bool → Cursor → Bool × Option Nat × Cursor
  | 0, allowed, here => (allowed, none, here)
  | fuel + 1, allowed, here =>
    let here := here.skip (· = ' ')
    if here.peek = '#' then
      let line := here.line
      let here := (here.skip (!endsLine ·)).skip isBreak
      (allowed || !inFlow, some line, here)
    else match here.lineBreak? with
      | none => (allowed, none, here)
      | some (_, here) =>
        if here.peek = '\n' then
          (allowed || !inFlow, some here.line, here.skip isBlankOrBreak)
        else gap inFlow fuel (allowed || !inFlow) here

/-- As `gap`, with a byte order mark at the very start left out. -/
def skipGap (scan : Scan) : Option Nat × Scan :=
  let here := if scan.here.index = 0 && isByteOrderMark scan.here.peek then scan.here.advance
    else scan.here
  let (allowed, comment, here) := gap scan.inFlow (here.rest.length + 1) scan.keyAllowed here
  (comment, { scan with here := here, keyAllowed := allowed })

/-- All comments up to the next token. -/
def skipGaps : Nat → Scan → Scan
  | 0, scan => scan
  | fuel + 1, scan =>
    match scan.skipGap with
    | (some _, scan) => skipGaps fuel scan
    | (none, scan) => scan

def fetchEnd (scan : Scan) : Except Fault Scan := do
  let scan ← (scan.unindent (-1)).dropKey
  return { scan.push .streamEnd with keyAllowed := false, possibleKeys := [], ended := true }

def fetchDirective (scan : Scan) : Except Fault Scan := do
  let scan ← (scan.unindent (-1)).dropKey
  let (kind, here) ← NameText.directive scan.minor scan.here.advance
  let minor := match kind with
    | .versionDirective _ minor => minor
    | _ => scan.minor
  return { scan.push kind with here := here, minor := minor, keyAllowed := false }

def fetchMarker (scan : Scan) (kind : TokenKind) : Except Fault Scan := do
  let scan ← (scan.unindent (-1)).dropKey
  return { scan.pushSign kind 3 with keyAllowed := false }

def fetchFlowStart (scan : Scan) (kind : TokenKind) : Except Fault Scan := do
  let scan ← scan.noteKey
  return { scan.pushSign kind with
    brackets := scan.here.peek :: scan.brackets, keyAllowed := true }

def fetchFlowEnd (scan : Scan) (kind : TokenKind) : Except Fault Scan := do
  let scan ← scan.dropKey
  return { scan.pushSign kind with brackets := scan.brackets.tail, keyAllowed := false }

def fetchFlowEntry (scan : Scan) : Except Fault Scan := do
  let scan ← scan.dropKey
  return { scan.pushSign .flowEntry with keyAllowed := true }

def fetchBlockEntry (scan : Scan) : Except Fault Scan := do
  if !scan.inFlow && !scan.keyAllowed then throw .yamlScan
  let scan := if scan.inFlow then scan else scan.openBlock .blockSequenceStart
  let scan ← scan.dropKey
  return { scan.pushSign .blockEntry with keyAllowed := true }

def fetchKey (scan : Scan) : Except Fault Scan := do
  if !scan.inFlow && !scan.keyAllowed then throw .yamlScan
  let scan := if scan.inFlow then scan else scan.openBlock .blockMappingStart
  let scan ← scan.dropKey
  return { scan.pushSign .key with keyAllowed := !scan.inFlow }

/-- Puts a key sign before a token that waits in the queue, and the start of a mapping if the
key is the first of its column. -/
def insertKey (scan : Scan) (key : PossibleKey) : Scan :=
  let place := key.token - scan.taken
  let opens := !scan.inFlow && scan.deepens key.column
  let signs := (if opens then [Token.mark .blockMappingStart key.line] else [])
    ++ [Token.mark .key key.line]
  let scan := if opens then scan.indentTo key.column else scan
  { scan with queue := scan.queue.take place ++ signs ++ scan.queue.drop place }

def fetchValue (scan : Scan) : Except Fault Scan :=
  match scan.possibleKeys.lookup scan.depth with
  | some key =>
    let scan := { scan with possibleKeys := scan.possibleKeys.filter (·.1 != scan.depth) }
    .ok { (scan.insertKey key).pushSign .value with keyAllowed := false }
  | none => do
    if !scan.inFlow && !scan.keyAllowed then throw .yamlScan
    let scan := if scan.inFlow then scan else scan.openBlock .blockMappingStart
    return { scan.pushSign .value with keyAllowed := !scan.inFlow }

/-- A token of one word that can be a key. -/
def fetchName (scan : Scan) (read : Cursor → Except Fault (TokenKind × Cursor)) :
    Except Fault Scan := do
  let scan ← scan.noteKey
  let (kind, here) ← read scan.here
  return { scan.push kind with here := here, keyAllowed := false }

def anchorKind (kind : String → TokenKind) (here : Cursor) : Except Fault (TokenKind × Cursor) := do
  let (name, here) ← NameText.anchor here.advance
  return (kind name, here)

def tagKind (minor : Nat) (here : Cursor) : Except Fault (TokenKind × Cursor) := do
  let (text, here) ← NameText.tag minor here
  return (.tag text, here)

/-- A scalar in quotes. -/
def fetchQuoted (scan : Scan) : Except Fault Scan := do
  let scan ← scan.noteKey
  let start := scan.here
  let (text, here) ← ScalarText.quoted start.peek (start.rest.length + 1) [] start.advance
  let token : Token := ⟨.scalar false (String.ofList text), start.line, here.line, false, false⟩
  return { scan with here := here, queue := scan.queue ++ [token], keyAllowed := false }

def fetchPlain (scan : Scan) : Except Fault Scan := do
  let scan ← scan.noteKey
  let start := scan.here
  let found := ScalarText.plain scan.inFlow scan.minor (scan.indent + 1) (start.rest.length + 1)
    [] [] false start.line start
  let token : Token :=
    ⟨.scalar true (String.ofList found.text), start.line, found.endLine, false, found.linesBehind⟩
  return { scan with
    here := found.here, queue := scan.queue ++ [token], keyAllowed := found.lineEnded }

/-- A block scalar. Comments that follow the empty lines behind it belong to it. -/
def fetchBlock (scan : Scan) (folded : Bool) : Except Fault Scan := do
  let scan ← scan.dropKey
  let start := scan.here
  let found ← ScalarText.block folded scan.indent start.advance
  let token : Token := ⟨.scalar false (String.ofList found.text), start.line, found.endLine,
    found.headerComment, found.linesBehind⟩
  let scan := { scan with here := found.here, keyAllowed := true }
  let scan := if found.linesBehind then skipGaps (scan.here.rest.length + 1) scan else scan
  return { scan with queue := scan.queue ++ [token] }

def startsKey (scan : Scan) : Bool := scan.inFlow || endsWord (scan.here.peekAt 1)

/-- A colon inside brackets needs no gap behind it, except in a sequence and behind another
colon. -/
def startsValue (scan : Scan) : Bool :=
  let gapBehind := endsWord (scan.here.peekAt 1)
  if !scan.inFlow then gapBehind
  else if scan.minor = 1 then true
  else if scan.brackets.head? == some '[' then gapBehind
  else if scan.queue.getLast?.any fun token => token.kind = .value then gapBehind
  else true

/-- Signs that no plain scalar starts with, unless something follows right behind. -/
def signs : List Char := "-?:,[]\x7b\x7d#&*!|>'\"%@`".toList

def startsPlain (scan : Scan) : Bool :=
  let c := scan.here.peek
  let next := scan.here.peekAt 1
  !(c = endSign || isTabOrSpace c || isBreak c || signs.contains c)
    || (!endsWord next && (c = '-' || (!scan.inFlow && (c = '?' || c = ':'))))
    || (scan.minor != 1 && c = ':' && scan.inFlow && !isTabOrSpace next)

/-- The token at the next character that is no space. -/
def fetchToken (scan : Scan) : Except Fault Scan :=
  let c := scan.here.peek
  let atMargin := scan.here.column = 0
  if c = endSign then scan.fetchEnd
  else if c = '%' && atMargin then scan.fetchDirective
  else if atMargin && scan.here.atMarker "---" then scan.fetchMarker .documentStart
  else if atMargin && scan.here.atMarker "..." then scan.fetchMarker .documentEnd
  else if c = '[' then scan.fetchFlowStart .flowSequenceStart
  else if c = '\x7b' then scan.fetchFlowStart .flowMappingStart
  else if c = ']' then scan.fetchFlowEnd .flowSequenceEnd
  else if c = '\x7d' then scan.fetchFlowEnd .flowMappingEnd
  else if c = ',' then scan.fetchFlowEntry
  else if c = '-' && endsWord (scan.here.peekAt 1) then scan.fetchBlockEntry
  else if c = '?' && scan.startsKey then scan.fetchKey
  else if c = ':' && scan.startsValue then scan.fetchValue
  else if c = '*' then scan.fetchName (anchorKind .alias)
  else if c = '&' then scan.fetchName (anchorKind .anchor)
  else if c = '!' then scan.fetchName (tagKind scan.minor)
  else if c = '|' && !scan.inFlow then scan.fetchBlock false
  else if c = '>' && !scan.inFlow then scan.fetchBlock true
  else if c = '\'' || c = '"' then scan.fetchQuoted
  else if scan.startsPlain then scan.fetchPlain
  else .error .yamlScan

/-- Reads on by one comment or one token, which may bring the ends of blocks with it. -/
def fetch (scan : Scan) : Except Fault Scan :=
  match scan.skipGap with
  | (some line, scan) =>
    .ok { scan with queue := scan.queue ++ [Token.mark .comment line] }
  | (none, scan) => do
    let scan ← scan.dropStale
    (scan.unindent scan.here.column).fetchToken

/-- The first token of the queue is not settled: it may still turn out to be a key. -/
def needsMore (scan : Scan) : Except Fault (Bool × Scan) :=
  if scan.ended then .ok (false, scan)
  else if scan.queue.isEmpty then .ok (true, scan)
  else do
    let scan ← scan.dropStale
    return (scan.possibleKeys.any fun entry => entry.2.token == scan.taken, scan)

/-- Reads on until the first token is settled. -/
def settle : Nat → Scan → Except Fault Scan
  | 0, scan => .ok scan
  | fuel + 1, scan => do
    let (needed, scan) ← scan.needsMore
    if needed then settle fuel (← scan.fetch) else return scan

/-- Takes a comment from the front of the queue. -/
def takeComment (scan : Scan) : Bool × Scan :=
  match scan.queue with
  | token :: rest =>
    if token.isComment then (true, { scan with queue := rest, taken := scan.taken + 1 })
    else (false, scan)
  | [] => (false, scan)

/-- As `settle`, with the comments that come to the front taken away. -/
def settleComments : Nat → Bool → Scan → Except Fault (Bool × Scan)
  | 0, found, scan => .ok (found, scan)
  | fuel + 1, found, scan => do
    let (needed, scan) ← scan.needsMore
    if needed then
      let (taken, scan) := (← scan.fetch).takeComment
      settleComments fuel (found || taken) scan
    else return (found, scan)

/-- Comments before a token are its own; there can be others only in the header of a block. -/
def giveComments (scan : Scan) : Except Fault Scan :=
  match scan.queue with
  | [] => .ok scan
  | token :: rest =>
    if token.commentBefore then .error .yamlHeaderComment
    else .ok { scan with queue := { token with commentBefore := true } :: rest }

/-- Reads on until the next token is settled and another one is known behind it. -/
def look (scan : Scan) : Except Fault Scan := do
  let fuel := scan.here.rest.length + 2
  let scan ← settle fuel scan
  let (found, scan) := scan.takeComment
  let (found, scan) ← settleComments fuel found scan
  let scan ← if found then scan.giveComments else pure scan
  if !scan.ended && scan.queue.length < 2 then scan.fetch else return scan

/-- Takes away comments behind the first token. -/
def dropCommentsBehind : Nat → Scan → Except Fault Scan
  | 0, scan => .ok scan
  | fuel + 1, scan =>
    match scan.queue with
    | token :: comment :: rest =>
      if comment.isComment then do
        dropCommentsBehind fuel
          (← { scan with queue := token :: rest, taken := scan.taken + 1 }.fetch)
      else .ok scan
    | _ => .ok scan

/-- A comment behind the first token is its own if it stands on the same line, and behind a
scalar in any case. -/
def absorb (scan : Scan) : Except Fault Scan :=
  match scan.queue with
  | token :: next :: rest =>
    if next.isComment && (token.isScalar || (token.takesComment && token.endLine == next.startLine))
    then
      dropCommentsBehind (scan.here.rest.length + 2)
        { scan with queue := { token with commentBehind := true } :: next :: rest }
    else .ok scan
  | _ => .ok scan

/-- The tokens from here on that can be had, and the fault that is met behind them. -/
def tokensFrom : Nat → Scan → List Token × Option Fault
  | 0, _ => ([], none)
  | fuel + 1, scan =>
    match scan.look with
    | .error fault => ([], some fault)
    | .ok scan =>
      match scan.queue with
      | [] => ([], none)
      | token :: _ =>
        match scan.absorb with
        | .error fault => ([token], some fault)
        | .ok scan =>
          let token := scan.queue.headD token
          if token.kind = .streamEnd then ([token], none)
          else
            let (tokens, fault) :=
              tokensFrom fuel { scan with queue := scan.queue.tail, taken := scan.taken + 1 }
            (token :: tokens, fault)

end Scan

/-- The tokens of a text, and the fault that is met behind them. -/
def tokens (text : List Char) : List Token × Option Fault :=
  Scan.tokensFrom (4 * text.length + 16) { here := ⟨text, 0, 0, 0⟩ }

end PlcLint.Yaml
