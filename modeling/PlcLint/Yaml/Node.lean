import PlcLint.Yaml.Token.Stream

/-!
Nodes: the tree that the tokens of a text describe, with the tag of every node. An alias is
replaced by the node that it names.
-/

namespace PlcLint.Yaml

inductive Node where
  | scalar (tag : Tag) (anchored : Bool) (text : String)
  | sequence (tag : Tag) (items : List Node)
  | mapping (tag : Tag) (entries : List (Node × Node))
  /-- An alias inside the node that it names. -/
  | cycle

/-- A named node; it is not known before its end has been read. -/
structure Anchor where
  number : Nat
  name : String
  node : Option Node

structure Parse where
  tokens : List Token
  /-- What is met behind the last token. -/
  fault : Option Fault
  /-- The minor version of the format. -/
  minor : Nat := 2
  /-- What the handles of tags stand for. -/
  handles : List (String × String) := []
  /-- The newest first. -/
  anchors : List Anchor := []

abbrev Parsing := StateT Parse (Except Fault)

namespace Node

def peek : Parsing Token := do
  match (← get).tokens with
  | token :: _ => return token
  | [] => throw ((← get).fault.getD .yamlParse)

def take : Parsing Token := do
  let token ← peek
  modify fun state => { state with tokens := state.tokens.tail }
  return token

def isAt (kinds : List TokenKind) : Parsing Bool := return kinds.contains (← peek).kind

def setNext (token : Token) : Parsing Unit :=
  modify fun state => { state with tokens := token :: state.tokens.tail }

/-- Hands the comments of a token on to the next one. Two comments do not fit into one place,
and none is handed on beyond the document. -/
def passComments (token : Token) : Parsing Unit := do
  let next ← peek
  if next.kind = .streamEnd || next.kind = .documentStart then return
  if (token.commentBehind && next.commentBehind) || (token.commentBefore && next.commentBefore) then
    throw .yamlComments
  setNext { next with
    commentBefore := next.commentBefore || token.commentBefore
    commentBehind := next.commentBehind || token.commentBehind }

/-- As `passComments`, with comments lost that do not fit. -/
def passFittingComments (token : Token) : Parsing Unit := do
  let state ← get
  match (passComments token).run state with
  | .ok ((), state) => set state
  | .error .yamlComments => return
  | .error fault => throw fault

/-- The tag of a scalar without one of its own, read off its text. -/
def plainTag (text : String) : Parsing Tag := do
  let minor := (← get).minor
  if minor = 1 || minor = 2 then return Tag.ofPlain minor text else throw .yamlVersion

/-- A scalar that is not written. -/
def missing : Parsing Node := return .scalar (← plainTag "") false ""

/-- The handles that need no directive. -/
def standardHandles : List (String × String) := [("!", "!"), ("!!", Tag.knownLead)]

/-- The full name of a tag; only the tags that are known everywhere have their handle replaced. -/
def tagName (text : TagText) : Parsing String := do
  match text.handle with
  | none => return text.suffix
  | some handle =>
    match (← get).handles.lookup handle with
    | none => throw .yamlParse
    | some lead =>
      if handle = "!!" && (Tag.known.lookup text.suffix).isSome then return lead ++ text.suffix
      else return handle ++ text.suffix

/-- The anchor and the tag before a node, in either order. -/
def properties : Parsing (Option String × Option TagText) := do
  let first ← peek
  match first.kind with
  | .anchor name =>
    passComments (← take)
    match (← peek).kind with
    | .tag text =>
      let _ ← take
      return (some name, some text)
    | _ => return (some name, none)
  | .tag text =>
    passFittingComments (← take)
    match (← peek).kind with
    | .anchor name =>
      let _ ← take
      return (some name, some text)
    | _ => return (none, some text)
  | _ => return (none, none)

/-- Gives a name to a node that starts; the number tells it from others of the same name. -/
def openAnchor (name : Option String) : Parsing (Option Nat) := do
  match name with
  | none => return none
  | some name =>
    let number := (← get).anchors.length
    modify fun state => { state with anchors := ⟨number, name, none⟩ :: state.anchors }
    return some number

def closeAnchor (number : Option Nat) (node : Node) : Parsing Node := do
  match number with
  | none => return node
  | some number =>
    modify fun state => { state with
      anchors := state.anchors.map fun anchor =>
        if anchor.number == number then { anchor with node := some node } else anchor }
    return node

def ofAlias (name : String) : Parsing Node := do
  match (← get).anchors.find? fun anchor => anchor.name == name with
  | none => throw .yamlAlias
  | some anchor => return anchor.node.getD .cycle

/-- The tag of a collection. -/
def collectionTag (own : Tag) (name : Option String) : Tag :=
  match name with
  | none => own
  | some name => if name = "!" then own else Tag.ofName name

def scalarTag (plain : Bool) (name : Option String) (text : String) : Parsing Tag := do
  match name with
  | none => if plain then plainTag text else return .string
  | some name => if name = "!" then plainTag text else return Tag.ofName name

/-- Comments of the start of a mapping that go to its first key. -/
def keyComments (token : Token) : Token :=
  if token.commentBefore then token else { token with commentBehind := false }

/-- A value that is not written leaves the comment behind the colon to itself. -/
def dropCommentBehind : Parsing Unit := do
  let next ← peek
  setNext { next with commentBehind := false }

mutual

/-- A node in block style, or with `block` off only in flow style. A sequence that is the value
of a key need not be indented. -/
def parse : Nat → Bool → Bool → Parsing Node
  | 0, _, _ => throw .yamlParse
  | fuel + 1, block, indentless => do
    match (← peek).kind with
    | .alias name =>
      let _ ← take
      ofAlias name
    | _ =>
      let (anchor, text) ← properties
      let name ← text.mapM tagName
      let token ← peek
      match token.kind, block with
      | .scalar plain text, _ =>
        let _ ← take
        let tag ← scalarTag plain name text
        let number ← openAnchor anchor
        closeAnchor number (.scalar tag anchor.isSome text)
      | .flowSequenceStart, _ =>
        let number ← openAnchor anchor
        let _ ← take
        let items ← flowItems fuel true
        closeAnchor number (.sequence (collectionTag .sequence name) items)
      | .flowMappingStart, _ =>
        let number ← openAnchor anchor
        let _ ← take
        let entries ← flowEntries fuel true
        closeAnchor number (.mapping (collectionTag .mapping name) entries)
      | .blockSequenceStart, true =>
        let number ← openAnchor anchor
        let _ ← take
        let items ← blockItems fuel
        closeAnchor number (.sequence (collectionTag .sequence name) items)
      | .blockMappingStart, true =>
        let number ← openAnchor anchor
        passComments (keyComments (← take))
        let entries ← blockEntries fuel
        closeAnchor number (.mapping (collectionTag .mapping name) entries)
      | kind, _ =>
        if indentless && kind = .blockEntry then
          dropCommentBehind
          let number ← openAnchor anchor
          let items ← indentlessItems fuel
          closeAnchor number (.sequence (collectionTag .sequence name) items)
        else if anchor.isSome || text.isSome then
          let tag ← scalarTag true name ""
          let number ← openAnchor anchor
          closeAnchor number (.scalar tag anchor.isSome "")
        else throw .yamlParse

/-- The items of an indented sequence up to its end. -/
def blockItems : Nat → Parsing (List Node)
  | 0 => throw .yamlParse
  | fuel + 1 => do
    if ← isAt [.blockEntry] then
      passComments (← take)
      let item ← if ← isAt [.blockEntry, .blockEnd] then missing else parse fuel true false
      return item :: (← blockItems fuel)
    else if ← isAt [.blockEnd] then
      let _ ← take
      return []
    else throw .yamlParse

/-- The items of a sequence in the column of its key. -/
def indentlessItems : Nat → Parsing (List Node)
  | 0 => throw .yamlParse
  | fuel + 1 => do
    if ← isAt [.blockEntry] then
      passComments (← take)
      let item ← if ← isAt [.blockEntry, .key, .value, .blockEnd] then missing
        else parse fuel true false
      return item :: (← indentlessItems fuel)
    else return []

/-- The entries of a block mapping up to its end. From version 1.2 on a key can be left out. -/
def blockEntries : Nat → Parsing (List (Node × Node))
  | 0 => throw .yamlParse
  | fuel + 1 => do
    if ← isAt [.key] then
      passComments (← take)
      let key ← if ← isAt [.key, .value, .blockEnd] then missing else parse fuel true true
      let value ← blockValue fuel
      return (key, value) :: (← blockEntries fuel)
    else if (← isAt [.value]) && 1 < (← get).minor then
      let key ← missing
      let value ← blockValue fuel
      return (key, value) :: (← blockEntries fuel)
    else if ← isAt [.blockEnd] then
      passComments (← take)
      return []
    else throw .yamlParse

def blockValue : Nat → Parsing Node
  | 0 => throw .yamlParse
  | fuel + 1 => do
    if ← isAt [.value] then
      let token ← take
      let keyNext ← isAt [.key]
      if !keyNext then passComments token
      if ← isAt [.key, .value, .blockEnd] then
        if !(keyNext && (token.commentBefore || token.commentBehind)) then dropCommentBehind
        missing
      else parse fuel true true
    else missing

/-- The items of a sequence in brackets; a key makes a mapping of one entry. -/
def flowItems : Nat → Bool → Parsing (List Node)
  | 0, _ => throw .yamlParse
  | fuel + 1, first => do
    if ← isAt [.flowSequenceEnd] then
      let _ ← take
      return []
    else
      if !first then
        if ← isAt [.flowEntry] then
          let _ ← take
        else throw .yamlParse
      if ← isAt [.key] then
        let _ ← take
        let key ← if ← isAt [.value, .flowEntry, .flowSequenceEnd] then missing
          else parse fuel false false
        let value ← flowValue fuel [.flowEntry, .flowSequenceEnd]
        return .mapping .mapping [(key, value)] :: (← flowItems fuel false)
      else if ← isAt [.flowSequenceEnd] then
        let _ ← take
        return []
      else
        let item ← parse fuel false false
        return item :: (← flowItems fuel false)

/-- The value of an entry inside brackets, which one of these tokens ends. -/
def flowValue : Nat → List TokenKind → Parsing Node
  | 0, _ => throw .yamlParse
  | fuel + 1, ends => do
    if ← isAt [.value] then
      let _ ← take
      if ← isAt ends then missing else parse fuel false false
    else
      let _ ← peek
      missing

/-- The entries of a mapping in braces. -/
def flowEntries : Nat → Bool → Parsing (List (Node × Node))
  | 0, _ => throw .yamlParse
  | fuel + 1, first => do
    if ← isAt [.flowMappingEnd] then
      let _ ← take
      return []
    else
      if !first then
        if ← isAt [.flowEntry] then
          let _ ← take
        else throw .yamlParse
      if ← isAt [.key] then
        let _ ← take
        let key ← if ← isAt [.value, .flowEntry, .flowMappingEnd] then missing
          else parse fuel false false
        let value ← flowValue fuel [.flowEntry, .flowMappingEnd]
        return (key, value) :: (← flowEntries fuel false)
      else if (← isAt [.value]) && 1 < (← get).minor then
        let key ← missing
        let value ← flowValue fuel [.flowEntry, .flowMappingEnd]
        return (key, value) :: (← flowEntries fuel false)
      else if ← isAt [.flowMappingEnd] then
        let _ ← take
        return []
      else
        let key ← parse fuel false false
        let _ ← peek
        let value ← missing
        return (key, value) :: (← flowEntries fuel false)

end

def isDirective : TokenKind → Bool
  | .versionDirective _ _ | .tagDirective _ _ | .otherDirective => true
  | _ => false

/-- The directives before a document; the number bounds them. -/
def directives : Nat → Bool → Parsing Unit
  | 0, _ => return
  | fuel + 1, versioned => do
    match (← peek).kind with
    | .versionDirective major minor =>
      let _ ← take
      if versioned || major != 1 then throw .yamlParse
      modify fun state => { state with minor := minor }
      directives fuel true
    | .tagDirective handle lead =>
      let _ ← take
      if ((← get).handles.lookup handle).isSome then throw .yamlParse
      modify fun state => { state with handles := (handle, lead) :: state.handles }
      directives fuel versioned
    | .otherDirective =>
      let _ ← take
      directives fuel versioned
    | _ => return

def skipDocumentEnds : Nat → Parsing Unit
  | 0 => return
  | fuel + 1 => do
    if ← isAt [.documentEnd] then
      let _ ← take
      skipDocumentEnds fuel

/-- The start of a document with directives and a marker. `false` at the end of the text. -/
def explicitStart (fuel : Nat) : Parsing Bool := do
  skipDocumentEnds fuel
  if ← isAt [.streamEnd] then return false
  modify fun state => { state with handles := [] }
  directives fuel false
  modify fun state => { state with handles := state.handles ++ standardHandles }
  if ← isAt [.documentStart] then
    let _ ← take
    return true
  else throw .yamlParse

/-- A document can start with its content, without a marker. -/
def startsBare : Parsing Bool := do
  let kind := (← peek).kind
  return !(isDirective kind || kind = .documentStart || kind = .streamEnd)

/-- The content of a document, if one starts here. -/
def content (fuel : Nat) : Parsing (Option Node) := do
  if ← startsBare then
    modify fun state => { state with handles := standardHandles }
    return some (← parse fuel true false)
  else if ← explicitStart fuel then
    let kind := (← peek).kind
    if isDirective kind || [.documentStart, .documentEnd, .streamEnd].contains kind then
      return some (← missing)
    else return some (← parse fuel true false)
  else return none

/-- The only document of a text; `none` in an empty text. -/
def document (fuel : Nat) : Parsing (Option Node) := do
  passComments (← take)
  match ← content fuel with
  | none => return none
  | some node =>
    if ← isAt [.documentEnd] then
      let _ ← take
    if (← get).minor != 1 then
      if ← startsBare then throw .yamlDocuments
    if ← explicitStart fuel then throw .yamlDocuments
    return some node

end Node

/-- The tree of a text and the minor version of the format that it follows. -/
def Node.ofText (text : List Char) : Except Fault (Option Node × Nat) := do
  let (tokens, fault) := tokens text
  let (node, state) ←
    (Node.document (4 * tokens.length + 8)).run { tokens := tokens, fault := fault }
  return (node, state.minor)

end PlcLint.Yaml
