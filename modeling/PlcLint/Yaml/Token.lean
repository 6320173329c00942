import PlcLint.Yaml.Cursor

/-!
Tokens of a YAML text. The starts and ends of block collections are tokens too, although they
are only indentation in the text.
-/

namespace PlcLint.Yaml

/-- A tag as it is written: a suffix, behind a handle unless it is complete. -/
structure TagText where
  handle : Option String
  suffix : String
  deriving DecidableEq

inductive TokenKind where
  | streamStart
  | streamEnd
  | versionDirective (major minor : Nat)
  | tagDirective (handle lead : String)
  | otherDirective
  | documentStart
  | documentEnd
  | blockSequenceStart
  | blockMappingStart
  | blockEnd
  | flowSequenceStart
  | flowSequenceEnd
  | flowMappingStart
  | flowMappingEnd
  | blockEntry
  | flowEntry
  | key
  | value
  | alias (name : String)
  | anchor (name : String)
  | tag (text : TagText)
  | scalar (plain : Bool) (text : String)
  /-- A comment, or empty lines, which belong to a token nearby. -/
  | comment
  deriving DecidableEq

/-- A token with the lines on which it starts and ends. Comments belong to tokens: there can be
some before a token and some behind it. -/
structure Token where
  kind : TokenKind
  startLine : Nat
  endLine : Nat
  commentBefore : Bool := false
  commentBehind : Bool := false
  deriving DecidableEq

namespace Token

/-- A token that has no extent. -/
def mark (kind : TokenKind) (line : Nat) : Token := ⟨kind, line, line, false, false⟩

def isComment (token : Token) : Bool := token.kind = .comment

def isScalar (token : Token) : Bool :=
  match token.kind with
  | .scalar _ _ => true
  | _ => false

/-- Tokens that a comment on the same line belongs to. -/
def takesComment (token : Token) : Bool :=
  match token.kind with
  | .scalar _ _ | .value | .flowSequenceEnd | .flowMappingEnd => true
  | _ => false

end Token

end PlcLint.Yaml
