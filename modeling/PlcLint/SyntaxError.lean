import PlcLint.Text.Lines

/-!
Records of syntax errors: where a text stops to be code, and what the parser knew there. A record
goes from one process to another by its fields.
-/

namespace PlcLint

/-- What the parser knew is kept as JSON text. -/
structure SyntaxError where
  place : Int
  line : Int
  column : Int
  allowed : String := "null"
  consideredTokens : String := "null"
  state : String := "null"
  tokenHistory : String := "null"
  terminals : String := "null"
  consideredRules : String := "null"
  char : Char
  context : String := "null"
  deriving DecidableEq, Repr

namespace SyntaxError

/-- The error at a place of a text; there has to be a character. -/
def inText? (text : String) (place line column : Int) : Option SyntaxError :=
  (Text.item? text.toList place).map fun c =>
    { place := place, line := line, column := column, char := c }

/-- The fields in the order in which they are sent. -/
abbrev Fields :=
  Int × Int × Int × String × String × String × String × String × String × Char × String

def sent (error : SyntaxError) : Fields :=
  (error.place, error.line, error.column, error.allowed, error.consideredTokens, error.state,
    error.tokenHistory, error.terminals, error.consideredRules, error.char, error.context)

def received : Fields → SyntaxError
  | (place, line, column, allowed, consideredTokens, state, tokenHistory, terminals,
      consideredRules, char, context) =>
    { place := place, line := line, column := column, allowed := allowed
      consideredTokens := consideredTokens, state := state, tokenHistory := tokenHistory
      terminals := terminals, consideredRules := consideredRules, char := char
      context := context }

end SyntaxError

end PlcLint
