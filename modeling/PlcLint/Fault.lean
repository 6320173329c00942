import PlcLint.SyntaxError

/-!
What can go wrong while code is read, analysed and checked. A fault is a cause; the wording of
those that are shown stands in `Fault.message?`.
-/

namespace PlcLint

inductive Fault where
  /-- `EXIT` or `CONTINUE` with no loop around it. -/
  | exitOutsideLoop
  | continueOutsideLoop
  /-- Jumps to labels are not analysed. -/
  | jump
  /-- A statement of a kind that the analysis does not know. -/
  | foreignStatement
  /-- There is no code to make a graph of. -/
  | noCode
  /-- A `FOR` loop whose body is missing. -/
  | missingLoopBody
  /-- `ADR()` without an argument. -/
  | addressOfNothing
  /-- `ADR` of something that has no name. -/
  | addressOfUnnamed
  /-- Element types of a type that is no array, or no reference. -/
  | notAnArray
  | notAReference
  | thisOutsideBlock
  | superOutsideBlock
  | noReturnType (method : String)
  /-- `SUPER` in the body, or in a method, of a block without `EXTENDS`. -/
  | superOfBodyWithoutBase
  | superOfMethodWithoutBase
  /-- `SUPER` in the body of a block with an empty `EXTENDS`. -/
  | emptyBaseList
  /-- A property whose getter has no type. -/
  | untypedProperty
  | directVariableType
  | unknownOperator
  | bracketType
  /-- A context is shown although no function block is current. -/
  | noCurrentBlock
  /-- A function block or method is entered inside another one. -/
  | alreadyEntered
  | nothingEntered
  /-- A value that cannot be looked up in a collection. -/
  | notAKey
  /-- A path without elements where one is needed: as a callee, or behind `SUPER`. -/
  | emptyCalleePath
  | emptySuperPath
  /-- A subscript where a field is needed. -/
  | subscriptOfSuper
  /-- A line number before the start of the text. -/
  | lineOutOfRange
  /-- A file is needed and none is known. -/
  | noFile
  /-- A path that no file can have. -/
  | nullInPath
  /-- A file declares an encoding that it does not have, or one that is not of text. -/
  | noByteOrder
  | notATextEncoding
  | emptyName
  | badPattern
  | patternRepetitions
  | patternFlags
  | unknownLevelName
  | unknownLevelNumber
  | notALevel (shown : String)
  | badCheckCode (code : String)
  | usedCheckCode (code : String)
  | uncheckableObject
  /-- A place at which there is nothing. -/
  | noSuchPlace
  | fileNotFound
  | isADirectory
  | notADirectory
  | fileExists
  | unexpectedCharacter (error : SyntaxError)
  | malformedSource
  /-- A cache entry from which no results can be read. -/
  | brokenEntry
  /-- Results of a process that cannot be received. -/
  | brokenPool
  /-- A character that a YAML text must not hold. -/
  | yamlCharacter
  | yamlScan
  /-- An escape beyond the last character, or beyond what can be counted. -/
  | yamlCodePoint
  | yamlCodeOverflow
  | yamlParse
  /-- A version of the format whose rules are not known. -/
  | yamlVersion
  | yamlDuplicateKey
  /-- More than one document. -/
  | yamlDocuments
  | yamlAlias
  /-- A value that contains itself. -/
  | yamlCycle
  /-- A node that is not of the kind that its tag or its place demands. -/
  | yamlConstruct
  | yamlNumber
  | yamlNoDigits
  | yamlTruth
  /-- A key that could change. -/
  | yamlKey
  /-- Two comments at the same place of a node. -/
  | yamlComments
  | yamlHeaderComment
  | xmlMalformed
  /-- A text given as characters declares an encoding. -/
  | xmlEncoding
  /-- Only elements are stored by themselves. -/
  | xmlNotStored
  deriving DecidableEq, Repr

namespace Fault

/-- The wording of a fault, where it has one of its own. -/
def message? : Fault → Option String
  | exitOutsideLoop => some "EXIT used outside of loop"
  | continueOutsideLoop => some "CONTINUE used outside of loop"
  | jump | directVariableType | unknownOperator => some ""
  | thisOutsideBlock => some "THIS used outside of function block"
  | superOutsideBlock => some "SUPER used outside of function block"
  | noReturnType method => some ("Method " ++ method ++ " has no return type")
  | notALevel shown =>
    some ("Could not convert value=" ++ shown ++ " to enum_t=<enum 'CheckLevel'>")
  | badCheckCode code =>
    some ("'" ++ code ++ "' is not a valid value for a catscan lint check")
  | usedCheckCode code => some ("Code '" ++ code ++ "' is already used for a linter check")
  | _ => none

/-- A fault as it comes in from another process. -/
def received : Fault → Fault
  | unexpectedCharacter error => unexpectedCharacter (.received error.sent)
  | fault => fault

/-- Faults of scoping, which the checks of variables report instead of failing, with the
message that they report. -/
def scopingMessage? : Fault → Option String
  | superOfBodyWithoutBase => some "'NoneType' object is not subscriptable"
  | superOfMethodWithoutBase => some "'NoneType' object is not iterable"
  | thisOutsideBlock => thisOutsideBlock.message?
  | superOutsideBlock => superOutsideBlock.message?
  | noReturnType method => (noReturnType method).message?
  | _ => none

end Fault

end PlcLint
