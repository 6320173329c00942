import PlcLint.Json.Basic

/-!
Reading JSON text. Each step consumes at least one character, so the length of the text bounds
the number of steps.
-/

namespace PlcLint.Json

def isSpace (c : Char) : Bool := c = ' ' || c = '\t' || c = '\n' || c = '\r'

def skipSpace (text : List Char) : List Char := text.dropWhile isSpace

def hexDigit? (c : Char) : Option Nat :=
  if '0' ≤ c ∧ c ≤ '9' then some (c.toNat - '0'.toNat)
  else if 'a' ≤ c ∧ c ≤ 'f' then some (c.toNat - 'a'.toNat + 10)
  else if 'A' ≤ c ∧ c ≤ 'F' then some (c.toNat - 'A'.toNat + 10)
  else none

/-- Four hexadecimal digits. -/
def hexUnit? : List Char → Option (Nat × List Char)
  | a :: b :: c :: d :: rest => do
    let a ← hexDigit? a
    let b ← hexDigit? b
    let c ← hexDigit? c
    let d ← hexDigit? d
    return (((a * 16 + b) * 16 + c) * 16 + d, rest)
  | _ => none

/-- The character that two halves of a surrogate pair stand for. -/
def pairedChar (high low : Nat) : Char :=
  Char.ofNat (0x10000 + (high - 0xD800) * 0x400 + (low - 0xDC00))

/-- A half of a surrogate pair that stands alone is no character. -/
def unitChar (unit : Nat) : Char :=
  if 0xD800 ≤ unit ∧ unit < 0xE000 then Char.ofNat 0xFFFD else Char.ofNat unit

/-- An escaped code unit, after `\u`: the character and the rest. -/
def escapedUnit? (text : List Char) : Option (Char × List Char) := do
  let (unit, rest) ← hexUnit? text
  if 0xD800 ≤ unit ∧ unit < 0xDC00 then
    match rest with
    | '\\' :: 'u' :: more =>
      match hexUnit? more with
      | some (low, final) =>
        if 0xDC00 ≤ low ∧ low < 0xE000 then return (pairedChar unit low, final)
        else return (unitChar unit, rest)
      | none => return (unitChar unit, rest)
    | _ => return (unitChar unit, rest)
  else return (unitChar unit, rest)

def simpleEscape? (c : Char) : Option Char :=
  match c with
  | '"' => some '"'
  | '\\' => some '\\'
  | '/' => some '/'
  | 'b' => some (Char.ofNat 8)
  | 'f' => some (Char.ofNat 12)
  | 'n' => some '\n'
  | 'r' => some '\r'
  | 't' => some '\t'
  | _ => none

/-- The rest of a string after its opening quote, with the characters read so far in reverse. -/
def parseChars : Nat → List Char → List Char → Option (String × List Char)
  | 0, _, _ => none
  | _ + 1, _, [] => none
  | fuel + 1, read, c :: rest =>
    if c = '"' then some (String.ofList read.reverse, rest)
    else if c = '\\' then
      match rest with
      | [] => none
      | 'u' :: more =>
        match escapedUnit? more with
        | some (unit, final) => parseChars fuel (unit :: read) final
        | none => none
      | code :: more =>
        match simpleEscape? code with
        | some plain => parseChars fuel (plain :: read) more
        | none => none
    else parseChars fuel (c :: read) rest

def isNumberChar (c : Char) : Bool :=
  c.isDigit || c = '-' || c = '+' || c = '.' || c = 'e' || c = 'E'

def keyword? (text : List Char) : Option (Json × List Char) :=
  match text with
  | 'n' :: 'u' :: 'l' :: 'l' :: rest => some (null, rest)
  | 't' :: 'r' :: 'u' :: 'e' :: rest => some (bool true, rest)
  | 'f' :: 'a' :: 'l' :: 's' :: 'e' :: rest => some (bool false, rest)
  | _ => none

mutual

def parseValue : Nat → List Char → Option (Json × List Char)
  | 0, _ => none
  | fuel + 1, text =>
    match skipSpace text with
    | '"' :: rest =>
      (parseChars (rest.length + 1) [] rest).map fun (read, final) => (string read, final)
    | '[' :: rest =>
      match skipSpace rest with
      | ']' :: final => some (array [], final)
      | _ => parseItems fuel [] rest
    | '\x7b' :: rest =>
      match skipSpace rest with
      | '\x7d' :: final => some (object [], final)
      | _ => parseMembers fuel [] rest
    | rest =>
      let digits := rest.takeWhile isNumberChar
      if digits.isEmpty then keyword? rest
      else some (number (String.ofList digits), rest.dropWhile isNumberChar)

/-- Items of an array, with those read so far in reverse. -/
def parseItems : Nat → List Json → List Char → Option (Json × List Char)
  | 0, _, _ => none
  | fuel + 1, read, text =>
    match parseValue fuel text with
    | none => none
    | some (item, rest) =>
      match skipSpace rest with
      | ',' :: more => parseItems fuel (item :: read) more
      | ']' :: final => some (array (item :: read).reverse, final)
      | _ => none

/-- Members of an object, with those read so far in reverse. -/
def parseMembers : Nat → List (String × Json) → List Char → Option (Json × List Char)
  | 0, _, _ => none
  | fuel + 1, read, text =>
    match skipSpace text with
    | '"' :: rest =>
      match parseChars (rest.length + 1) [] rest with
      | none => none
      | some (name, rest) =>
        match skipSpace rest with
        | ':' :: rest =>
          match parseValue fuel rest with
          | none => none
          | some (value, rest) =>
            match skipSpace rest with
            | ',' :: more => parseMembers fuel ((name, value) :: read) more
            | '\x7d' :: final => some (object ((name, value) :: read).reverse, final)
            | _ => none
        | _ => none
    | _ => none

end

/-- The value that the whole text stands for. -/
def parse? (text : String) : Option Json :=
  match parseValue (2 * text.length + 2) text.toList with
  | some (value, rest) => if (skipSpace rest).isEmpty then some value else none
  | none => none

end PlcLint.Json
