/-!
Tags: the kind of value that a node stands for. The tag of a plain scalar is read off its text.
-/

namespace PlcLint.Yaml

inductive Tag where
  | null
  | bool
  | int
  | float
  | string
  | timestamp
  | binary
  | sequence
  | mapping
  | orderedMapping
  | pairs
  | set
  /-- The key under which a mapping takes over the entries of another. -/
  | merge
  /-- The key of a default value. -/
  | default
  | other (name : String)
  deriving DecidableEq

namespace Tag

/-- The names of the tags that are known everywhere. -/
def known : List (String × Tag) :=
  [("null", null), ("bool", bool), ("int", int), ("float", float), ("binary", binary),
    ("timestamp", timestamp), ("omap", orderedMapping), ("pairs", pairs), ("set", set),
    ("str", string), ("seq", sequence), ("map", mapping)]

/-- What the handle of the known tags stands for. -/
def knownLead : String := "tag:yaml.org,2002:"

def ofName (name : String) : Tag :=
  match (known ++ [("merge", merge), ("value", default)]).find? fun entry =>
      knownLead ++ entry.1 == name with
  | some (_, tag) => tag
  | none => other name

def withoutSign : List Char → List Char
  | '-' :: rest => rest
  | '+' :: rest => rest
  | text => text

/-- Digits and underscores, with at least one character. -/
def areDigits (allowed : Char → Bool) (text : List Char) : Bool :=
  !text.isEmpty && text.all fun c => allowed c || c = '_'

def isBinaryDigit (c : Char) : Bool := c = '0' || c = '1'

def isOctalDigit (c : Char) : Bool := decide ('0' ≤ c) && decide (c ≤ '7')

def isHexDigit (c : Char) : Bool :=
  c.isDigit || (decide ('a' ≤ c) && decide (c ≤ 'f')) || (decide ('A' ≤ c) && decide (c ≤ 'F'))

/-- Parts of sixty behind colons, up to what does not belong to them. -/
def afterSixties : List Char → List Char
  | ':' :: c :: d :: rest =>
    if isSixth c && d.isDigit then afterSixties rest
    else if c.isDigit then afterSixties (d :: rest)
    else ':' :: c :: d :: rest
  | [':', c] => if c.isDigit then [] else [':', c]
  | rest => rest
where
  isSixth (c : Char) : Bool := decide ('0' ≤ c) && decide (c ≤ '5')

def isPart (c : Char) : Bool := c.isDigit || c = '_'

/-- An integer without its sign. In version 1.1 a zero in front means octal digits, and parts of
sixty can stand behind colons. -/
def isInteger (minor : Nat) (text : List Char) : Bool :=
  match text with
  | '0' :: 'b' :: rest => areDigits isBinaryDigit rest
  | '0' :: 'x' :: rest => areDigits isHexDigit rest
  | '0' :: 'o' :: rest => minor != 1 && areDigits isOctalDigit rest
  | first :: rest =>
    if minor != 1 then areDigits Char.isDigit text
    else areDigits isOctalDigit text || text == ['0'] ||
      (first.isDigit && first != '0' &&
        (rest.all isPart ||
          (rest.dropWhile isPart != [] && afterSixties (rest.dropWhile isPart) == [])))
  | [] => false

/-- The exponent of a decimal number, or nothing. -/
def isExponent (signNeeded : Bool) : List Char → Bool
  | [] => true
  | e :: rest =>
    let digits := withoutSign rest
    (e = 'e' || e = 'E') && !digits.isEmpty && digits.all Char.isDigit
      && (!signNeeded || digits.length < rest.length)

/-- A number with a fraction or an exponent, without its sign. -/
def isFraction (minor : Nat) (signed : Bool) (body : List Char) : Bool :=
  let whole := body.takeWhile isPart
  match body.dropWhile isPart with
  | '.' :: rest =>
    let behind := rest.dropWhile isPart
    if whole.isEmpty then
      behind.length < rest.length && isExponent true behind && !(minor = 1 && signed)
    else whole.head?.any Char.isDigit && isExponent false behind
  | [] => false
  | rest =>
    whole.head?.any Char.isDigit &&
      (isExponent false rest ||
        (minor = 1 && match afterSixties rest with
          | '.' :: places => afterSixties rest != rest && places.all isPart
          | _ => false))

/-- A decimal number, or one of the values beyond all numbers. -/
def isFloat (minor : Nat) (text : List Char) : Bool :=
  let body := withoutSign text
  isFraction minor (body.length < text.length) body
    || [".inf", ".Inf", ".INF"].contains (String.ofList body)
    || [".nan", ".NaN", ".NAN"].contains (String.ofList text)

/-- One or two digits. -/
def afterDigits : List Char → Option (List Char)
  | c :: d :: rest =>
    if c.isDigit then some (if d.isDigit then rest else d :: rest) else none
  | [c] => if c.isDigit then some [] else none
  | [] => none

def afterTwoDigits : List Char → Option (List Char)
  | c :: d :: rest => if c.isDigit && d.isDigit then some rest else none
  | _ => none

def afterChar (c : Char) : List Char → Option (List Char)
  | d :: rest => if d = c then some rest else none
  | [] => none

def isGap (c : Char) : Bool := c = ' ' || c = '\t'

/-- A time zone, or nothing. -/
def isZone (text : List Char) : Bool :=
  match text.dropWhile isGap with
  | [] => text.isEmpty
  | ['Z'] => true
  | sign :: rest =>
    (sign = '-' || sign = '+') &&
      match afterDigits rest with
      | some [] => true
      | some (':' :: minutes) => afterTwoDigits minutes == some []
      | _ => false

/-- A time of day, behind the date. -/
def isTime (text : List Char) : Bool :=
  let start := match text with
    | 'T' :: rest => some rest
    | 't' :: rest => some rest
    | _ => if text.head?.any isGap then some (text.dropWhile isGap) else none
  match (((start.bind afterDigits).bind (afterChar ':')).bind afterTwoDigits).bind (afterChar ':')
      |>.bind afterTwoDigits with
  | some ('.' :: rest) => isZone (rest.dropWhile Char.isDigit)
  | some rest => isZone rest
  | none => false

/-- A date as year, month and day; with a time behind it, month and day may be short. -/
def isTimestamp (text : List Char) : Bool :=
  match text with
  | a :: b :: c :: d :: '-' :: rest =>
    [a, b, c, d].all Char.isDigit &&
      (match (afterTwoDigits rest).bind (afterChar '-') with
        | some days => afterTwoDigits days == some []
        | none => false) ||
      [a, b, c, d].all Char.isDigit &&
        (match ((afterDigits rest).bind (afterChar '-')).bind afterDigits with
          | some time => isTime time
          | none => false)
  | _ => false

def truthWords (minor : Nat) : List String :=
  ["true", "True", "TRUE", "false", "False", "FALSE"] ++
    if minor = 1 then
      ["y", "Y", "yes", "Yes", "YES", "n", "N", "no", "No", "NO", "on", "On", "ON", "off", "Off",
        "OFF"]
    else []

/-- The tag of a plain scalar in this minor version. -/
def ofPlain (minor : Nat) (text : String) : Tag :=
  let chars := text.toList
  let startsNumber := chars.head?.any fun c => c.isDigit || c = '-' || c = '+'
  if (truthWords minor).contains text then bool
  else if ["", "~", "null", "Null", "NULL"].contains text then null
  else if isFloat minor chars then float
  else if startsNumber && isInteger minor (withoutSign chars) then int
  else if isTimestamp chars then timestamp
  else if text = "<<" then merge
  else if text = "=" then default
  else string

end Tag

end PlcLint.Yaml
