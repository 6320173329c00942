import PlcLint.Fault
import PlcLint.Yaml.Basic
import PlcLint.Yaml.Tag

/-!
The value of a scalar, given its tag and its text. A tag that is written out can demand a value
that the text does not give.
-/

namespace PlcLint.Yaml.Scalar

def digitValue (c : Char) : Nat :=
  if c.isDigit then c.toNat - '0'.toNat
  else if decide ('a' ≤ c) && decide (c ≤ 'z') then c.toNat - 'a'.toNat + 10
  else if decide ('A' ≤ c) && decide (c ≤ 'Z') then c.toNat - 'A'.toNat + 10
  else 36

def inBase (base : Nat) (digits : List Char) : Nat :=
  digits.foldl (fun value c => value * base + digitValue c) 0

/-- The letter that may announce digits of a base. -/
def baseLetter? (base : Nat) : Option Char :=
  [(2, 'b'), (8, 'o'), (16, 'x')].lookup base

/-- The most decimal digits of a number that is read. -/
def digitLimit : Nat := 4300

/-- An integer in a base, with blanks around it, a sign, and the announcement of the base. -/
def integer? (base : Nat) (text : List Char) : Option Int :=
  let trimmed := ((text.dropWhile Text.isBlank).reverse.dropWhile Text.isBlank).reverse
  let body := Tag.withoutSign trimmed
  let digits := match body with
    | '0' :: letter :: rest => if baseLetter? base == some letter.toLower then rest else body
    | _ => body
  if digits.isEmpty || !digits.all (digitValue · < base) then none
  else if base = 10 && digitLimit < digits.length then none
  else some (if trimmed.head? == some '-' then -(inBase base digits : Int) else inBase base digits)

def integerOr (base : Nat) (text : List Char) : Except Fault Int :=
  match integer? base text with
  | some value => .ok value
  | none => .error .yamlNumber

/-- Numbers between colons, each part sixty times the next. -/
def sixties {α : Type} (part : String → Except Fault α) (add : α → α → α) (zero : α)
    (text : List Char) : Except Fault α := do
  let parts ← ((String.ofList text).splitOn ":").mapM part
  return parts.foldl add zero

/-- The digits behind the announcement of a base. -/
def announced (base : Nat) (digits : List Char) : Except Fault Int :=
  if digits.isEmpty then .error .yamlNoDigits else integerOr base digits

/-- An integer without its sign and without underscores. -/
def magnitude (minor : Nat) (text : List Char) : Except Fault Int :=
  match text with
  | [] => .error .yamlNoDigits
  | '0' :: 'b' :: rest => announced 2 rest
  | '0' :: 'x' :: rest => announced 16 rest
  | '0' :: 'o' :: rest => announced 8 rest
  | first :: _ =>
    if minor != 2 && first = '0' then integerOr 8 text
    else if minor != 2 && text.contains ':' then
      sixties (fun part => integerOr 10 part.toList) (fun value part => value * 60 + part) 0 text
    else integerOr 10 text

def integer (minor : Nat) (text : String) : Except Fault Int :=
  let plain := text.toList.filter (· != '_')
  match plain with
  | [] => .error .yamlNoDigits
  | first :: rest => do
    if first = '-' then return -(← magnitude minor rest)
    else if first = '+' then magnitude minor rest
    else magnitude minor plain

/-- A decimal number with blanks around it, and possibly another sign. -/
def decimal? (negative : Bool) (text : List Char) : Option Binary64 :=
  let trimmed := ((text.dropWhile Text.isBlank).reverse.dropWhile Text.isBlank).reverse
  Binary64.ofText? (negative != (trimmed.head? == some '-')) (Tag.withoutSign trimmed)

/-- A number without its sign: it has a point or an exponent. -/
def size (negative : Bool) (text : List Char) : Except Fault Binary64 :=
  if text == ".inf".toList then .ok (.infinite negative)
  else if text == ".nan".toList then .ok .nan
  else if text.contains 'e' && (text.dropWhile (· != 'e')).length < 2 then .error .yamlNoDigits
  else if !text.contains 'e' && !text.contains '.' then .error .yamlNumber
  else match decimal? negative text with
    | some value => .ok value
    | none => .error .yamlNumber

/-- The sum of parts of sixty, rounded once. -/
def sixtieths (negative : Bool) (text : List Char) : Except Fault Binary64 := do
  let part (digits : String) : Except Fault (Nat × Nat) :=
    match decimal? false digits.toList with
    | some (.finite _ significand exponent) => .ok (Binary64.quotient significand exponent)
    | _ => .error .yamlNumber
  let (num, den) ← sixties part (fun (n, d) (m, e) => (60 * n * e + m * d, d * e)) (0, 1) text
  return Binary64.ofQuotient negative num den

def float (minor : Nat) (text : String) : Except Fault Binary64 :=
  let plain := (text.toList.filter (· != '_')).map Char.toLower
  match plain with
  | [] => .error .yamlNoDigits
  | first :: rest =>
    let negative := first = '-'
    let body := if first = '-' || first = '+' then rest else plain
    if minor != 2 && body.contains ':' then sixtieths negative body else size negative body

/-- The words for truth values, in lower case. -/
def truth? (text : String) : Option Bool :=
  [("yes", true), ("no", false), ("y", true), ("n", false), ("true", true), ("false", false),
    ("on", true), ("off", false)].lookup (String.ofList (text.toList.map Char.toLower))

def number (digits : List Char) : Nat := inBase 10 digits

def isLeap (year : Nat) : Bool := year % 4 = 0 && (year % 100 != 0 || year % 400 = 0)

def daysIn (year month : Nat) : Nat :=
  if month = 2 then (if isLeap year then 29 else 28)
  else if [4, 6, 9, 11].contains month then 30 else 31

/-- Runs of digits, with what stands between them left out. -/
def digitRuns : List Char → List (List Char)
  | [] => []
  | c :: rest =>
    if c.isDigit then
      match rest with
      | d :: _ =>
        if d.isDigit then
          match digitRuns rest with
          | run :: runs => (c :: run) :: runs
          | [] => [[c]]
        else [c] :: digitRuns rest
      | [] => [[c]]
    else digitRuns rest

/-- Millionths from the digits of a fraction. -/
def millionths (digits : List Char) : Nat :=
  number (digits.take 6 ++ List.replicate (6 - digits.length) '0')

/-- A date, or a date with a time, as messages show it. -/
def timestamp (text : String) : Except Fault Yaml :=
  let chars := text.toList
  let runs := digitRuns chars
  let hasFraction := chars.contains '.'
  let zoned := chars.any fun c => c = 'T' || c = 't' || c = 'Z' || c = '+'
  let fields (values : List Nat) : String := String.intercalate ", " (values.map toString)
  match runs with
  | [year, month, day] =>
    let (y, m, d) := (number year, number month, number day)
    if !Tag.isTimestamp chars then .error .yamlConstruct
    else if y = 0 || m = 0 || 12 < m || d = 0 || daysIn y m < d then .error .yamlNumber
    else .ok (.foreign ("datetime.date(" ++ fields [y, m, d] ++ ")"))
  | year :: month :: day :: hour :: minute :: second :: rest =>
    let (y, m, d) := (number year, number month, number day)
    let time := [number hour, number minute, number second]
    let micros := if hasFraction then millionths (rest.head?.getD []) else 0
    if !Tag.isTimestamp chars then .error .yamlConstruct
    else if y = 0 || m = 0 || 12 < m || d = 0 || daysIn y m < d || 23 < number hour
        || 59 < number minute || 59 < number second then .error .yamlNumber
    else
      let shownTime := if micros != 0 then time ++ [micros]
        else if number second != 0 then time else time.take 2
      let name := if zoned then "TimeStamp(" else "datetime.datetime("
      .ok (.foreign (name ++ fields ([y, m, d] ++ shownTime) ++ ")"))
  | _ => .error .yamlConstruct

/-- The value of a scalar. A truth value with an anchor counts as a number. -/
def value (minor : Nat) (tag : Tag) (anchored : Bool) (text : String) : Except Fault Yaml :=
  match tag with
  | .null => .ok .null
  | .bool =>
    match truth? text with
    | some truth => .ok (if anchored then .int (if truth then 1 else 0) else .bool truth)
    | none => .error .yamlTruth
  | .int => return .int (← integer minor text)
  | .float => return .float (← float minor text)
  | .string => .ok (.string text)
  | .timestamp => timestamp text
  | .binary | .merge | .default | .other _ => .ok (.foreign text)
  | .sequence | .mapping | .orderedMapping | .pairs | .set => .error .yamlConstruct

end PlcLint.Yaml.Scalar
