/-!
Floating point numbers of 64 bits: the one that is nearest to a decimal number, and the shortest
decimal number that reads back as a given one.
-/

namespace PlcLint

/-- A finite number is its significand times a power of two. -/
inductive Binary64 where
  | finite (negative : Bool) (significand : Nat) (exponent : Int)
  | infinite (negative : Bool)
  | nan
  deriving DecidableEq, Repr

namespace Binary64

/-- The nearest integer to a quotient; a half goes to the even neighbour. -/
def roundedQuotient (num den : Nat) : Nat :=
  let whole := num / den
  let double := 2 * (num % den)
  if den < double || (den = double && whole % 2 = 1) then whole + 1 else whole

/-- A quotient over a power of two, again as a quotient. -/
def overPower (num den : Nat) (exponent : Int) : Nat × Nat :=
  if 0 ≤ exponent then (num, den <<< exponent.toNat) else (num <<< (-exponent).toNat, den)

def significandBound : Nat := 1 <<< 53

def leastExponent : Int := -1074

def greatestExponent : Int := 971

/-- The nearest number to a quotient; a half goes to the even significand. -/
def ofQuotient (negative : Bool) (num den : Nat) : Binary64 :=
  if num = 0 then finite negative 0 leastExponent
  else
    let guess := max ((Nat.log2 num : Int) - Nat.log2 den - 53) leastExponent
    let (top, bottom) := overPower num den guess
    let exponent := if top / bottom < significandBound then guess else guess + 1
    let (top, bottom) := overPower num den exponent
    let rounded := roundedQuotient top bottom
    let (significand, exponent) := if rounded < significandBound then (rounded, exponent)
      else (rounded / 2, exponent + 1)
    if greatestExponent < exponent then infinite negative else finite negative significand exponent

/-- The size of a finite number as a quotient. -/
def quotient (significand : Nat) (exponent : Int) : Nat × Nat :=
  if 0 ≤ exponent then (significand <<< exponent.toNat, 1)
  else (significand, 1 <<< (-exponent).toNat)

/-- The number of a decimal integer and a power of ten. A power far out of the range is not
computed. -/
def ofDecimal (negative : Bool) (digits : Nat) (power : Int) : Binary64 :=
  let width : Int := (Nat.toDigits 10 digits).length
  if digits = 0 || width + power < -400 then finite negative 0 leastExponent
  else if 400 < width + power then infinite negative
  else if 0 ≤ power then ofQuotient negative (digits * Nat.pow 10 power.toNat) 1
  else ofQuotient negative digits (Nat.pow 10 (-power).toNat)

def digitsValue (digits : List Char) : Nat :=
  digits.foldl (fun value c => value * 10 + (c.toNat - '0'.toNat)) 0

/-- An exponent behind its letter. -/
def exponent? (text : List Char) : Option Int :=
  let (negative, digits) := match text with
    | '-' :: rest => (true, rest)
    | '+' :: rest => (false, rest)
    | rest => (false, rest)
  if digits.isEmpty || !digits.all Char.isDigit then none
  else some (if negative then -(digitsValue digits : Int) else digitsValue digits)

/-- A decimal number without sign, in lower case: digits with at most one point among or around
them, and an exponent. -/
def ofText? (negative : Bool) (text : List Char) : Option Binary64 :=
  let whole := text.takeWhile Char.isDigit
  let (fraction, rest) := match text.dropWhile Char.isDigit with
    | '.' :: rest => (rest.takeWhile Char.isDigit, rest.dropWhile Char.isDigit)
    | rest => ([], rest)
  if whole.isEmpty && fraction.isEmpty then none
  else
    let number (power : Int) : Binary64 :=
      ofDecimal negative (digitsValue (whole ++ fraction)) (power - fraction.length)
    match rest with
    | [] => some (number 0)
    | 'e' :: power => (exponent? power).map number
    | _ => none

/-- The number of digits before the point, or minus the number of zeros right behind it; `steps`
bounds these zeros. -/
def pointPlace (num den : Nat) : Nat → Int
  | 0 => 0
  | steps + 1 =>
    if den ≤ num then (Nat.toDigits 10 (num / den)).length
    else if den ≤ 10 * num then 0
    else pointPlace (10 * num) den steps - 1

/-- A decimal integer and a power of ten with `count` digits that read back as the number, if
there are such. Of two the nearer one is taken. -/
def shortened? (significand : Nat) (exponent : Int) (place : Int) (count : Nat) :
    Option (Nat × Int) :=
  let (num, den) := quotient significand exponent
  let power := place - count
  let (top, bottom) := if 0 ≤ power then (num, den * Nat.pow 10 power.toNat)
    else (num * Nat.pow 10 (-power).toNat, den)
  let low := top / bottom
  let readsBack (digits : Nat) : Bool :=
    ofDecimal false digits power == finite false significand exponent
  match readsBack low, readsBack (low + 1) with
  | true, false => some (low, power)
  | false, true => some (low + 1, power)
  | true, true => some (roundedQuotient top bottom, power)
  | false, false => none

/-- The fewest decimal digits that read back as the number, and the power of ten behind them.
Seventeen always do. -/
def shortest (significand : Nat) (exponent : Int) : Nat × Int :=
  let (num, den) := quotient significand exponent
  let place := pointPlace num den 400
  ((List.range 18).drop 1).findSome? (shortened? significand exponent place) |>.getD (0, 0)

/-- Digits with a point at a place that may lie outside of them; beyond sixteen digits, and from
the fifth place behind the point on, with an exponent. -/
def positional (digits : List Char) (place : Int) : List Char :=
  if place ≤ -4 || 16 < place then
    let power := place - 1
    let size := Nat.toDigits 10 power.natAbs
    let body := match digits with
      | first :: second :: rest => first :: '.' :: second :: rest
      | short => short
    body ++ 'e' :: (if power < 0 then '-' else '+') :: (if size.length < 2 then '0' :: size else size)
  else if place ≤ 0 then '0' :: '.' :: List.replicate (-place).toNat '0' ++ digits
  else
    let whole := digits.take place.toNat
    let fraction := digits.drop place.toNat
    whole ++ List.replicate (place.toNat - whole.length) '0' ++ '.' ::
      (if fraction.isEmpty then ['0'] else fraction)

def dropTrailingZeros (digits : List Char) : List Char :=
  (digits.reverse.dropWhile (· = '0')).reverse

/-- The shortest text that reads back as the number. -/
def text : Binary64 → String
  | nan => "nan"
  | infinite negative => if negative then "-inf" else "inf"
  | finite negative significand exponent =>
    let size := if significand = 0 then ['0', '.', '0']
      else
        let (number, power) := shortest significand exponent
        let digits := Nat.toDigits 10 number
        positional (dropTrailingZeros digits) (digits.length + power)
    String.ofList (if negative then '-' :: size else size)

/-- The value, if it is an integer. -/
def int? : Binary64 → Option Int
  | finite negative significand exponent =>
    let (num, den) := quotient significand exponent
    if num % den = 0 then some (if negative then -(num / den : Nat) else (num / den : Nat)) else none
  | infinite _ | nan => none

/-- Equality of values; the two zeros are equal. -/
def same (a b : Binary64) : Bool :=
  a == b || (a.int? == some 0 && b.int? == some 0)

end Binary64

end PlcLint
