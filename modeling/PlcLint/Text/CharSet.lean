import PlcLint.Text.Letters

/-!
Sets of characters, as patterns are written with: ranges and classes, or what lies outside of
them. A set can disregard case, and its classes can be limited to ASCII.
-/

namespace PlcLint.Text

/-- Classes of characters. -/
inductive CharKind where
  | decimal
  | word
  | blank
  deriving DecidableEq

def CharKind.contains (ascii : Bool) (c : Char) : CharKind → Bool
  | decimal => if ascii then c.isDigit else isDecimal c
  | word => if ascii then c.isAlphanum || c = '_' else isWord c
  | blank =>
    if ascii then c = ' ' || (decide (9 ≤ c.toNat) && decide (c.toNat ≤ 13)) else isBlank c

/-- A member of a set: the code points of a range, or a class or what lies outside of it. -/
inductive SetItem where
  | range (first last : Nat)
  | kind (negated : Bool) (kind : CharKind)
  deriving DecidableEq

structure CharSet where
  negated : Bool := false
  items : List SetItem
  ignoreCase : Bool := false
  ascii : Bool := false
  deriving DecidableEq

namespace CharSet

def lowerOf (ascii : Bool) (c : Char) : Char := if ascii then c.toLower else lowerOne c

def variantsOf (ascii : Bool) (c : Char) : List Char :=
  if ascii then [c.toLower, c.toUpper] else c :: caseVariants c

/-- Without regard to case, a range contains a letter if it contains one of its variants. -/
def itemContains (set : CharSet) (c : Char) : SetItem → Bool
  | .range first last =>
    let within (c : Char) : Bool := decide (first ≤ c.toNat) && decide (c.toNat ≤ last)
    if set.ignoreCase then (variantsOf set.ascii c).any within else within c
  | .kind negated kind =>
    kind.contains set.ascii (if set.ignoreCase then lowerOf set.ascii c else c) != negated

def contains (set : CharSet) (c : Char) : Bool :=
  set.items.any (set.itemContains c) != set.negated

end CharSet

end PlcLint.Text
