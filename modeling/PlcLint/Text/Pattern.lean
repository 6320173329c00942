import PlcLint.Text.CharSet

/-!
Regular expressions, as the keys of type prefixes are written. A pattern denotes, for a place in
a text, the list of places that it can lead to, the preferred one first. No place is listed
twice: what follows depends on the place alone.
-/

namespace PlcLint.Text

/-- Conditions on a place. -/
inductive Anchor where
  | start
  | finish
  /-- The end, or the line feed before it. -/
  | lastLine
  | lineStart
  | lineEnd
  /-- Between a word and something else, or not so. -/
  | boundary (ascii : Bool) (negated : Bool)
  deriving DecidableEq

/-- Which repetitions are preferred: many, few, or as many as there are and no others. -/
inductive Preference where
  | greedy
  | lazy
  | possessive
  deriving DecidableEq

inductive Pattern where
  | empty
  | chars (set : CharSet)
  | anchor (anchor : Anchor)
  | seq (left right : Pattern)
  | alt (left right : Pattern)
  | repeated (preference : Preference) (least : Nat) (most : Option Nat) (inner : Pattern)
  /-- A group that later parts can refer to. -/
  | group (number : Nat) (inner : Pattern)
  /-- The text of a group again. -/
  | reference (number : Nat) (ignoreCase : Bool) (ascii : Bool)
  /-- What follows a place so many characters before the current one, or must not. -/
  | look (back : Nat) (negated : Bool) (inner : Pattern)
  /-- Only the preferred match counts. -/
  | atomic (inner : Pattern)
  /-- Depends on whether a group has been met. -/
  | conditional (number : Nat) (met unmet : Pattern)

namespace Pattern

/-- How far a text has been matched, and where the groups met so far start and end. -/
structure Place where
  position : Nat
  groups : List (Nat × Nat × Nat) := []
  deriving DecidableEq

def Place.withGroup (place : Place) (number first : Nat) : Place :=
  { place with
    groups := (number, first, place.position) ::
      place.groups.filter fun entry => entry.1 != number }

def isWordAt (text : Array Char) (ascii : Bool) (index : Nat) : Bool :=
  text[index]?.any fun c => CharKind.word.contains ascii c

/-- There is no boundary in an empty text, and nothing else either. -/
def holds (text : Array Char) (position : Nat) : Anchor → Bool
  | .start => position = 0
  | .finish => position = text.size
  | .lastLine => position = text.size || (position + 1 = text.size && text[position]? = some '\n')
  | .lineStart => position = 0 || text[position - 1]? = some '\n'
  | .lineEnd => position = text.size || text[position]? = some '\n'
  | .boundary ascii negated =>
    let before := decide (0 < position) && isWordAt text ascii (position - 1)
    decide (0 < text.size) && (before != isWordAt text ascii position) != negated

/-- The places that repetitions lead to, in the order of preference, and what has been looked at.
`count` is the number of repetitions so far, as far as it matters. A repetition that moves nothing
is not tried again. -/
def repetitions (step : Place → List Place) (few : Bool) (least : Nat) (most : Option Nat) :
    Nat → Nat → List (Nat × Place) → Place → List (Nat × Place) × List Place
  | 0, _, seen, _ => (seen, [])
  | fuel + 1, count, seen, place =>
    if seen.contains (count, place) then (seen, [])
    else
      let seen := (count, place) :: seen
      let enough := decide (least ≤ count)
      let next := if enough && most.isNone then count else count + 1
      let visit (found : List (Nat × Place) × List Place) (target : Place) :
          List (Nat × Place) × List Place :=
        if enough && target.position = place.position then (found.1, found.2 ++ [target])
        else
          let (seen, more) := repetitions step few least most fuel next found.1 target
          (seen, found.2 ++ more)
      let (seen, more) := if !enough || most.all fun bound => decide (count < bound)
        then (step place).foldl visit (seen, []) else (seen, [])
      if !enough then (seen, more)
      else if few then (seen, place :: more) else (seen, more ++ [place])

/-- The place that the preferred repetitions lead to, each for itself. -/
def run? (step : Place → List Place) (least : Nat) (most : Option Nat) :
    Nat → Nat → Place → Option Place
  | 0, _, _ => none
  | fuel + 1, count, place =>
    if least ≤ count && !(most.all fun bound => decide (count < bound)) then some place
    else match step place with
      | [] => if least ≤ count then some place else none
      | target :: _ =>
        if least ≤ count && target.position = place.position then some target
        else run? step least most fuel (count + 1) target

def sameText (ignoreCase ascii : Bool) (a b : List Char) : Bool :=
  if ignoreCase then a.map (CharSet.lowerOf ascii) == b.map (CharSet.lowerOf ascii) else a == b

/-- The places that a pattern leads to from a place of a text. More repetitions than the text has
characters cannot be told apart. -/
def ends (text : Array Char) : Pattern → Place → List Place
  | empty, place => [place]
  | chars set, place =>
    match text[place.position]? with
    | some c => if set.contains c then [{ place with position := place.position + 1 }] else []
    | none => []
  | anchor condition, place => if holds text place.position condition then [place] else []
  | seq left right, place => ((ends text left place).flatMap (ends text right)).eraseDups
  | alt left right, place => (ends text left place ++ ends text right place).eraseDups
  | repeated preference least most inner, place =>
    let enough := min least (text.size + 2)
    let fuel := 2 * text.size + 6
    match preference with
    | .possessive => (run? (ends text inner) enough most fuel 0 place).toList
    | _ =>
      (repetitions (ends text inner) (preference = .lazy) enough most fuel 0 [] place).2.eraseDups
  | group number inner, place =>
    (ends text inner place).map fun target => target.withGroup number place.position
  | reference number ignoreCase ascii, place =>
    match place.groups.lookup number with
    | none => []
    | some (first, last) =>
      let whole := text.toList
      let word := (whole.drop first).take (last - first)
      let found := (whole.drop place.position).take (last - first)
      if sameText ignoreCase ascii word found then
        [{ place with position := place.position + (last - first) }]
      else []
  | look back negated inner, place =>
    if place.position < back then (if negated then [place] else [])
    else
      let found := ends text inner { place with position := place.position - back }
      if negated then (if found.isEmpty then [place] else [])
      else (found.take 1).map fun target => { target with position := place.position }
  | atomic inner, place => (ends text inner place).take 1
  | conditional number met unmet, place =>
    if (place.groups.lookup number).isSome then ends text met place else ends text unmet place

/-- The pattern matches at the beginning of the text. -/
def startsIn (pattern : Pattern) (text : String) : Bool :=
  !(pattern.ends text.toList.toArray { position := 0 }).isEmpty

/-- The groups that a pattern refers to. -/
def references : Pattern → List Nat
  | reference number _ _ => [number]
  | conditional number met unmet => number :: references met ++ references unmet
  | seq left right | alt left right => references left ++ references right
  | repeated _ _ _ inner | group _ inner | look _ _ inner | atomic inner => references inner
  | empty | chars _ | anchor _ => []

/-- The same pattern with only those groups that are in the list. -/
def keepGroups (kept : List Nat) : Pattern → Pattern
  | group number inner =>
    if kept.contains number then group number (keepGroups kept inner) else keepGroups kept inner
  | conditional number met unmet => conditional number (keepGroups kept met) (keepGroups kept unmet)
  | seq left right => seq (keepGroups kept left) (keepGroups kept right)
  | alt left right => alt (keepGroups kept left) (keepGroups kept right)
  | repeated preference least most inner => repeated preference least most (keepGroups kept inner)
  | look back negated inner => look back negated (keepGroups kept inner)
  | atomic inner => atomic (keepGroups kept inner)
  | other => other

/-- Groups that nothing refers to do not matter. -/
def simplified (pattern : Pattern) : Pattern := pattern.keepGroups pattern.references

end Pattern

end PlcLint.Text
