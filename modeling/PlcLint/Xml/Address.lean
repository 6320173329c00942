/-!
Addresses of resources, as the names of namespaces are written: an optional scheme, an authority,
a path, a query and a fragment.
-/

namespace PlcLint.Xml.Address

def isUnreserved (c : Char) : Bool := c.isAlphanum || "-._~".toList.contains c

def isDelimiter (c : Char) : Bool := "!$&'()*+,;=".toList.contains c

def isHex (c : Char) : Bool :=
  c.isDigit || (decide ('a' ≤ c) && decide (c ≤ 'f')) || (decide ('A' ≤ c) && decide (c ≤ 'F'))

/-- The rest behind a run of such characters, or of characters by number. -/
def skip (among : Char → Bool) : List Char → List Char
  | [] => []
  | '%' :: a :: b :: rest => if isHex a && isHex b then skip among rest else '%' :: a :: b :: rest
  | c :: rest => if c != '%' && among c then skip among rest else c :: rest

def isHostChar (c : Char) : Bool := isUnreserved c || isDelimiter c

def isPathChar (c : Char) : Bool := isHostChar c || c = ':' || c = '@'

/-- Segments of a path behind slashes; each may be empty. -/
def skipSegments (text : List Char) : List Char := skip (fun c => isPathChar c || c = '/') text

/-- A host in brackets or by name, and a number behind a colon. -/
def skipHost (text : List Char) : Option (List Char) :=
  let behind := match text with
    | '[' :: rest =>
      match rest.dropWhile (· != ']') with
      | [] => none
      | _ :: rest => some rest
    | rest => some (skip isHostChar rest)
  match behind with
  | some (':' :: rest) =>
    if rest.head?.any Char.isDigit then some (rest.dropWhile Char.isDigit) else none
  | other => other

/-- An authority, which may start with a user. -/
def skipAuthority (text : List Char) : Option (List Char) :=
  match skip (fun c => isHostChar c || c = ':') text with
  | '@' :: rest => skipHost rest
  | _ => skipHost text

/-- The path of an address; without a scheme, the first segment must not hold a colon. -/
def skipPath (schemed : Bool) (text : List Char) : Option (List Char) :=
  match text with
  | '/' :: '/' :: rest =>
    (skipAuthority rest).map fun rest => if rest.head? == some '/' then skipSegments rest else rest
  | '/' :: rest => some (skipSegments rest)
  | rest =>
    let behind := skip (fun c => isPathChar c && (schemed || c != ':')) rest
    if behind.length < rest.length then
      some (if behind.head? == some '/' then skipSegments behind else behind)
    else if (skip isPathChar rest).length < rest.length then none
    else some rest

/-- A query and a fragment make up the rest. -/
def isEnd (text : List Char) : Bool :=
  let behind := match text with
    | '?' :: rest => skip (fun c => isPathChar c || c = '/' || c = '?') rest
    | rest => rest
  match behind with
  | '#' :: rest => (skip (fun c => isPathChar c || "/?[]".toList.contains c) rest).isEmpty
  | rest => rest.isEmpty

/-- The text behind a scheme and its colon. -/
def afterScheme? (text : List Char) : Option (List Char) :=
  match text with
  | c :: rest =>
    if !c.isAlpha then none
    else match rest.dropWhile fun c => c.isAlphanum || "+-.".toList.contains c with
      | ':' :: rest => some rest
      | _ => none
  | [] => none

def isAbsolute (text : List Char) : Bool :=
  match (afterScheme? text).bind (skipPath true) with
  | some rest => isEnd rest
  | none => false

def isRelative (text : List Char) : Bool :=
  match skipPath false text with
  | some rest => isEnd rest
  | none => false

def isValid (text : List Char) : Bool := isAbsolute text || isRelative text

/-- An address with a fragment. -/
def hasFragment (text : List Char) : Bool := text.contains '#'

end PlcLint.Xml.Address
