import PlcLint.Text.Quoted

/-!
The SHA-256 digest of a sequence of bytes.
-/

namespace PlcLint.Sha256

/-- The first bits of the fractional parts of the cube roots of the first 64 primes. -/
def roundConstants : List UInt32 := [
  0x428a2f98, 0x71374491, 0xb5c0fbcf, 0xe9b5dba5, 0x3956c25b, 0x59f111f1, 0x923f82a4, 0xab1c5ed5,
  0xd807aa98, 0x12835b01, 0x243185be, 0x550c7dc3, 0x72be5d74, 0x80deb1fe, 0x9bdc06a7, 0xc19bf174,
  0xe49b69c1, 0xefbe4786, 0x0fc19dc6, 0x240ca1cc, 0x2de92c6f, 0x4a7484aa, 0x5cb0a9dc, 0x76f988da,
  0x983e5152, 0xa831c66d, 0xb00327c8, 0xbf597fc7, 0xc6e00bf3, 0xd5a79147, 0x06ca6351, 0x14292967,
  0x27b70a85, 0x2e1b2138, 0x4d2c6dfc, 0x53380d13, 0x650a7354, 0x766a0abb, 0x81c2c92e, 0x92722c85,
  0xa2bfe8a1, 0xa81a664b, 0xc24b8b70, 0xc76c51a3, 0xd192e819, 0xd6990624, 0xf40e3585, 0x106aa070,
  0x19a4c116, 0x1e376c08, 0x2748774c, 0x34b0bcb5, 0x391c0cb3, 0x4ed8aa4a, 0x5b9cca4f, 0x682e6ff3,
  0x748f82ee, 0x78a5636f, 0x84c87814, 0x8cc70208, 0x90befffa, 0xa4506ceb, 0xbef9a3f7, 0xc67178f2]

structure State where
  a : UInt32
  b : UInt32
  c : UInt32
  d : UInt32
  e : UInt32
  f : UInt32
  g : UInt32
  h : UInt32

/-- The first bits of the fractional parts of the square roots of the first eight primes. -/
def initial : State :=
  ⟨0x6a09e667, 0xbb67ae85, 0x3c6ef372, 0xa54ff53a,
    0x510e527f, 0x9b05688c, 0x1f83d9ab, 0x5be0cd19⟩

def rotateRight (word : UInt32) (count : UInt32) : UInt32 :=
  (word >>> count) ||| (word <<< (32 - count))

def round (state : State) (constant word : UInt32) : State :=
  let mixed := rotateRight state.e 6 ^^^ rotateRight state.e 11 ^^^ rotateRight state.e 25
  let choice := (state.e &&& state.f) ^^^ (~~~state.e &&& state.g)
  let first := state.h + mixed + choice + constant + word
  let spread := rotateRight state.a 2 ^^^ rotateRight state.a 13 ^^^ rotateRight state.a 22
  let majority := (state.a &&& state.b) ^^^ (state.a &&& state.c) ^^^ (state.b &&& state.c)
  { a := first + spread + majority
    b := state.a
    c := state.b
    d := state.c
    e := state.d + first
    f := state.e
    g := state.f
    h := state.g }

/-- The word that follows the words of a schedule. -/
def nextWord (words : Array UInt32) : UInt32 :=
  let ago (back : Nat) : UInt32 := words.getD (words.size - back) 0
  let low := rotateRight (ago 15) 7 ^^^ rotateRight (ago 15) 18 ^^^ (ago 15 >>> 3)
  let high := rotateRight (ago 2) 17 ^^^ rotateRight (ago 2) 19 ^^^ (ago 2 >>> 10)
  ago 16 + low + ago 7 + high

/-- The words of a block, continued to one word for each round. -/
def schedule (block : List UInt32) : List UInt32 :=
  ((List.range 48).foldl (fun words _ => words.push (nextWord words)) block.toArray).toList

def compress (state : State) (block : List UInt32) : State :=
  let last := (roundConstants.zip (schedule block)).foldl
    (fun state (constant, word) => round state constant word) state
  { a := state.a + last.a
    b := state.b + last.b
    c := state.c + last.c
    d := state.d + last.d
    e := state.e + last.e
    f := state.f + last.f
    g := state.g + last.g
    h := state.h + last.h }

/-- Words of four bytes, the most significant byte first. -/
def wordsOf : List UInt8 → List UInt32
  | a :: b :: c :: d :: rest =>
    (a.toUInt32 <<< 24 ||| b.toUInt32 <<< 16 ||| c.toUInt32 <<< 8 ||| d.toUInt32) :: wordsOf rest
  | _ => []

/-- The length in bits as eight bytes. -/
def lengthBytes (length : Nat) : List UInt8 :=
  ((List.range 8).map fun place => UInt8.ofNat ((8 * length) >>> (8 * place))).reverse

/-- The bytes, a one bit, zeros up to a whole number of blocks, and the length. -/
def padded (bytes : List UInt8) : List UInt8 :=
  let zeros := (119 - bytes.length % 64) % 64
  bytes ++ 0x80 :: List.replicate zeros 0 ++ lengthBytes bytes.length

/-- Takes in blocks of sixteen words. -/
def absorb : Nat → State → List UInt32 → State
  | 0, state, _ => state
  | count + 1, state, words => absorb count (compress state (words.take 16)) (words.drop 16)

def State.words (state : State) : List UInt32 :=
  [state.a, state.b, state.c, state.d, state.e, state.f, state.g, state.h]

/-- The digest as hexadecimal digits. -/
def digest (bytes : List UInt8) : String :=
  let words := wordsOf (padded bytes)
  let state := absorb (words.length / 16) initial words
  String.ofList (state.words.flatMap fun word => Text.hexText 8 word.toNat)

end PlcLint.Sha256
