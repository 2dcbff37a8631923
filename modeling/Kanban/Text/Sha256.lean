/-
The SHA-256 digest.  Messages are padded to whole blocks of 64 bytes; each
block yields 64 words of schedule, and every word turns the state of eight
words once.
-/
import Kanban.Text.Digits

namespace Kanban

namespace Sha256

/-- The first 32 bits of the fractional parts of the cube roots of the first
64 primes. -/
def roundConstants : List UInt32 :=
  [0x428a2f98, 0x71374491, 0xb5c0fbcf, 0xe9b5dba5, 0x3956c25b, 0x59f111f1, 0x923f82a4,
    0xab1c5ed5, 0xd807aa98, 0x12835b01, 0x243185be, 0x550c7dc3, 0x72be5d74, 0x80deb1fe,
    0x9bdc06a7, 0xc19bf174, 0xe49b69c1, 0xefbe4786, 0x0fc19dc6, 0x240ca1cc, 0x2de92c6f,
    0x4a7484aa, 0x5cb0a9dc, 0x76f988da, 0x983e5152, 0xa831c66d, 0xb00327c8, 0xbf597fc7,
    0xc6e00bf3, 0xd5a79147, 0x06ca6351, 0x14292967, 0x27b70a85, 0x2e1b2138, 0x4d2c6dfc,
    0x53380d13, 0x650a7354, 0x766a0abb, 0x81c2c92e, 0x92722c85, 0xa2bfe8a1, 0xa81a664b,
    0xc24b8b70, 0xc76c51a3, 0xd192e819, 0xd6990624, 0xf40e3585, 0x106aa070, 0x19a4c116,
    0x1e376c08, 0x2748774c, 0x34b0bcb5, 0x391c0cb3, 0x4ed8aa4a, 0x5b9cca4f, 0x682e6ff3,
    0x748f82ee, 0x78a5636f, 0x84c87814, 0x8cc70208, 0x90befffa, 0xa4506ceb, 0xbef9a3f7,
    0xc67178f2]

def rotate (x : UInt32) (count : UInt32) : UInt32 :=
  (x >>> count) ||| (x <<< (32 - count))

/-- The eight words that are turned from block to block. -/
structure State where
  a : UInt32
  b : UInt32
  c : UInt32
  d : UInt32
  e : UInt32
  f : UInt32
  g : UInt32
  h : UInt32

/-- The first 32 bits of the fractional parts of the square roots of the first
eight primes. -/
def State.start : State :=
  ⟨0x6a09e667, 0xbb67ae85, 0x3c6ef372, 0xa54ff53a, 0x510e527f, 0x9b05688c, 0x1f83d9ab,
    0x5be0cd19⟩

def State.add (s t : State) : State :=
  ⟨s.a + t.a, s.b + t.b, s.c + t.c, s.d + t.d, s.e + t.e, s.f + t.f, s.g + t.g, s.h + t.h⟩

def State.words (s : State) : List UInt32 :=
  [s.a, s.b, s.c, s.d, s.e, s.f, s.g, s.h]

/-- One turn with a round constant and a word of the schedule. -/
def State.turn (s : State) (constant word : UInt32) : State :=
  let sum1 := rotate s.e 6 ^^^ rotate s.e 11 ^^^ rotate s.e 25
  let choice := (s.e &&& s.f) ^^^ (~~~s.e &&& s.g)
  let first := s.h + sum1 + choice + constant + word
  let sum0 := rotate s.a 2 ^^^ rotate s.a 13 ^^^ rotate s.a 22
  let majority := (s.a &&& s.b) ^^^ (s.a &&& s.c) ^^^ (s.b &&& s.c)
  ⟨first + (sum0 + majority), s.a, s.b, s.c, s.d + first, s.e, s.f, s.g⟩

/-- Turn the state once for every round, making the schedule on the way.  The
list holds the next sixteen words; the one used up yields the last of the
next sixteen. -/
def turns : List UInt32 → List UInt32 → State → State
  | constant :: constants, word :: window, state =>
      let ahead (place : Nat) := window.getD place 0
      let sigma0 := rotate (ahead 0) 7 ^^^ rotate (ahead 0) 18 ^^^ (ahead 0 >>> 3)
      let sigma1 := rotate (ahead 13) 17 ^^^ rotate (ahead 13) 19 ^^^ (ahead 13 >>> 10)
      let next := word + sigma0 + ahead 8 + sigma1
      turns constants (window ++ [next]) (state.turn constant word)
  | _, _, state => state

/-- The message with a one bit, zeros, and its length in bits as eight bytes,
filling whole blocks. -/
def padded (message : List UInt8) : List UInt8 :=
  let size := message.length
  let zeros := (119 - size % 64) % 64
  message ++ 0x80 :: List.replicate zeros 0 ++
    (List.range 8).reverse.map fun place => UInt8.ofNat (size * 8 / Nat.pow 256 place % 256)

/-- Bytes four by four as words, the first byte highest. -/
def wordsOf : List UInt8 → List UInt32
  | a :: b :: c :: d :: rest =>
      ((a.toUInt32 <<< 24) ||| (b.toUInt32 <<< 16) ||| (c.toUInt32 <<< 8) ||| d.toUInt32) ::
        wordsOf rest
  | _ => []

/-- Work through words in blocks of sixteen. -/
def compress : (blocks : Nat) → List UInt32 → State → State
  | 0, _, state => state
  | blocks + 1, words, state =>
      compress blocks (words.drop 16) (state.add (turns roundConstants (words.take 16) state))

def digest (message : List UInt8) : List UInt32 :=
  let words := wordsOf (padded message)
  (compress (words.length / 16) words State.start).words

/-- The digest as 64 hexadecimal digits. -/
def hexDigest (message : List UInt8) : String :=
  String.join ((digest message).map fun word => Digits.hexText 8 word.toNat)

end Sha256

end Kanban
