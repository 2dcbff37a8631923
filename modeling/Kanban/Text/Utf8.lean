/-
Reading UTF-8.  Where bytes are no character, the replacement character stands
for the longest beginning of one, or for a byte that begins none.
-/

namespace Kanban

namespace Utf8

/-- A character that has begun: its bits so far, the bounds of its next byte
and the number of bytes still to come after that one. -/
structure Begun where
  bits : Nat
  low : Nat
  high : Nat
  more : Nat

/-- What the first byte of a longer character begins.  The bounds leave out
forms longer than needed, surrogates, and what lies past the last character. -/
def begin? (byte : Nat) : Option Begun :=
  if 0xc2 ≤ byte ∧ byte ≤ 0xdf then some ⟨byte - 0xc0, 0x80, 0xbf, 0⟩
  else if byte = 0xe0 then some ⟨0, 0xa0, 0xbf, 1⟩
  else if byte = 0xed then some ⟨0xd, 0x80, 0x9f, 1⟩
  else if 0xe1 ≤ byte ∧ byte ≤ 0xef then some ⟨byte - 0xe0, 0x80, 0xbf, 1⟩
  else if byte = 0xf0 then some ⟨0, 0x90, 0xbf, 2⟩
  else if byte = 0xf4 then some ⟨4, 0x80, 0x8f, 2⟩
  else if 0xf1 ≤ byte ∧ byte ≤ 0xf3 then some ⟨byte - 0xf0, 0x80, 0xbf, 2⟩
  else none

def replacement : Char := '\ufffd'

/-- A byte where a character may begin: the characters it completes and the
one it begins. -/
def first (byte : Nat) : List Char × Option Begun :=
  if byte < 0x80 then ([Char.ofNat byte], none)
  else
    match begin? byte with
    | some begun => ([], some begun)
    | none => ([replacement], none)

/-- The characters that a byte completes, and the one begun after it. -/
def next (begun : Option Begun) (byte : Nat) : List Char × Option Begun :=
  match begun with
  | none => first byte
  | some ⟨bits, low, high, more⟩ =>
      if low ≤ byte ∧ byte ≤ high then
        let bits := bits * 0x40 + (byte - 0x80)
        match more with
        | 0 => ([Char.ofNat bits], none)
        | more + 1 => ([], some ⟨bits, 0x80, 0xbf, more⟩)
      else
        let (chars, begun) := first byte
        (replacement :: chars, begun)

def decodeAfter (begun : Option Begun) : List UInt8 → List Char
  | [] => if begun.isSome then [replacement] else []
  | byte :: rest =>
      let (chars, begun) := next begun byte.toNat
      chars ++ decodeAfter begun rest

/-- The characters of bytes. -/
def decode (bytes : List UInt8) : List Char :=
  decodeAfter none bytes

end Utf8

end Kanban
