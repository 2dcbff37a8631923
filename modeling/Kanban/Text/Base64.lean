/-
Bytes written with the 64 letters, digits and marks of the common alphabet.  Four
characters stand for three bytes; all other characters are passed over.
-/

namespace Kanban

namespace Base64

/-- The value of a character of the alphabet. -/
def value? (c : Char) : Option Nat :=
  if 'A' ≤ c ∧ c ≤ 'Z' then some (c.toNat - 'A'.toNat)
  else if 'a' ≤ c ∧ c ≤ 'z' then some (c.toNat - 'a'.toNat + 26)
  else if '0' ≤ c ∧ c ≤ '9' then some (c.toNat - '0'.toNat + 52)
  else if c = '+' then some 62
  else if c = '/' then some 63
  else none

/-- Bytes of the characters from a place among four on.  `left` holds the bits that
make no byte yet; padding ends the text once it fills up the four. -/
def decodeFrom (place pads left : Nat) : List Char → Option (List Nat)
  | [] => if place = 0 then some [] else none
  | c :: rest =>
      if c = '=' then
        if 2 ≤ place && 4 ≤ place + pads + 1 then some []
        else decodeFrom place (if 2 ≤ place then pads + 1 else pads) left rest
      else
        match value? c with
        | none => decodeFrom place pads left rest
        | some bits =>
            match place with
            | 0 => decodeFrom 1 0 bits rest
            | 1 => (decodeFrom 2 0 (bits % 16) rest).map ((left * 4 + bits / 16) :: ·)
            | 2 => (decodeFrom 3 0 (bits % 4) rest).map ((left * 16 + bits / 4) :: ·)
            | _ => (decodeFrom 0 0 0 rest).map ((left * 64 + bits) :: ·)

/-- The bytes of a text, if no character is left over. -/
def decode? (text : String) : Option (List Nat) :=
  decodeFrom 0 0 0 text.toList

end Base64

end Kanban
