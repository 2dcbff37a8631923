/-
Text written in units of two or four bytes.  In JSON the first two characters are
ASCII, so that the zeros among the first bytes tell how a text is written.
-/

namespace Kanban

namespace Wide

/-- How many bytes make a unit, and whether the highest comes first. -/
structure Form where
  width : Nat
  bigEndian : Bool
deriving DecidableEq, Repr

/-- The form that the first bytes of a text show; without zeros they show none. -/
def form? : List UInt8 → Option Form
  | a :: b :: c :: d :: _ =>
      if a = 0 then some ⟨if b = 0 then 4 else 2, true⟩
      else if b = 0 then some ⟨if c = 0 ∧ d = 0 then 4 else 2, false⟩
      else none
  | [a, b] =>
      if a = 0 then some ⟨2, true⟩ else if b = 0 then some ⟨2, false⟩ else none
  | _ => none

/-- The number that the bytes of a unit stand for. -/
def Form.unit (form : Form) (bytes : List UInt8) : Nat :=
  let ordered := if form.bigEndian then bytes else bytes.reverse
  ordered.foldl (fun number byte => number * 256 + byte.toNat) 0

/-- The units of a text, if the last is complete. -/
def Form.units? (form : Form) : (fuel : Nat) → List UInt8 → Option (List Nat)
  | _, [] => some []
  | 0, _ => none
  | fuel + 1, bytes =>
      if bytes.length < form.width then none
      else
        (form.units? fuel (bytes.drop form.width)).map
          (form.unit (bytes.take form.width) :: ·)

/-- The character of a code point, and the replacement character for half of one. -/
def character (code : Nat) : Char :=
  if 0xd800 ≤ code ∧ code ≤ 0xdfff then '\ufffd' else Char.ofNat code

/-- The characters of units of two bytes, of which two may make one character. -/
def paired : List Nat → List Char
  | high :: low :: rest =>
      if 0xd800 ≤ high ∧ high < 0xdc00 ∧ 0xdc00 ≤ low ∧ low < 0xe000 then
        Char.ofNat (0x10000 + (high - 0xd800) * 0x400 + (low - 0xdc00)) :: paired rest
      else character high :: paired (low :: rest)
  | [code] => [character code]
  | [] => []

/-- The characters of a text in a form. -/
def Form.decode? (form : Form) (bytes : List UInt8) : Option (List Char) := do
  let units ← form.units? bytes.length bytes
  if form.width = 2 then return paired units
  else if units.all fun code => decide (code ≤ 0x10ffff) then return units.map character
  else none

end Wide

end Kanban
