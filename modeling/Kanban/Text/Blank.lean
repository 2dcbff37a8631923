/-
White space: the separators of every script and the control characters that
move the cursor.  Zero-width characters are not among them.
-/

namespace Kanban

/-- The blank characters, as ranges of code points. -/
def blankRanges : List (Nat × Nat) :=
  [(0x09, 0x0d), (0x1c, 0x20), (0x85, 0x85), (0xa0, 0xa0), (0x1680, 0x1680),
    (0x2000, 0x200a), (0x2028, 0x2029), (0x202f, 0x202f), (0x205f, 0x205f),
    (0x3000, 0x3000)]

def isBlank (c : Char) : Bool :=
  blankRanges.any fun (low, high) => decide (low ≤ c.toNat ∧ c.toNat ≤ high)

def dropBlank (cs : List Char) : List Char :=
  cs.dropWhile isBlank

/-- Characters without the blanks on either side. -/
def trimBlank (cs : List Char) : List Char :=
  (dropBlank (dropBlank cs).reverse).reverse

/-- Characters without the line feed that ends them, if others stand before it. -/
def withoutFinalBreak (cs : List Char) : List Char :=
  match cs.reverse with
  | '\n' :: c :: rest => (c :: rest).reverse
  | _ => cs

/-- A text without the blanks on either side. -/
def stripped (text : String) : String :=
  String.ofList (trimBlank text.toList)

end Kanban
