/-
Percent encoding, as in addresses: a percent sign and two hexadecimal digits
stand for a byte of UTF-8.
-/
import Kanban.Text.Digits
import Kanban.Text.Utf8

namespace Kanban

namespace Percent

/-- The bytes of a text.  A percent sign without two digits stands for itself. -/
def bytes : List Char → List UInt8
  | [] => []
  | '%' :: high :: low :: rest =>
      match Digits.hexValue? [high, low] with
      | some byte => UInt8.ofNat byte :: bytes rest
      | none => 0x25 :: bytes (high :: low :: rest)
  | c :: rest => String.utf8EncodeChar c ++ bytes rest

def decode (cs : List Char) : List Char :=
  Utf8.decode (bytes cs)

end Percent

end Kanban
