/-
Reading JSON text.  Objects keep the order written and a key given twice keeps
its first place and its last value; whole numbers are read exactly, up to a limit
on their digits, others as doubles; `NaN` and the infinities are accepted.  The
first fault of a text, from left to right, is the one reported.
-/
import Kanban.Binary64.Decimal
import Kanban.Text.Digits
import Kanban.Value

namespace Kanban

/-- Why a text is no JSON value that can be held. -/
inductive JsonError where
  | malformed
  /-- A whole number has more digits than are read. -/
  | tooLong (digits : Nat)
deriving DecidableEq, Repr

namespace Json

def isSpace (c : Char) : Bool :=
  c = ' ' || c = '\t' || c = '\n' || c = '\r'

def skipSpace (cs : List Char) : List Char :=
  cs.dropWhile isSpace

/-- The fraction after a whole part, if a point and a digit follow. -/
def fraction : List Char → List Char × List Char
  | '.' :: rest =>
      match Digits.span rest with
      | ([], _) => ([], '.' :: rest)
      | run => run
  | cs => ([], cs)

/-- The exponent after a number, if a complete one follows. -/
def exponent (cs : List Char) : Option (Int × List Char) :=
  match cs with
  | mark :: rest =>
      if mark = 'e' || mark = 'E' then
        let (negative, digits) := Digits.signOf rest
        match Digits.span digits with
        | ([], _) => none
        | (run, tail) =>
            let size := (Digits.value run : Int)
            some (if negative then -size else size, tail)
      else none
  | [] => none

/-- The digits of the whole part of a number.  A zero stands alone. -/
def wholePart? : List Char → Option (List Char × List Char)
  | '0' :: rest => some (['0'], rest)
  | cs =>
      match Digits.span cs with
      | ([], _) => none
      | run => some run

/-- A whole number of the given digits. -/
def whole (negative : Bool) (digits : List Char) : Except JsonError Value :=
  match Digits.excess? digits with
  | some count => .error (.tooLong count)
  | none =>
      let size : Int := Digits.value digits
      .ok (.int (if negative then -size else size))

/-- A number without its sign. -/
def unsigned (negative : Bool) (cs : List Char) : Except JsonError (Value × List Char) :=
  match wholePart? cs with
  | none => .error .malformed
  | some (digits, rest) =>
      let (places, rest) := fraction rest
      let double (size : Int) : Value :=
        .float (.ofDecimal negative (Digits.value (digits ++ places)) (size - places.length))
      match places, exponent rest with
      | [], none => (whole negative digits).map fun value => (value, rest)
      | _, none => .ok (double 0, rest)
      | _, some (size, rest) => .ok (double size, rest)

/-- The character of four hexadecimal digits, or of two such groups when the
first is a high surrogate.  The second component is what follows. -/
def codePoint (unit : Nat) (rest : List Char) : Nat × List Char :=
  match rest with
  | '\\' :: 'u' :: a :: b :: c :: d :: tail =>
      match Digits.hexValue? [a, b, c, d] with
      | some low =>
          if 0xd800 ≤ unit ∧ unit < 0xdc00 ∧ 0xdc00 ≤ low ∧ low < 0xe000 then
            (0x10000 + (unit - 0xd800) * 0x400 + (low - 0xdc00), tail)
          else (unit, rest)
      | none => (unit, rest)
  | _ => (unit, rest)

def simpleEscape? : Char → Option Char
  | '"' => some '"'
  | '\\' => some '\\'
  | '/' => some '/'
  | 'b' => some '\x08'
  | 'f' => some '\x0c'
  | 'n' => some '\n'
  | 'r' => some '\r'
  | 't' => some '\t'
  | _ => none

/-- The rest of a string after its opening quote.  `done` holds the characters
read so far, last first. -/
def string (fuel : Nat) (done : List Char) (cs : List Char) :
    Except JsonError (String × List Char) :=
  match fuel, cs with
  | _, '"' :: rest => .ok (String.ofList done.reverse, rest)
  | fuel + 1, '\\' :: 'u' :: a :: b :: c :: d :: rest =>
      match Digits.hexValue? [a, b, c, d] with
      | some unit =>
          let (code, rest) := codePoint unit rest
          string fuel (Char.ofNat code :: done) rest
      | none => .error .malformed
  | fuel + 1, '\\' :: c :: rest =>
      match simpleEscape? c with
      | some plain => string fuel (plain :: done) rest
      | none => .error .malformed
  | fuel + 1, c :: rest => if c < ' ' then .error .malformed else string fuel (c :: done) rest
  | _, _ => .error .malformed

/-- The words that stand for a value. -/
def words : List (List Char × Value) :=
  [("null".toList, .null), ("true".toList, .bool true), ("false".toList, .bool false),
    ("NaN".toList, .float .nan), ("Infinity".toList, .float (.infinite false)),
    ("-Infinity".toList, .float (.infinite true))]

def word? (cs : List Char) : Option (Value × List Char) :=
  words.findSome? fun (spelling, value) =>
    if spelling.isPrefixOf cs then some (value, cs.drop spelling.length) else none

/-- A word or a number. -/
def scalar (cs : List Char) : Except JsonError (Value × List Char) :=
  match word? cs, cs with
  | some found, _ => .ok found
  | none, '-' :: rest => unsigned true rest
  | none, _ => unsigned false cs

mutual

/-- One value, without space before it. -/
def value (fuel : Nat) (cs : List Char) : Except JsonError (Value × List Char) :=
  match fuel, cs with
  | _, '"' :: rest => (string rest.length [] rest).map fun (text, rest) => (.text text, rest)
  | fuel + 1, '[' :: rest =>
      match skipSpace rest with
      | ']' :: rest => .ok (.list [], rest)
      | rest => (items fuel rest).map fun (values, rest) => (.list values, rest)
  | fuel + 1, '{' :: rest =>
      match skipSpace rest with
      | '}' :: rest => .ok (.map [], rest)
      | rest =>
          (members fuel rest).map fun (pairs, rest) => (.map (Mapping.ofPairs pairs), rest)
  | _, cs => scalar cs

/-- The values of an array, up to its closing bracket. -/
def items (fuel : Nat) (cs : List Char) : Except JsonError (List Value × List Char) :=
  match fuel with
  | 0 => .error .malformed
  | fuel + 1 => do
      let (head, rest) ← value fuel cs
      match skipSpace rest with
      | ']' :: rest => .ok ([head], rest)
      | ',' :: rest =>
          let (tail, rest) ← items fuel (skipSpace rest)
          .ok (head :: tail, rest)
      | _ => .error .malformed

/-- The members of an object, up to its closing brace. -/
def members (fuel : Nat) (cs : List Char) :
    Except JsonError (Entries × List Char) :=
  match fuel, cs with
  | fuel + 1, '"' :: rest => do
      let (key, rest) ← string rest.length [] rest
      match skipSpace rest with
      | ':' :: rest =>
          let (head, rest) ← value fuel (skipSpace rest)
          match skipSpace rest with
          | '}' :: rest => .ok ([(.text key, head)], rest)
          | ',' :: rest =>
              let (tail, rest) ← members fuel (skipSpace rest)
              .ok ((.text key, head) :: tail, rest)
          | _ => .error .malformed
      | _ => .error .malformed
  | _, _ => .error .malformed

end

/-- The value of a text that is one JSON value with space around it.  Every
step of the reader takes a character, so the length of the text bounds its
nesting. -/
def read? (text : String) : Except JsonError Value :=
  let cs := text.toList
  match value (cs.length + 1) (skipSpace cs) with
  | .ok (result, rest) =>
      if (skipSpace rest).isEmpty then .ok result else .error .malformed
  | .error cause => .error cause

end Json

end Kanban
