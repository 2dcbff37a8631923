/-
Numbers in YAML.  Underscores may stand among their digits.  Whole numbers are
decimal, binary, octal or hexadecimal, and both kinds may count in sixties,
their places apart by colons.
-/
import Kanban.Binary64.Literal
import Kanban.Text.Numeral
import Kanban.Yaml.Error

namespace Kanban

namespace Yaml

def isOctal (c : Char) : Bool :=
  decide ('0' ≤ c ∧ c ≤ '7')

def isBinary (c : Char) : Bool :=
  c = '0' || c = '1'

def isHex (c : Char) : Bool :=
  (Digits.hex? c).isSome

/-- Whether characters are some digits and underscores, at least one. -/
def isGroup (isDigit : Char → Bool) (cs : List Char) : Bool :=
  !cs.isEmpty && cs.all fun c => isDigit c || c = '_'

/-- Whether characters are a digit and then decimal digits and underscores. -/
def isRun (first : Char → Bool) (cs : List Char) : Bool :=
  match cs with
  | [] => false
  | c :: rest => first c && rest.all fun c => Digits.isDecimal c || c = '_'

/-- One place of a number in sixties. -/
def isSixtieth : List Char → Bool
  | [c] => Digits.isDecimal c
  | [c, d] => decide ('0' ≤ c ∧ c ≤ '5') && Digits.isDecimal d
  | _ => false

/-- Whether characters are a whole part and then at least one place in
sixties. -/
def isInSixties (first : Char → Bool) (cs : List Char) : Bool :=
  match splitChars ':' cs with
  | head :: place :: places => isRun first head && (place :: places).all isSixtieth
  | _ => false

/-- Whether a plain text is a whole number. -/
def isWhole (cs : List Char) : Bool :=
  let nonZero (c : Char) : Bool := Digits.isDecimal c && c != '0'
  match (Digits.signOf cs).2 with
  | ['0'] => true
  | '0' :: 'b' :: rest => isGroup isBinary rest
  | '0' :: 'x' :: rest => isGroup isHex rest
  | '0' :: rest => isGroup isOctal rest
  | digits => isRun nonZero digits || isInSixties nonZero digits

/-- Whether characters are nothing or an exponent with its sign. -/
def isExponent : List Char → Bool
  | [] => true
  | mark :: sign :: size =>
      (mark = 'e' || mark = 'E') && (sign = '-' || sign = '+') && !size.isEmpty &&
        size.all Digits.isDecimal
  | _ => false

/-- Whether characters are digits with a point, without a sign. -/
def isPointed (signed : Bool) (cs : List Char) : Bool :=
  let isPlace (c : Char) : Bool := Digits.isDecimal c || c = '_'
  let whole := cs.takeWhile (· ≠ '.')
  match cs.dropWhile (· ≠ '.') with
  | [] => false
  | _ :: rest =>
      let places := rest.takeWhile isPlace
      let tail := rest.dropWhile isPlace
      if whole.isEmpty then !signed && isRun Digits.isDecimal places && isExponent tail
      else if isRun Digits.isDecimal whole then isExponent tail
      else isInSixties Digits.isDecimal whole && tail.isEmpty

/-- Whether a plain text is a number with a point, an infinity or the undefined
number.  The last takes no sign, and a point in front lets none stand. -/
def isDouble (cs : List Char) : Bool :=
  let rest := (Digits.signOf cs).2
  let signed := decide (rest.length ≠ cs.length)
  let isOneOf (words : List String) : Bool := words.any fun word => rest = word.toList
  isOneOf [".inf", ".Inf", ".INF"] || (!signed && isOneOf [".nan", ".NaN", ".NAN"]) ||
    isPointed signed rest

/-- Digits without the mark of their base. -/
def withoutBase (base : Nat) : List Char → List Char
  | '0' :: mark :: rest =>
      if [(2, 'b'), (8, 'o'), (16, 'x')].lookup base = some mark.toLower then rest
      else '0' :: mark :: rest
  | cs => cs

/-- The value of digits in a base.  Blanks around them, a sign and the mark of the
base are allowed. -/
def wholeIn (base : Nat) (cs : List Char) : Except YamlError Int :=
  let (negative, rest) := Digits.signOf (numeralText cs)
  let isDigit (c : Char) : Bool := (Digits.hex? c).any fun value => decide (value < base)
  let digits := (withoutBase base rest).takeWhile isDigit
  match if base = 10 then Digits.excess? digits else none with
  | some count => .error (.tooLong count)
  | none =>
      if digits.isEmpty || digits != withoutBase base rest then
        .error (.noWhole base (String.ofList cs))
      else
        let size : Int :=
          digits.foldl (fun number c => number * base + (Digits.hex? c).getD 0) 0
        .ok (if negative then -size else size)

/-- Places in sixties as one number. -/
def inSixties (places : List Int) : Int :=
  places.foldl (fun number place => number * 60 + place) 0

/-- A minus sign in front, and what follows the sign of a number that is not
empty. -/
def signed? : List Char → Except YamlError (Bool × List Char)
  | [] => .error .noNumber
  | cs => .ok (Digits.signOf cs)

/-- A text as a whole number. -/
def wholeOf (text : String) : Except YamlError Int := do
  let (negative, cs) ← signed? (text.toList.filter (· ≠ '_'))
  let size ←
    match cs with
    | [] => throw .noNumber
    | ['0'] => pure 0
    | '0' :: 'b' :: rest => wholeIn 2 rest
    | '0' :: 'x' :: rest => wholeIn 16 rest
    | '0' :: _ => wholeIn 8 cs
    | _ =>
        if cs.contains ':' then inSixties <$> (splitChars ':' cs).mapM (wholeIn 10)
        else wholeIn 10 cs
  return if negative then -size else size

/-- A literal number, with blanks around it. -/
def doubleIn (cs : List Char) : Except YamlError Binary64 :=
  match Binary64.ofLiteral? (numeralText cs) with
  | some number => .ok number
  | none => .error (.noDouble (String.ofList cs))

/-- A text as a number with a point. -/
def doubleOf (text : String) : Except YamlError Binary64 := do
  let (negative, cs) ← signed? ((text.toList.filter (· ≠ '_')).map Char.toLower)
  let size ←
    if cs = ".inf".toList then pure (Binary64.infinite false)
    else if cs = ".nan".toList then return .nan
    else if cs.contains ':' then
      let places ← (splitChars ':' cs).mapM doubleIn
      pure ((places.mapM Binary64.units?).elim .nan fun units => .ofUnits (inSixties units))
    else doubleIn cs
  return if negative then size.neg else size

end Yaml

end Kanban
