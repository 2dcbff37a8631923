/-
The tokens of YAML, and how single ones are read: directives, anchors, tags and
scalars.  Where tokens may stand, and what indentation says, is decided elsewhere.
-/
import Kanban.Text.Utf8
import Kanban.Yaml.Scalar

namespace Kanban

namespace Yaml

/-- A line in front of a document that says how to read it. -/
inductive Directive where
  | version (major : Nat)
  /-- A short name for the beginning of tags. -/
  | handle (short full : String)
  | other
deriving DecidableEq, Repr

inductive Token where
  | directive (line : Directive)
  | documentStart
  | documentEnd
  | blockSequence
  | blockMapping
  | blockEnd
  | flowSequence
  | flowSequenceEnd
  | flowMapping
  | flowMappingEnd
  | flowEntry
  | entry
  | key
  | value
  | alias (name : String)
  | anchor (name : String)
  /-- A tag: the beginning it refers to, if any, and the rest. -/
  | tag (handle : Option String) (rest : String)
  | scalar (text : String) (isPlain : Bool)
  | textEnd
  /-- Nothing can be read from here on. -/
  | broken (cause : YamlError)
deriving DecidableEq, Repr

/-- What has been read, and what follows it. -/
abbrev Ahead (A : Type) := A × List Char

/-- The characters of names. -/
def isName (c : Char) : Bool :=
  Digits.isDecimal c || c.isAlpha || c = '-' || c = '_'

/-- A name of at least one character. -/
def name (cs : List Char) : Except YamlError (Ahead String) :=
  match cs.takeWhile isName with
  | [] => .error .malformed
  | run => .ok (String.ofList run, cs.dropWhile isName)

/-- The name of an anchor or alias, which only white space and some marks may
follow. -/
def anchorName (cs : List Char) : Except YamlError (Ahead String) := do
  let (text, rest) ← name cs
  if endsToken rest || rest.head?.any fun c => "?:,]\x7d%@\u0060".contains c then
    return (text, rest)
  else throw .malformed

/-- A handle: an exclamation mark, and after a name another one. -/
def handle : List Char → Except YamlError (Ahead String)
  | '!' :: rest =>
      if rest.head? = some ' ' then .ok ("!", rest)
      else
        match rest.dropWhile isName with
        | '!' :: tail => .ok (String.ofList ('!' :: rest.takeWhile isName ++ ['!']), tail)
        | _ => .error .malformed
  | _ => .error .malformed

/-- The characters of tags apart from percent signs. -/
def isTagChar (c : Char) : Bool :=
  Digits.isDecimal c || c.isAlpha || "-;/?:@&=+$,_.!~*'()[]".contains c

/-- The bytes of percent signs in a row, each with two hexadecimal digits. -/
def percentBytes : List Char → Except YamlError (Ahead (List UInt8))
  | '%' :: high :: low :: rest =>
      match Digits.hexValue? [high, low] with
      | some byte => do
          let (bytes, rest) ← percentBytes rest
          return (UInt8.ofNat byte :: bytes, rest)
      | none => .error .malformed
  | '%' :: _ => .error .malformed
  | cs => .ok ([], cs)

/-- The characters of a tag. -/
def tagChars : (fuel : Nat) → List Char → Except YamlError (Ahead (List Char))
  | fuel + 1, c :: rest =>
      if c = '%' then do
        let (bytes, rest) ← percentBytes (c :: rest)
        let text := Utf8.decode bytes
        if text.flatMap String.utf8EncodeChar = bytes then
          let (more, rest) ← tagChars fuel rest
          return (text ++ more, rest)
        else throw .malformed
      else if isTagChar c then do
        let (more, rest) ← tagChars fuel rest
        return (c :: more, rest)
      else .ok ([], c :: rest)
  | _, cs => .ok ([], cs)

/-- The rest of a tag, of at least one character. -/
def tagText (cs : List Char) : Except YamlError (Ahead String) := do
  match ← tagChars cs.length cs with
  | ([], _) => throw .malformed
  | (text, rest) => return (String.ofList text, rest)

/-- Whether a tag names its handle: an exclamation mark stands in its first
word. -/
def namesHandle (cs : List Char) : Bool :=
  (cs.takeWhile fun c => !(c = ' ' || isBreak c)).contains '!'

/-- A tag after its exclamation mark. -/
def tagBody : List Char → Except YamlError (Ahead Token)
  | '<' :: rest => do
      match ← tagText rest with
      | (text, '>' :: rest) => return (.tag none text, rest)
      | _ => throw .malformed
  | cs =>
      if endsToken cs then .ok (.tag none "!", cs)
      else do
        let (short, rest) ← if namesHandle cs then handle ('!' :: cs) else pure ("!", cs)
        let (text, rest) ← tagText rest
        return (.tag (some short) text, rest)

def tag (cs : List Char) : Except YamlError (Ahead Token) := do
  let (token, rest) ← tagBody cs
  if endsWord rest then return (token, rest) else throw .malformed

def dropSpaces (cs : List Char) : List Char :=
  cs.dropWhile (· = ' ')

/-- A number in a directive. -/
def versionNumber (cs : List Char) : Except YamlError (Ahead Nat) :=
  match Digits.span cs with
  | ([], _) => .error .malformed
  | (digits, rest) =>
      match Digits.excess? digits with
      | some count => .error (.tooLong count)
      | none => .ok (Digits.value digits, rest)

/-- The version that a document is written for. -/
def versionLine (cs : List Char) : Except YamlError (Ahead Directive) := do
  match ← versionNumber (dropSpaces cs) with
  | (major, '.' :: rest) =>
      let (_, rest) ← versionNumber rest
      if endsWord rest then return (.version major, rest) else throw .malformed
  | _ => throw .malformed

/-- A short name for the beginning of tags. -/
def handleLine (cs : List Char) : Except YamlError (Ahead Directive) := do
  let (short, rest) ← handle (dropSpaces cs)
  if rest.head? ≠ some ' ' then throw .malformed
  let (full, rest) ← tagText (dropSpaces rest)
  if endsWord rest then return (.handle short full, rest) else throw .malformed

/-- A directive after its percent sign; of unknown ones the line is passed
over. -/
def directive (cs : List Char) : Except YamlError (Ahead Directive) := do
  let (text, rest) ← name cs
  if !endsWord rest then throw .malformed
  match text with
  | "YAML" => versionLine rest
  | "TAG" => handleLine rest
  | _ => return (.other, rest.dropWhile (!isBreak ·))

end Yaml

end Kanban
