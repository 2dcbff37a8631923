/-
The texts of YAML scalars: plain, quoted, and in blocks.  A line break inside a
text is folded: one alone becomes a space, further ones are kept.
-/
import Kanban.Text.Digits
import Kanban.Yaml.Cursor
import Kanban.Yaml.Error

namespace Kanban

namespace Yaml

/-- Brackets and commas structure flow collections. -/
def isFlow (c : Char) : Bool :=
  c = ',' || c = '[' || c = ']' || c = '{' || c = '}'

/-- White space up to the next text: the line breaks in it and what follows.
Nothing is read past a document marker. -/
def breaks (blank : Char → Bool) : (fuel : Nat) → List Char → Option (List Char × List Char)
  | 0, cs => some ([], cs)
  | fuel + 1, cs =>
      if isMarker cs then none
      else
        match cs.dropWhile blank with
        | c :: rest =>
            if isBreak c then
              (breaks blank fuel (dropBreak (c :: rest))).map fun (more, rest) =>
                (breakChar c :: more, rest)
            else some ([], c :: rest)
        | [] => some ([], [])

/-- The text of a folded line break followed by more of them. -/
def folded (first : Char) (more : List Char) : List Char :=
  if breakChar first ≠ '\n' then breakChar first :: more
  else if more.isEmpty then [' ']
  else more

/-- Whether a plain text ends before a character. -/
def endsPlain (flow : Bool) (c : Char) (rest : List Char) : Bool :=
  isWhite c ||
    (c = ':' && (endsToken rest || (flow && rest.head?.any isFlow))) ||
    (flow && (isFlow c || c = '?'))

/-- The part of a plain text up to the next white space. -/
def plainRun (flow : Bool) : List Char → List Char × List Char
  | [] => ([], [])
  | c :: rest =>
      if endsPlain flow c rest then ([], c :: rest)
      else
        let (run, tail) := plainRun flow rest
        (c :: run, tail)

/-- What stands between two runs of a plain text: its text and what follows,
with the column there when a line was ended. -/
def plainGap (cs : List Char) : Option (List Char × Option Nat × List Char) :=
  let spaces := cs.takeWhile (· = ' ')
  match cs.dropWhile (· = ' ') with
  | c :: rest =>
      if isBreak c then
        match breaks (· = ' ') rest.length (dropBreak (c :: rest)) with
        | none => none
        | some (more, tail) =>
            let line := (cs.take (cs.length - tail.length)).reverse
            some (folded c more, some (line.takeWhile (· = ' ')).length, tail)
      else if spaces.isEmpty then none
      else some (spaces, none, c :: rest)
  | [] => none

/-- A plain text and what follows it.  Outside flow collections further lines
belong to it while they are indented to `least`. -/
def plain (flow : Bool) (least : Nat) : (fuel : Nat) → List Char → List Char × List Char
  | 0, cs => ([], cs)
  | fuel + 1, cs =>
      match plainRun flow cs with
      | ([], _) => ([], cs)
      | (run, rest) =>
          match plainGap rest with
          | none => (run, rest)
          | some (gap, column, next) =>
              let outside := !flow && column.any fun column => decide (column < least)
              if outside || next.head? = some '#' then (run, rest)
              else
                match plain flow least fuel next with
                | ([], _) => (run, rest)
                | (more, tail) => (run ++ gap ++ more, tail)

/-- Whether a plain text may start here. -/
def startsPlain (flow : Bool) : List Char → Bool
  | [] => false
  | c :: rest =>
      if "?:-".contains c then !endsToken rest && (c = '-' || !flow)
      else !(isWhite c || isFlow c || "#&*!|>'\"%@\u0060".contains c)

def escapes : List (Char × Char) :=
  [('0', '\x00'), ('a', '\x07'), ('b', '\x08'), ('t', '\t'), ('\t', '\t'), ('n', '\n'),
    ('v', '\x0b'), ('f', '\x0c'), ('r', '\r'), ('e', '\x1b'), (' ', ' '), ('"', '"'),
    ('\\', '\\'), ('/', '/'), ('N', '\u0085'), ('_', '\u00a0'), ('L', '\u2028'),
    ('P', '\u2029')]

/-- How many hexadecimal digits an escape takes. -/
def codeLength? (c : Char) : Option Nat :=
  [('x', 2), ('u', 4), ('U', 8)].lookup c

/-- The character of hexadecimal digits in front, which must be so many. -/
def code (count : Nat) (cs : List Char) : Except YamlError Char :=
  if cs.length < count then .error .malformed
  else
    match Digits.hexValue? (cs.take count) with
    | none => .error .malformed
    | some number =>
        if 0x7fffffff < number then .error .noCode
        else if 0x10ffff < number then .error .noCharacter
        else .ok (Char.ofNat number)

/-- White space inside a quoted text, as it is read, and what follows.  The line
break in front does not count if it is escaped. -/
def quotedGap (escaped : Bool) (cs : List Char) : Option (List Char × List Char) :=
  match cs.dropWhile isBlankSpace with
  | [] => none
  | c :: rest =>
      if isBreak c then
        (breaks isBlankSpace rest.length (dropBreak (c :: rest))).map fun (more, rest) =>
          (if escaped then more else folded c more, rest)
      else some (cs.takeWhile isBlankSpace, c :: rest)

/-- An escape after its backslash, as it is read, and what follows. -/
def escape : List Char → Except YamlError (List Char × List Char)
  | [] => .error .malformed
  | c :: rest =>
      match escapes.lookup c, codeLength? c with
      | some plain, _ => .ok ([plain], rest)
      | none, some count => (code count rest).map fun plain => ([plain], rest.drop count)
      | none, none =>
          match if isBreak c then quotedGap true (c :: rest) else none with
          | some gap => .ok gap
          | none => .error .malformed

/-- The text of a quoted scalar after its opening quote, and what follows the
closing one. -/
def quotedText (double : Bool) :
    (fuel : Nat) → List Char → Except YamlError (List Char × List Char)
  | 0, _ => .error .malformed
  | _, [] => .error .malformed
  | fuel + 1, c :: rest => do
      if c = (if double then '"' else '\'') then
        match double, rest with
        | false, '\'' :: rest =>
            let (more, tail) ← quotedText double fuel rest
            return ('\'' :: more, tail)
        | _, _ => return ([], rest)
      else
        let (text, rest) ←
          if double && c = '\\' then escape rest
          else if isWhite c then
            match quotedGap false (c :: rest) with
            | some gap => pure gap
            | none => throw .malformed
          else pure ([c], rest)
        let (more, tail) ← quotedText double fuel rest
        return (text ++ more, tail)

/-- What becomes of the line breaks at the end of a block. -/
inductive Chomping where
  /-- None is kept. -/
  | strip
  /-- The first is kept. -/
  | clip
  /-- All are kept. -/
  | keep
deriving DecidableEq, Repr

def Chomping.ofSign? (c : Char) : Option Chomping :=
  [('+', Chomping.keep), ('-', Chomping.strip)].lookup c

/-- How a block is read: the end of its text, and its indentation if that is
given. -/
structure BlockHeader where
  chomping : Chomping
  indent : Option Nat
deriving DecidableEq, Repr

/-- A digit that gives an indentation, in front of a header. -/
def indentIn : List Char → Except YamlError (Option Nat × List Char)
  | c :: rest =>
      if c = '0' then .error .malformed
      else if Digits.isDecimal c then .ok (some (Digits.value [c]), rest)
      else .ok (none, c :: rest)
  | [] => .ok (none, [])

/-- A sign that gives the chomping, in front of a header. -/
def chompingIn : List Char → Option Chomping × List Char
  | c :: rest =>
      match Chomping.ofSign? c with
      | some chomping => (some chomping, rest)
      | none => (none, c :: rest)
  | [] => (none, [])

/-- The header of a block: a sign and a digit in any order. -/
def blockHeader (cs : List Char) : Except YamlError (BlockHeader × List Char) := do
  let (first, rest) := chompingIn cs
  let (indent, rest) ← indentIn rest
  let (second, rest) :=
    if first.isNone && indent.isSome then chompingIn rest else (none, rest)
  if endsWord rest then return (⟨(first.or second).getD .clip, indent⟩, rest)
  else throw .malformed

/-- Past spaces and a comment, to the end of the line and past its break. -/
def pastLine (cursor : Cursor) : Except YamlError Cursor :=
  let next := cursor.past (· = ' ')
  let next := if next.rest.head? = some '#' then next.past (!isBreak ·) else next
  if endsLine next.rest then .ok next.pastBreak else .error .malformed

/-- The line breaks in front of a block whose indentation is not given, and the
deepest column that its spaces reach. -/
def leadingBreaks : (fuel deepest : Nat) → Cursor → List Char × Nat × Cursor
  | 0, deepest, cursor => ([], deepest, cursor)
  | fuel + 1, deepest, cursor =>
      match cursor.rest with
      | c :: _ =>
          if c = ' ' then leadingBreaks fuel (max deepest cursor.step.column) cursor.step
          else if isBreak c then
            let (more, deepest, next) := leadingBreaks fuel deepest cursor.pastBreak
            (breakChar c :: more, deepest, next)
          else ([], deepest, cursor)
      | [] => ([], deepest, cursor)

/-- Past spaces up to a column. -/
def toColumn (indent : Nat) : (fuel : Nat) → Cursor → Cursor
  | 0, cursor => cursor
  | fuel + 1, cursor =>
      if cursor.column < indent && cursor.rest.head? = some ' ' then
        toColumn indent fuel cursor.step
      else cursor

/-- The line breaks before the next line of a block, and the place where that
line may start. -/
def blockBreaks (indent : Nat) : (fuel : Nat) → Cursor → List Char × Cursor
  | 0, cursor => ([], cursor)
  | fuel + 1, cursor =>
      let next := toColumn indent indent cursor
      match next.rest with
      | c :: _ =>
          if isBreak c then
            let (more, next) := blockBreaks indent fuel next.pastBreak
            (breakChar c :: more, next)
          else ([], next)
      | [] => ([], next)

/-- What joins two lines of a block: the break between them, folded into a space
or into further breaks when neither line starts with white space. -/
def joint (fold : Bool) (first : Char) (line next more : List Char) : List Char :=
  let startsText (cs : List Char) : Bool := !cs.head?.any isBlankSpace
  if fold && breakChar first = '\n' && startsText line && startsText next then
    if more.isEmpty then [' '] else []
  else [breakChar first]

/-- The lines of a block at a column.  `more` are the breaks in front of the
line. -/
def blockLines (fold : Bool) (chomping : Chomping) (indent : Nat) :
    (fuel : Nat) → (more : List Char) → Cursor → List Char × Cursor
  | fuel + 1, more, cursor =>
      if cursor.column = indent && !cursor.rest.isEmpty then
        let line := cursor.rest.takeWhile (!isBreak ·)
        let ended := cursor.past (!isBreak ·)
        let (later, next) := blockBreaks indent ended.rest.length ended.pastBreak
        match ended.rest.head? with
        | none => (more ++ line, next)
        | some first =>
            if next.column = indent && !next.rest.isEmpty then
              let (rest, last) := blockLines fold chomping indent fuel later next
              (more ++ line ++ joint fold first line next.rest later ++ rest, last)
            else
              let final := if chomping = .strip then [] else [breakChar first]
              (more ++ line ++ final ++ (if chomping = .keep then later else []), next)
      else (if chomping = .keep then more else [], cursor)
  | 0, _, cursor => ([], cursor)

/-- The text of a block after its mark, and the place behind it.  Its lines are
indented to `least` at least. -/
def block (fold : Bool) (least : Nat) (cursor : Cursor) :
    Except YamlError (List Char × Cursor) := do
  let (header, rest) ← blockHeader cursor.rest
  let start ← pastLine (cursor.upTo rest)
  let fuel := start.rest.length + 1
  match header.indent with
  | none =>
      let (more, deepest, next) := leadingBreaks fuel 0 start
      return blockLines fold header.chomping (max least deepest) fuel more next
  | some extra =>
      let indent := least + extra - 1
      let (more, next) := blockBreaks indent fuel start
      return blockLines fold header.chomping indent fuel more next

end Yaml

end Kanban
