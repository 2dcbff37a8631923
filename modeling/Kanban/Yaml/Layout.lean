/-
The tokens of a YAML text in their order, with those that indentation stands for.
Whether a token is a key shows only at the colon behind it, so that what may be
one is remembered with its place among the tokens.
-/
import Kanban.Yaml.Token

namespace Kanban

namespace Yaml

/-- A token that is a key if a colon follows: its place among the tokens and in
the text, and how many flow collections it lies in.  At the indentation of a
block mapping nothing but a key may stand. -/
structure PendingKey where
  place : Nat
  start : Cursor
  flow : Nat
  required : Bool

/-- How many characters a key may span. -/
def keyLength : Nat := 1024

/-- A text read up to a place: the tokens, last first, the number of flow
collections and the columns of block collections that are open, innermost first,
whether a key may start here, and what may be a key. -/
structure Layout where
  cursor : Cursor
  tokens : List Token
  flow : Nat
  columns : List Nat
  keyAllowed : Bool
  keys : List PendingKey

namespace Layout

def start (cs : List Char) : Layout :=
  ⟨.start cs, [], 0, [], true, []⟩

def inFlow (layout : Layout) : Bool :=
  decide (0 < layout.flow)

def emit (layout : Layout) (token : Token) : Layout :=
  { layout with tokens := token :: layout.tokens }

/-- Put a token before those from a place on. -/
def emitAt (layout : Layout) (place : Nat) (token : Token) : Layout :=
  { layout with
    tokens := layout.tokens.insertIdx (layout.tokens.length - place) token }

/-- Past a token of the given length. -/
def pass (layout : Layout) (count : Nat) : Layout :=
  { layout with cursor := layout.cursor.forward count }

def allowKey (layout : Layout) (allowed : Bool) : Layout :=
  { layout with keyAllowed := allowed }

/-- Open a block collection at a column, if that is further in. -/
def openAt (layout : Layout) (column : Nat) (place : Nat) (token : Token) : Layout :=
  if layout.columns.head?.all fun outer => decide (outer < column) then
    { layout with columns := column :: layout.columns }.emitAt place token
  else layout

/-- Close the block collections that lie further in than what follows, or all of
them. -/
def closeBeyond (column : Option Nat) : List Nat → List Nat × Nat
  | inner :: outer =>
      if column.all fun column => decide (column < inner) then
        let (open', count) := closeBeyond column outer
        (open', count + 1)
      else (inner :: outer, 0)
  | [] => ([], 0)

/-- Go back to the indentation of a column.  In flow collections indentation says
nothing. -/
def unwind (layout : Layout) (column : Option Nat) : Layout :=
  if layout.inFlow then layout
  else
    let (columns, count) := closeBeyond column layout.columns
    { layout with
      columns := columns
      tokens := List.replicate count .blockEnd ++ layout.tokens }

/-- What may be a key among the flow collections that are open. -/
def pending? (layout : Layout) : Option PendingKey :=
  layout.keys.find? fun key => decide (key.flow = layout.flow)

def dropPending (layout : Layout) : Layout :=
  { layout with keys := layout.keys.filter fun key => decide (key.flow ≠ layout.flow) }

/-- No colon comes any more for what may be a key here. -/
def forget (layout : Layout) : Except YamlError Layout :=
  match layout.pending? with
  | none => .ok layout
  | some key => if key.required then .error .malformed else .ok layout.dropPending

/-- Remember what starts here as what may be a key. -/
def remember (layout : Layout) : Except YamlError Layout := do
  if !layout.keyAllowed then return layout
  let layout ← layout.forget
  let required := !layout.inFlow && layout.columns.head? = some layout.cursor.column
  let key : PendingKey := ⟨layout.tokens.length, layout.cursor, layout.flow, required⟩
  return { layout with keys := key :: layout.keys }

/-- Whether something is no key any more, because it has another line or is too far
behind. -/
def isStale (layout : Layout) (key : PendingKey) : Bool :=
  key.start.line != layout.cursor.line ||
    decide (keyLength < layout.cursor.index - key.start.index)

/-- Keys lie on one line and are not too long. -/
def dropStale (layout : Layout) : Except YamlError Layout :=
  if layout.keys.any fun key => layout.isStale key && key.required then .error .malformed
  else .ok { layout with keys := layout.keys.filter fun key => !layout.isStale key }

/-- The tokens before the first that may still be a key.  The others are not used
before that is settled. -/
def settled (layout : Layout) : List Token :=
  let places := (layout.keys.filter fun key => !layout.isStale key).map PendingKey.place
  layout.tokens.drop (layout.tokens.length - places.foldl min layout.tokens.length)

/-- What is left after spaces, line breaks and comments. -/
def afterSpacing (comment : Bool) : List Char → List Char
  | [] => []
  | c :: rest =>
      if isBreak c then afterSpacing false rest
      else if comment then afterSpacing true rest
      else if c = ' ' then afterSpacing false rest
      else if c = '#' then afterSpacing true rest
      else c :: rest

/-- The place of the next token.  On a new line a key may start. -/
def skip (layout : Layout) : Layout :=
  let next := layout.cursor.upTo (afterSpacing false layout.cursor.rest)
  { layout with
    cursor := next
    keyAllowed :=
      layout.keyAllowed || (!layout.inFlow && next.line != layout.cursor.line) }

/-- Close all that indentation has opened; nothing before can be a key. -/
def close (layout : Layout) : Except YamlError Layout := do
  return (← (layout.unwind none).forget).allowKey false

def marker (layout : Layout) (token : Token) : Except YamlError Layout := do
  return ((← layout.close).pass 3).emit token

def directiveLine (layout : Layout) : Except YamlError Layout := do
  let layout ← layout.close
  let (line, rest) ← directive (layout.cursor.rest.drop 1)
  let next ← pastLine (layout.cursor.upTo rest)
  return { layout with cursor := next }.emit (.directive line)

def openFlow (layout : Layout) (token : Token) : Except YamlError Layout := do
  let layout ← layout.remember
  return (({ layout with flow := layout.flow + 1 }.allowKey true).pass 1).emit token

def closeFlow (layout : Layout) (token : Token) : Except YamlError Layout := do
  let layout ← layout.forget
  return (({ layout with flow := layout.flow - 1 }.allowKey false).pass 1).emit token

def flowEntry (layout : Layout) : Except YamlError Layout := do
  return (((← layout.forget).allowKey true).pass 1).emit .flowEntry

/-- A collection of the block form may go on only where a key may start. -/
def blockPlace (layout : Layout) (token : Token) : Except YamlError Layout :=
  if layout.inFlow then .ok layout
  else if layout.keyAllowed then
    .ok (layout.openAt layout.cursor.column layout.tokens.length token)
  else .error .malformed

def entry (layout : Layout) : Except YamlError Layout := do
  let layout ← (← layout.blockPlace .blockSequence).forget
  return ((layout.allowKey true).pass 1).emit .entry

def key (layout : Layout) : Except YamlError Layout := do
  let layout ← (← layout.blockPlace .blockMapping).forget
  return ((layout.allowKey !layout.inFlow).pass 1).emit .key

/-- The colon before a value.  What may be a key before it is one. -/
def value (layout : Layout) : Except YamlError Layout := do
  match layout.pending? with
  | some pending =>
      let keyed := layout.dropPending.emitAt pending.place .key
      let opened :=
        if layout.inFlow then keyed
        else keyed.openAt pending.start.column pending.place .blockMapping
      return ((opened.allowKey false).pass 1).emit .value
  | none =>
      let layout ← layout.blockPlace .blockMapping
      return ((layout.allowKey !layout.inFlow).pass 1).emit .value

/-- A token that may be a key, read behind its first character. -/
def keyToken (layout : Layout) (read : List Char → Except YamlError (Ahead Token)) :
    Except YamlError Layout := do
  let layout := (← layout.remember).allowKey false
  let (token, rest) ← read (layout.cursor.rest.drop 1)
  return { layout with cursor := layout.cursor.upTo rest }.emit token

def quotedScalar (layout : Layout) (double : Bool) : Except YamlError Layout :=
  layout.keyToken fun cs => do
    let (text, rest) ← quotedText double (cs.length + 1) cs
    return (.scalar (String.ofList text) false, rest)

/-- The least column of a node inside the innermost block collection. -/
def least (layout : Layout) : Nat :=
  layout.columns.head?.elim 0 (· + 1)

def blockScalar (layout : Layout) (fold : Bool) : Except YamlError Layout := do
  let layout := (← layout.forget).allowKey true
  let (text, next) ← block fold (max 1 layout.least) layout.cursor.step
  return { layout with cursor := next }.emit (.scalar (String.ofList text) false)

/-- A plain scalar, and the white space behind it.  A key may start on the line
after it. -/
def plainScalar (layout : Layout) : Except YamlError Layout := do
  let layout ← layout.remember
  let cs := layout.cursor.rest
  let (text, rest) := plain layout.inFlow layout.least cs.length cs
  let isGap (c : Char) : Bool := c = ' ' || isBreak c
  let next := layout.cursor.upTo (rest.dropWhile isGap)
  return ({ layout with cursor := next }.allowKey ((rest.takeWhile isGap).any isBreak)).emit
    (.scalar (String.ofList text) true)

/-- The token that starts here with a character of its own. -/
def token (layout : Layout) (c : Char) (rest : List Char) : Except YamlError Layout :=
  let isMark := layout.inFlow || endsToken rest
  match c with
  | '[' => layout.openFlow .flowSequence
  | '{' => layout.openFlow .flowMapping
  | ']' => layout.closeFlow .flowSequenceEnd
  | '}' => layout.closeFlow .flowMappingEnd
  | ',' => layout.flowEntry
  | '*' => layout.keyToken fun cs => (anchorName cs).map fun (text, rest) => (.alias text, rest)
  | '&' => layout.keyToken fun cs => (anchorName cs).map fun (text, rest) => (.anchor text, rest)
  | '!' => layout.keyToken tag
  | '"' => layout.quotedScalar true
  | '\'' => layout.quotedScalar false
  | _ =>
      if c = '-' && endsToken rest then layout.entry
      else if c = '?' && isMark then layout.key
      else if c = ':' && isMark then layout.value
      else if (c = '|' || c = '>') && !layout.inFlow then layout.blockScalar (c = '>')
      else if startsPlain layout.inFlow (c :: rest) then layout.plainScalar
      else .error .malformed

/-- Read the next token, or the end of the text. -/
def advance (layout : Layout) : Except YamlError Layout := do
  let layout ← layout.skip.dropStale
  let layout := layout.unwind (some layout.cursor.column)
  match layout.cursor.rest with
  | [] => return (← layout.close).emit .textEnd
  | c :: rest =>
      if layout.cursor.column = 0 && c = '%' then layout.directiveLine
      else if layout.cursor.column = 0 && isMarker (c :: rest) then
        layout.marker (if c = '-' then .documentStart else .documentEnd)
      else layout.token c rest

/-- Read tokens up to the end of the text, or to where nothing can be read. -/
def run : (fuel : Nat) → Layout → List Token
  | 0, layout => layout.tokens
  | fuel + 1, layout =>
      match layout.advance with
      | .error cause => .broken cause :: layout.settled
      | .ok next => if next.cursor.rest.isEmpty && next.tokens.head? = some .textEnd then
          next.tokens
        else run fuel next

end Layout

/-- The tokens of a text.  Each takes a character at least. -/
def tokensOf (cs : List Char) : List Token :=
  ((Layout.start cs).run (cs.length + 2)).reverse

end Yaml

end Kanban
