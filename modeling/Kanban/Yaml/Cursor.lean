/-
Places in a YAML text.  Lines and columns are counted, because indentation and
line ends carry meaning.
-/

namespace Kanban

namespace Yaml

def isBreak (c : Char) : Bool :=
  c = '\n' || c = '\r' || c = '\u0085' || c = '\u2028' || c = '\u2029'

/-- Space or tab. -/
def isBlankSpace (c : Char) : Bool :=
  c = ' ' || c = '\t'

/-- Space, tab or line break. -/
def isWhite (c : Char) : Bool :=
  isBlankSpace c || isBreak c

/-- Whether a token ends here: before white space or at the end of the text. -/
def endsToken : List Char → Bool
  | [] => true
  | c :: _ => isWhite c

/-- Whether a line ends here. -/
def endsLine : List Char → Bool
  | [] => true
  | c :: _ => isBreak c

/-- Whether a space or the end of the line follows. -/
def endsWord (cs : List Char) : Bool :=
  endsLine cs || cs.head? = some ' '

/-- Whether a line starts with a marker between documents. -/
def isMarker : List Char → Bool
  | '-' :: '-' :: '-' :: rest => endsToken rest
  | '.' :: '.' :: '.' :: rest => endsToken rest
  | _ => false

/-- A line break as it stands in a text. -/
def breakChar (c : Char) : Char :=
  if c = '\u2028' ∨ c = '\u2029' then c else '\n'

/-- Without the first line break, which may be two characters. -/
def dropBreak : List Char → List Char
  | '\r' :: '\n' :: rest => rest
  | _ :: rest => rest
  | [] => []

/-- A place in a text: what is left of it, the number of characters before it,
the line, and the column. -/
structure Cursor where
  rest : List Char
  index : Nat
  line : Nat
  column : Nat

namespace Cursor

/-- The start of a text.  A byte order mark in front has no width. -/
def start : List Char → Cursor
  | '\ufeff' :: rest => ⟨rest, 1, 0, 0⟩
  | cs => ⟨cs, 0, 0, 0⟩

/-- Past one character.  Of the two that make a line break the second counts. -/
def step (cursor : Cursor) : Cursor :=
  match cursor.rest with
  | [] => cursor
  | c :: rest =>
      if isBreak c && !(c = '\r' && rest.head? = some '\n') then
        ⟨rest, cursor.index + 1, cursor.line + 1, 0⟩
      else
        ⟨rest, cursor.index + 1, cursor.line,
          if c = '\ufeff' then cursor.column else cursor.column + 1⟩

def forward : (count : Nat) → Cursor → Cursor
  | 0, cursor => cursor
  | count + 1, cursor => forward count cursor.step

/-- The place where `rest` is left. -/
def upTo (cursor : Cursor) (rest : List Char) : Cursor :=
  cursor.forward (cursor.rest.length - rest.length)

/-- Past the characters of a kind. -/
def past (isKind : Char → Bool) (cursor : Cursor) : Cursor :=
  cursor.upTo (cursor.rest.dropWhile isKind)

/-- Past the line break that stands here. -/
def pastBreak (cursor : Cursor) : Cursor :=
  cursor.upTo (dropBreak cursor.rest)

end Cursor

end Yaml

end Kanban
