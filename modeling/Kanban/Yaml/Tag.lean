/-
Tags say what kind of thing a YAML node is.  A node that carries none is tagged by
its form: collections by theirs, quoted scalars as texts, and plain scalars by
what they look like.
-/
import Kanban.Yaml.Number

namespace Kanban

namespace Yaml

inductive Tag where
  | null
  | bool
  | whole
  | double
  | bytes
  | timestamp
  | text
  | sequence
  | mapping
  /-- A sequence of pairs without a key twice. -/
  | ordered
  /-- A sequence of pairs. -/
  | pairs
  /-- The keys of a mapping. -/
  | keys
  /-- The key of mappings to take entries from. -/
  | merge
  /-- The key of the value that stands for a mapping. -/
  | value
  /-- A kind of thing that nothing is known of. -/
  | unknown
deriving DecidableEq, Repr

namespace Tag

/-- The names of tags, all in one space. -/
def space : String := "tag:yaml.org,2002:"

def names : List (String × Tag) :=
  [("null", .null), ("bool", .bool), ("int", .whole), ("float", .double),
    ("binary", .bytes), ("timestamp", .timestamp), ("str", .text), ("seq", .sequence),
    ("map", .mapping), ("omap", .ordered), ("pairs", .pairs), ("set", .keys),
    ("merge", .merge), ("value", .value)]

/-- The tag of a full name. -/
def ofName (name : String) : Tag :=
  ((names.map fun (short, tag) => (space ++ short, tag)).lookup name).getD .unknown

/-- Whether things of a kind are made of other nodes. -/
def isCollection : Tag → Bool
  | .sequence | .mapping | .ordered | .pairs | .keys => true
  | _ => false

/-- The words that stand for booleans. -/
def boolWords : List (String × Bool) :=
  [("yes", true), ("true", true), ("on", true), ("no", false), ("false", false),
    ("off", false)]

/-- A word in small letters, capitalised, or in capitals. -/
def spellings (word : String) : List String :=
  [word, word.capitalize, word.toUpper]

/-- The texts that stand for null. -/
def nullWords : List String :=
  ["", "~"] ++ spellings "null"

/-- The tag of a plain text.  A line break that ends it does not count. -/
def ofPlain (text : String) : Tag :=
  let cs := withoutFinalBreak text.toList
  let word := String.ofList cs
  if (boolWords.flatMap fun (word, _) => spellings word).contains word then .bool
  else if isDouble cs then .double
  else if isWhole cs then .whole
  else if word = "<<" then .merge
  else if nullWords.contains word then .null
  else if Timestamp.isPlain text then .timestamp
  else if word = "=" then .value
  else if word = "!" ∨ word = "&" ∨ word = "*" then .unknown
  else .text

end Tag

end Yaml

end Kanban
