/-
The nodes of a YAML document: scalars, sequences and mappings, each with its tag.
A node can be given a name and stand again wherever the name is used, even inside
itself.
-/
import Kanban.Yaml.Layout
import Kanban.Yaml.Tag

namespace Kanban

namespace Yaml

inductive Node where
  | scalar (tag : Tag) (text : String)
  | sequence (tag : Tag) (items : List Node)
  | mapping (tag : Tag) (pairs : List (Node × Node))
  /-- The collection of a name, inside itself. -/
  | again (name : String)

namespace Node

def tag : Node → Tag
  | .scalar tag _ => tag
  | .sequence tag _ => tag
  | .mapping tag _ => tag
  | .again _ => .unknown

/-- A node that nothing is written for. -/
def empty : Node :=
  .scalar .null ""

end Node

/-- What is known while nodes are read: the handles of tags, and the nodes with
names.  A collection that is still being read is known by its name alone. -/
structure Names where
  handles : List (String × String)
  nodes : List (String × Option Node)

/-- A part that has been read, what is known by then, and the tokens that follow. -/
abbrev Parsed (A : Type) := A × Names × List Token

/-- Why tokens cannot be read on. -/
def refusal : List Token → YamlError
  | .broken cause :: _ => cause
  | _ => .malformed

/-- What is said of a node in front of it. -/
structure Properties where
  anchor : Option String
  tag : Option (Option String × String)

/-- An anchor and a tag, in any order. -/
def propertiesIn : List Token → Properties × List Token
  | .anchor name :: .tag handle text :: rest => (⟨some name, some (handle, text)⟩, rest)
  | .tag handle text :: .anchor name :: rest => (⟨some name, some (handle, text)⟩, rest)
  | .anchor name :: rest => (⟨some name, none⟩, rest)
  | .tag handle text :: rest => (⟨none, some (handle, text)⟩, rest)
  | tokens => (⟨none, none⟩, tokens)

/-- The full name of a tag. -/
def fullName (names : Names) : Option String × String → Except YamlError String
  | (none, text) => .ok text
  | (some handle, text) =>
      match names.handles.lookup handle with
      | some full => .ok (full ++ text)
      | none => .error .malformed

/-- The tag of a node with a written one, or else the tag of its form.  A lone
exclamation mark leaves the question open. -/
def tagFor (form : Tag) : Option String → Tag
  | some name => if name = "!" then form else Tag.ofName name
  | none => form

/-- The scalar of a text.  Only quotes and tags keep it from being read as what it
looks like. -/
def scalarOf (name : Option String) (isPlain : Bool) (text : String) : Node :=
  let byLooks := if isPlain || name = some "!" then Tag.ofPlain text else .text
  .scalar (tagFor byLooks name) text

namespace Names

/-- Know a node by its name; no name is given twice. -/
def define (names : Names) (anchor : Option String) (node : Option Node) :
    Except YamlError Names :=
  match anchor with
  | none => .ok names
  | some name =>
      if (names.nodes.lookup name).isSome then .error .malformed
      else .ok { names with nodes := (name, node) :: names.nodes }

/-- Complete a collection that was known by its name. -/
def complete (names : Names) (anchor : Option String) (node : Node) : Names :=
  match anchor with
  | none => names
  | some name => { names with nodes := (name, some node) :: names.nodes }

/-- The node of a name. -/
def find (names : Names) (name : String) : Except YamlError Node :=
  match names.nodes.lookup name with
  | some found => .ok (found.getD (.again name))
  | none => .error .malformed

end Names

/-- The forms that a node may take where it stands: flow ones, block collections,
or also a sequence at the column of its key. -/
inductive Forms where
  | flow
  | block
  | sameColumn
deriving DecidableEq, Repr

/-- Whether a token cannot start the node behind a dash, or behind a key or colon of
the block form. -/
def endsBlock : List Token → Bool
  | .key :: _ => true
  | .value :: _ => true
  | .blockEnd :: _ => true
  | _ => false

/-- Whether a token ends a pair in a flow collection. -/
def endsPair (close : Token) : List Token → Bool
  | token :: _ => token = .flowEntry || token = close
  | [] => false

mutual

/-- A node and the tokens behind it. -/
def node (fuel : Nat) (forms : Forms) (names : Names) (tokens : List Token) :
    Except YamlError (Parsed Node) :=
  match fuel, tokens with
  | 0, _ => .error (refusal tokens)
  | _, .alias name :: rest => (names.find name).map fun found => (found, names, rest)
  | fuel + 1, _ => do
      let (properties, tokens) := propertiesIn tokens
      let tag ← properties.tag.mapM (fullName names)
      let leaf (node : Node) (rest : List Token) : Except YamlError (Parsed Node) := do
        return (node, ← names.define properties.anchor (some node), rest)
      let items (read : Names → List Token → Except YamlError (Parsed (List Node)))
          (rest : List Token) : Except YamlError (Parsed Node) := do
        let (items, names, rest) ← read (← names.define properties.anchor none) rest
        let node := Node.sequence (tagFor .sequence tag) items
        return (node, names.complete properties.anchor node, rest)
      let pairs (read : Names → List Token → Except YamlError (Parsed (List (Node × Node))))
          (rest : List Token) : Except YamlError (Parsed Node) := do
        let (pairs, names, rest) ← read (← names.define properties.anchor none) rest
        let node := Node.mapping (tagFor .mapping tag) pairs
        return (node, names.complete properties.anchor node, rest)
      match tokens with
      | .scalar text isPlain :: rest => leaf (scalarOf tag isPlain text) rest
      | .flowSequence :: rest => items (flowItems fuel true) rest
      | .flowMapping :: rest => pairs (flowPairs fuel true) rest
      | .blockSequence :: rest =>
          if forms = .flow then .error .malformed else items (entries fuel) rest
      | .blockMapping :: rest =>
          if forms = .flow then .error .malformed else pairs (blockPairs fuel) rest
      | .entry :: _ =>
          if forms = .sameColumn then items (dashes fuel) tokens
          else if properties.anchor.isSome || tag.isSome then leaf (scalarOf tag true "") tokens
          else .error .malformed
      | _ =>
          if properties.anchor.isSome || tag.isSome then leaf (scalarOf tag true "") tokens
          else .error (refusal tokens)

/-- A node, or the empty one if a token says that none follows. -/
def nodeUnless (fuel : Nat) (none : Bool) (forms : Forms) (names : Names)
    (tokens : List Token) : Except YamlError (Parsed Node) :=
  match fuel with
  | 0 => .error (refusal tokens)
  | fuel + 1 => if none then .ok (.empty, names, tokens) else node fuel forms names tokens

/-- The entries of a block sequence, up to its end. -/
def entries (fuel : Nat) (names : Names) (tokens : List Token) :
    Except YamlError (Parsed (List Node)) :=
  match fuel, tokens with
  | fuel + 1, .entry :: rest => do
      let isEmpty := rest.head? = some .entry || rest.head? = some .blockEnd
      let (head, names, rest) ← nodeUnless fuel isEmpty .block names rest
      let (tail, names, rest) ← entries fuel names rest
      return (head :: tail, names, rest)
  | _, .blockEnd :: rest => .ok ([], names, rest)
  | _, _ => .error (refusal tokens)

/-- The entries of a sequence at the column of its key, up to what is none. -/
def dashes (fuel : Nat) (names : Names) (tokens : List Token) :
    Except YamlError (Parsed (List Node)) :=
  match fuel, tokens with
  | fuel + 1, .entry :: rest => do
      let isEmpty := rest.head? = some .entry || endsBlock rest
      let (head, names, rest) ← nodeUnless fuel isEmpty .block names rest
      let (tail, names, rest) ← dashes fuel names rest
      return (head :: tail, names, rest)
  | _, _ => .ok ([], names, tokens)

/-- The pairs of a block mapping, up to its end. -/
def blockPairs (fuel : Nat) (names : Names) (tokens : List Token) :
    Except YamlError (Parsed (List (Node × Node))) :=
  match fuel, tokens with
  | fuel + 1, .key :: rest => do
      let (key, names, rest) ← nodeUnless fuel (endsBlock rest) .sameColumn names rest
      let (value, names, rest) ← blockValue fuel names rest
      let (tail, names, rest) ← blockPairs fuel names rest
      return ((key, value) :: tail, names, rest)
  | _, .blockEnd :: rest => .ok ([], names, rest)
  | _, _ => .error (refusal tokens)

/-- The value behind a colon in a block mapping, or the empty one. -/
def blockValue (fuel : Nat) (names : Names) (tokens : List Token) :
    Except YamlError (Parsed Node) :=
  match fuel, tokens with
  | fuel + 1, .value :: rest => nodeUnless fuel (endsBlock rest) .sameColumn names rest
  | _, _ => .ok (.empty, names, tokens)

/-- The value behind a colon in a flow collection, or the empty one. -/
def flowValue (fuel : Nat) (close : Token) (names : Names) (tokens : List Token) :
    Except YamlError (Parsed Node) :=
  match fuel, tokens with
  | fuel + 1, .value :: rest => nodeUnless fuel (endsPair close rest) .flow names rest
  | _, _ => .ok (.empty, names, tokens)

/-- The pair behind the mark of a key in a flow collection. -/
def flowPair (fuel : Nat) (close : Token) (names : Names) (tokens : List Token) :
    Except YamlError (Parsed (Node × Node)) :=
  match fuel with
  | 0 => .error (refusal tokens)
  | fuel + 1 => do
      let isEmpty := tokens.head? = some .value || endsPair close tokens
      let (key, names, rest) ← nodeUnless fuel isEmpty .flow names tokens
      let (value, names, rest) ← flowValue fuel close names rest
      return ((key, value), names, rest)

/-- The items of a flow sequence, up to its end.  All but the first follow a
comma; a pair among them is a mapping of its own. -/
def flowItems (fuel : Nat) (isFirst : Bool) (names : Names) (tokens : List Token) :
    Except YamlError (Parsed (List Node)) :=
  match fuel, isFirst, tokens with
  | _, _, .flowSequenceEnd :: rest => .ok ([], names, rest)
  | fuel + 1, false, .flowEntry :: rest => flowItems fuel true names rest
  | _, false, _ => .error (refusal tokens)
  | fuel + 1, true, .key :: rest => do
      let (pair, names, rest) ← flowPair fuel .flowSequenceEnd names rest
      let (tail, names, rest) ← flowItems fuel false names rest
      return (.mapping .mapping [pair] :: tail, names, rest)
  | fuel + 1, true, _ => do
      let (head, names, rest) ← node fuel .flow names tokens
      let (tail, names, rest) ← flowItems fuel false names rest
      return (head :: tail, names, rest)
  | 0, _, _ => .error (refusal tokens)

/-- The pairs of a flow mapping, up to its end.  A node without a colon is a key
without a value. -/
def flowPairs (fuel : Nat) (isFirst : Bool) (names : Names) (tokens : List Token) :
    Except YamlError (Parsed (List (Node × Node))) :=
  match fuel, isFirst, tokens with
  | _, _, .flowMappingEnd :: rest => .ok ([], names, rest)
  | fuel + 1, false, .flowEntry :: rest => flowPairs fuel true names rest
  | _, false, _ => .error (refusal tokens)
  | fuel + 1, true, .key :: rest => do
      let (pair, names, rest) ← flowPair fuel .flowMappingEnd names rest
      let (tail, names, rest) ← flowPairs fuel false names rest
      return (pair :: tail, names, rest)
  | fuel + 1, true, _ => do
      let (key, names, rest) ← node fuel .flow names tokens
      let (tail, names, rest) ← flowPairs fuel false names rest
      return ((key, .empty) :: tail, names, rest)
  | 0, _, _ => .error (refusal tokens)

end

/-- The handles that every document knows. -/
def commonHandles : List (String × String) :=
  [("!", "!"), ("!!", Tag.space)]

/-- The handles that directives give, and the tokens behind them.  The version is
given once at most and must be understood. -/
def handlesIn (versioned : Bool) (handles : List (String × String)) :
    List Token → Except YamlError (List (String × String) × List Token)
  | .directive (.version major) :: rest =>
      if versioned || major != 1 then .error .malformed else handlesIn true handles rest
  | .directive (.handle short full) :: rest =>
      if (handles.lookup short).isSome then .error .malformed
      else handlesIn versioned ((short, full) :: handles) rest
  | .directive .other :: rest => handlesIn versioned handles rest
  | tokens => .ok (handles ++ commonHandles, tokens)

/-- Whether a token cannot start the content of a document. -/
def endsDocument : List Token → Bool
  | .directive _ :: _ => true
  | .documentStart :: _ => true
  | .documentEnd :: _ => true
  | .textEnd :: _ => true
  | _ => false

namespace Node

mutual

/-- A node with something in place of the collections that stand again. -/
def fill (found : String → Node) : Node → Node
  | .scalar tag text => .scalar tag text
  | .sequence tag items => .sequence tag (fillAll found items)
  | .mapping tag pairs => .mapping tag (fillPairs found pairs)
  | .again name => found name

def fillAll (found : String → Node) : List Node → List Node
  | [] => []
  | item :: rest => fill found item :: fillAll found rest

def fillPairs (found : String → Node) : List (Node × Node) → List (Node × Node)
  | [] => []
  | (key, value) :: rest => (fill found key, fill found value) :: fillPairs found rest

end

/-- A node of the same kind and size that holds nothing. -/
def outline : Node → Node
  | .sequence _ items => .sequence .sequence (items.map fun _ => .empty)
  | .mapping tag pairs =>
      .mapping (if tag = .keys then .keys else .mapping)
        ((pairs.filter fun (key, _) => decide (key.tag ≠ .merge)).map fun (key, _) =>
          (key, .empty))
  | node => node

/-- A node with the collections that contain themselves written out, so many inside
each other; the innermost hold nothing. -/
def unfold (names : Names) : (depth : Nat) → Node → Node
  | 0, node => node.fill fun name => (names.nodes.lookup name).join.elim .empty outline
  | depth + 1, node =>
      node.fill fun name => (names.nodes.lookup name).join.elim .empty (unfold names depth)

/-- How many times a collection is written out inside itself.  Declarations are not
looked at any deeper. -/
def foldDepth : Nat := 6

end Node

/-- The content of a document, and the tokens behind it. -/
def content (names : Names) (mayBeEmpty : Bool) (tokens : List Token) :
    Except YamlError (Node × List Token) :=
  if mayBeEmpty && endsDocument tokens then .ok (.empty, tokens)
  else (node (4 * tokens.length + 4) .block names tokens).map fun (node, names, rest) =>
    (node.unfold names Node.foldDepth, rest)

/-- The end of the only document of a text.  Directives for another one are read, but
it is refused. -/
def finish (node : Node) : List Token → Except YamlError (Option Node)
  | .documentEnd :: rest => finish node rest
  | [.textEnd] => .ok (some node)
  | tokens => do
      let (_, rest) ← handlesIn false [] tokens
      throw (refusal rest)

/-- The node of the document that tokens make up, if there is one. -/
def Node.ofTokens? (tokens : List Token) : Except YamlError (Option Node) := do
  match tokens with
  | [.textEnd] => return none
  | .directive _ :: _ | .documentStart :: _ =>
      match ← handlesIn false [] tokens with
      | (handles, .documentStart :: rest) =>
          let (node, rest) ← content ⟨handles, []⟩ true rest
          finish node rest
      | (_, tokens) => throw (refusal tokens)
  | _ =>
      let (node, rest) ← content ⟨commonHandles, []⟩ false tokens
      finish node rest

end Yaml

end Kanban
