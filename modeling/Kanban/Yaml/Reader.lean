/-
The values of YAML documents.  A key given twice keeps its first place and its last
value.  Collections are checked level by level, so of several faults the one
nearest to the root is reported.
-/
import Kanban.Text.Base64
import Kanban.Value
import Kanban.Yaml.Node

namespace Kanban

namespace Yaml

/-- The value of a text with a tag that no collection has. -/
def scalarValue (tag : Tag) (text : String) : Except YamlError Value :=
  match tag with
  | .null => .ok .null
  | .bool =>
      match Tag.boolWords.lookup text.toLower with
      | some value => .ok (.bool value)
      | none => .error (.noBool text.toLower)
  | .whole => (wholeOf text).map .int
  | .double => (doubleOf text).map .float
  | .bytes =>
      match if text.toList.all fun c => decide (c.toNat < 0x80) then Base64.decode? text
        else none with
      | some bytes => .ok (.list (bytes.map fun (byte : Nat) => .int byte))
      | none => .error .malformed
  | .timestamp =>
      match Timestamp.ofText? text with
      | none => .error .noTimestamp
      | some moment =>
          match moment.number with
          | .ok number => .ok (.int number)
          | .error cause => .error (.badTimestamp cause)
  | .text => .ok (.text text)
  | _ => .error .malformed

namespace Node

mutual

/-- The text of a scalar, or of the scalar that stands for a mapping. -/
def text? : Node → Option String
  | .scalar _ text => some text
  | .mapping _ pairs => standIn? pairs
  | .sequence _ _ | .again _ => none

def standIn? : List (Node × Node) → Option String
  | [] => none
  | (key, value) :: rest => if key.tag = .value then value.text? else standIn? rest

end

/-- The value of a node with a tag that no collection has. -/
def plainValue (node : Node) : Except YamlError Value :=
  match node, node.text? with
  | .mapping .timestamp _, some _ => .error .mappedTimestamp
  | _, some text => scalarValue node.tag text
  | _, none => .error .malformed

/-- A key that is a lone equals sign is a text like others. -/
def asKey : Node → Node
  | .scalar .value text => .scalar .text text
  | node => node

mutual

/-- The entries of a mapping: first those merged into it, then its own. -/
def flatten : List (Node × Node) →
    Except YamlError (List (Node × Node) × List (Node × Node))
  | [] => .ok ([], [])
  | (key, value) :: rest => do
      let merged ← if key.tag = .merge then value.merged else pure []
      let (more, own) ← flatten rest
      return (merged ++ more, if key.tag = .merge then own else (key.asKey, value) :: own)

/-- The entries that a mapping, or a sequence of mappings, has for others.  Of
mappings in a sequence the first comes last. -/
def merged : Node → Except YamlError (List (Node × Node))
  | .scalar _ _ | .again _ => .error .malformed
  | .mapping _ pairs => do
      let (merged, own) ← flatten pairs
      return merged ++ own
  | .sequence _ items => mergedAll items

def mergedAll : List Node → Except YamlError (List (Node × Node))
  | [] => .ok []
  | .mapping _ pairs :: rest => do
      let (merged, own) ← flatten pairs
      return (← mergedAll rest) ++ (merged ++ own)
  | _ :: _ => .error .malformed

end

/-- The entries of a mapping with those merged into it. -/
def entries? : Node → Except YamlError (List (Node × Node))
  | .mapping _ pairs => do
      let (merged, own) ← flatten pairs
      return merged ++ own
  | _ => .error .malformed

/-- The pair of a mapping with no other. -/
def pair? : Node → Except YamlError (Node × Node)
  | .mapping _ [pair] => .ok pair
  | _ => .error .malformed

def items? : Node → Except YamlError (List Node)
  | .sequence _ items => .ok items
  | _ => .error .malformed

/-- Check a node as far as it can be seen from its collection; a collection is left
for later. -/
def glance (node : Node) : Except YamlError (List Node) :=
  if node.tag.isCollection then .ok [node] else node.plainValue.map fun _ => []

/-- Check a key; a collection is none. -/
def glanceKey (node : Node) : Except YamlError (List Node) :=
  if node.tag.isCollection then .error .malformed else node.plainValue.map fun _ => []

/-- Check what a collection holds; the collections among it are left for later. -/
def inspect (node : Node) : Except YamlError (List Node) :=
  match node.tag with
  | .mapping | .keys => do
      let entries ← node.entries?
      let later ← entries.mapM fun (key, value) => do
        let _ ← glanceKey key
        glance value
      return later.flatten
  | .ordered | .pairs => do
      let later ← (← node.items?).mapM fun item => do
        let (key, value) ← item.pair?
        return (← glance key) ++ (← glance value)
      return later.flatten
  | _ => do
      return (← (← node.items?).mapM glance).flatten

/-- Check collections level by level. -/
def inspectAll : (fuel : Nat) → List Node → Except YamlError Unit
  | 0, _ => .ok ()
  | _, [] => .ok ()
  | fuel + 1, nodes => do
      let later ← nodes.mapM inspect
      inspectAll fuel later.flatten

/-- A value as a key.  Bytes, which are read as a list, are a text there. -/
def keyOf (value : Value) : Key :=
  value.key?.getD (.text value.shown)

/-- The value of a node. -/
def value (fuel : Nat) (node : Node) : Except YamlError Value :=
  match fuel with
  | 0 => .error .malformed
  | fuel + 1 =>
      match node.tag with
      | .sequence => do
          return .list (← (← node.items?).mapM (value fuel))
      | .mapping => do
          let pairs ← (← node.entries?).mapM fun (key, entry) => do
            return (keyOf (← value fuel key), ← value fuel entry)
          return .map (Entries.ofPairs pairs)
      | .keys => do
          let keys ← (← node.entries?).mapM fun (key, _) => value fuel key
          return .list keys.eraseDups
      | .ordered | .pairs => do
          let pairs ← (← node.items?).mapM fun item => do
            let (key, entry) ← item.pair?
            return Value.list [← value fuel key, ← value fuel entry]
          return .list pairs
      | _ => node.plainValue

end Node

/-- The characters a document may hold. -/
def isAllowed (c : Char) : Bool :=
  let code := c.toNat
  code == 0x09 || code == 0x0a || code == 0x0d || code == 0x85 ||
    decide (0x20 ≤ code ∧ code ≤ 0x7e) || decide (0xa0 ≤ code ∧ code ≤ 0xfffd) ||
    decide (0x10000 ≤ code)

/-- The value of a text that is one document; an empty one is null.  A node is no
deeper than there are characters, with those written out inside themselves. -/
def read? (text : String) : Except YamlError Value := do
  let cs := text.toList
  if !cs.all isAllowed then throw .malformed
  match ← Node.ofTokens? (tokensOf cs) with
  | none => return .null
  | some node =>
      let fuel := (cs.length + 2) * (Node.foldDepth + 2)
      Node.inspectAll fuel (← node.glance)
      node.value fuel

end Yaml

end Kanban
