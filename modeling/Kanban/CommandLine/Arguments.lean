/-
Arguments of the schema tool: a command, a declaration file and switches.  The
long name of a switch may be shortened as far as it stays unambiguous.  A value
stands behind an equals sign, right behind a short name, or in the next
argument.  Short switches without a value may share a dash with the next.  After
a double dash no argument is a switch.
-/
import Kanban.Text.Numeral
import Kanban.Text.Split

namespace Kanban

namespace CommandLine

/-- What the tool can be told to do. -/
inductive Command where
  | compile
  | lint
deriving DecidableEq, Repr

def Command.ofName? (name : String) : Option Command :=
  [("compile", Command.compile), ("lint", Command.lint)].lookup name

/-- A command with what it is given. -/
structure Invocation where
  command : Command
  file : Option String
  builtin : Bool
  output : Option String
deriving DecidableEq, Repr

inductive Switch where
  | help
  | builtin
  | output
deriving DecidableEq, Repr

def Switch.takesValue : Switch → Bool
  | .output => true
  | _ => false

def Switch.names : Switch → List String
  | .help => ["-h", "--help"]
  | .builtin => ["--builtin"]
  | .output => ["--output", "-o"]

/-- The switches of a command. -/
def Command.switches : Command → List Switch
  | .compile => [.help, .builtin, .output]
  | .lint => [.help, .builtin]

/-- An argument by itself. -/
inductive Token where
  | word (text : String)
  | switch (kind : Switch) (value : Option String)
  /-- A call for help that shares its dash with a switch whose value is still to
  come. -/
  | helpBefore (kind : Switch)
  | divider
  | unknown
  /-- A switch that cannot be followed by what follows it. -/
  | broken
deriving DecidableEq, Repr

/-- A negative number is a word, though it starts with a dash.  One line feed
may stand behind it. -/
def isNegativeNumber (text : String) : Bool :=
  let written :=
    match text.toList.reverse with
    | '\n' :: rest => rest.reverse
    | _ => text.toList
  match written with
  | '-' :: rest =>
      match splitChars '.' rest with
      | [whole] => !whole.isEmpty && whole.all isNumeral
      | [whole, places] =>
          whole.all isNumeral && !places.isEmpty && places.all isNumeral
      | _ => false
  | _ => false

/-- The switch of a full name. -/
def named? (switches : List Switch) (name : String) : Option Switch :=
  switches.find? fun kind => kind.names.contains name

/-- A name and the value behind an equals sign, if there is one. -/
def splitValue (text : String) : String × Option String :=
  let cs := text.toList
  let name := String.ofList (cs.takeWhile (· ≠ '='))
  match cs.dropWhile (· ≠ '=') with
  | _ :: value => (name, some (String.ofList value))
  | [] => (name, none)

/-- Short switches behind a call for help, without a dash of their own. -/
def cluster (switches : List Switch) : List Char → Token
  | [] => .switch .help none
  | c :: rest =>
      match named? switches (String.ofList ['-', c]) with
      | none => .broken
      | some kind =>
          if !kind.takesValue then cluster switches rest
          else if rest.isEmpty then .helpBefore kind
          else .switch .help none

/-- A switch by one of its names, with what stands right behind the name.  Behind
a short name that takes no value further short names may stand. -/
def attached (switches : List Switch) (kind : Switch) (name value : String) : Token :=
  if kind.takesValue then .switch kind (some value)
  else if value = "" || "--".toList.isPrefixOf name.toList then .broken
  else cluster switches value.toList

/-- A switch with the value behind an equals sign, if there is one. -/
def assigned (switches : List Switch) (kind : Switch) (name : String) :
    Option String → Token
  | some value => attached switches kind name value
  | none => .switch kind none

/-- What a shortened argument can mean: a switch whose long name it begins, or
one whose short name stands in front of it. -/
def shortened (switches : List Switch) (text : String) : List Token :=
  match text.toList with
  | '-' :: '-' :: _ =>
      let (name, value) := splitValue text
      switches.flatMap fun kind =>
        (kind.names.filter fun long => name.toList.isPrefixOf long.toList).map fun long =>
          assigned switches kind long value
  | '-' :: c :: value =>
      let short := String.ofList ['-', c]
      (named? switches short).toList.map fun kind =>
        attached switches kind short (String.ofList value)
  | _ => []

/-- An argument among the switches of a command; an ambiguous one is none. -/
def Token.ofText? (switches : List Switch) (text : String) : Option Token :=
  match text.toList with
  | '-' :: _ :: _ =>
      let (name, value) := splitValue text
      if text = "--" then some .divider
      else
        match named? switches text, named? switches name with
        | some kind, _ => some (.switch kind none)
        | none, some kind => some (assigned switches kind name value)
        | none, none =>
            match shortened switches text with
            | [token] => some token
            | [] =>
                if isNegativeNumber text || text.contains ' ' then some (.word text)
                else some .unknown
            | _ => none
  | _ => some (.word text)

/-- Arguments one by one; after a divider all are words. -/
def tokens? (switches : List Switch) : List String → Option (List Token)
  | [] => some []
  | text :: rest =>
      match Token.ofText? switches text with
      | none => none
      | some .divider => some (.divider :: rest.map .word)
      | some token => (tokens? switches rest).map (token :: ·)

/-- How arguments are understood. -/
inductive Reading where
  /-- They do not fit together. -/
  | misused
  | help
  | run (invocation : Invocation)
deriving DecidableEq, Repr

/-- A value that is a double dash says nothing. -/
def outputOf (value : String) : String :=
  if value = "--" then "" else value

/-- Fill an invocation.  Arguments in excess are noted, so that a call for help
behind them is still heard; one divider is part of the file argument. -/
def fill (invocation : Invocation) (excess : Bool) : List Token → Reading
  | [] => if excess then .misused else .run invocation
  | .switch .help none :: _ => .help
  | .switch .builtin none :: rest => fill { invocation with builtin := true } excess rest
  | .switch .output (some value) :: rest =>
      fill { invocation with output := some (outputOf value) } excess rest
  | .switch .output none :: .word value :: rest =>
      fill { invocation with output := some value } excess rest
  | .switch _ _ :: _ => .misused
  | .helpBefore _ :: .word _ :: _ => .help
  | .helpBefore _ :: _ => .misused
  | .broken :: _ => .misused
  | .unknown :: rest => fill invocation true rest
  | .word text :: .divider :: rest =>
      if invocation.file.isNone then fill { invocation with file := some text } excess rest
      else fill invocation true rest
  | .word text :: rest =>
      if invocation.file.isNone then fill { invocation with file := some text } excess rest
      else fill invocation true rest
  | .divider :: rest => fill invocation (excess || invocation.file.isSome) rest

/-- The arguments behind a command. -/
def Command.read (command : Command) (excess : Bool) (arguments : List String) : Reading :=
  match tokens? command.switches arguments with
  | none => .misused
  | some tokens => fill ⟨command, none, false, none⟩ excess tokens

/-- Arguments with the command that comes first among the words. -/
def readBehind (excess : Bool) : List String → Reading
  | [] => .misused
  | text :: rest =>
      match Token.ofText? [.help] text with
      | some (.word name) =>
          match Command.ofName? name with
          | some command => command.read excess rest
          | none => .misused
      | some (.switch .help none) => .help
      | some .unknown => readBehind true rest
      | _ => .misused

/-- The arguments of the tool. -/
def read (arguments : List String) : Reading :=
  readBehind false arguments

end CommandLine

end Kanban
