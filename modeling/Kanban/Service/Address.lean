/-
Addresses of requests, taken relative to the service's own.  The path of an
address is brought into its shortest form before its percent signs are read, so
an encoded dot or slash changes no segment before it.
-/
import Kanban.Text.Percent
import Kanban.Text.Split

namespace Kanban

namespace Address

/-- The longest address that is followed. -/
def longest : Nat := 65536

/-- Only printable characters stand in an address, apart from those beyond
ASCII. -/
def isAllowed (c : Char) : Bool :=
  decide (0x20 ≤ c.toNat) && c != '\x7f'

/-- Whether a character ends the path. -/
def endsPath (c : Char) : Bool :=
  c = '?' || c = '#'

/-- The path of an address, without the name of a server in front of it.  Where
no server is named, no two slashes follow the place of its name. -/
def written? : List Char → Option (List Char)
  | '/' :: '/' :: rest =>
      let isName (c : Char) : Bool := c != '/' && !endsPath c
      let path := (rest.dropWhile isName).takeWhile fun c => !endsPath c
      if (rest.takeWhile isName).isEmpty && "//".toList.isPrefixOf path then none
      else some path
  | ':' :: _ => none
  | cs => some (cs.takeWhile fun c => !endsPath c)

/-- Segments without single dots.  Two dots take back the segment before them,
but not the root. -/
def shorten (done : List String) : List String → List String
  | [] => done
  | segment :: rest =>
      if segment = "." then shorten done rest
      else if segment = ".." then
        shorten (if done = [""] then done else done.dropLast) rest
      else shorten (done ++ [segment]) rest

/-- The decoded path of an address, if the address can be followed. -/
def path? (address : String) : Option String :=
  let cs := address.toList
  if longest < cs.length || !cs.all isAllowed then none
  else
    (written? cs).map fun path =>
      let rooted := '/' :: path.dropWhile (· = '/')
      let segments := shorten [] (splitText '/' (String.ofList rooted))
      String.ofList (Percent.decode ("/".intercalate segments).toList)

end Address

end Kanban
