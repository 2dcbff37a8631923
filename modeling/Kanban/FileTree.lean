/-
A tree of text files around a working directory.  Paths are lists of segments;
the empty path is the working directory itself.  Two dots lead to the directory
above, once the way before them is known to exist.
-/
import Kanban.Text.Quoted
import Kanban.Text.Split

namespace Kanban

/-- A path as its segments. -/
abbrev Path := List String

namespace Path

/-- A path from its text.  Empty segments and single dots say nothing, but a
slash in front is kept. -/
def ofText (text : String) : Path :=
  let parts := splitText '/' text
  let said := parts.filter fun part => decide (part ≠ "" ∧ part ≠ ".")
  if parts.head? = some "" ∧ 1 < parts.length then "" :: said else said

/-- The text of a path. -/
def text : Path → String
  | [] => "."
  | [""] => "/"
  | path => "/".intercalate path

/-- The directory that a path lies in. -/
def parent (path : Path) : Path :=
  path.dropLast

/-- The suffix of a file name: its last dot and what follows, unless the dot is
the first or the last character. -/
def suffix (path : Path) : String :=
  let reversed := (path.getLast?.getD "").toList.reverse
  let ending := reversed.takeWhile (· ≠ '.')
  match reversed.dropWhile (· ≠ '.') with
  | _ :: _ :: _ => if ending.isEmpty then "" else String.ofList ('.' :: ending.reverse)
  | _ => ""

end Path

/-- Why a file cannot be read or written. -/
inductive FileError where
  | notFound (path : Path)
  | exists (path : Path)
  | notDirectory (path : Path)
  | isDirectory (path : Path)
  | nameTooLong (path : Path)
  /-- A path holds the character that ends names. -/
  | nul
deriving DecidableEq

def FileError.message : FileError → String
  | .notFound path => "[Errno 2] No such file or directory: " ++ quoted path.text
  | .exists path => "[Errno 17] File exists: " ++ quoted path.text
  | .notDirectory path => "[Errno 20] Not a directory: " ++ quoted path.text
  | .isDirectory path => "[Errno 21] Is a directory: " ++ quoted path.text
  | .nameTooLong path => "[Errno 36] File name too long: " ++ quoted path.text
  | .nul => "embedded null byte"

/-- A place in a tree: the directories above the working directory, or the root,
and the names below. -/
abbrev Place := List String

/-- The directory above a place.  The root lies in itself. -/
def Place.above (place : Place) : Place :=
  if place = [""] then place
  else if place.all (· = "..") then ".." :: place
  else place.dropLast

/-- Files with their texts, and the directories they may lie in. -/
structure FileTree where
  files : List (Place × String)
  directories : List Place

namespace FileTree

def empty : FileTree :=
  ⟨[], []⟩

/-- The working directory, those above it and the root are always there. -/
def isDirectory (tree : FileTree) (place : Place) : Bool :=
  place = [""] || place.all (· = "..") || tree.directories.contains place

def file? (tree : FileTree) (place : Place) : Option String :=
  tree.files.lookup place

/-- The greatest number of bytes in a name. -/
def longestName : Nat := 255

/-- The greatest number of bytes in a path. -/
def longestPath : Nat := 4095

/-- Follow the rest of a path from a place.  Every step starts in a directory. -/
def follow (tree : FileTree) (path : Path) (place : Place) : Path → Except FileError Place
  | [] => .ok place
  | segment :: rest =>
      if !tree.isDirectory place then
        .error (if (tree.file? place).isSome then .notDirectory path else .notFound path)
      else if longestName < segment.utf8ByteSize then .error (.nameTooLong path)
      else
        tree.follow path (if segment = ".." then place.above else place ++ [segment]) rest

/-- The place where a path leads. -/
def place? (tree : FileTree) (path : Path) : Except FileError Place :=
  if path.any fun segment => segment.toList.contains '\x00' then .error .nul
  else if longestPath < path.text.utf8ByteSize then .error (.nameTooLong path)
  else
    match path with
    | "" :: rest => tree.follow path [""] rest
    | _ => tree.follow path [] path

/-- Line ends of every kind as line feeds. -/
def unifyLines : List Char → List Char
  | [] => []
  | '\r' :: '\n' :: rest => '\n' :: unifyLines rest
  | '\r' :: rest => '\n' :: unifyLines rest
  | c :: rest => c :: unifyLines rest

/-- The text of a file, with line feeds at the ends of its lines. -/
def read (tree : FileTree) (path : Path) : Except FileError String := do
  let place ← tree.place? path
  match tree.file? place with
  | some text => .ok (String.ofList (unifyLines text.toList))
  | none => .error (if tree.isDirectory place then .isDirectory path else .notFound path)

/-- Write a file into a directory that is there. -/
def write (tree : FileTree) (path : Path) (text : String) : Except FileError FileTree := do
  let place ← tree.place? path
  if tree.isDirectory place then .error (.isDirectory path)
  else
    .ok { tree with
      files := (place, text) :: tree.files.filter fun entry => decide (entry.1 ≠ place) }

/-- Make a directory in one that is there. -/
def makeOne (tree : FileTree) (path : Path) : Except FileError FileTree := do
  let place ← tree.place? path
  if (tree.file? place).isSome || tree.isDirectory place then .error (.exists path)
  else .ok { tree with directories := tree.directories ++ [place] }

/-- Whether a path leads to a directory. -/
def leadsToDirectory (tree : FileTree) (path : Path) : Bool :=
  match tree.place? path with
  | .ok place => tree.isDirectory place
  | .error _ => false

/-- Make a directory in one that is there, unless it is there itself. -/
def ensureOne (tree : FileTree) (path : Path) : Except FileError FileTree :=
  match tree.makeOne path with
  | .ok made => .ok made
  | .error cause => if tree.leadsToDirectory path then .ok tree else .error cause

/-- A tree after something that may have failed, and why if it has. -/
abbrev Attempted := FileTree × Option FileError

/-- A tree with a change to it, or as it was if the change fails. -/
def orKept (tree : FileTree) : Except FileError FileTree → Attempted
  | .ok changed => (changed, none)
  | .error cause => (tree, some cause)

/-- Make a directory and those on the way to it that are missing.  Those that have
been made stay when a later one cannot be. -/
def makeDirectory (tree : FileTree) (path : Path) : Attempted :=
  match tree.ensureOne path with
  | .error (.notFound missing) =>
      if _h : path = [] then (tree, some (.notFound missing))
      else
        match tree.makeDirectory path.parent with
        | (made, none) => made.orKept (made.ensureOne path)
        | failed => failed
  | result => tree.orKept result
termination_by path.length
decreasing_by
  have hpos := List.length_pos_iff.mpr _h
  simp only [Path.parent, List.length_dropLast]
  omega

/-- Write a file, making the directories above it. -/
def save (tree : FileTree) (path : Path) (text : String) : Attempted :=
  match tree.makeDirectory path.parent with
  | (made, none) => made.orKept (made.write path text)
  | failed => failed

end FileTree

end Kanban
