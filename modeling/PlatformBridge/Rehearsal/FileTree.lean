import PlatformBridge.Document

/-!
Files laid out for a rehearsal, and what is found under a path among them. A path is walked name by
name from a folder on: each name is looked up in the folder reached so far, and only a folder can
be walked on from, be it by a name, by a dot or by the slash at the path's end.
-/

namespace PlatformBridge.Rehearsal

/-- What stands at a place. -/
inductive FileNode where
  | folder
  | file (content : ByteArray)

/-- The names that lead from the root to a place. -/
abbrev FilePlace : Type := List String

/-- Files and folders by their places. The root is a folder. -/
structure FileTree where
  nodes : List (FilePlace × FileNode)
  /-- Where paths start that do not start at the root. -/
  home : FilePlace := []

namespace FileTree

/-- The greatest size of a name in bytes. -/
def nameLimit : Nat := 255

/-- The greatest size of a path in bytes. -/
def pathLimit : Nat := 4095

def names (path : String) : List String := (path.toList.splitOn '/').map String.ofList

/-- The place that a path leads to from the root, if none of its names is a dot. -/
def placeOf (path : String) : FilePlace := (names path).filter (· ≠ "")

def at? (tree : FileTree) (place : FilePlace) : Option FileNode :=
  if place.isEmpty then some .folder else tree.nodes.lookup place

/-- Adds a node, and the folders that lead to it. -/
def insert (tree : FileTree) (place : FilePlace) (node : FileNode) : FileTree :=
  let above := (List.range place.length).map fun n => (place.take n, FileNode.folder)
  { tree with nodes := tree.nodes ++ above ++ [(place, node)] }

def walk (tree : FileTree) (place : FilePlace) : List String → Document
  | [] =>
    match tree.at? place with
    | none => .missing
    | some .folder => .folder
    | some (.file content) => .bytes content
  | name :: rest =>
    match tree.at? place with
    | none => .missing
    | some (.file _) => .notFolder
    | some .folder =>
      if nameLimit < name.utf8ByteSize then .nameTooLong
      else if name = "" ∨ name = "." then walk tree place rest
      else if name = ".." then walk tree place.dropLast rest
      else walk tree (place ++ [name]) rest

/-- **What is found under a path.** -/
def find (tree : FileTree) (path : String) : Document :=
  if pathLimit < path.utf8ByteSize then .nameTooLong
  else if path.toList.head? = some '/' then tree.walk [] (names path)
  else tree.walk tree.home (names path)

end FileTree

end PlatformBridge.Rehearsal
