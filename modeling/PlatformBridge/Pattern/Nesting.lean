/-!
How deep a search pattern is nested. Groups, classes and repetitions are one deeper than what they
hold, and so is what joins several parts: a sequence, a choice, the members of a class. A single
part is no deeper for being joined.
-/

namespace PlatformBridge.Pattern

/-- The depth of parts that are joined, by their own depths. -/
def joined : List Nat → Nat
  | [] => 0
  | [depth] => depth
  | depths => depths.foldr Nat.max 0 + 1

/-- A part of a sequence: a change of flags, or an item with its depth. -/
inductive Part where
  | flags
  | item (depth : Nat)
  deriving DecidableEq, Repr, Inhabited

def Part.depth : Part → Nat
  | flags => 0
  | item depth => depth

/-- A choice as far as it is read: the depths of the branches that are done, and the parts of the
branch that is not, the last first. -/
structure Choice where
  branches : List Nat := []
  parts : List Part := []
  deriving DecidableEq, Repr, Inhabited

namespace Choice

def add (choice : Choice) (part : Part) : Choice :=
  { choice with parts := part :: choice.parts }

/-- The choice with its branch done. -/
def branch (choice : Choice) : Choice :=
  ⟨joined (choice.parts.map Part.depth) :: choice.branches, []⟩

/-- The choice with its last item repeated, if it has one. -/
def repeated? (choice : Choice) : Option Choice :=
  match choice.parts with
  | .item depth :: parts => some { choice with parts := .item (depth + 1) :: parts }
  | _ => none

def depth (choice : Choice) : Nat := joined choice.branch.branches

end Choice

/-- Where in a class a text is: where it may be inverted, where dashes and a bracket are members,
or behind that. -/
inductive Stage where
  | start
  | head
  | body
  deriving DecidableEq, Repr, Inhabited

/-- A class as far as it is read: the depth of what stands before the last operator, and the depths
of the members behind it. -/
structure Class where
  stage : Stage := .start
  left : Option Nat := none
  members : List Nat := []
  deriving DecidableEq, Repr, Inhabited

namespace Class

def add (set : Class) (depth : Nat) : Class :=
  { set with stage := .body, members := depth :: set.members }

def content (set : Class) : Nat :=
  match set.left with
  | none => joined set.members
  | some left => Nat.max left (joined set.members) + 1

/-- The class behind an operator. -/
def operate (set : Class) : Class := ⟨.body, some set.content, []⟩

def depth (set : Class) : Nat := set.content + 1

end Class

end PlatformBridge.Pattern
