import PlatformBridge.Pattern.Escape
import PlatformBridge.Pattern.Nesting
import PlatformBridge.Text.Alphanumeric

/-!
Which texts are search patterns. A text is read step by step with what is open around it: groups,
with the flags to come back to, and classes, which may stand in each other. Each step reads a
character at least. A pattern may not nest too deep, and the ends of words that it looks for have
to be those of ASCII words.
-/

namespace PlatformBridge.Pattern

/-- Why a text is no pattern that can be used. -/
inductive Error where
  | malformed
  /-- It asks for the ends of words of all scripts. -/
  | wordEdges
  deriving DecidableEq, Repr, Inhabited

def Error.message : Error → String
  | malformed => "error building NFA"
  | wordEdges =>
    "unsupported regex feature for DFAs: cannot build DFAs for regexes with Unicode word "
      ++ "boundaries; switch to ASCII word boundaries, or heuristically enable Unicode word "
      ++ "boundaries or use a different regex engine"

/-- How far a pattern is read. -/
structure State where
  flags : Flags := {}
  /-- The choice that is open. -/
  choice : Choice := {}
  /-- The choices around it, each with the flags to come back to. -/
  outer : List (Choice × Flags) := []
  /-- The classes that are open, the innermost first. -/
  classes : List Class := []
  /-- The names of groups. -/
  names : List (List Char) := []
  /-- Whether the ends of words of all scripts were asked for. -/
  wordEdges : Bool := false
  deriving DecidableEq, Repr, Inhabited

/-! ### Classes -/

/-- The names of the classes of ASCII characters. -/
def classNames : List String :=
  ["alnum", "alpha", "ascii", "blank", "cntrl", "digit", "graph", "lower", "print", "punct",
    "space", "upper", "word", "xdigit"]

/-- Reads a named class behind its bracket, and whether what is not in it is meant. -/
def readNamed? (text : List Char) : Option (Bool × List Char) :=
  let (inverted, text) := match text with
    | ':' :: '^' :: text => (true, text)
    | ':' :: text => (false, text)
    | _ => (false, [])
  let name := String.ofList (text.takeWhile (· ≠ ':'))
  match text.dropWhile (· ≠ ':') with
  | ':' :: ']' :: rest => if classNames.contains name then some (inverted, rest) else none
  | _ => none

/-- Reads a character of a class, escaped or not. -/
def readMember (flags : Flags) : List Char → Option (Escape × List Char)
  | [] => none
  | c :: rest =>
    if c = '\\' then Escape.read flags rest else some (.literal ⟨c.toNat, false⟩, rest)

/-- Whether an escape may stand in a class by itself. -/
def allowsAlone (flags : Flags) : Escape → Bool
  | .literal literal => flags.allowsMember literal
  | .shorthand inverted => flags.allowsShorthand inverted
  | .textEdge | .wordEdge => false

/-- Whether a class may hold the characters from one to another. -/
def allowsRange (flags : Flags) : (first last : Escape) → Bool
  | .literal first, .literal last =>
    first.code ≤ last.code && flags.allowsMember first && flags.allowsMember last
  | _, _ => false

/-- Reads a character or a range of a class. A dash before the closing bracket or before another
dash makes no range. -/
def readRange (flags : Flags) (text : List Char) : Option (List Char) := do
  let (first, rest) ← readMember flags text
  let rest := flags.skip rest
  match rest with
  | [] => none
  | '-' :: behind =>
    if flags.ahead? behind = some ']' ∨ flags.ahead? behind = some '-' then
      if allowsAlone flags first then some rest else none
    else
      let (last, rest) ← readMember flags (flags.skip behind)
      if allowsRange flags first last then some rest else none
  | _ => if allowsAlone flags first then some rest else none

namespace State

def item (s : State) (depth : Nat) : State := { s with choice := s.choice.add (.item depth) }

def closeClass (s : State) (inner : Class) : List Class → State
  | [] => { s with classes := [] }.item inner.depth
  | parent :: outer => { s with classes := parent.add inner.depth :: outer }

/-- Reads what a class goes on with. -/
def stepBody (s : State) (set : Class) (outer : List Class) (c : Char) (rest : List Char) :
    Option (State × List Char) :=
  let goOn (set : Class) (rest : List Char) := some ({ s with classes := set :: outer }, rest)
  match c, rest with
  | '[', _ =>
    match readNamed? rest with
    | some (inverted, rest) => if s.flags.allowsNamed inverted then goOn (set.add 0) rest else none
    | none => some ({ s with classes := {} :: { set with stage := .body } :: outer }, rest)
  | ']', _ => some (s.closeClass set outer, rest)
  | '&', '&' :: rest => goOn set.operate rest
  | '-', '-' :: rest => goOn set.operate rest
  | '~', '~' :: rest => goOn set.operate rest
  | _, _ => (readRange s.flags (c :: rest)).bind (goOn (set.add 0))

/-- Reads a step inside the innermost class. At its start a caret inverts it; then dashes, and a
closing bracket before all members, are members. -/
def stepClass (s : State) (set : Class) (outer : List Class) (c : Char) (rest : List Char) :
    Option (State × List Char) :=
  let allowed := s.flags.allowsMember ⟨c.toNat, false⟩
  if set.stage = .start ∧ c = '^' then
    if s.flags.allowsOthers then
      some ({ s with classes := { set with stage := .head } :: outer }, rest)
    else none
  else if set.stage ≠ .body ∧ c = '-' then
    if allowed then
      some ({ s with classes := ⟨.head, none, 0 :: set.members⟩ :: outer }, rest)
    else none
  else if set.stage ≠ .body ∧ c = ']' ∧ set.members = [] then
    if allowed then some ({ s with classes := set.add 0 :: outer }, rest) else none
  else s.stepBody set outer c rest

/-! ### Groups -/

/-- The state inside a new group with the flags. -/
def enter (s : State) (flags : Flags) : State :=
  { s with flags, choice := {}, outer := (s.choice, s.flags) :: s.outer }

def isName : List Char → Bool
  | [] => false
  | first :: rest =>
    (first = '_' || Text.isAlphabetic first) &&
      rest.all fun c => c = '_' || c = '.' || c = '[' || c = ']' || Text.isAlphanumeric c

/-- Enters a group with a name, which no other group may have. -/
def openNamed (s : State) (text : List Char) : Option (State × List Char) :=
  let name := text.takeWhile (· ≠ '>')
  match text.dropWhile (· ≠ '>') with
  | [] => none
  | _ :: rest =>
    if isName name && !s.names.contains name then
      some ({ s with names := name :: s.names }.enter s.flags, rest)
    else none

/-- Changes the flags for a group of its own or for the rest of the group at hand. -/
def openFlags (s : State) (text : List Char) : Option (State × List Char) :=
  let letters := text.takeWhile fun c => c ≠ ':' && c ≠ ')'
  let flags := s.flags.apply true letters
  if Flags.spells letters then
    match text.dropWhile fun c => c ≠ ':' && c ≠ ')' with
    | [] => none
    | ')' :: rest =>
      if letters.isEmpty then none
      else some ({ s with flags, choice := s.choice.add .flags }, rest)
    | _ :: rest => some (s.enter flags, rest)
  else none

/-- Reads what stands behind an opening parenthesis. -/
def openGroup (s : State) (text : List Char) : Option (State × List Char) :=
  match text with
  | '?' :: 'P' :: '<' :: rest => s.openNamed rest
  | '?' :: '<' :: rest => s.openNamed rest
  | '?' :: rest => s.openFlags rest
  | rest => some (s.enter s.flags, rest)

def closeGroup (s : State) : Option State :=
  match s.outer with
  | [] => none
  | (choice, flags) :: outer => some ({ s with flags, choice, outer }.item (s.choice.depth + 1))

/-! ### Steps -/

/-- The state behind an escape outside of classes. -/
def escape (s : State) : Escape → Option State
  | .literal literal => if s.flags.allowsLiteral literal then some (s.item 0) else none
  | .shorthand inverted => if s.flags.allowsShorthand inverted then some (s.item 0) else none
  | .textEdge => some (s.item 0)
  | .wordEdge => some ({ s with wordEdges := s.wordEdges || s.flags.unicode }.item 0)

/-- What is left behind a question mark, which makes a repetition take as little as it can. -/
def behindLazy : List Char → List Char
  | '?' :: rest => rest
  | rest => rest

/-- Reads a step outside of classes. What is repeated a number of times would end at a closing
brace, and a pattern holds none. -/
def stepOutside (s : State) (c : Char) (rest : List Char) : Option (State × List Char) :=
  match c with
  | '(' => s.openGroup (s.flags.skip rest)
  | ')' => s.closeGroup.map fun s => (s, rest)
  | '|' => some ({ s with choice := s.choice.branch }, rest)
  | '[' => some ({ s with classes := [{}] }, rest)
  | '*' | '+' | '?' =>
    s.choice.repeated?.map fun choice => ({ s with choice }, behindLazy rest)
  | '\x7b' => none
  | '\\' => do
    let (escape, rest) ← Escape.read s.flags rest
    return (← s.escape escape, rest)
  | '.' => if s.flags.allowsOthers then some (s.item 0, rest) else none
  | '^' | '$' => some (s.item 0, rest)
  | _ => (s.escape (.literal ⟨c.toNat, false⟩)).map fun s => (s, rest)

def step (s : State) (c : Char) (rest : List Char) : Option (State × List Char) :=
  match s.classes with
  | [] => s.stepOutside c rest
  | set :: outer => s.stepClass set outer c rest

/-- Reads to the end of the text. Each step reads a character, so a budget beyond the length of the
text is not used up. -/
def run : (budget : Nat) → State → List Char → Option State
  | 0, _, _ => none
  | budget + 1, s, text =>
    match s.flags.skip text with
    | [] => some s
    | c :: rest => (s.step c rest).bind fun (s, rest) => run budget s rest

/-- Whether nothing is open and nothing was nested too deep. -/
def isDone (s : State) : Bool :=
  s.outer.isEmpty && s.classes.isEmpty && s.choice.depth ≤ 250

end State

/-- **Whether a text is a pattern that can be used,** and why not. -/
def check (text : List Char) : Except Error Unit :=
  match State.run (text.length + 1) {} text with
  | none => .error .malformed
  | some s =>
    if !s.isDone then .error .malformed
    else if s.wordEdges then .error .wordEdges
    else .ok ()

def isUsable (text : String) : Bool :=
  match check text.toList with
  | .ok () => true
  | .error _ => false

example : isUsable "a|b*" ∧ isUsable "[]x]" ∧ isUsable "[A-[]" ∧ isUsable "(?x)#(" := by decide
example : ¬ isUsable "*" ∧ ¬ isUsable "(a" ∧ ¬ isUsable "a)" ∧ ¬ isUsable "[z-a]" := by decide
example : ¬ isUsable "\\d" ∧ isUsable "(?-u)\\d" ∧ ¬ isUsable "(?-u)\\D" := by decide

end PlatformBridge.Pattern
