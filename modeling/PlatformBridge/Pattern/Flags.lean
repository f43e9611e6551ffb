import PlatformBridge.Text.Blank

/-!
Flags of a search pattern, which a pattern may change as it goes. Three of them bear on which
patterns there are: whether letters match in any case, whether the pattern is about characters or
about bytes, and whether blanks and comments in it mean nothing.

There are no tables of the letters, digits and cases of all scripts at hand. So a pattern about
characters may not match letters in any case and may not name classes such as the digits, and a
pattern about bytes may match ASCII only.
-/

namespace PlatformBridge.Pattern

/-- The flags in force. -/
structure Flags where
  /-- Letters match in any case. -/
  anyCase : Bool := false
  /-- The pattern is about characters, not bytes. -/
  unicode : Bool := true
  /-- Blanks and comments mean nothing. -/
  spaced : Bool := false
  deriving DecidableEq, Repr, Inhabited

/-- What is left behind blanks and comments. A comment goes from a hash to the end of the line. -/
def skipSpace : (comment : Bool) → List Char → List Char
  | _, [] => []
  | true, c :: rest => skipSpace (c ≠ '\n') rest
  | false, c :: rest =>
    if c = '#' then skipSpace true rest
    else if Text.isBlank c then skipSpace false rest
    else c :: rest

/-- A literal character by its code; whether the code was given as a byte. -/
structure Literal where
  code : Nat
  isByte : Bool := false
  deriving DecidableEq, Repr, Inhabited

namespace Flags

def letters : List Char := ['i', 'm', 's', 'U', 'u', 'R', 'x']

/-- Whether a text spells flags: letters and a minus sign, each at most once, and the sign not at
the end. -/
def spells (text : List Char) : Bool :=
  (text.all fun c => (c = '-' || letters.contains c) && text.count c = 1)
    && text.getLast? ≠ some '-'

def set (flags : Flags) (letter : Char) (value : Bool) : Flags :=
  match letter with
  | 'i' => { flags with anyCase := value }
  | 'u' => { flags with unicode := value }
  | 'x' => { flags with spaced := value }
  | _ => flags

/-- The flags that a text leads to: it sets those before the minus sign and clears those behind. -/
def apply (flags : Flags) (value : Bool) : List Char → Flags
  | [] => flags
  | c :: rest => if c = '-' then apply flags false rest else apply (flags.set c value) value rest

/-- What is left behind blanks and comments, if they mean nothing. -/
def skip (flags : Flags) (text : List Char) : List Char :=
  if flags.spaced then skipSpace false text else text

/-- The character that a class is looked ahead to, behind blanks and the start of a comment. -/
def ahead? (flags : Flags) (text : List Char) : Option Char :=
  if flags.spaced then
    match text.dropWhile Text.isBlank with
    | '#' :: rest => (rest.dropWhile Text.isBlank).head?
    | rest => rest.head?
  else text.head?

/-- Whether a literal may stand in a pattern: not in any case among characters, and not as a byte
beyond ASCII among bytes. -/
def allowsLiteral (flags : Flags) (literal : Literal) : Bool :=
  if flags.unicode then !flags.anyCase else !(literal.isByte && 127 < literal.code)

/-- Whether a literal may stand in a class. -/
def allowsMember (flags : Flags) (literal : Literal) : Bool :=
  if flags.unicode then !flags.anyCase else literal.code ≤ 127

/-- Whether a named class of ASCII characters, or what is not in it, may stand in a class. -/
def allowsNamed (flags : Flags) (inverted : Bool) : Bool :=
  if flags.unicode then !flags.anyCase else !inverted

/-- Whether the digits, blanks or letters, or what is none of them, may be asked for by letter. -/
def allowsShorthand (flags : Flags) (inverted : Bool) : Bool := !flags.unicode && !inverted

/-- Whether a class may be inverted, or any character be asked for. -/
def allowsOthers (flags : Flags) : Bool := flags.unicode

end Flags

end PlatformBridge.Pattern
