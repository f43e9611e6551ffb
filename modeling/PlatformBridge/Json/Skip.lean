import PlatformBridge.Json.Number
import PlatformBridge.Json.Text

/-!
Passing over a value whose content does not matter. The value is checked for its form only, and
the open brackets are kept on a stack, so the depth of a value is not limited.
-/

namespace PlatformBridge.Json

/-- An open bracket. -/
inductive Bracket where
  | list
  | object
  deriving DecidableEq, Repr, Inhabited

namespace Bracket

/-- The bracket that closes it. -/
def close : Bracket → Char
  | list => ']'
  | object => '\x7d'

/-- The end of the text inside the bracket. -/
def atEnd : Bracket → Cause
  | list => .endInList
  | object => .endInObject

/-- Something that cannot follow a value inside the bracket. -/
def notNext : Bracket → Cause
  | list => .expectedListEnd
  | object => .expectedObjectEnd

end Bracket

/-- What is passed over next: a value, what may follow the opening of the innermost bracket, or
what may follow a value inside it. -/
inductive Turn where
  | value
  | first
  | next
  deriving DecidableEq, Repr

/-- Passes over a value that opens no bracket. -/
def skipScalar (c : Char) (text : List Char) : Except Fault (List Char) :=
  if c = 'n' then readWord ['u', 'l', 'l'] text
  else if c = 't' then readWord ['r', 'u', 'e'] text
  else if c = 'f' then readWord ['a', 'l', 's', 'e'] text
  else if c = '"' then skipBody 0 text
  else if startsNumeral c then do
    let (_, rest) ← readNumeral .invalidNumber (c :: text)
    return rest
  else peek .expectedValue (c :: text)

def skipKey (text : List Char) : Except Fault (List Char) :=
  match skipSpace text with
  | '"' :: text => do
    let text ← skipBody 0 text
    match skipSpace text with
    | ':' :: text => return text
    | [] => peek .endInObject []
    | text => peek .expectedColon text
  | [] => peek .endInObject []
  | text => peek .keyNotString text

/-- The key, if any, that stands before a value inside the bracket. -/
def enter (bracket : Bracket) (text : List Char) : Except Fault (List Char) :=
  match bracket with
  | .list => .ok text
  | .object => skipKey text

/-- Passes over what is left of a value inside the open brackets, the innermost first. Every other
step reads a character, so twice the length of the text is budget enough. -/
def skipOpen : (budget : Nat) → Turn → List Bracket → List Char → Except Fault (List Char)
  | 0, _, _, text => peek .endInValue text
  | _ + 1, .next, [], text => .ok text
  | _ + 1, .first, [], text => .ok text
  | budget + 1, .value, stack, text =>
    match skipSpace text with
    | [] => peek .endInValue []
    | c :: text =>
      if c = '[' then skipOpen budget .first (.list :: stack) text
      else if c = '\x7b' then skipOpen budget .first (.object :: stack) text
      else do
        let text ← skipScalar c text
        skipOpen budget .next stack text
  | budget + 1, .first, bracket :: stack, text =>
    match skipSpace text with
    | [] => peek bracket.atEnd []
    | c :: rest =>
      if c = bracket.close then skipOpen budget .next stack rest
      else do
        let text ← enter bracket (c :: rest)
        skipOpen budget .value (bracket :: stack) text
  | budget + 1, .next, bracket :: stack, text =>
    match skipSpace text with
    | [] => peek bracket.atEnd []
    | c :: rest =>
      if c = ',' then do
        let text ← enter bracket rest
        skipOpen budget .value (bracket :: stack) text
      else if c = bracket.close then skipOpen budget .next stack rest
      else peek bracket.notNext (c :: rest)

/-- **Passes over a value.** -/
def skipValue (text : List Char) : Except Fault (List Char) :=
  skipOpen (2 * text.length + 2) .value [] text

end PlatformBridge.Json
