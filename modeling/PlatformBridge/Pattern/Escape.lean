import PlatformBridge.Pattern.Flags

/-!
Escapes in a search pattern: what a backslash makes of the characters behind it. Signs stand for
themselves, and letters for controls, for characters by their code, for classes or for places.
-/

namespace PlatformBridge.Pattern

/-- What an escape stands for. -/
inductive Escape where
  | literal (literal : Literal)
  /-- The digits, blanks or letters, or what is none of them. -/
  | shorthand (inverted : Bool)
  /-- An end of the text. -/
  | textEdge
  /-- An end of a word, or what is none. -/
  | wordEdge
  deriving DecidableEq, Repr, Inhabited

namespace Escape

/-- The number of digits of a code that a letter announces. -/
def codeLength? (c : Char) : Option Nat :=
  match c with
  | 'x' => some 2
  | 'u' => some 4
  | 'U' => some 8
  | _ => none

def digit? (c : Char) : Option Nat :=
  let code := c.toNat
  if 48 ≤ code && code ≤ 57 then some (code - 48)
  else if 97 ≤ code && code ≤ 102 then some (code - 87)
  else if 65 ≤ code && code ≤ 70 then some (code - 55)
  else none

def isCode (n : Nat) : Bool := n < 0xd800 || (0xdfff < n && n < 0x110000)

/-- Reads a code of so many digits, behind the value of those before. -/
def readCode (flags : Flags) : (left value : Nat) → List Char → Option (Nat × List Char)
  | 0, value, text => if isCode value then some (value, text) else none
  | left + 1, value, text =>
    match flags.skip text with
    | [] => none
    | c :: rest =>
      match digit? c with
      | some d => readCode flags left (value * 16 + d) rest
      | none => none

def control? (c : Char) : Option Nat :=
  match c with
  | 'a' => some 7
  | 't' => some 9
  | 'n' => some 10
  | 'v' => some 11
  | 'f' => some 12
  | 'r' => some 13
  | _ => none

/-- What a character that announces no code stands for. Letters and digits that stand for nothing
are refused, and so is what is not ASCII. -/
def ofChar? (c : Char) : Option Escape :=
  match c with
  | 'd' | 's' | 'w' => some (shorthand false)
  | 'D' | 'S' | 'W' => some (shorthand true)
  | 'A' | 'z' => some textEdge
  | 'b' | 'B' | '<' | '>' => some wordEdge
  | _ =>
    match control? c with
    | some code => some (literal ⟨code, false⟩)
    | none => if c.isAlphanum || 127 < c.toNat then none else some (literal ⟨c.toNat, false⟩)

/-- **Reads what stands behind a backslash.** -/
def read (flags : Flags) : List Char → Option (Escape × List Char)
  | [] => none
  | c :: rest =>
    match codeLength? c with
    | some length =>
      (readCode flags length 0 rest).map fun (code, rest) => (literal ⟨code, c = 'x'⟩, rest)
    | none => (ofChar? c).map fun escape => (escape, rest)

end Escape

end PlatformBridge.Pattern
