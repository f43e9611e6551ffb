import PlatformBridge.Json.Reader

/-!
Strings of a JSON document: how they are written, how they are read, and how they are passed over
where only their form matters. An escape of four hexadecimal digits gives one unit of UTF-16, and
a character outside the basic plane takes a pair of them.
-/

namespace PlatformBridge.Json

/-! ### Writing -/

def hexDigit (n : Nat) : Char := Nat.digitChar n

/-- One character between the quotes: the quote, the backslash and the controls are escaped. -/
def escapedChar (c : Char) : List Char :=
  if c = '"' then ['\\', '"']
  else if c = '\\' then ['\\', '\\']
  else if c = '\n' then ['\\', 'n']
  else if c = '\r' then ['\\', 'r']
  else if c = '\t' then ['\\', 't']
  else if c = '\u0008' then ['\\', 'b']
  else if c = '\u000c' then ['\\', 'f']
  else if c.toNat < 32 then
    ['\\', 'u', '0', '0', hexDigit (c.toNat / 16), hexDigit (c.toNat % 16)]
  else [c]

def quote (text : List Char) : List Char := '"' :: text.flatMap escapedChar ++ ['"']

/-! ### Escapes -/

def hexValue? (c : Char) : Option Nat :=
  if '0' ≤ c ∧ c ≤ '9' then some (c.toNat - 48)
  else if 'a' ≤ c ∧ c ≤ 'f' then some (c.toNat - 87)
  else if 'A' ≤ c ∧ c ≤ 'F' then some (c.toNat - 55)
  else none

/-- The unit that four hexadecimal digits at the front of the text spell. -/
def hexUnit? : List Char → Option Nat
  | a :: b :: c :: d :: _ => do
    let a ← hexValue? a
    let b ← hexValue? b
    let c ← hexValue? c
    let d ← hexValue? d
    return ((a * 16 + b) * 16 + c) * 16 + d
  | _ => none

/-- Reads four hexadecimal digits. The four bytes there are read before they are judged. -/
def hexUnit (text : List Char) : Except Fault Nat :=
  match hexUnit? text with
  | some unit => .ok unit
  | none =>
    if Text.byteSize text < 4 then here .endInString [] else .error ⟨.invalidEscape, text, 4⟩

def isHighSurrogate (unit : Nat) : Bool := 0xd800 ≤ unit && unit ≤ 0xdbff

def isLowSurrogate (unit : Nat) : Bool := 0xdc00 ≤ unit && unit ≤ 0xdfff

def pairedChar (high low : Nat) : Char :=
  Char.ofNat ((high - 0xd800) * 0x400 + (low - 0xdc00) + 0x10000)

/-- The character of an escape by digits, and how many characters of the text spell it. -/
def readUnicodeEscape (text : List Char) : Except Fault (Char × Nat) := do
  let high ← hexUnit text
  let rest := text.drop 4
  if isLowSurrogate high then here .loneSurrogate rest
  else if isHighSurrogate high then
    match rest with
    | [] => here .endInString []
    | '\\' :: [] => here .endInString []
    | '\\' :: 'u' :: digits =>
      let low ← hexUnit digits
      if isLowSurrogate low then return (pairedChar high low, 10)
      else here .loneSurrogate (digits.drop 4)
    | '\\' :: rest => peek .endOfHexEscape rest
    | rest => peek .endOfHexEscape rest
  else return (Char.ofNat high, 4)

def escapeLetter? : Char → Option Char
  | '"' => some '"'
  | '\\' => some '\\'
  | '/' => some '/'
  | 'b' => some '\u0008'
  | 'f' => some '\u000c'
  | 'n' => some '\n'
  | 'r' => some '\r'
  | 't' => some '\t'
  | _ => none

/-- The character of an escape, and how many characters behind the backslash spell it. -/
def readEscape : List Char → Except Fault (Char × Nat)
  | [] => here .endInString []
  | 'u' :: digits => do
    let (c, used) ← readUnicodeEscape digits
    return (c, used + 1)
  | letter :: rest =>
    match escapeLetter? letter with
    | some c => .ok (c, 1)
    | none => peek .invalidEscape (letter :: rest)

/-! ### Reading -/

/-- Reads up to the closing quote. The first argument counts the characters ahead that belong to
an escape already read. -/
def readBody : (escaped : Nat) → Reader (List Char)
  | _, [] => here .endInString []
  | n + 1, _ :: text => readBody n text
  | 0, c :: text =>
    if c = '"' then .ok ([], text)
    else if c = '\\' then do
      let (char, used) ← readEscape text
      let (chars, rest) ← readBody used text
      return (char :: chars, rest)
    else if c.toNat < 32 then peek .controlCharacter (c :: text)
    else do
      let (chars, rest) ← readBody 0 text
      return (c :: chars, rest)

def readString : Reader String := fun text => do
  let (chars, rest) ← readBody 0 text
  return (String.ofList chars, rest)

/-! ### Passing over -/

/-- The number of characters of an escape whose form alone matters: a unit need not be paired. -/
def skipEscape : List Char → Except Fault Nat
  | [] => here .endInString []
  | 'u' :: digits => do
    let _ ← hexUnit digits
    return 5
  | letter :: rest =>
    match escapeLetter? letter with
    | some _ => .ok 1
    | none => peek .invalidEscape (letter :: rest)

/-- Passes over a string behind its opening quote. A control character is not counted as read. -/
def skipBody : (escaped : Nat) → List Char → Except Fault (List Char)
  | _, [] => here .endInString []
  | n + 1, _ :: text => skipBody n text
  | 0, c :: text =>
    if c = '"' then .ok text
    else if c = '\\' then do
      let used ← skipEscape text
      skipBody used text
    else if c.toNat < 32 then here .controlCharacter (c :: text)
    else skipBody 0 text

end PlatformBridge.Json
