import PlatformBridge.Json.Number
import PlatformBridge.Json.Value

/-!
Codecs: how values of a type are written into a document and read out of one. A codec reads a
value off the front of a text, blanks before it included; `Codec.decode` reads a whole text, which
may hold nothing else.
-/

namespace PlatformBridge.Json

/-- How values of a type stand in a document. -/
structure Codec (α : Type) where
  read : Reader α
  write : α → Value

namespace Codec

variable {α : Type}

/-- **Reads a whole text.** Only blanks may follow the value. -/
def decodeChars (codec : Codec α) (text : List Char) : Except Fault α :=
  match codec.read text with
  | .error fault => .error fault
  | .ok (value, rest) =>
    match skipSpace rest with
    | [] => .ok value
    | rest => peek .trailingCharacters rest

/-- Reads a whole text and tells the place of what is wrong with it. -/
def decode (codec : Codec α) (text : String) : Except Error α :=
  (codec.decodeChars text.toList).mapError (Fault.locate text.toList)

def compact (codec : Codec α) (value : α) : String := (codec.write value).compactText

def pretty (codec : Codec α) (value : α) : String := (codec.write value).prettyText

end Codec

/-! ### Values of another kind -/

/-- Reads a value that is not of the expected kind, so that it can be named. The text starts with
the value. -/
def refuse {α : Type} (expected : Expected) (text : List Char) : Except Fault α :=
  match text with
  | [] => peek .endInValue []
  | c :: rest =>
    if c = 'n' then do
      let rest ← readWord ['u', 'l', 'l'] rest
      here (.mismatch .null expected) rest
    else if c = 't' then do
      let rest ← readWord ['r', 'u', 'e'] rest
      here (.mismatch (.boolean true) expected) rest
    else if c = 'f' then do
      let rest ← readWord ['a', 'l', 's', 'e'] rest
      here (.mismatch (.boolean false) expected) rest
    else if c = '"' then do
      let (found, rest) ← readString rest
      here (.mismatch (.string found) expected) rest
    else if c = '[' then here (.mismatch .list expected) text
    else if c = '\x7b' then here (.mismatch .object expected) text
    else if startsNumeral c then do
      let (number, rest) ← readNumber text
      here (.mismatch number.found expected) rest
    else peek .expectedValue text

/-! ### Strings, truth values and words -/

def readText : Reader String := fun text =>
  match skipSpace text with
  | '"' :: rest => readString rest
  | text => refuse .string text

def readBoolean : Reader Bool := fun text =>
  match skipSpace text with
  | 't' :: rest => do return (true, ← readWord ['r', 'u', 'e'] rest)
  | 'f' :: rest => do return (false, ← readWord ['a', 'l', 's', 'e'] rest)
  | text => refuse .boolean text

def Number.word (number : Number) (rest : List Char) : Except Fault (UInt32 × List Char) :=
  match number with
  | .integer value =>
    if 0 ≤ value ∧ value < 0x100000000 then .ok (UInt32.ofNat value.toNat, rest)
    else here (.notAWord value) rest
  | .real _ => here (.mismatch number.found .word) rest

def readWord32 : Reader UInt32 := fun text =>
  match skipSpace text with
  | [] => peek .endInValue []
  | c :: rest =>
    if startsNumeral c then do
      let (number, rest) ← readNumber (c :: rest)
      number.word rest
    else refuse .word (c :: rest)

def readOptional : Reader (Option String) := fun text =>
  match skipSpace text with
  | 'n' :: rest => do return (none, ← readWord ['u', 'l', 'l'] rest)
  | text => do
    let (value, rest) ← readText text
    return (some value, rest)

def Codec.text : Codec String := ⟨readText, .string⟩

def Codec.boolean : Codec Bool := ⟨readBoolean, .boolean⟩

def Codec.word : Codec UInt32 := ⟨readWord32, fun n => .integer n.toNat⟩

def Codec.optional : Codec (Option String) := ⟨readOptional, fun
  | none => .null
  | some s => .string s⟩

/-! ### Choices -/

def readColon (text : List Char) : Except Fault (List Char) :=
  match skipSpace text with
  | ':' :: rest => .ok rest
  | [] => peek .endInObject []
  | text => peek .expectedColon text

/-- Reads `null`, the value that a choice written as an object carries. -/
def readNull (text : List Char) : Except Fault (List Char) :=
  match skipSpace text with
  | 'n' :: rest => readWord ['u', 'l', 'l'] rest
  | text => refuse .unit text

section Choice

variable {α : Type} (all : List α) (name : α → String)

/-- Reads the name of a choice behind its opening quote. -/
def readName : Reader α := fun text => do
  let (found, rest) ← readString text
  match all.find? fun a => name a = found with
  | some a => return (a, rest)
  | none => here (.unknownVariant found (all.map name)) rest

/-- Reads the object form of a choice behind its opening bracket. -/
def readNamedUnit : Reader α := fun text =>
  match skipSpace text with
  | [] => peek .endInObject []
  | c :: rest =>
    if c = '"' then do
      let (a, rest) ← readName all name rest
      let rest ← readColon rest
      let rest ← readNull rest
      match skipSpace rest with
      | '\x7d' :: rest => return (a, rest)
      | [] => here .endInObject []
      | rest => here .expectedValue rest
    else if c = '\x7d' then peek .expectedValue (c :: rest)
    else peek .keyNotString (c :: rest)

/-- Reads a choice: its name, or an object with the name as its only key and no value. -/
def readChoice : Reader α := fun text =>
  match skipSpace text with
  | [] => peek .endInValue []
  | c :: rest =>
    if c = '"' then readName all name rest
    else if c = '\x7b' then readNamedUnit all name rest
    else peek .expectedValue (c :: rest)

/-- A choice among named values, written by name. -/
def Codec.choice : Codec α := ⟨readChoice all name, fun a => .string (name a)⟩

end Choice

end PlatformBridge.Json
