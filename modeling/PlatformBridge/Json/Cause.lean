import PlatformBridge.Text.Quoted

/-!
What can be wrong with a JSON document, and how it is said. A cause is a fact about the text; an
error is a cause with the line and column at which reading stopped.
-/

namespace PlatformBridge.Json

/-- What stood where something else was expected. -/
inductive Found where
  | null
  | boolean (value : Bool)
  | integer (value : Int)
  | real (text : String)
  | string (value : String)
  | list
  | object
  deriving DecidableEq, Repr, Inhabited

/-- What was expected. -/
inductive Expected where
  | string
  | boolean
  | word
  | unit
  | record (name : String)
  deriving DecidableEq, Repr, Inhabited

/-- Why a document cannot be read. -/
inductive Cause where
  | endInValue
  | endInString
  | endInList
  | endInObject
  | expectedIdent
  | expectedValue
  | expectedColon
  | expectedListEnd
  | expectedObjectEnd
  | keyNotString
  | trailingComma
  | trailingCharacters
  | invalidNumber
  | numberOutOfRange
  | invalidEscape
  | loneSurrogate
  | endOfHexEscape
  | controlCharacter
  | mismatch (found : Found) (expected : Expected)
  | notAWord (value : Int)
  | unknownVariant (name : String) (known : List String)
  | duplicateField (key : String)
  | missingField (key : String)
  | tooFewElements (present : Nat) (record : String) (fields : Nat)
  deriving DecidableEq, Repr, Inhabited

def Found.message : Found → String
  | null => "null"
  | boolean value => s!"boolean `{value}`"
  | integer value => s!"integer `{value}`"
  | real text => s!"floating point `{text}`"
  | string value => "string " ++ Text.quoted value
  | list => "sequence"
  | object => "map"

def Expected.message : Expected → String
  | string => "a string"
  | boolean => "a boolean"
  | word => "u32"
  | unit => "unit"
  | record name => "struct " ++ name

def Cause.message : Cause → String
  | endInValue => "EOF while parsing a value"
  | endInString => "EOF while parsing a string"
  | endInList => "EOF while parsing a list"
  | endInObject => "EOF while parsing an object"
  | expectedIdent => "expected ident"
  | expectedValue => "expected value"
  | expectedColon => "expected `:`"
  | expectedListEnd => "expected `,` or `]`"
  | expectedObjectEnd => "expected `,` or `\x7d`"
  | keyNotString => "key must be a string"
  | trailingComma => "trailing comma"
  | trailingCharacters => "trailing characters"
  | invalidNumber => "invalid number"
  | numberOutOfRange => "number out of range"
  | invalidEscape => "invalid escape"
  | loneSurrogate => "lone leading surrogate in hex escape"
  | endOfHexEscape => "unexpected end of hex escape"
  | controlCharacter => "control character (\\u0000-\\u001F) found while parsing a string"
  | mismatch found expected => s!"invalid type: {found.message}, expected {expected.message}"
  | notAWord value => s!"invalid value: integer `{value}`, expected {Expected.word.message}"
  | unknownVariant name known =>
    let listed := ", ".intercalate (known.map fun variant => "`" ++ variant ++ "`")
    s!"unknown variant `{name}`, expected one of {listed}"
  | duplicateField key => s!"duplicate field `{key}`"
  | missingField key => s!"missing field `{key}`"
  | tooFewElements present record fields =>
    s!"invalid length {present}, expected struct {record} with {fields} elements"

/-- A cause and where reading stopped: lines count from one, columns in bytes from the start of
the line. -/
structure Error where
  cause : Cause
  line : Nat
  column : Nat
  deriving DecidableEq, Repr, Inhabited

def Error.message (e : Error) : String :=
  s!"{e.cause.message} at line {e.line} column {e.column}"

end PlatformBridge.Json
