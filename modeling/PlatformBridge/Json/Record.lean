import PlatformBridge.Json.Codec
import PlatformBridge.Json.Skip

/-!
Records: values with named fields, each field with a codec of its own. A record is written as an
object with its fields in their order. It is read from an object with its members in any order,
where unknown members are passed over, or from a list with the fields in their order.

A record of which every field must be given is complete; the fields that a document leaves out of
any other keep what the base holds.
-/

namespace PlatformBridge.Json

/-- A field of a record. Reading it gives the change that puts what was read into a record. -/
structure Field (ρ : Type) where
  key : String
  read : Reader (ρ → ρ)
  write : ρ → Value

/-- The field that `get` and `set` look after, with the codec of its type. -/
def Field.of {ρ α : Type} (key : String) (codec : Codec α) (get : ρ → α) (set : α → ρ → ρ) :
    Field ρ :=
  ⟨key, fun text => (codec.read text).map fun (value, rest) => (set value, rest),
    fun record => codec.write (get record)⟩

/-- A record type: its name, its fields in their order, and what it starts from. -/
structure Schema (ρ : Type) where
  name : String
  base : ρ
  complete : Bool
  fields : List (Field ρ)

namespace Schema

variable {ρ : Type} (schema : Schema ρ)

def field? (key : String) : Option (Field ρ) := schema.fields.find? fun field => field.key = key

/-- The first field that a complete record lacks. -/
def missing? (seen : List String) : Option String :=
  if schema.complete then (schema.fields.find? fun field => !seen.contains field.key).map Field.key
  else none

/-! ### From an object -/

/-- What is left behind the closing bracket, if it is next. -/
def behindClose (close : Char) (text : List Char) : List Char :=
  match skipSpace text with
  | c :: rest => if c = close then rest else c :: rest
  | [] => []

/-- Reads the next key, or none at the closing bracket, which is left unread. -/
def readKey (first : Bool) : Reader (Option String) := fun text =>
  match skipSpace text with
  | [] => peek .endInObject []
  | c :: rest =>
    if c = '\x7d' then .ok (none, c :: rest)
    else if first then
      if c = '"' then do
        let (key, rest) ← readString rest
        return (some key, rest)
      else peek .keyNotString (c :: rest)
    else if c = ',' then
      match skipSpace rest with
      | [] => peek .endInValue []
      | c :: rest =>
        if c = '"' then do
          let (key, rest) ← readString rest
          return (some key, rest)
        else if c = '\x7d' then peek .trailingComma (c :: rest)
        else peek .keyNotString (c :: rest)
    else peek .expectedObjectEnd (c :: rest)

/-- Reads the members that are left, into a record that holds those read so far. A member takes
more than one character, so the length of the text is budget enough. -/
def readMembers : (budget : Nat) → (first : Bool) → (seen : List String) → ρ → Reader ρ
  | 0, _, _, _, text => peek .endInObject text
  | budget + 1, first, seen, record, text => do
    let (key, text) ← readKey first text
    match key with
    | none =>
      match schema.missing? seen with
      | some key => here (.missingField key) (behindClose '\x7d' text)
      | none => return (record, behindClose '\x7d' text)
    | some key =>
      match schema.field? key with
      | none =>
        let text ← readColon text
        let text ← skipValue text
        readMembers budget false seen record text
      | some field =>
        if seen.contains key then here (.duplicateField key) (behindClose '\x7d' text)
        else
          let text ← readColon text
          let (change, text) ← field.read text
          readMembers budget false (key :: seen) (change record) text

/-! ### From a list -/

/-- Whether another element follows; the text then starts with it. At the closing bracket, which
is left unread, none does. -/
def readNext (first : Bool) : Reader Bool := fun text =>
  match skipSpace text with
  | [] => peek .endInList []
  | c :: rest =>
    if c = ']' then .ok (false, c :: rest)
    else if first then .ok (true, c :: rest)
    else if c = ',' then
      match skipSpace rest with
      | [] => peek .endInValue []
      | c :: rest =>
        if c = ']' then peek .trailingComma (c :: rest) else .ok (true, c :: rest)
    else peek .expectedListEnd (c :: rest)

/-- Reads the closing bracket behind the last field. -/
def readListEnd (text : List Char) : Except Fault (List Char) :=
  match skipSpace text with
  | [] => peek .endInList []
  | c :: rest =>
    if c = ']' then .ok rest
    else if c = ',' then
      match skipSpace rest with
      | ']' :: rest => peek .trailingComma (']' :: rest)
      | rest => peek .trailingCharacters rest
    else peek .trailingCharacters (c :: rest)

/-- Reads the fields that are left, after `present` of them. -/
def readElements : List (Field ρ) → (present : Nat) → ρ → Reader ρ
  | [], _, record, text => do return (record, ← readListEnd text)
  | field :: fields, present, record, text => do
    let (more, text) ← readNext (present == 0) text
    if more then
      let (change, text) ← field.read text
      readElements fields (present + 1) (change record) text
    else if schema.complete then
      here (.tooFewElements present schema.name schema.fields.length) (behindClose ']' text)
    else return (record, behindClose ']' text)

/-! ### Both -/

def read : Reader ρ := fun text =>
  match skipSpace text with
  | [] => peek .endInValue []
  | c :: rest =>
    if c = '\x7b' then schema.readMembers (rest.length + 1) true [] schema.base rest
    else if c = '[' then schema.readElements schema.fields 0 schema.base rest
    else refuse (.record schema.name) (c :: rest)

def write (record : ρ) : Value := .object (schema.fields.map fun f => (f.key, f.write record))

def codec : Codec ρ := ⟨schema.read, schema.write⟩

end Schema

end PlatformBridge.Json
