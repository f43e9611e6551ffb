import PlatformBridge.Log.FieldPattern
import PlatformBridge.Log.Verbosity
import PlatformBridge.Text.Alphanumeric
import PlatformBridge.Text.Blank
import PlatformBridge.Text.Bytes

/-!
Directives of a log filter. A directive names a target, a span and a field, each of them or none,
and says how much is kept of the events that fit: `target[span{field}]=verbosity`. Events
stand in no span and their fields are not searched, so a directive that names a span or asks
something of a field's value is about no event.

The parts are found in the text without the blanks around it, and cut from the text as it was
given, at the same places: blanks behind a target belong to it, and blanks before one shift what
is cut.
-/

namespace PlatformBridge.Log

/-- A field that is asked for, and the pattern that its value has to match, if any. -/
structure FieldTest where
  name : String
  pattern : Option String
  deriving DecidableEq, Repr, Inhabited

/-- How much is kept of the events that fit. -/
structure Directive where
  target : Option String := none
  span : Option String := none
  field : Option FieldTest := none
  verbosity : Verbosity := .trace
  deriving DecidableEq, Repr, Inhabited

namespace Directive

/-- Why a text is no directive. -/
inductive Error where
  | malformed
  | verbosity
  | pattern (error : Pattern.Error)
  deriving DecidableEq, Repr, Inhabited

def Error.message : Error → String
  | malformed => "invalid filter directive"
  | verbosity =>
    "error parsing level filter: expected one of \"off\", \"error\", \"warn\", \"info\", "
      ++ "\"debug\", \"trace\", or a number 0-5"
  | pattern error => "invalid field filter: " ++ error.message

/-! ### Reading -/

/-- A character that a directive may start with, other than the bracket of a span. -/
def mayStart (c : Char) : Bool := Text.isAlphanumeric c || c = '-' || c = ':' || c = '_'

/-- The directive with the verbosity that a text spells; the empty text keeps everything. -/
def withVerbosity (d : Directive) (text : List Char) : Except Error Directive :=
  if text.isEmpty then .ok { d with verbosity := .trace }
  else
    match Verbosity.ofText? (String.ofList text) with
    | some verbosity => .ok { d with verbosity }
    | none => .error .verbosity

/-- The field that is asked for between braces. -/
def fieldTest (text : List Char) : Except Error FieldTest :=
  if text.isEmpty then .error .malformed
  else
    let name := String.ofList (text.takeWhile (· ≠ '='))
    match text.dropWhile (· ≠ '=') with
    | [] => .ok ⟨name, none⟩
    | _ :: rest =>
      let pattern := String.ofList (rest.takeWhile (· ≠ '='))
      match FieldPattern.check pattern with
      | .ok () => .ok ⟨name, some pattern⟩
      | .error error => .error (.pattern error)

/-- Reads what follows the brackets, from the given place on. -/
def readTail (given : List Char) (d : Directive) (place : Nat) :
    List Char → Except Error Directive
  | [] => .ok d
  | '=' :: _ => d.withVerbosity (Text.dropBytes (place + 1) given)
  | _ => .error .malformed

def readField (given : List Char) (d : Directive) (place : Nat) (text : List Char) :
    Except Error Directive :=
  let stop := place + Text.byteSize (text.takeWhile (· ≠ '\x7d'))
  match text.dropWhile (· ≠ '\x7d') with
  | [] => .error .malformed
  | _ :: rest => do
    let field ← fieldTest (Text.slice place stop given)
    match rest with
    | ']' :: tail => readTail given { d with field := some field } (stop + 2) tail
    | _ => .error .malformed

def readSpan (given : List Char) (d : Directive) (place : Nat) (text : List Char) :
    Except Error Directive :=
  let stop := place + Text.byteSize (text.takeWhile fun c => c ≠ ']' && c ≠ '\x7b')
  let name := String.ofList (Text.slice place stop given)
  match text.dropWhile fun c => c ≠ ']' && c ≠ '\x7b' with
  | [] => .error .malformed
  | ']' :: tail => readTail given { d with span := some name } (stop + 1) tail
  | _ :: rest =>
    let span := if name = "" then none else some name
    readField given { d with span } (stop + 1) rest

/-- Reads a directive that does not start with a span. A text that is all one word is a verbosity
if it spells one, else a target of which everything is kept. -/
def readTarget (given text : List Char) : Except Error Directive :=
  let stop := Text.byteSize (text.takeWhile fun c => c ≠ '=' && c ≠ '[')
  let target := String.ofList (Text.slice 0 stop given)
  match text.dropWhile fun c => c ≠ '=' && c ≠ '[' with
  | [] =>
    match Verbosity.ofText? (String.ofList given) with
    | some verbosity => .ok { verbosity }
    | none => .ok { target := some (String.ofList given) }
  | '=' :: _ =>
    withVerbosity { target := some target } (Text.dropBytes (stop + 1) given)
  | _ :: rest => readSpan given { target := some target } (stop + 1) rest

/-- **The directive that a text spells.** -/
def ofText (text : String) : Except Error Directive :=
  let given := text.toList
  match Text.trim given with
  | [] => .error .malformed
  | '[' :: rest => readSpan given {} 1 rest
  | first :: rest =>
    if mayStart first then readTarget given (first :: rest) else .error .malformed

/-! ### Events -/

/-- The name that stands for an event's words where fields are asked for. -/
def messageField : String := "message"

def hasField (event : Event) (name : String) : Bool :=
  name = messageField || event.allFields.any fun field => field.1 = name

/-- Whether the directive is about the event. -/
def applies (d : Directive) (event : Event) : Bool :=
  d.span.isNone &&
    (match d.target with
      | none => true
      | some own => own.toList.isPrefixOf event.target.toList) &&
    (match d.field with
      | none => true
      | some ⟨name, none⟩ => hasField event name
      | some ⟨_, some _⟩ => false)

/-- How closely the directive describes its targets: more than nothing if it names any. -/
def weight (d : Directive) : Nat :=
  match d.target with
  | none => 0
  | some own => own.utf8ByteSize + 1

/-- Whether a text comes before another, by the codes of their characters. -/
def precedes (a b : String) : Bool :=
  List.lex a.toList b.toList fun x y => x.toNat < y.toNat

/-- Whether a directive gives way to one that comes after it. The one with the longer target
decides, then the one that asks for a field, then the one whose field comes later in the alphabet,
and of two that say the same the later one. -/
def yieldsTo (a b : Directive) : Bool :=
  if a.weight ≠ b.weight then a.weight < b.weight
  else
    match a.field, b.field with
    | none, _ => true
    | some _, none => false
    | some x, some y => !precedes y.name x.name

end Directive

end PlatformBridge.Log
