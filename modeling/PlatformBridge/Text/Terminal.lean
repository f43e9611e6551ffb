/-!
Text meant for a terminal, and what is left of it where there is none. Control sequences start with
an escape character; a sequence may carry parameters, or a whole string of its own, such as the
title of a window. Stripping drops the sequences and the control characters other than line ends,
tabs and form feeds.
-/

namespace PlatformBridge.Text.Terminal

def escapeCharacter : Char := '\x1b'

/-- Where in a sequence a text is. -/
inductive State where
  /-- Outside of all sequences. -/
  | ground
  /-- Behind the escape character. -/
  | escape
  /-- Behind an escape character with marks. -/
  | marked
  /-- In the parameters of a sequence. -/
  | parameters
  /-- In a command to the operating system, such as a title. -/
  | command
  /-- At the start of a device string. -/
  | device
  /-- In the parameters of a device string. -/
  | deviceParameters
  /-- Behind the marks of a device string. -/
  | deviceMarked
  /-- In a string that is meant for a device or for nobody. -/
  | payload
  deriving DecidableEq, Repr, Inhabited

/-- A code that marks a sequence: the blank and the signs before the digits. -/
def isMark (code : Nat) : Bool := 0x20 ≤ code && code ≤ 0x2f

/-- A code of a parameter: digits and the signs behind them. -/
def isParameter (code : Nat) : Bool := 0x30 ≤ code && code ≤ 0x3f

/-- A code that ends a sequence: letters and the signs among them. -/
def isFinal (code : Nat) : Bool := 0x40 ≤ code && code ≤ 0x7e

/-- The byte that ends a string by itself. -/
def stringEnd : UInt8 := 0x9c

/-- The state behind a character that is no control of its own. -/
def State.advance (state : State) (c : Char) : State :=
  let code := c.toNat
  match state with
  | ground => ground
  | escape =>
    if isMark code then marked
    else if c = '[' then parameters
    else if c = ']' then command
    else if c = 'P' then device
    else if c = 'X' ∨ c = '^' ∨ c = '_' then payload
    else if isParameter code || isFinal code then ground
    else escape
  | marked => if isParameter code || isFinal code then ground else marked
  | parameters => if isFinal code then ground else parameters
  | command => if c = '\x07' then ground else command
  | device =>
    if isMark code then deviceMarked
    else if isParameter code then deviceParameters
    else if isFinal code then payload
    else device
  | deviceParameters =>
    if isMark code then deviceMarked
    else if isFinal code || (0x3c ≤ code && code ≤ 0x3f) then payload
    else deviceParameters
  | deviceMarked => if isParameter code || isFinal code then payload else deviceMarked
  | payload => if (String.utf8EncodeChar c).contains stringEnd then ground else payload

/-- The state behind a character. An escape character starts a sequence anywhere, and two controls
give up any sequence. -/
def State.next (state : State) (c : Char) : State :=
  if c = escapeCharacter then escape
  else if c = '\x18' ∨ c = '\x1a' then ground
  else state.advance c

/-- The control characters that are text. -/
def isLayout (c : Char) : Bool := c = '\t' || c = '\n' || c = '\x0c' || c = '\r'

/-- A character of a text outside of sequences. -/
def isText (c : Char) : Bool := 0x80 ≤ c.toNat || (0x20 ≤ c.toNat && c.toNat ≤ 0x7e) || isLayout c

/-- Whether a character shows in a state: text outside of sequences, and what is layout also in
the sequences that hold no strings. -/
def State.shows (state : State) (c : Char) : Bool :=
  match state with
  | ground => isText c
  | escape | marked | parameters => isLayout c
  | _ => false

/-- Strips a text from a state on. A run of text goes on up to the next character that is none. -/
def stripFrom (running : Bool) (state : State) : List Char → List Char
  | [] => []
  | c :: rest =>
    let behind := if 0x80 ≤ c.toNat then .ground else if running then state else state.next c
    if running && isText c then c :: stripFrom true behind rest
    else if !running && state.shows c then c :: stripFrom true behind rest
    else stripFrom false (state.next c) rest

/-- **A text without its control sequences.** -/
def strip (text : String) : String := String.ofList (stripFrom false .ground text.toList)

/-! ### Styles -/

/-- A text in the style with the codes, and back to no style behind it. -/
def styled (codes : List Nat) (text : String) : String :=
  let start := codes.map fun code => String.ofList [escapeCharacter, '['] ++ toString code ++ "m"
  String.join start ++ text ++ String.ofList [escapeCharacter] ++ "[0m"

/-- A text as an error's heading. -/
def alarming (text : String) : String := styled [1, 31] text

/-- A text as what is at fault. -/
def faulty (text : String) : String := styled [33] text

/-- A text as what is to be written just so. -/
def literal (text : String) : String := styled [1] text

end PlatformBridge.Text.Terminal
