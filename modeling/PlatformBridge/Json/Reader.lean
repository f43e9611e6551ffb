import PlatformBridge.Json.Cause
import PlatformBridge.Text.Bytes

/-!
Readers of JSON text. A reader takes what is left of the text and gives a value with what is left
after it, or a fault. A fault keeps the text that was still ahead when reading stopped, so that
its line and column can be told once the whole text is at hand (`Fault.locate`).
-/

namespace PlatformBridge.Json

/-- Why reading stopped, what was left then, and how many bytes of that are counted as read: none
for a fault that stands behind the last character read, one for a fault that names the next. -/
structure Fault where
  cause : Cause
  rest : List Char
  ahead : Nat
  deriving DecidableEq, Repr

/-- A reader of values of type `α` off the front of a text. -/
abbrev Reader (α : Type) : Type := List Char → Except Fault (α × List Char)

/-- A fault behind the last character read. -/
def here {α : Type} (cause : Cause) (rest : List Char) : Except Fault α := .error ⟨cause, rest, 0⟩

/-- A fault that names the next character. -/
def peek {α : Type} (cause : Cause) (rest : List Char) : Except Fault α := .error ⟨cause, rest, 1⟩

/-! ### Places -/

/-- The line and column behind the first `bytes` bytes of a text. -/
def place : List Char → (bytes line column : Nat) → Nat × Nat
  | [], _, line, column => (line, column)
  | c :: rest, bytes, line, column =>
    if bytes = 0 then (line, column)
    else if bytes < c.utf8Size then (line, column + bytes)
    else if c = '\n' then place rest (bytes - 1) (line + 1) 0
    else place rest (bytes - c.utf8Size) line (column + c.utf8Size)

/-- **Where a fault in a text is.** -/
def Fault.locate (text : List Char) (fault : Fault) : Error :=
  let (line, column) := place text (Text.byteSize text - Text.byteSize fault.rest + fault.ahead) 1 0
  ⟨fault.cause, line, column⟩

/-! ### Blanks and words -/

/-- The blanks between the tokens of a document. -/
def isSpace (c : Char) : Bool := c = ' ' || c = '\n' || c = '\t' || c = '\r'

def skipSpace (text : List Char) : List Char := text.dropWhile isSpace

@[simp] theorem skipSpace_nil : skipSpace [] = [] := rfl

theorem skipSpace_cons {c : Char} {text : List Char} (h : isSpace c = false) :
    skipSpace (c :: text) = c :: text := by
  simp [skipSpace, h]

theorem skipSpace_append {blanks text : List Char} (h : ∀ c ∈ blanks, isSpace c = true) :
    skipSpace (blanks ++ text) = skipSpace text := by
  induction blanks with
  | nil => rfl
  | cons c cs ih =>
    have hc : isSpace c = true := h c (by simp)
    have := ih fun x hx => h x (by simp [hx])
    simpa [skipSpace, List.dropWhile_cons, hc] using this

/-- Reads the rest of a word letter by letter. -/
def readWord : (word : List Char) → List Char → Except Fault (List Char)
  | [], text => .ok text
  | _ :: _, [] => here .endInValue []
  | w :: word, c :: text => if w = c then readWord word text else peek .expectedIdent (c :: text)

theorem readWord_append (word text : List Char) : readWord word (word ++ text) = .ok text := by
  induction word with
  | nil => rfl
  | cons w word ih => simp [readWord, ih]

end PlatformBridge.Json
