/-!
Texts measured in bytes. A character takes one to four bytes, and a text can be cut by a count of
bytes: a cut that falls inside a character is made behind it.
-/

namespace PlatformBridge.Text

/-- The number of bytes of a text. -/
def byteSize : List Char → Nat
  | [] => 0
  | c :: rest => c.utf8Size + byteSize rest

def dropBytes : Nat → List Char → List Char
  | _, [] => []
  | bytes, c :: rest => if bytes = 0 then c :: rest else dropBytes (bytes - c.utf8Size) rest

def takeBytes : Nat → List Char → List Char
  | _, [] => []
  | bytes, c :: rest => if bytes = 0 then [] else c :: takeBytes (bytes - c.utf8Size) rest

/-- The bytes of a text from one place up to another. -/
def slice (start stop : Nat) (text : List Char) : List Char :=
  takeBytes (stop - start) (dropBytes start text)

end PlatformBridge.Text
