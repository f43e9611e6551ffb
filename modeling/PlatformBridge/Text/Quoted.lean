import PlatformBridge.Text.Printable

/-!
Texts shown between quotes, as messages and log lines quote a string: the quote and the backslash
are escaped, the common controls have a letter, and a character that prints nothing of its own is
given by its code in hexadecimal digits.
-/

namespace PlatformBridge.Text

/-- The lower-case hexadecimal digits of a number, with no leading zero. -/
def hexDigits (n : Nat) : List Char := Nat.toDigits 16 n

def quotedChar (c : Char) : List Char :=
  match c with
  | '\u0000' => ['\\', '0']
  | '\t' => ['\\', 't']
  | '\r' => ['\\', 'r']
  | '\n' => ['\\', 'n']
  | '\\' => ['\\', '\\']
  | '"' => ['\\', '"']
  | _ =>
    if isPrintable c then [c] else ['\\', 'u', '\x7b'] ++ hexDigits c.toNat ++ ['\x7d']

/-- **A text between quotes.** -/
def quoted (text : String) : String :=
  String.ofList ('"' :: text.toList.flatMap quotedChar ++ ['"'])

end PlatformBridge.Text
