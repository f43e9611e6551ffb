import PlatformBridge.Json.Text

/-!
JSON documents as they are written: in one line without blanks, or over several lines with two
blanks for each level.
-/

namespace PlatformBridge.Json

/-- A document to be written. The members of an object keep their order. -/
inductive Value where
  | null
  | boolean (value : Bool)
  | integer (value : Int)
  | string (value : String)
  | list (items : List Value)
  | object (members : List (String × Value))

namespace Value

def digits (n : Nat) : List Char := Nat.toDigits 10 n

def integerText (n : Int) : List Char := if n < 0 then '-' :: digits n.natAbs else digits n.natAbs

def booleanText (b : Bool) : List Char :=
  if b then ['t', 'r', 'u', 'e'] else ['f', 'a', 'l', 's', 'e']

mutual

def compact : Value → List Char
  | null => ['n', 'u', 'l', 'l']
  | boolean b => booleanText b
  | integer n => integerText n
  | string s => quote s.toList
  | list items => '[' :: compactItems items ++ [']']
  | object members => '\x7b' :: compactMembers members ++ ['\x7d']

def compactItems : List Value → List Char
  | [] => []
  | [item] => compact item
  | item :: items => compact item ++ ',' :: compactItems items

def compactMembers : List (String × Value) → List Char
  | [] => []
  | [(key, value)] => quote key.toList ++ ':' :: compact value
  | (key, value) :: members =>
    quote key.toList ++ ':' :: compact value ++ ',' :: compactMembers members

end

def newline (level : Nat) : List Char := '\n' :: List.replicate (2 * level) ' '

mutual

/-- A document over several lines; `level` is the level of the line it starts on. -/
def prettyAt (level : Nat) : Value → List Char
  | null => ['n', 'u', 'l', 'l']
  | boolean b => booleanText b
  | integer n => integerText n
  | string s => quote s.toList
  | list [] => ['[', ']']
  | list items => '[' :: prettyItems (level + 1) items ++ newline level ++ [']']
  | object [] => ['\x7b', '\x7d']
  | object members => '\x7b' :: prettyMembers (level + 1) members ++ newline level ++ ['\x7d']

def prettyItems (level : Nat) : List Value → List Char
  | [] => []
  | [item] => newline level ++ prettyAt level item
  | item :: items => newline level ++ prettyAt level item ++ ',' :: prettyItems level items

def prettyMembers (level : Nat) : List (String × Value) → List Char
  | [] => []
  | [(key, value)] => newline level ++ quote key.toList ++ [':', ' '] ++ prettyAt level value
  | (key, value) :: members =>
    newline level ++ quote key.toList ++ [':', ' '] ++ prettyAt level value
      ++ ',' :: prettyMembers level members

end

/-- **A document in one line.** -/
def compactText (v : Value) : String := String.ofList v.compact

/-- **A document over several lines.** -/
def prettyText (v : Value) : String := String.ofList (v.prettyAt 0)

end Value

end PlatformBridge.Json
