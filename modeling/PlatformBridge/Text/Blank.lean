/-!
Blank text. The blank characters are those with the Unicode property `White_Space`; a text is
blank if it holds no other.
-/

namespace PlatformBridge.Text

/-- The blank characters, in increasing order. -/
def blanks : List Char :=
  ['\u0009', '\u000a', '\u000b', '\u000c', '\u000d', ' ', '\u0085', '\u00a0', '\u1680',
    '\u2000', '\u2001', '\u2002', '\u2003', '\u2004', '\u2005', '\u2006', '\u2007', '\u2008',
    '\u2009', '\u200a', '\u2028', '\u2029', '\u202f', '\u205f', '\u3000']

/-- A character that leaves a text blank. -/
def isBlank (c : Char) : Bool := blanks.contains c

/-- A text with nothing but blanks in it; the empty text is one. -/
def blank (text : String) : Bool := text.toList.all isBlank

/-- A text without the blanks at both its ends. -/
def trim (text : List Char) : List Char :=
  ((text.dropWhile isBlank).reverse.dropWhile isBlank).reverse

theorem isBlank_iff {c : Char} : isBlank c = true ↔ c ∈ blanks := by simp [isBlank]

theorem blank_eq_false_iff {text : String} :
    blank text = false ↔ ∃ c ∈ text.toList, isBlank c = false := by
  simp [blank]

example : blanks.length = 25 := rfl

end PlatformBridge.Text
