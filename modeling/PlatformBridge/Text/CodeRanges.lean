/-!
Classes of characters given as ranges of codes. A class keeps its ranges in three parts, by the
size of the code, so that a character is looked for among those of its own size only.
-/

namespace PlatformBridge.Text

/-- A class of characters: ranges of codes, both ends included. -/
structure CodeRanges where
  /-- The ranges below U+2000. -/
  low : List (Nat × Nat)
  /-- The ranges from U+2000 to U+FFFF. -/
  middle : List (Nat × Nat)
  /-- The ranges from U+10000 up. -/
  high : List (Nat × Nat)

namespace CodeRanges

/-- The ranges among which a code is looked for. -/
def near (ranges : CodeRanges) (code : Nat) : List (Nat × Nat) :=
  if code < 0x2000 then ranges.low else if code < 0x10000 then ranges.middle else ranges.high

def covers (ranges : CodeRanges) (c : Char) : Bool :=
  (ranges.near c.toNat).any fun range => range.1 ≤ c.toNat && c.toNat ≤ range.2

end CodeRanges

end PlatformBridge.Text
