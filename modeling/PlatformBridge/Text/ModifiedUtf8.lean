/-!
Texts of a Java virtual machine. Its strings are sequences of 16-bit units, and it hands them out
as modified UTF-8: the zero unit takes two bytes, and a character outside the basic plane is
written as its two surrogates, three bytes each. Bytes that are no such text are read as plain
UTF-8 with a replacement for whatever is broken.
-/

namespace PlatformBridge.Text

/-! ### Units -/

def charUnits (c : Char) : List Nat :=
  if c.toNat < 0x10000 then [c.toNat]
  else [0xd800 + (c.toNat - 0x10000) / 0x400, 0xdc00 + (c.toNat - 0x10000) % 0x400]

def units (text : String) : List Nat := text.toList.flatMap charUnits

def unitBytes (unit : Nat) : List UInt8 :=
  if unit = 0 then [0xc0, 0x80]
  else if unit < 0x80 then [UInt8.ofNat unit]
  else if unit < 0x800 then [UInt8.ofNat (0xc0 + unit / 0x40), UInt8.ofNat (0x80 + unit % 0x40)]
  else [UInt8.ofNat (0xe0 + unit / 0x1000), UInt8.ofNat (0x80 + unit / 0x40 % 0x40),
    UInt8.ofNat (0x80 + unit % 0x40)]

/-- The modified UTF-8 of a sequence of units. -/
def encodeUnits (units : List Nat) : List UInt8 := units.flatMap unitBytes

/-! ### Exact reading -/

def isContinuation (b : UInt8) : Bool := 0x80 ≤ b && b ≤ 0xbf

/-- The six bits that a continuation carries. -/
def payload (b : UInt8) : Nat := b.toNat % 0x40

/-- The character at the front of modified UTF-8, and how many bytes behind its first it takes. -/
def modifiedChar? (first : UInt8) : List UInt8 → Option (Char × Nat)
  | b :: c :: d :: e :: f :: _ =>
    if first = 0xed ∧ 0xa0 ≤ b ∧ b ≤ 0xaf ∧ isContinuation c ∧ d = 0xed ∧ 0xb0 ≤ e ∧ e ≤ 0xbf
        ∧ isContinuation f then
      let high := payload b % 0x10 * 0x40 + payload c
      let low := payload e % 0x10 * 0x40 + payload f
      some (Char.ofNat (0x10000 + high * 0x400 + low), 5)
    else short first [b, c]
  | rest => short first rest
where
  /-- The same for the characters that take at most three bytes. -/
  short (first : UInt8) : List UInt8 → Option (Char × Nat)
    | b :: c :: _ =>
      if (first = 0xe0 ∧ 0xa0 ≤ b ∨ 0xe1 ≤ first ∧ first ≤ 0xef ∧ first ≠ 0xed
            ∨ first = 0xed ∧ b ≤ 0x9f) ∧ isContinuation b ∧ isContinuation c then
        some (Char.ofNat (first.toNat % 0x10 * 0x1000 + payload b * 0x40 + payload c), 2)
      else shorter first [b]
    | rest => shorter first rest
  /-- The same for the characters that take at most two bytes. -/
  shorter (first : UInt8) : List UInt8 → Option (Char × Nat)
    | b :: _ =>
      if first = 0xc0 ∧ b = 0x80 then some (Char.ofNat 0, 1)
      else if 0xc2 ≤ first ∧ first ≤ 0xdf ∧ isContinuation b then
        some (Char.ofNat (first.toNat % 0x20 * 0x40 + payload b), 1)
      else single first
    | [] => single first
  /-- The same for the characters that take one byte. -/
  single (first : UInt8) : Option (Char × Nat) :=
    if 0 < first ∧ first < 0x80 then some (Char.ofNat first.toNat, 0) else none

/-- The text of modified UTF-8. The first argument counts the bytes ahead that belong to a
character already read. -/
def decodeModified? : (taken : Nat) → List UInt8 → Option (List Char)
  | _, [] => some []
  | n + 1, _ :: rest => decodeModified? n rest
  | 0, first :: rest => do
    let (c, taken) ← modifiedChar? first rest
    return c :: (← decodeModified? taken rest)

/-! ### Lossy reading -/

/-- What stands for bytes that cannot be read. -/
def replacement : Char := '\ufffd'

/-- The range of the byte that may follow the first byte of a character of three or four bytes:
it keeps out longer forms of shorter characters, surrogates, and codes beyond the last. -/
def secondRange (first : UInt8) : UInt8 × UInt8 :=
  if first = 0xe0 then (0xa0, 0xbf)
  else if first = 0xed then (0x80, 0x9f)
  else if first = 0xf0 then (0x90, 0xbf)
  else if first = 0xf4 then (0x80, 0x8f)
  else (0x80, 0xbf)

def maySecond (first second : UInt8) : Bool :=
  (secondRange first).1 ≤ second && second ≤ (secondRange first).2

/-- The character at the front of UTF-8, or the replacement for the longest start of one, and how
many bytes behind the first it takes. -/
def lossyChar (first : UInt8) (rest : List UInt8) : Char × Nat :=
  if first < 0x80 then (Char.ofNat first.toNat, 0)
  else if 0xc2 ≤ first ∧ first ≤ 0xdf then
    match rest with
    | b :: _ =>
      if isContinuation b then (Char.ofNat (first.toNat % 0x20 * 0x40 + payload b), 1)
      else (replacement, 0)
    | [] => (replacement, 0)
  else if 0xe0 ≤ first ∧ first ≤ 0xef then
    match rest with
    | b :: rest =>
      if !maySecond first b then (replacement, 0)
      else
        match rest with
        | c :: _ =>
          if isContinuation c then
            (Char.ofNat (first.toNat % 0x10 * 0x1000 + payload b * 0x40 + payload c), 2)
          else (replacement, 1)
        | [] => (replacement, 1)
    | [] => (replacement, 0)
  else if 0xf0 ≤ first ∧ first ≤ 0xf4 then
    match rest with
    | b :: rest =>
      if !maySecond first b then (replacement, 0)
      else
        match rest with
        | c :: rest =>
          if !isContinuation c then (replacement, 1)
          else
            match rest with
            | d :: _ =>
              if isContinuation d then
                (Char.ofNat (first.toNat % 0x8 * 0x40000 + payload b * 0x1000 + payload c * 0x40
                  + payload d), 3)
              else (replacement, 2)
            | [] => (replacement, 2)
        | [] => (replacement, 1)
    | [] => (replacement, 0)
  else (replacement, 0)

/-- The text of bytes read as UTF-8 with replacements. -/
def decodeLossy : (taken : Nat) → List UInt8 → List Char
  | _, [] => []
  | n + 1, _ :: rest => decodeLossy n rest
  | 0, first :: rest =>
    let (c, taken) := lossyChar first rest
    c :: decodeLossy taken rest

/-- **The text of the bytes that a virtual machine hands out.** -/
def ofMachineBytes (bytes : List UInt8) : String :=
  match decodeModified? 0 bytes with
  | some text => String.ofList text
  | none => String.ofList (decodeLossy 0 bytes)

end PlatformBridge.Text
