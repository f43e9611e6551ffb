import PlatformBridge.Pattern.Check

/-!
What a directive may ask of a field's value: a truth value, a number, or a search pattern. Truth
values and numbers without a plus sign are patterns too, so only numbers with one need a rule of
their own.
-/

namespace PlatformBridge.Log.FieldPattern

/-- Whether a text is the exponent of a number: nothing, or digits behind the letter and a sign. -/
def isExponent (text : List Char) : Bool :=
  match text with
  | [] => true
  | e :: rest =>
    let digits := match rest with
      | '+' :: digits | '-' :: digits => digits
      | digits => digits
    e.toLower = 'e' && digits ≠ [] && digits.all Char.isDigit

/-- Whether a text is a number without a sign: digits, with a point among them or not, and an
exponent, or one of the words for what is no number. -/
def isNumber (text : List Char) : Bool :=
  let whole := text.takeWhile Char.isDigit
  let behind := text.dropWhile Char.isDigit
  let (part, rest) := match behind with
    | '.' :: rest => (rest.takeWhile Char.isDigit, rest.dropWhile Char.isDigit)
    | rest => ([], rest)
  ((whole ≠ [] || part ≠ []) && isExponent rest) ||
    ["inf", "infinity", "nan"].any fun word => word.toList = text.map Char.toLower

/-- **Whether a text may be asked of a field's value,** and why not. -/
def check (text : String) : Except Pattern.Error Unit :=
  match text.toList with
  | '+' :: rest => if isNumber rest then .ok () else .error .malformed
  | text => Pattern.check text

end PlatformBridge.Log.FieldPattern
