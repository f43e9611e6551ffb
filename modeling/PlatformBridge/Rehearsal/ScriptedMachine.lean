import PlatformBridge.Java.Machine

/-!
A virtual machine that follows a script. The script says, member by member, what each use of it
gives; a member that it does not name gives what a common device would.
-/

namespace PlatformBridge.Rehearsal

open Java (Machine Object Lookup Use Value Characters)

/-- A string of the machine: its units, or a string whose characters cannot be had. -/
inductive MachineText where
  | units (units : List Nat)
  | nullCharacters
  | throwingCharacters
  deriving DecidableEq, Repr, Inhabited

/-- What the use of a member gives. -/
inductive Line where
  | text (value : MachineText)
  | integer (value : Int32)
  | object
  | null
  /-- The use throws. -/
  | throws
  /-- Looking the member up throws. -/
  | missing
  deriving DecidableEq, Repr, Inhabited

/-- A machine that follows a script: for each member what its uses give, the last for good, and
the strings handed out so far. -/
structure Script where
  lines : List (String × List Line) := []
  texts : List MachineText := []
  deriving DecidableEq, Repr, Inhabited

namespace Script

def plain (text : String) : Line := .text (.units (Text.units text))

/-- What members give that the script does not name. -/
def usual (member : String) : Line :=
  match member with
  | "getPackageName" => plain "com.example.game"
  | "MANUFACTURER" => plain "Google"
  | "MODEL" => plain "Pixel 8"
  | "ID" => plain "AP1A.240305.019"
  | "RELEASE" => plain "14"
  | "toString" => plain "en_US"
  | "getAbsolutePath" => plain "/data/user/0/com.example.game/cache"
  | "nativeLibraryDir" => plain "/data/app/lib/arm64"
  | "widthPixels" => .integer 1080
  | "heightPixels" => .integer 2400
  | "getRotation" => .integer 0
  | "orientation" => .integer 1
  | "GetJavaVM" => .integer 0
  | _ => .object

/-- What the next use of a member gives. -/
def current (s : Script) (member : String) : Line :=
  match s.lines.lookup member with
  | some (line :: _) => line
  | _ => usual member

def set (s : Script) (member : String) (lines : List Line) : Script :=
  { s with lines := (member, lines) :: s.lines.filter (·.1 ≠ member) }

def advance (s : Script) (member : String) : Script :=
  match s.lines.lookup member with
  | some (_ :: next :: rest) => s.set member (next :: rest)
  | _ => s

def hand (s : Script) (text : MachineText) : Object × Script :=
  (⟨Java.stringClass, s.texts.length⟩, { s with texts := s.texts ++ [text] })

def simpleName (className : String) : String :=
  String.ofList (className.toList.reverse.takeWhile (· ≠ '/')).reverse

/-- What a signature says a member gives: everything behind the closing bracket of a method's
arguments, all of a field's. -/
def resultPart (signature : String) : List Char :=
  match signature.toList.dropWhile (· ≠ ')') with
  | _ :: result => result
  | [] => signature.toList

/-- The class that a signature says a member gives. -/
def resultClass (signature : String) : String :=
  match resultPart signature with
  | 'L' :: rest => String.ofList (rest.takeWhile (· ≠ ';'))
  | rest => String.ofList rest

/-- The script's name for what a use is about. -/
def memberOf : Use → String
  | .call _ name _ _ | .callStatic _ name _ | .field _ name _ | .staticField _ name _ => name
  | .construct owner _ => simpleName owner

def classOf : Use → String
  | .call _ _ signature _ | .callStatic _ _ signature | .field _ _ signature
  | .staticField _ _ signature => resultClass signature
  | .construct owner _ => owner

def isVoid : Use → Bool
  | .call _ _ signature _ | .callStatic _ _ signature => resultPart signature = ['V']
  | _ => false

def finds (lookup : Lookup) (s : Script) : Bool × Script :=
  let member := match lookup with
    | .classNamed name => "class " ++ name
    | .member owner name _ => if name = Java.constructorName then simpleName owner else name
  (s.current member ≠ .missing, s)

def uses (u : Use) (s : Script) : Option Value × Script :=
  let line := s.current (memberOf u)
  let s := s.advance (memberOf u)
  match line with
  | .throws | .missing => (none, s)
  | line =>
    if isVoid u then (some .void, s)
    else
      match line with
      | .text value =>
        let (o, s) := s.hand value
        (some (.object (some o)), s)
      | .integer n => (some (.int n), s)
      | .object => (some (.object (some ⟨classOf u, 0⟩)), s)
      | _ => (some (.object none), s)

def characters (text : Object) (s : Script) : Characters × Script :=
  match s.texts[text.handle]? with
  | some (.units units) => (.bytes (Text.encodeUnits units), s)
  | some .nullCharacters => (.null, s)
  | some .throwingCharacters => (.thrown, s)
  | none => (.null, s)

/-- The status under which the machine itself is given. -/
def vmStatus (s : Script) : Int32 × Script :=
  let status := match s.current "GetJavaVM" with
    | .integer n => n
    | _ => 0
  (status, s.advance "GetJavaVM")

/-- The machine that follows its script. -/
def machine : Machine Script := ⟨finds, uses, characters, vmStatus⟩

end Script

end PlatformBridge.Rehearsal
