/-!
Documents on disk: what is found under a path, and the text it holds.
-/

namespace PlatformBridge

/-- What is found under a path. -/
inductive Document where
  | missing
  | folder
  /-- Something that is no folder stands where the path goes on. -/
  | notFolder
  /-- A name in the path, or all of it, is too long. -/
  | nameTooLong
  | bytes (content : ByteArray)
  /-- Something that cannot be read for a reason of its own. -/
  | unreadable (reason : String)

namespace Document

/-- Why the text under a path cannot be had. -/
inductive Fault where
  | missing
  | folder
  | notFolder
  | nameTooLong
  | notText
  | stated (detail : String)
  deriving DecidableEq, Repr, Inhabited

def Fault.message : Fault → String
  | missing => "No such file or directory (os error 2)"
  | folder => "Is a directory (os error 21)"
  | notFolder => "Not a directory (os error 20)"
  | nameTooLong => "File name too long (os error 36)"
  | notText => "stream did not contain valid UTF-8"
  | stated detail => detail

def text : Document → Except Fault String
  | missing => .error .missing
  | folder => .error .folder
  | notFolder => .error .notFolder
  | nameTooLong => .error .nameTooLong
  | unreadable reason => .error (.stated reason)
  | bytes content =>
    match String.fromUTF8? content with
    | some text => .ok text
    | none => .error .notText

end Document

end PlatformBridge
