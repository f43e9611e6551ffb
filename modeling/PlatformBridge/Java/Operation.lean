/-!
Operations on a Java virtual machine: looking up classes and members, using them, reading the
characters of a string, pinning objects, and dealing with a pending exception.
-/

namespace PlatformBridge.Java

/-- A reference to an object: the class it was declared with, and a handle by which the machine
knows it. -/
structure Object where
  className : String
  handle : Nat
  deriving DecidableEq, Repr, Inhabited

def stringClass : String := "java/lang/String"

/-- What the use of a member gives; an object may be null. -/
inductive Value where
  | void
  | int (value : Int32)
  | object (value : Option Object)
  deriving DecidableEq, Repr, Inhabited

/-- The kind of a value in words. -/
def Value.kind : Value → String
  | void => "void"
  | int _ => "int"
  | object _ => "object"

/-- What is looked up by name. -/
inductive Lookup where
  | classNamed (name : String)
  | member (owner name signature : String)
  deriving DecidableEq, Repr, Inhabited

/-- The name under which constructors are looked up. -/
def constructorName : String := "<init>"

/-- The use of a member. -/
inductive Use where
  | call (receiver : Object) (name signature : String) (argument : Option Value)
  | callStatic (owner name signature : String)
  | field (receiver : Object) (name signature : String)
  | staticField (owner name signature : String)
  | construct (owner signature : String)
  deriving DecidableEq, Repr, Inhabited

/-- An operation on the machine. -/
inductive Operation where
  | look (lookup : Lookup)
  | use (use : Use)
  | characters (text : Object)
  | newGlobalRef (object : Object)
  | deleteGlobalRef (object : Object)
  | getVm
  | exceptionCheck
  | exceptionDescribe
  | exceptionClear
  | fatalError (text : String)
  deriving DecidableEq, Repr, Inhabited

/-- An operation and whether an exception was pending when it was made. -/
structure Effect where
  operation : Operation
  pending : Bool
  deriving DecidableEq, Repr, Inhabited

/-- An operation that may be made while an exception is pending. -/
def Operation.toleratesException : Operation → Bool
  | exceptionCheck | exceptionDescribe | exceptionClear | fatalError _ => true
  | _ => false

/-! ### Listings -/

/-- An argument in a listing, behind a blank. -/
def Value.argumentLine : Value → String
  | void => ""
  | int value => " " ++ toString value.toInt
  | object none => " null"
  | object (some o) => " " ++ o.className

def Use.line : Use → String
  | call receiver name signature argument =>
    "call " ++ receiver.className ++ "." ++ name ++ signature
      ++ (argument.map Value.argumentLine).getD ""
  | callStatic owner name signature => "static call " ++ owner ++ "." ++ name ++ signature
  | field receiver name _ => "field " ++ receiver.className ++ "." ++ name
  | staticField owner name _ => "static field " ++ owner ++ "." ++ name
  | construct owner signature => "new " ++ owner ++ signature

/-- The line of a listing for an operation; lookups and the like have none. -/
def Operation.line? : Operation → Option String
  | use u => some u.line
  | newGlobalRef o => some ("NewGlobalRef " ++ o.className)
  | deleteGlobalRef o => some ("DeleteGlobalRef " ++ o.className)
  | exceptionDescribe => some "ExceptionDescribe"
  | exceptionClear => some "ExceptionClear"
  | look _ | characters _ | getVm | exceptionCheck | fatalError _ => none

end PlatformBridge.Java
