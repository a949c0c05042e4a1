import Conformance.ErrorKind

namespace Conformance

/-!
# Raised errors

An error that a program raises has a kind and a message.  The messages of the
errors that the object system raises on its own are fixed here, so that every
part of the library words them alike.
-/

namespace Message

/-- A change was attempted on something frozen. -/
def frozenReceiver (className : String) : String :=
  "can't modify frozen " ++ className

/-- A value does not take part in a conversion. -/
def noImplicitConversion (source target : String) : String :=
  "no implicit conversion of " ++ source ++ " into " ++ target

/-- A call has more or fewer arguments than are expected. -/
def wrongNumberOfArguments (given : Nat) (expected : String) : String :=
  "wrong number of arguments (given " ++ toString given ++
    ", expected " ++ expected ++ ")"

/-- A method was sent to a receiver that does not have it. -/
def undefinedMethod (method receiver : String) : String :=
  "undefined method `" ++ method ++ "' for " ++ receiver

end Message

/-- An error raised by a program under test. -/
structure Raised where
  kind : ErrorKind
  message : String
  deriving Repr, DecidableEq

namespace Raised

/-- The error as one line: its kind, then its message. -/
def text (raised : Raised) : String :=
  raised.kind.name ++ ": " ++ raised.message

/-- Whether an error is of a kind or of one below it. -/
def isA (raised : Raised) (kind : ErrorKind) : Bool :=
  raised.kind.isA kind

/-- A value of the wrong type was given. -/
def typeError (message : String) : Raised :=
  ⟨.typeError, message⟩

/-- An argument cannot be used. -/
def argumentError (message : String) : Raised :=
  ⟨.argumentError, message⟩

/-- Something failed while the program ran. -/
def runtimeError (message : String) : Raised :=
  ⟨.runtimeError, message⟩

/-- A change was attempted on a frozen object of the named class. -/
def frozen (className : String) : Raised :=
  ⟨.frozenError, Message.frozenReceiver className⟩

/-- A value of one class was needed as another. -/
def noImplicitConversion (source target : String) : Raised :=
  typeError (Message.noImplicitConversion source target)

/-- A receiver does not have the method it was sent. -/
def noMethod (method receiver : String) : Raised :=
  ⟨.noMethodError, Message.undefinedMethod method receiver⟩

end Raised

end Conformance
