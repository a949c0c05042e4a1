import Conformance.ErrorKind

namespace Conformance

/-!
# What the catalogue says about error kinds

Each kind is described in one sentence, and some show a program that raises it.
-/

namespace ErrorKind

/-- A program that shows a kind at work, with a remark on what it does. -/
structure Example where
  code : String
  note : Option String
  deriving Repr, DecidableEq

/-- What a kind is for, in one sentence. -/
def description : ErrorKind → String
  | .standardError =>
      "Root of every error a well-behaved program is expected to rescue."
  | .argumentError =>
      "Raised when arguments are wrong: a bad count, or a value the callee cannot use " ++
        "(e.g. an unknown group id)."
  | .typeError =>
      "Raised when an operation receives a value of an inappropriate type."
  | .runtimeError =>
      "Generic runtime failure; also the ancestor of frozen-object errors."
  | .frozenError => "Raised when mutating a frozen object."
  | .nameError => "Raised when a name cannot be resolved."
  | .noMethodError => "Raised when a receiver does not respond to a method."
  | .indexError => "Raised when an index or key is out of range."
  | .keyError => "Raised when a required key is missing."

/-- Programs that raise a kind, as the catalogue prints them. -/
def examples : ErrorKind → List Example
  | .argumentError =>
      [⟨"Etc.getgrgid(9876)",
        some "Raises `ArgumentError: can't find group for 9876` when no such group exists."⟩]
  | .typeError =>
      [⟨"Hash.new.default_proc = 42",
        some "Raises `TypeError: wrong default_proc type Integer (expected Proc)`."⟩,
        ⟨"Etc.getgrgid(\"foo\")",
        some "Raises `TypeError: no implicit conversion of String into Integer`."⟩]
  | .frozenError =>
      [⟨"Hash.new.freeze.default_proc = nil",
        some "Raises `FrozenError: can't modify frozen Hash`."⟩]
  | _ => []

end ErrorKind

end Conformance
