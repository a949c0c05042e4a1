import Conformance.Object.Value

namespace Conformance

/-!
# Hashes

A hash keeps its entries in the order in which their keys were first stored.
A key that is not stored falls back to a callable or to a fixed value.
-/

/-- Everything about a hash that can change. -/
structure HashState where
  entries : List (Value × Value)
  default : Value
  defaultProc : Option Proc
  frozen : Bool
  deriving Repr, DecidableEq

namespace HashState

/-- A hash without entries that answers `nil` for every key. -/
def empty : HashState :=
  ⟨[], .nil, none, false⟩

/-- The value stored under a key that equals the given one. -/
def find? (state : HashState) (key : Value) : Option Value :=
  (state.entries.find? fun entry => entry.1.equal key).map Prod.snd

/-- Whether a key that equals the given one is stored. -/
def contains (state : HashState) (key : Value) : Bool :=
  state.entries.any fun entry => entry.1.equal key

/-- The number of entries. -/
def size (state : HashState) : Nat :=
  state.entries.length

/--
Entries with a value stored under a key: the value of the first equal key is
replaced and that key kept, or a new entry goes to the end.
-/
def store (key value : Value) : List (Value × Value) → List (Value × Value)
  | [] => [(key, value)]
  | (oldKey, oldValue) :: rest =>
      if oldKey.equal key then (oldKey, value) :: rest
      else (oldKey, oldValue) :: store key value rest

/-- Stores a value under a key. -/
def insert (state : HashState) (key value : Value) : HashState :=
  { state with entries := store key value state.entries }

/-- Falls back to a fixed value from now on. -/
def withDefault (state : HashState) (value : Value) : HashState :=
  { state with default := value, defaultProc := none }

/-- Falls back to a callable from now on. -/
def withDefaultProc (state : HashState) (callable : Proc) : HashState :=
  { state with default := .nil, defaultProc := some callable }

/-- Drops the callable to fall back to, if there is one. -/
def withoutDefaultProc (state : HashState) : HashState :=
  { state with defaultProc := none }

/-- Refuses every later change. -/
def freeze (state : HashState) : HashState :=
  { state with frozen := true }

end HashState

/-- What a new hash falls back to. -/
inductive Fallback where
  | nothing
  | fixed (value : Value)
  | computed (callable : Proc)
  deriving Repr, DecidableEq

/-- A new hash with a fallback. -/
def HashState.new : Fallback → HashState
  | .nothing => .empty
  | .fixed value => { HashState.empty with default := value }
  | .computed callable => { HashState.empty with defaultProc := some callable }

end Conformance
