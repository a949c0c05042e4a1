import Conformance.Program.Conversion

namespace Conformance

/-!
# Working on hashes

A stored key answers its value.  An absent one calls the default callable with
the hash and the key, or answers the fixed default.  Whether a hash is frozen is
looked at when a change begins.
-/

namespace HashRef

variable {World Label : Type}

/-- Replaces the state of a hash. -/
def update
    (hash : HashRef)
    (change : HashState → HashState)
    (scene : Scene World Label) :
    Scene World Label :=
  scene.withStore (scene.store.putHash hash (change (scene.store.hash hash)))

/-- Stops unless the hash may be changed. -/
def checkUnfrozen (hash : HashRef) : Raising World Label Unit := do
  let scene ← Act.current
  if (scene.store.hash hash).frozen then Act.stop (.frozen "Hash") else pure ()

/-- Looks a key up, falling back to the default callable or the fixed default. -/
def get
    (invoke : Invoke World Label)
    (hash : HashRef)
    (key : Value) :
    Raising World Label Value :=
  fun scene =>
    let state := scene.store.hash hash
    match state.find? key with
    | some value => (.returned value, scene)
    | none =>
        match state.defaultProc with
        | some callable => callable.call invoke [.hash hash, key] scene
        | none => (.returned state.default, scene)

/--
Stores a value under a key.  Both are values already: code that would turn
something else into a value on the way is left out.
-/
def insert (hash : HashRef) (key value : Value) : Raising World Label Unit := do
  hash.checkUnfrozen
  Act.change (hash.update fun state => state.insert key value)

/--
Falls back to a fixed value from now on, and answers it.  As with `insert`, it is a
value already.
-/
def setDefault (hash : HashRef) (value : Value) : Raising World Label Value := do
  hash.checkUnfrozen
  Act.change (hash.update fun state => state.withDefault value)
  pure value

/-- Whether parameters are suited to the hash and the key. -/
def suits : Arity → Bool
  | .exactly count => count == 2
  | .atLeast count => decide (count ≤ 2)

/--
Whether a callable can compute the values of absent keys: a lambda
must take two arguments.
-/
def computes (callable : Proc) : Bool :=
  match callable.flavour with
  | .plain => true
  | .lambda => suits callable.arity

/--
Falls back to a callable from now on, and answers the argument as it was given.
`nil` drops the callable; anything else must be or convert to one.
-/
def setDefaultProc
    (invoke : Invoke World Label)
    (hash : HashRef)
    (argument : Value) :
    Raising World Label Value := do
  hash.checkUnfrozen
  if argument.isNil then
    Act.change (hash.update HashState.withoutDefaultProc)
    pure .nil
  else
    match ← argument.toProc? invoke with
    | none =>
        Act.stop (.typeError
          ("wrong default_proc type " ++ argument.className ++ " (expected Proc)"))
    | some callable =>
        if computes callable then
          Act.change (hash.update fun state => state.withDefaultProc callable)
          pure argument
        else
          Act.stop (.typeError
            ("default_proc takes two arguments (2 for " ++
              toString callable.arity.signed.toInt ++ ")"))

/-- Refuses every later change of a hash, and answers the hash. -/
def freeze (hash : HashRef) : Raising World Label Value := do
  Act.change (hash.update HashState.freeze)
  pure (.hash hash)

end HashRef

end Conformance
