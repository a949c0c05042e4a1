namespace Conformance

/-!
# Endings and actions

An action works on a state and always gives the state back, however it ends: it
returns a result, stops with an error that callers can handle, panics, or nests
its calls deeper than the call stack allows.
-/

/--
What a panic carries: a literal text, one that was made, or
something that is no text.
-/
inductive Payload where
  | literal (text : String)
  | made (text : String)
  | foreign
  deriving Repr, DecidableEq

/-- What is told of a panic. -/
def Payload.text : Payload → String
  | .literal text => text
  | .made text => text
  | .foreign => "non-string panic payload"

/-- How an action ends. -/
inductive Ending (Error : Type) (Result : Type) where
  | returned (result : Result)
  | stopped (error : Error)
  | panicked (payload : Payload)
  | overflowed
  deriving Repr, DecidableEq

namespace Ending

variable {Error Other Result : Type}

/-- Rewords the error of an ending. -/
def mapError (change : Error → Other) : Ending Error Result → Ending Other Result
  | .returned result => .returned result
  | .stopped error => .stopped (change error)
  | .panicked payload => .panicked payload
  | .overflowed => .overflowed

end Ending

/-- A computation on a state that ends in one of the four ways. -/
def Act (State Error Result : Type) : Type :=
  State → Ending Error Result × State

namespace Act

variable {State Error Result Next : Type}

/-- Returns a result without touching the state. -/
def done (result : Result) : Act State Error Result :=
  fun state => (.returned result, state)

/-- Stops with an error without touching the state. -/
def stop (error : Error) : Act State Error Result :=
  fun state => (.stopped error, state)

/-- Goes on with the result of an action, unless it ended in another way. -/
def andThen
    (action : Act State Error Result)
    (next : Result → Act State Error Next) :
    Act State Error Next :=
  fun state =>
    match action state with
    | (.returned result, reached) => next result reached
    | (.stopped error, reached) => (.stopped error, reached)
    | (.panicked payload, reached) => (.panicked payload, reached)
    | (.overflowed, reached) => (.overflowed, reached)

instance : Monad (Act State Error) where
  pure := done
  bind := andThen

/-- The state an action works on. -/
def current : Act State Error State :=
  fun state => (.returned state, state)

/-- Changes the state. -/
def change (step : State → State) : Act State Error Unit :=
  fun state => (.returned (), step state)

/-- Changes the state and returns a result that comes with the change. -/
def produce (step : State → Result × State) : Act State Error Result :=
  fun state => (.returned (step state).1, (step state).2)

@[simp] theorem pure_apply
    (result : Result)
    (state : State) :
    (pure result : Act State Error Result) state = (.returned result, state) :=
  rfl

@[simp] theorem stop_apply
    (error : Error)
    (state : State) :
    (stop error : Act State Error Result) state = (.stopped error, state) :=
  rfl

@[simp] theorem current_apply
    (state : State) :
    (current : Act State Error State) state = (.returned state, state) :=
  rfl

@[simp] theorem change_apply
    (step : State → State)
    (state : State) :
    (change step : Act State Error Unit) state = (.returned (), step state) :=
  rfl

@[simp] theorem produce_apply
    (step : State → Result × State)
    (state : State) :
    (produce step : Act State Error Result) state =
      (.returned (step state).1, (step state).2) :=
  rfl

/-- How an action that goes on from another one runs. -/
theorem bind_apply
    (action : Act State Error Result)
    (next : Result → Act State Error Next)
    (state : State) :
    (action >>= next) state =
      match action state with
      | (.returned result, reached) => next result reached
      | (.stopped error, reached) => (.stopped error, reached)
      | (.panicked payload, reached) => (.panicked payload, reached)
      | (.overflowed, reached) => (.overflowed, reached) :=
  rfl

/-- Going on from an action that returned. -/
theorem bind_of_returned
    {action : Act State Error Result}
    {next : Result → Act State Error Next}
    {state reached : State}
    {result : Result}
    (ending : action state = (.returned result, reached)) :
    (action >>= next) state = next result reached := by
  change andThen action next state = _
  simp [andThen, ending]

/-- An action that stopped is not gone on from. -/
theorem bind_of_stopped
    {action : Act State Error Result}
    {next : Result → Act State Error Next}
    {state reached : State}
    {error : Error}
    (ending : action state = (.stopped error, reached)) :
    (action >>= next) state = (.stopped error, reached) := by
  change andThen action next state = _
  simp [andThen, ending]

end Act

end Conformance
