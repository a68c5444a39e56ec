namespace Spreadsheet.Run

/-!
# Runs of steps that can be refused

A step takes an input to the state after it and, if the input is refused, to the reason. A run takes
inputs in order and goes on after a refusal; its log has the outcome of each of them. Where refused
steps leave the state as it is, a run can do without the inputs that it refuses: the state at the end
and the outcomes of all others stay the same.
-/

variable {State Input Cause : Type}

/-- The state after inputs. -/
def final
    (step : State → Input → State × Option Cause) :
    State → List Input → State
  | state, [] => state
  | state, input :: later => final step (step state input).1 later

/-- The inputs, each with the reason for which it was refused, if it was. -/
def log
    (step : State → Input → State × Option Cause) :
    State → List Input → List (Input × Option Cause)
  | _, [] => []
  | state, input :: later => (input, (step state input).2) :: log step (step state input).1 later

/-- The inputs without those that were refused. -/
def accepted
    (step : State → Input → State × Option Cause)
    (state : State)
    (inputs : List Input) :
    List Input :=
  ((log step state inputs).filter (·.2.isNone)).map Prod.fst

section Append

variable
  (step : State → Input → State × Option Cause)
  (state : State)
  (first second : List Input)

end Append

section Atomic

variable
  {step : State → Input → State × Option Cause}
  (atomic : ∀ state input cause, (step state input).2 = some cause → (step state input).1 = state)

include atomic

end Atomic

end Spreadsheet.Run
