import Btle.Library.Machine

namespace Machine

universe u v w x

variable {State : Type u} {Event : Type v} {Output : Type w} {Fault : Type x}

/-- Events with the events that arrive from inside their handling, as when a callback calls
    back: `inside` arrives before the event returns, `rest` after it. -/
inductive Nested (Event : Type v)
  | done
  | node (event : Event) (inside rest : Nested Event)

def Nested.flatten : Nested Event → List Event
  | .done => []
  | .node event inside rest => event :: (inside.flatten ++ rest.flatten)

/-- Runs events whose step calls out last: what arrives inside meets the state the step leaves. -/
def runNested (step : Step State Event Output Fault) (state : State) :
    Nested Event → Except Fault (State × List Output)
  | .done => .ok (state, [])
  | .node event inside rest =>
    match step state event with
    | .error fault => .error fault
    | .ok (next, out) =>
      match runNested step next inside with
      | .error fault => .error fault
      | .ok (back, nested) =>
        match runNested step back rest with
        | .error fault => .error fault
        | .ok (last, later) => .ok (last, out ++ nested ++ later)

variable {step : Step State Event Output Fault}

theorem run_append (state : State) (first second : List Event) :
    run step state (first ++ second) =
      match run step state first with
      | .error fault => .error fault
      | .ok (middle, out) =>
        match run step middle second with
        | .error fault => .error fault
        | .ok (last, rest) => .ok (last, out ++ rest) := by
  induction first generalizing state with
  | nil =>
    simp only [List.nil_append, run_nil]
    cases run step state second <;> rfl
  | cons event first ih =>
    simp only [List.cons_append, run]
    cases step state event with
    | error fault => rfl
    | ok result =>
      rcases result with ⟨next, out⟩
      dsimp only
      rw [ih]
      cases run step next first with
      | error fault => rfl
      | ok result =>
        rcases result with ⟨middle, early⟩
        dsimp only
        cases run step middle second with
        | error fault => rfl
        | ok result => simp

/-- Nesting is no more than an order of arrival when steps call out last. -/
theorem runNested_eq_run (state : State) (events : Nested Event) :
    runNested step state events = run step state events.flatten := by
  induction events generalizing state with
  | done => rfl
  | node event inside rest ihInside ihRest =>
    simp only [runNested, Nested.flatten, run]
    cases step state event with
    | error fault => rfl
    | ok result =>
      rcases result with ⟨next, out⟩
      dsimp only
      rw [run_append, ihInside]
      cases run step next inside.flatten with
      | error fault => rfl
      | ok result =>
        rcases result with ⟨back, nested⟩
        dsimp only
        rw [ihRest]
        cases run step back rest.flatten with
        | error fault => rfl
        | ok result => simp

end Machine
