import Btle.Library.Machine

namespace Machine

universe u v w x

variable {State : Type u} {Event : Type v} {Output : Type w} {Fault : Type x}

/-- An event that no state takes notice of. -/
def Idles (step : Step State Event Output Fault) (event : Event) : Prop :=
  ∀ state, ∃ out, step state event = .ok (state, out)

/-- An event nothing of whose handling is among the outputs that count. -/
def Silent (step : Step State Event Output Fault) (seen : Output → Bool) (event : Event) : Prop :=
  ∀ state next out, step state event = .ok (next, out) → out.filter seen = []

def observe (seen : Output → Bool) (result : Except Fault (State × List Output)) :
    Except Fault (State × List Output) :=
  result.map fun (last, out) => (last, out.filter seen)

section Skipping

variable {step : Step State Event Output Fault} {kept : Event → Bool}

/-- Taking idle events out of a run leaves every other step to the state it was taken from. -/
theorem visited_filter {events : List Event}
    (idle : ∀ event ∈ events, kept event = false → Idles step event) (state : State) :
    (visited step state events).filter (fun taken => kept taken.2) =
      visited step state (events.filter kept) := by
  induction events generalizing state with
  | nil => rfl
  | cons event events ih =>
    have later : ∀ other ∈ events, kept other = false → Idles step other := by
      intro other member
      exact idle other (List.mem_cons_of_mem event member)
    cases keeps : kept event with
    | true =>
      rw [List.filter_cons_of_pos keeps]
      cases stepped : step state event with
      | error fault =>
        rw [visited_cons_of_fault stepped, visited_cons_of_fault stepped]
        exact List.filter_cons_of_pos keeps
      | ok result =>
        rcases result with ⟨next, out⟩
        rw [visited_cons_of_step stepped, visited_cons_of_step stepped, ← ih later next]
        exact List.filter_cons_of_pos keeps
    | false =>
      rcases idle event List.mem_cons_self keeps state with ⟨out, stays⟩
      have dropped : ¬ kept event = true := by rw [keeps]; decide
      rw [List.filter_cons_of_neg dropped, ← ih later state, visited_cons_of_step stays]
      exact List.filter_cons_of_neg dropped

theorem observe_run_cons (seen : Output → Bool) (state : State) (event : Event)
    (events : List Event) :
    observe seen (run step state (event :: events)) =
      match step state event with
      | .error fault => .error fault
      | .ok (next, out) =>
        (observe seen (run step next events)).map fun (last, rest) =>
          (last, out.filter seen ++ rest) := by
  simp only [run]
  cases step state event with
  | error fault => rfl
  | ok result =>
    rcases result with ⟨next, out⟩
    dsimp only
    cases run step next events with
    | error fault => rfl
    | ok result => simp only [observe, Except.map, List.filter_append]

/-- Where the idle events are silent too, the run without them ends the same way, in the same state
    and with the same outputs that count. -/
theorem observe_run_filter {seen : Output → Bool} {events : List Event}
    (idle : ∀ event ∈ events, kept event = false → Idles step event ∧ Silent step seen event)
    (state : State) :
    observe seen (run step state events) = observe seen (run step state (events.filter kept)) := by
  induction events generalizing state with
  | nil => rfl
  | cons event events ih =>
    have later : ∀ other ∈ events, kept other = false → Idles step other ∧ Silent step seen other := by
      intro other member
      exact idle other (List.mem_cons_of_mem event member)
    rw [observe_run_cons]
    cases keeps : kept event with
    | true =>
      rw [List.filter_cons_of_pos keeps, observe_run_cons]
      cases step state event with
      | error fault => rfl
      | ok result =>
        rcases result with ⟨next, out⟩
        dsimp only
        rw [ih later]
    | false =>
      rcases idle event List.mem_cons_self keeps with ⟨idles, silent⟩
      rcases idles state with ⟨out, stays⟩
      have nothing : out.filter seen = [] := silent state state out stays
      have dropped : ¬ kept event = true := by rw [keeps]; decide
      rw [List.filter_cons_of_neg dropped, ← ih later, stays]
      dsimp only
      rw [nothing]
      cases observe seen (run step state events) with
      | error fault => rfl
      | ok result => rfl

end Skipping

end Machine
