import Btle.Library.Machine

namespace Twins

open Machine

universe u v w x y

variable {State : Type u} {Twin : Type v} {Event : Type w} {Output : Type x} {Fault : Type y}

/-- What the two emit over a run is the same. -/
def Agree (step : Step State Event Output Fault) (other : Step Twin Event Output Fault)
    (state : State) (twin : Twin) (events : List Event) : Prop :=
  ∀ last out final emitted, run step state events = .ok (last, out) →
    run other twin events = .ok (final, emitted) → out = emitted

variable {step : Step State Event Output Fault} {other : Step Twin Event Output Fault}
  {related : State → Twin → Prop} {careful : State → Event → Prop}

/-- A careful step has both machines go on from related states to related states, and emit the
    same. -/
theorem agree_of_careful
    (each : ∀ state twin event, related state twin → careful state event →
      ∃ next out onward emitted, step state event = .ok (next, out) ∧
        other twin event = .ok (onward, emitted) ∧ related next onward ∧ out = emitted)
    {state : State} {twin : Twin} (start : related state twin) {events : List Event}
    (all_careful : ∀ taken ∈ visited step state events, careful taken.1 taken.2) :
    Agree step other state twin events := by
  induction events generalizing state twin with
  | nil =>
    intro last out final emitted ran twin_ran
    cases ran
    cases twin_ran
    rfl
  | cons event events ih =>
    intro last out final emitted ran twin_ran
    have here : careful state event := all_careful (state, event) List.mem_cons_self
    rcases each state twin event start here with
      ⟨next, first, onward, first_twin, stepped, twin_stepped, kept, same⟩
    rw [visited_cons_of_step stepped, List.forall_mem_cons] at all_careful
    have tail_careful := all_careful.2
    rcases run_cons_ok ran with ⟨_, _, rest, taken, later, rfl⟩
    rcases run_cons_ok twin_ran with ⟨_, _, rest_twin, taken_twin, later_twin, rfl⟩
    rw [stepped] at taken
    rw [twin_stepped] at taken_twin
    cases taken
    cases taken_twin
    rw [same, ih kept tail_careful _ _ _ _ later later_twin]

end Twins
