import Btle.Library.Throwing

namespace Relating

open Throwing

universe u

variable {ε σ α β γ δ : Type u} {states : σ → σ → Prop} {values : α → β → Prop}

/-- Two outcomes are alike: both return related values or both throw, in related states. Nothing
    catches what is thrown, so it need not be the same. -/
inductive Alike (states : σ → σ → Prop) (values : α → β → Prop) :
    EStateM.Result ε σ α → EStateM.Result ε σ β → Prop
  | ok {value : α} {other : β} {state twin : σ} (related : values value other)
      (left : states state twin) : Alike states values (.ok value state) (.ok other twin)
  | error {thrown other : ε} {state twin : σ} (left : states state twin) :
      Alike states values (.error thrown state) (.error other twin)

/-- What is known of the state that is left besides. -/
theorem Alike.also {program : EStateM ε σ α} {other : EStateM ε σ β} {state twin : σ}
    {property : σ → Prop}
    (alike : Alike states values (program.run state) (other.run twin))
    (known : property (after program state)) :
    Alike (fun left right => states left right ∧ property left) values (program.run state)
      (other.run twin) := by
  cases ran : program.run state <;> cases ran_other : other.run twin <;> rw [ran, ran_other] at alike
  · cases alike with
    | ok related left =>
      rw [after_ok ran] at known
      exact .ok related ⟨left, known⟩
  · cases alike
  · cases alike
  · cases alike with
    | error left =>
      rw [after_error ran] at known
      exact .error ⟨left, known⟩

theorem Alike.mono {wider : σ → σ → Prop} {result : EStateM.Result ε σ α}
    {instead : EStateM.Result ε σ β} (alike : Alike states values result instead)
    (wide : ∀ state twin, states state twin → wider state twin) : Alike wider values result instead := by
  cases alike with
  | ok related left => exact .ok related (wide _ _ left)
  | error left => exact .error (wide _ _ left)

/-- Programs that leave their states alone leave them as related as they were. -/
theorem Alike.unchanged {narrower : σ → σ → Prop} {program : EStateM ε σ α} {other : EStateM ε σ β}
    {state twin : σ} (alike : Alike states values (program.run state) (other.run twin))
    (left : Throwing.after program state = state) (twin_left : Throwing.after other twin = twin)
    (related : narrower state twin) :
    Alike narrower values (program.run state) (other.run twin) := by
  cases ran : program.run state <;> cases ran_other : other.run twin <;> rw [ran, ran_other] at alike
  · rw [after_ok ran] at left
    rw [after_ok ran_other] at twin_left
    subst left twin_left
    cases alike with
    | ok same _ => exact .ok same related
  · cases alike
  · cases alike
  · rw [after_error ran] at left
    rw [after_error ran_other] at twin_left
    subst left twin_left
    exact .error related

theorem Alike.bind {later : γ → δ → Prop} {program : EStateM ε σ α} {other : EStateM ε σ β}
    {next : α → EStateM ε σ γ} {onward : β → EStateM ε σ δ} {state twin : σ}
    (first : Alike states values (program.run state) (other.run twin))
    (second : ∀ value instead middle between, values value instead → states middle between →
      Alike states later ((next value).run middle) ((onward instead).run between)) :
    Alike states later ((program >>= next).run state) ((other >>= onward).run twin) := by
  rw [EStateM.run_bind, EStateM.run_bind]
  cases ran : program.run state <;> cases ran_other : other.run twin <;> rw [ran, ran_other] at first
  · cases first with
    | ok related left => exact second _ _ _ _ related left
  · cases first
  · cases first
  · cases first with
    | error left => exact .error left

theorem Alike.after {program : EStateM ε σ α} {other : EStateM ε σ β} {state twin : σ}
    (alike : Alike states values (program.run state) (other.run twin)) :
    states (after program state) (after other twin) := by
  unfold Throwing.after
  cases ran : program.run state <;> cases ran_other : other.run twin <;> rw [ran, ran_other] at alike
  · cases alike with
    | ok _ left => exact left
  · cases alike
  · cases alike
  · cases alike with
    | error left => exact left

/-- From related states, two programs come to outcomes that are alike. -/
def Matches (states : σ → σ → Prop) (values : α → β → Prop) (program : EStateM ε σ α)
    (other : EStateM ε σ β) : Prop :=
  ∀ state twin, states state twin → Alike states values (program.run state) (other.run twin)

theorem matches_pure {value : α} {other : β} (related : values value other) :
    Matches states values (pure value : EStateM ε σ α) (pure other : EStateM ε σ β) :=
  fun _ _ left => .ok related left

theorem matches_throw (thrown other : ε) :
    Matches states values (throw thrown : EStateM ε σ α) (throw other : EStateM ε σ β) :=
  fun _ _ left => .error left

theorem Matches.bind {later : γ → δ → Prop} {program : EStateM ε σ α} {other : EStateM ε σ β}
    {next : α → EStateM ε σ γ} {onward : β → EStateM ε σ δ}
    (first : Matches states values program other)
    (second : ∀ value twin, values value twin → Matches states later (next value) (onward twin)) :
    Matches states later (program >>= next) (other >>= onward) :=
  fun state twin left => (first state twin left).bind fun value instead _ _ related kept =>
    second value instead related _ _ kept

theorem matches_bind_eq {later : γ → δ → Prop} {program other : EStateM ε σ α}
    {next : α → EStateM ε σ γ} {onward : α → EStateM ε σ δ}
    (first : Matches states Eq program other)
    (second : ∀ value, Matches states later (next value) (onward value)) :
    Matches states later (program >>= next) (other >>= onward) := by
  apply first.bind
  intro value twin same
  subst same
  exact second value

theorem matches_forM {items : List α} {body other : α → EStateM ε σ PUnit}
    (each : ∀ item ∈ items, Matches states Eq (body item) (other item)) :
    Matches states Eq (items.forM body) (items.forM other) := by
  induction items with
  | nil => exact matches_pure rfl
  | cons item items ih =>
    have rest := ih fun other_item member => each other_item (List.mem_cons_of_mem _ member)
    exact matches_bind_eq (each item List.mem_cons_self) fun _ => rest

end Relating
