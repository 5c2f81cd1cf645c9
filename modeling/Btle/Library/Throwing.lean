import Mathlib.Order.Defs.Unbundled

namespace Throwing

universe u

variable {ε σ α β : Type u}

/-- The state a program leaves, whether it returns or throws. -/
def after (program : EStateM ε σ α) (state : σ) : σ :=
  match program.run state with
  | .ok _ last => last
  | .error _ last => last

def Returns (program : EStateM ε σ α) (state : σ) : Prop :=
  match program.run state with
  | .ok _ _ => True
  | .error _ _ => False

/-- Wherever it starts and however it ends, a program relates its first state to its last. -/
def Keeps (relation : σ → σ → Prop) (program : EStateM ε σ α) : Prop :=
  ∀ state, relation state (after program state)

theorem returns_iff {program : EStateM ε σ α} {state : σ} :
    Returns program state ↔ ∃ value last, program.run state = .ok value last := by
  unfold Returns
  cases program.run state with
  | ok value last => exact iff_of_true trivial ⟨value, last, rfl⟩
  | error thrown last =>
    apply iff_of_false not_false
    intro returned
    rcases returned with ⟨_, _, h⟩
    cases h

theorem after_ok {program : EStateM ε σ α} {state last : σ} {value : α}
    (h : program.run state = .ok value last) : after program state = last := by
  rw [after, h]

theorem after_error {program : EStateM ε σ α} {state last : σ} {thrown : ε}
    (h : program.run state = .error thrown last) : after program state = last := by
  rw [after, h]

theorem after_congr {program other : EStateM ε σ α} {state start : σ}
    (same : program.run state = other.run start) : after program state = after other start := by
  rw [after, same, ← after]

theorem returns_bind {program : EStateM ε σ α} {next : α → EStateM ε σ β} {state : σ} :
    Returns (program >>= next) state ↔
      match program.run state with
      | .ok value middle => Returns (next value) middle
      | .error _ _ => False := by
  unfold Returns
  rw [EStateM.run_bind]
  cases program.run state <;> rfl

/-- A sequence that returns went through its first part. -/
theorem bind_ok {program : EStateM ε σ α} {next : α → EStateM ε σ β} {state last : σ} {value : β}
    (h : (program >>= next).run state = .ok value last) :
    ∃ first middle, program.run state = .ok first middle ∧
      (next first).run middle = .ok value last := by
  rw [EStateM.run_bind] at h
  cases ran : program.run state with
  | error thrown middle =>
    rw [ran] at h
    cases h
  | ok first middle =>
    rw [ran] at h
    exact ⟨first, middle, rfl, h⟩

section Keeps

variable {relation : σ → σ → Prop}

theorem Keeps.modify {change : σ → σ} (related : ∀ state, relation state (change state)) :
    Keeps relation (modify change : EStateM ε σ PUnit) := related

theorem Keeps.bind [IsTrans σ relation] {program : EStateM ε σ α} {next : α → EStateM ε σ β}
    (first : Keeps relation program) (second : ∀ value, Keeps relation (next value)) :
    Keeps relation (program >>= next) := by
  intro state
  have here := first state
  unfold after at *
  rw [EStateM.run_bind]
  cases ran : program.run state with
  | error thrown middle => simpa only [ran] using here
  | ok value middle =>
    rw [ran] at here
    exact IsTrans.trans _ _ _ here (second value middle)

variable [Std.Refl relation]

theorem Keeps.pure (value : α) : Keeps relation (pure value : EStateM ε σ α) :=
  fun state => Std.Refl.refl state

/-- What comes after a program goes on from where that left. -/
theorem Keeps.after_bind {next : α → EStateM ε σ β} (second : ∀ value, Keeps relation (next value))
    (program : EStateM ε σ α) (state : σ) :
    relation (after program state) (after (program >>= next) state) := by
  unfold after
  rw [EStateM.run_bind]
  cases program.run state with
  | error thrown middle => exact Std.Refl.refl middle
  | ok value middle => exact second value middle

theorem Keeps.throw (thrown : ε) : Keeps relation (throw thrown : EStateM ε σ α) :=
  fun state => Std.Refl.refl state

theorem Keeps.get : Keeps relation (get : EStateM ε σ σ) := fun state => Std.Refl.refl state

theorem Keeps.forM [IsTrans σ relation] {items : List α} {body : α → EStateM ε σ PUnit}
    (each : ∀ item ∈ items, Keeps relation (body item)) : Keeps relation (items.forM body) := by
  induction items with
  | nil => exact Keeps.pure PUnit.unit
  | cons item items ih =>
    exact (each item List.mem_cons_self).bind fun _ =>
      ih fun other member => each other (List.mem_cons_of_mem _ member)

/-- What each turn of a loop does to the state, the loop does, and what it makes it leaves good. -/
theorem mapM_ok [IsTrans σ relation] {items : List α} {body : α → EStateM ε σ β} {values : List β}
    {state last : σ} {ready : σ → Prop} {good : σ → β → Prop}
    (stays : ∀ state last, relation state last → ready state → ready last)
    (carries : ∀ state last value, relation state last → good state value → good last value)
    (each : ∀ item ∈ items, ∀ state value last, ready state →
      (body item).run state = .ok value last → relation state last ∧ good last value)
    (start : ready state) (ran : (items.mapM body).run state = .ok values last) :
    relation state last ∧ values.length = items.length ∧ ∀ value ∈ values, good last value := by
  induction items generalizing state values with
  | nil =>
    rw [List.mapM_nil] at ran
    cases ran
    exact ⟨Std.Refl.refl _, rfl, by simp⟩
  | cons item items ih =>
    rw [List.mapM_cons] at ran
    rcases bind_ok ran with ⟨value, middle, first, ran⟩
    rcases bind_ok ran with ⟨rest, final, others, ran⟩
    cases ran
    rcases each item List.mem_cons_self state value middle start first with ⟨related, made⟩
    rcases ih (fun other member => each other (List.mem_cons_of_mem _ member))
      (stays _ _ related start) others with ⟨onward, length, all⟩
    refine ⟨IsTrans.trans _ _ _ related onward, by simp [length], ?_⟩
    rw [List.forall_mem_cons]
    exact ⟨carries _ _ _ onward made, all⟩

end Keeps

section Passes

variable {allowed permitted : Prop} {change onward : σ → σ}

/-- Where it is allowed a program makes its change, and elsewhere it throws. -/
def Passes (allowed : Prop) (change : σ → σ) (program : EStateM ε σ PUnit) : Prop :=
  (allowed → ∀ state, program.run state = .ok PUnit.unit (change state)) ∧
    (¬allowed → ∀ state, ∃ thrown last, program.run state = .error thrown last)

theorem Passes.always {program : EStateM ε σ PUnit}
    (ran : ∀ state, program.run state = .ok PUnit.unit (change state)) : Passes True change program :=
  ⟨fun _ => ran, fun never => absurd trivial never⟩

theorem Passes.never {program : EStateM ε σ PUnit}
    (ran : ∀ state, ∃ thrown last, program.run state = .error thrown last) :
    Passes False change program :=
  ⟨False.elim, fun _ => ran⟩

theorem Passes.congr {program : EStateM ε σ PUnit} (passes : Passes allowed change program)
    (same : allowed ↔ permitted) : Passes permitted change program := by
  rw [← propext same]
  exact passes

theorem Passes.bind {program next : EStateM ε σ PUnit} (first : Passes allowed change program)
    (second : Passes permitted onward next) :
    Passes (allowed ∧ permitted) (onward ∘ change) (program >>= fun _ => next) := by
  constructor
  · rintro ⟨here, there⟩ state
    rw [EStateM.run_bind, first.1 here state]
    exact second.1 there (change state)
  · intro refused state
    rw [EStateM.run_bind]
    by_cases here : allowed
    · rw [first.1 here state]
      exact second.2 (fun there => refused ⟨here, there⟩) (change state)
    · rcases first.2 here state with ⟨thrown, last, ran⟩
      rw [ran]
      exact ⟨thrown, last, rfl⟩

/-- A loop passes if each of its turns does, and the changes come one after the other. -/
theorem Passes.forM {accepts : α → Prop} {changes : α → σ → σ} {body : α → EStateM ε σ PUnit}
    {items : List α} (each : ∀ item ∈ items, Passes (accepts item) (changes item) (body item)) :
    Passes (∀ item ∈ items, accepts item)
      (fun state => items.foldl (fun last item => changes item last) state) (items.forM body) := by
  induction items with
  | nil => exact (Passes.always fun _ => rfl).congr (by simp)
  | cons item items ih =>
    have here := each item List.mem_cons_self
    have there := ih fun other member => each other (List.mem_cons_of_mem _ member)
    exact (here.bind there).congr List.forall_mem_cons.symm

end Passes

section Projecting

variable {τ : Type u} {view : σ → τ}

def viewed (view : σ → τ) : EStateM.Result ε σ α → EStateM.Result ε τ α
  | .ok value last => .ok value (view last)
  | .error thrown last => .error thrown (view last)

/-- From this state, a program does to what is seen of it what the model does. -/
def Projects (view : σ → τ) (program : EStateM ε σ α) (model : EStateM ε τ α) (state : σ) : Prop :=
  model.run (view state) = viewed view (program.run state)

theorem projects_pure (value : α) (state : σ) :
    Projects view (pure value : EStateM ε σ α) (pure value) state := rfl

theorem projects_modify {change : σ → σ} {seen : τ → τ} {state : σ}
    (same : seen (view state) = view (change state)) :
    Projects view (modify change : EStateM ε σ PUnit) (modify seen) state := by
  show EStateM.Result.ok _ (seen (view state)) = EStateM.Result.ok _ (view (change state))
  rw [same]

theorem projects_get_bind {next : σ → EStateM ε σ α} {onward : τ → EStateM ε τ α} {state : σ}
    (after : Projects view (next state) (onward (view state)) state) :
    Projects view (get >>= next) (get >>= onward) state := after

theorem Projects.bind {program : EStateM ε σ α} {model : EStateM ε τ α}
    {next : α → EStateM ε σ β} {onward : α → EStateM ε τ β} {state : σ}
    (first : Projects view program model state)
    (after : ∀ value last, program.run state = .ok value last →
      Projects view (next value) (onward value) last) :
    Projects view (program >>= next) (model >>= onward) state := by
  unfold Projects at first ⊢
  rw [EStateM.run_bind, EStateM.run_bind, first]
  cases ran : program.run state with
  | ok value last => exact after value last ran
  | error thrown last => rfl

end Projecting

end Throwing
