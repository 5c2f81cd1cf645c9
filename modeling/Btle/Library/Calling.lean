import Mathlib.Logic.Relation

namespace Calling

universe u v w x y

/-- A program that calls its environment and goes on with the answer. -/
inductive Program (Call : Type u) (Answer : Call → Type v) (α : Type w)
  | done (value : α)
  | ask (call : Call) (next : Answer call → Program Call Answer α)

namespace Program

variable {Call : Type u} {Answer : Call → Type v} {α β γ : Type w}

def bind (first : Program Call Answer α) (next : α → Program Call Answer β) : Program Call Answer β :=
  match first with
  | .done value => next value
  | .ask call onward => .ask call fun answer => (onward answer).bind next

instance : Monad (Program Call Answer) where
  pure := .done
  bind := bind

/-- One call, with its answer for a result. -/
def perform {Answer : Call → Type w} (call : Call) : Program Call Answer (Answer call) := .ask call .done

@[simp] theorem done_bind (value : α) (next : α → Program Call Answer β) :
    ((.done value : Program Call Answer α) >>= next) = next value := rfl

@[simp] theorem pure_eq (value : α) : (pure value : Program Call Answer α) = .done value := rfl

@[simp] theorem ask_bind (call : Call) (onward : Answer call → Program Call Answer α)
    (next : α → Program Call Answer β) :
    (.ask call onward >>= next) = .ask call fun answer => onward answer >>= next := rfl

@[simp] theorem perform_bind {Answer : Call → Type w} (call : Call)
    (next : Answer call → Program Call Answer β) : (perform call >>= next) = .ask call next := rfl

end Program

/-- What may be asked of an environment, and what it may answer and become. -/
structure Environment (State : Type x) (Call : Type u) (Answer : Call → Type v) where
  Legal : State → Call → Prop
  Answers : State → (call : Call) → Answer call → State → Prop

variable {State : Type x} {Call : Type u} {Answer : Call → Type v} {α β : Type w}

/-- Whatever the environment answers, the program asks nothing that it may not, and ends as told. -/
def Ensures (environment : Environment State Call Answer) :
    Program Call Answer α → State → (α → State → Prop) → Prop
  | .done value, state, goal => goal value state
  | .ask call next, state, goal => environment.Legal state call ∧
      ∀ answer after, environment.Answers state call answer after →
        Ensures environment (next answer) after goal

section Rules

variable {environment : Environment State Call Answer} {state : State} {goal : α → State → Prop}

theorem Ensures.mono {program : Program Call Answer α} {wider : α → State → Prop}
    (ensures : Ensures environment program state goal)
    (wide : ∀ value state, goal value state → wider value state) :
    Ensures environment program state wider := by
  induction program generalizing state with
  | done value => exact wide value state ensures
  | ask call next ih =>
    exact ⟨ensures.1, fun answer after answered => ih answer (ensures.2 answer after answered)⟩

theorem ensures_bind_iff {first : Program Call Answer α} {next : α → Program Call Answer β}
    {goal : β → State → Prop} :
    Ensures environment (first >>= next) state goal ↔
      Ensures environment first state fun value after => Ensures environment (next value) after goal := by
  induction first generalizing state with
  | done value => exact Iff.rfl
  | ask call onward ih =>
    apply and_congr_right
    intro _
    exact forall_congr' fun answer => forall_congr' fun after => imp_congr_right fun _ => ih answer

theorem Ensures.bind {first : Program Call Answer α} {next : α → Program Call Answer β}
    {middle : α → State → Prop} {goal : β → State → Prop}
    (ensures : Ensures environment first state middle)
    (onward : ∀ value after, middle value after → Ensures environment (next value) after goal) :
    Ensures environment (first >>= next) state goal :=
  ensures_bind_iff.mpr (ensures.mono onward)

theorem Ensures.and {program : Program Call Answer α} {other : α → State → Prop}
    (one : Ensures environment program state goal) (two : Ensures environment program state other) :
    Ensures environment program state fun value after => goal value after ∧ other value after := by
  induction program generalizing state with
  | done value => exact ⟨one, two⟩
  | ask call next ih =>
    exact ⟨one.1, fun answer after answered =>
      ih answer (one.2 answer after answered) (two.2 answer after answered)⟩

end Rules

section Runs

variable {environment : Environment State Call Answer}

/-- The environment answers the next call of a program. -/
inductive Moves (environment : Environment State Call Answer) :
    Program Call Answer α × State → Program Call Answer α × State → Prop
  | answer (call : Call) (next : Answer call → Program Call Answer α) (answer : Answer call)
      (state after : State) (answered : environment.Answers state call answer after) :
      Moves environment (.ask call next, state) (next answer, after)

/-- To ensure something is to have it at the end of every run, and to ask in none of them what may not
    be asked. -/
theorem ensures_iff_runs {program : Program Call Answer α} {state : State} {goal : α → State → Prop} :
    Ensures environment program state goal ↔
      ∀ reached : Program Call Answer α × State,
        Relation.ReflTransGen (Moves environment) (program, state) reached →
          (∀ call next, reached.1 = .ask call next → environment.Legal reached.2 call) ∧
            ∀ value, reached.1 = .done value → goal value reached.2 := by
  constructor
  · intro ensures reached steps
    have still : Ensures environment reached.1 reached.2 goal := by
      induction steps with
      | refl => exact ensures
      | tail _ moved ih =>
        cases moved with
        | answer call next answer state after answered => exact ih.2 answer after answered
    obtain ⟨rest, last⟩ := reached
    constructor
    · rintro call next rfl
      exact still.1
    · rintro value rfl
      exact still
  · intro sound
    induction program generalizing state with
    | done value => exact (sound _ .refl).2 value rfl
    | ask call next ih =>
      refine ⟨(sound _ .refl).1 call next rfl, fun answer after answered => ih answer ?_⟩
      intro reached steps
      exact sound reached (.head (.answer call next answer state after answered) steps)

/-- The program can end with the value in the state. -/
def Ends (environment : Environment State Call Answer) (program : Program Call Answer α) (state : State)
    (value : α) (after : State) : Prop :=
  Relation.ReflTransGen (Moves environment) (program, state) (.done value, after)

theorem Ensures.ends {program : Program Call Answer α} {state after : State} {value : α}
    {goal : α → State → Prop} (ensures : Ensures environment program state goal)
    (ends : Ends environment program state value after) : goal value after :=
  (ensures_iff_runs.mp ensures _ ends).2 value rfl

/-- The run against an environment that answers by a function. -/
def Program.runOn (answers : State → (call : Call) → Answer call × State) :
    Program Call Answer α → State → α × State
  | .done value, state => (value, state)
  | .ask call next, state =>
    let (answer, after) := answers state call
    (next answer).runOn answers after

theorem Program.runOn_bind (answers : State → (call : Call) → Answer call × State)
    (first : Program Call Answer α) (next : α → Program Call Answer β) (state : State) :
    (first >>= next).runOn answers state =
      (next (first.runOn answers state).1).runOn answers (first.runOn answers state).2 := by
  induction first generalizing state with
  | done value => rfl
  | ask call onward ih => exact ih _ _

theorem ends_runOn {answers : State → (call : Call) → Answer call × State}
    (able : ∀ state call, environment.Answers state call (answers state call).1 (answers state call).2)
    (program : Program Call Answer α) (state : State) :
    Ends environment program state (program.runOn answers state).1 (program.runOn answers state).2 := by
  induction program generalizing state with
  | done value => exact .refl
  | ask call next ih =>
    exact .head (.answer call next _ state _ (able state call)) (ih _ (answers state call).2)

end Runs

section Only

variable {allowed : Call → Prop}

/-- The program makes calls of one kind only, whatever it is answered. -/
def Only (allowed : Call → Prop) : Program Call Answer α → Prop
  | .done _ => True
  | .ask call next => allowed call ∧ ∀ answer, Only allowed (next answer)

theorem only_perform {Answer : Call → Type w} {call : Call} (fine : allowed call) :
    Only allowed (.perform call : Program Call Answer (Answer call)) := ⟨fine, fun _ => trivial⟩

theorem Only.bind {first : Program Call Answer α} {next : α → Program Call Answer β}
    (only : Only allowed first) (onward : ∀ value, Only allowed (next value)) :
    Only allowed (first >>= next) := by
  induction first with
  | done value => exact onward value
  | ask call asked ih => exact ⟨only.1, fun answer => ih answer (only.2 answer)⟩

theorem Only.mono {wider : Call → Prop} {program : Program Call Answer α} (only : Only allowed program)
    (wide : ∀ call, allowed call → wider call) : Only wider program := by
  induction program with
  | done value => trivial
  | ask call next ih => exact ⟨wide call only.1, fun answer => ih answer (only.2 answer)⟩

/-- Calls that may be made and that keep an invariant make a program that may be run and keeps it. -/
theorem Only.ensures {environment : Environment State Call Answer} {invariant : State → Prop}
    {program : Program Call Answer α} (only : Only allowed program)
    (legal : ∀ state call, invariant state → allowed call → environment.Legal state call)
    (kept : ∀ state call answer after, invariant state → allowed call →
      environment.Answers state call answer after → invariant after)
    {state : State} (holds : invariant state) :
    Ensures environment program state fun _ after => invariant after := by
  induction program generalizing state with
  | done value => exact holds
  | ask call next ih =>
    refine ⟨legal state call holds only.1, fun answer after answered => ih answer (only.2 answer) ?_⟩
    exact kept state call answer after holds only.1 answered

end Only

section Yields

variable {good : α → Prop}

/-- Whatever the program is answered, its result is good. -/
def Yields (good : α → Prop) : Program Call Answer α → Prop
  | .done value => good value
  | .ask _ next => ∀ answer, Yields good (next answer)

theorem Yields.bind {reached : β → Prop} {first : Program Call Answer α} {next : α → Program Call Answer β}
    (yields : Yields good first) (onward : ∀ value, good value → Yields reached (next value)) :
    Yields reached (first >>= next) := by
  induction first with
  | done value => exact onward value yields
  | ask call asked ih => exact fun answer => ih answer (yields answer)

theorem Yields.mono {wider : α → Prop} {program : Program Call Answer α} (yields : Yields good program)
    (wide : ∀ value, good value → wider value) : Yields wider program := by
  induction program with
  | done value => exact wide value yields
  | ask call next ih => exact fun answer => ih answer (yields answer)

theorem yields_of_all (all : ∀ value, good value) (program : Program Call Answer α) :
    Yields good program := by
  induction program with
  | done value => exact all value
  | ask call next ih => exact ih

theorem Yields.ensures {environment : Environment State Call Answer} {program : Program Call Answer α}
    (yields : Yields good program) {state : State} {goal : α → State → Prop}
    (ensures : Ensures environment program state goal) :
    Ensures environment program state fun value after => good value ∧ goal value after := by
  induction program generalizing state with
  | done value => exact ⟨yields, ensures⟩
  | ask call next ih =>
    exact ⟨ensures.1, fun answer after answered => ih answer (yields answer) (ensures.2 answer after answered)⟩

end Yields

section Views

variable {Coarse : Type y}

/-- An environment that does nothing that a coarser one, which sees less of the state, does not do. -/
def Views (view : State → Coarse) (fine : Environment State Call Answer)
    (coarse : Environment Coarse Call Answer) : Prop :=
  ∀ state call answer after, fine.Answers state call answer after →
    coarse.Answers (view state) call answer (view after)

variable {view : State → Coarse} {fine : Environment State Call Answer}
  {coarse : Environment Coarse Call Answer}

/-- What is ensured of the coarser environment is ensured of the finer one, where that may be asked as
    much. -/
theorem Views.ensures (views : Views view fine coarse)
    (legal : ∀ state call, coarse.Legal (view state) call → fine.Legal state call)
    {program : Program Call Answer α} {state : State} {goal : α → Coarse → Prop}
    (ensures : Ensures coarse program (view state) goal) :
    Ensures fine program state fun value after => goal value (view after) := by
  induction program generalizing state with
  | done value => exact ensures
  | ask call next ih =>
    refine ⟨legal state call ensures.1, fun answer after answered => ih answer ?_⟩
    exact ensures.2 answer (view after) (views state call answer after answered)

/-- A program that may be run on the finer environment ensures there what it ensures on the coarser. -/
theorem Views.and (views : Views view fine coarse) {program : Program Call Answer α} {state : State}
    {goal : α → State → Prop} {seen : α → Coarse → Prop} (runs : Ensures fine program state goal)
    (ensures : Ensures coarse program (view state) seen) :
    Ensures fine program state fun value after => goal value after ∧ seen value (view after) := by
  induction program generalizing state with
  | done value => exact ⟨runs, ensures⟩
  | ask call next ih =>
    refine ⟨runs.1, fun answer after answered => ih answer (runs.2 answer after answered) ?_⟩
    exact ensures.2 answer (view after) (views state call answer after answered)

end Views

end Calling
