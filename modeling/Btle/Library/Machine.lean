import Mathlib.Data.List.Basic
import Mathlib.Algebra.Order.BigOperators.Group.List

namespace Machine

universe u v w x

variable {State : Type u} {Event : Type v} {Output : Type w} {Fault : Type x}

/-- One event is handled to the end: it stops the machine with a fault, or leaves the next
    state and the list of what was emitted, in order. -/
abbrev Step (State : Type u) (Event : Type v) (Output : Type w) (Fault : Type x) :=
  State → Event → Except Fault (State × List Output)

def run (step : Step State Event Output Fault) (state : State) :
    List Event → Except Fault (State × List Output)
  | [] => .ok (state, [])
  | event :: events =>
    match step state event with
    | .error fault => .error fault
    | .ok (next, out) =>
      match run step next events with
      | .error fault => .error fault
      | .ok (last, rest) => .ok (last, out ++ rest)

/-- The steps a run takes, each with the state it starts from. A faulting step is the last. -/
def visited (step : Step State Event Output Fault) (state : State) :
    List Event → List (State × Event)
  | [] => []
  | event :: events =>
    (state, event) ::
      match step state event with
      | .error _ => []
      | .ok (next, _) => visited step next events

def Reachable (step : Step State Event Output Fault) (start state : State) : Prop :=
  ∃ events out, run step start events = .ok (state, out)

def Preserves (step : Step State Event Output Fault) (invariant : State → Prop) : Prop :=
  ∀ state event next out, invariant state → step state event = .ok (next, out) → invariant next

variable {step : Step State Event Output Fault} {invariant : State → Prop}

theorem run_nil (state : State) : run step state [] = .ok (state, []) := rfl

theorem run_cons_ok {state last : State} {event : Event} {events : List Event} {out : List Output}
    (h : run step state (event :: events) = .ok (last, out)) :
    ∃ next first rest, step state event = .ok (next, first) ∧
      run step next events = .ok (last, rest) ∧ out = first ++ rest := by
  simp only [run] at h
  split at h
  · cases h
  · rename_i next first stepped
    split at h
    · cases h
    · rename_i final rest ran
      cases h
      exact ⟨next, first, rest, stepped, ran, rfl⟩

/-- A machine that does to what is seen of a state what another does to the state runs as that one. -/
theorem run_viewed {Seen Notice : Type*} {model : Step Seen Notice Output Fault} {view : State → Seen}
    {notice : Event → Notice} (each : ∀ state event, model (view state) (notice event) =
      (step state event).map fun done => (view done.1, done.2)) (state : State) (events : List Event) :
    run model (view state) (events.map notice) =
      (run step state events).map fun done => (view done.1, done.2) := by
  induction events generalizing state with
  | nil => rfl
  | cons event events ih =>
    rw [List.map_cons]
    unfold run
    rw [each]
    cases step state event with
    | error fault => rfl
    | ok done =>
      dsimp only [Except.map]
      rw [ih]
      cases run step done.1 events <;> rfl

theorem run_append_ok {state last : State} {earlier later : List Event} {out : List Output}
    (h : run step state (earlier ++ later) = .ok (last, out)) :
    ∃ middle first rest, run step state earlier = .ok (middle, first) ∧
      run step middle later = .ok (last, rest) := by
  induction earlier generalizing state out with
  | nil => exact ⟨state, [], out, rfl, h⟩
  | cons event earlier ih =>
    rcases run_cons_ok h with ⟨next, first, rest, stepped, ran, _⟩
    rcases ih ran with ⟨middle, more, final, before, after⟩
    exact ⟨middle, first ++ more, final, by simp only [run, stepped, before], after⟩

theorem run_cons_of_step {state next last : State} {event : Event} {events : List Event}
    {first rest : List Output} (stepped : step state event = .ok (next, first))
    (ran : run step next events = .ok (last, rest)) :
    run step state (event :: events) = .ok (last, first ++ rest) := by
  simp only [run, stepped, ran]

theorem visited_cons_of_step {state next : State} {event : Event} {out : List Output}
    (stepped : step state event = .ok (next, out)) (events : List Event) :
    visited step state (event :: events) = (state, event) :: visited step next events := by
  simp only [visited, stepped]

theorem visited_cons_of_fault {state : State} {event : Event} {fault : Fault}
    (stepped : step state event = .error fault) (events : List Event) :
    visited step state (event :: events) = [(state, event)] := by
  simp only [visited, stepped]

theorem run_preserves (preserve : Preserves step invariant) {state last : State}
    {events : List Event} {out : List Output} (start : invariant state)
    (h : run step state events = .ok (last, out)) : invariant last := by
  induction events generalizing state out with
  | nil => cases h; exact start
  | cons event events ih =>
    rcases run_cons_ok h with ⟨next, first, rest, stepped, ran, _⟩
    exact ih (preserve _ _ _ _ start stepped) ran

section Valid

variable {valid : Event → Prop} {state last : State} {events : List Event} {out : List Output}

/-- An invariant that valid events preserve holds at the end of a run of them. -/
theorem run_preserves_of_valid
    (preserve : ∀ state event next out, invariant state → valid event →
      step state event = .ok (next, out) → invariant next)
    (start : invariant state) (all_valid : ∀ event ∈ events, valid event)
    (h : run step state events = .ok (last, out)) : invariant last := by
  induction events generalizing state out with
  | nil => cases h; exact start
  | cons event events ih =>
    obtain ⟨next, first, rest, stepped, ran, _⟩ := run_cons_ok h
    obtain ⟨here, later⟩ := List.forall_mem_cons.mp all_valid
    exact ih (preserve _ _ _ _ start here stepped) later ran

/-- What every valid event emits in a state of the invariant, a run of them emits. -/
theorem run_emits_of_valid {property : Output → Prop}
    (preserve : ∀ state event next out, invariant state → valid event →
      step state event = .ok (next, out) → invariant next)
    (each : ∀ state event next out, invariant state → valid event →
      step state event = .ok (next, out) → ∀ output ∈ out, property output)
    (start : invariant state) (all_valid : ∀ event ∈ events, valid event)
    (h : run step state events = .ok (last, out)) : ∀ output ∈ out, property output := by
  induction events generalizing state out with
  | nil =>
    cases h
    exact List.forall_mem_nil _
  | cons event events ih =>
    obtain ⟨next, first, rest, stepped, ran, rfl⟩ := run_cons_ok h
    obtain ⟨here, later⟩ := List.forall_mem_cons.mp all_valid
    intro output member
    rcases List.mem_append.mp member with now | after
    · exact each _ _ _ _ start here stepped output now
    · exact ih (preserve _ _ _ _ start here stepped) later ran output after

end Valid

theorem Reachable.preserved (preserve : Preserves step invariant) {start state : State}
    (initial : invariant start) (h : Reachable step start state) : invariant state := by
  rcases h with ⟨_, _, ran⟩
  exact run_preserves preserve initial ran

theorem visited_event {state : State} {events : List Event} {taken : State × Event}
    (member : taken ∈ visited step state events) : taken.2 ∈ events := by
  induction events generalizing state with
  | nil => cases member
  | cons event events ih =>
    rcases List.mem_cons.mp member with rfl | member
    · exact List.mem_cons_self
    · cases stepped : step state event with
      | error fault => simp [stepped] at member
      | ok result =>
        rw [stepped] at member
        exact List.mem_cons_of_mem _ (ih member)

/-- An invariant that valid events preserve holds wherever a run of them gets. -/
theorem visited_preserves_of_valid {valid : State → Event → Prop}
    (preserve : ∀ state event next out, invariant state → valid state event →
      step state event = .ok (next, out) → invariant next)
    {state : State} {events : List Event} (start : invariant state)
    (all_valid : ∀ taken ∈ visited step state events, valid taken.1 taken.2) :
    ∀ taken ∈ visited step state events, invariant taken.1 := by
  induction events generalizing state with
  | nil => simp [visited]
  | cons event events ih =>
    cases stepped : step state event with
    | error fault =>
      rw [visited_cons_of_fault stepped, List.forall_mem_singleton]
      exact start
    | ok result =>
      rcases result with ⟨next, out⟩
      rw [visited_cons_of_step stepped, List.forall_mem_cons] at all_valid ⊢
      have kept : invariant next := preserve _ _ _ _ start all_valid.1 stepped
      exact ⟨start, ih kept all_valid.2⟩

theorem visited_preserves (preserve : Preserves step invariant) {state : State}
    {events : List Event} (start : invariant state) :
    ∀ taken ∈ visited step state events, invariant taken.1 := by
  have preserves : ∀ state event next out, invariant state → True →
      step state event = .ok (next, out) → invariant next := by
    intro state event next out holds _ stepped
    exact preserve state event next out holds stepped
  exact visited_preserves_of_valid preserves start fun _ _ => trivial

/-- Two judgements of single steps that agree wherever the invariant holds agree on every run. -/
theorem visited_forall_congr (preserve : Preserves step invariant) {state : State}
    {events : List Event} (start : invariant state) {left right : State → Event → Prop}
    (agree : ∀ state event, invariant state → (left state event ↔ right state event)) :
    (∀ taken ∈ visited step state events, left taken.1 taken.2) ↔
      ∀ taken ∈ visited step state events, right taken.1 taken.2 := by
  have held : ∀ taken ∈ visited step state events, invariant taken.1 :=
    visited_preserves preserve start
  constructor
  · intro h taken member
    exact (agree _ _ (held taken member)).mp (h taken member)
  · intro h taken member
    exact (agree _ _ (held taken member)).mpr (h taken member)

def Stays (step : Step State Event Output Fault) (start : State) (events : List Event)
    (property : State → Prop) : Prop :=
  ∀ earlier, earlier <+: events → ∀ last out, run step start earlier = .ok (last, out) → property last

theorem stays_of_valid {valid : State → Event → Prop}
    (preserve : ∀ state event next out, invariant state → valid state event →
      step state event = .ok (next, out) → invariant next)
    {start : State} {events : List Event} (initial : invariant start)
    (all_valid : ∀ taken ∈ visited step start events, valid taken.1 taken.2) :
    Stays step start events invariant := by
  induction events generalizing start with
  | nil =>
    intro earlier inside last out ran
    rw [List.prefix_nil.mp inside] at ran
    cases ran
    exact initial
  | cons event events ih =>
    intro earlier inside last out ran
    cases earlier with
    | nil =>
      cases ran
      exact initial
    | cons other earlier =>
      rcases List.cons_prefix_cons.mp inside with ⟨rfl, shorter⟩
      rcases run_cons_ok ran with ⟨next, _, _, stepped, onward, _⟩
      rw [visited_cons_of_step stepped, List.forall_mem_cons] at all_valid
      have kept : invariant next := preserve _ _ _ _ initial all_valid.1 stepped
      exact ih kept all_valid.2 earlier shorter last _ onward

/-- Where one step keeps a property exactly if it is a careful one, a run does so exactly if all
    its steps are. -/
theorem stays_iff {sound property : State → Prop} {valid careful : State → Event → Prop}
    (total : ∀ state event, ∃ next out, step state event = .ok (next, out))
    (holds : ∀ state, sound state → property state)
    (exact_step : ∀ state event next out, sound state → valid state event →
      step state event = .ok (next, out) →
        (careful state event → sound next) ∧ (property next → careful state event))
    {start : State} (initial : sound start) {events : List Event}
    (all_valid : ∀ taken ∈ visited step start events, valid taken.1 taken.2) :
    Stays step start events property ↔
      ∀ taken ∈ visited step start events, careful taken.1 taken.2 := by
  induction events generalizing start with
  | nil =>
    refine iff_of_true ?_ (by simp [visited])
    intro earlier inside last out ran
    rw [List.prefix_nil.mp inside] at ran
    cases ran
    exact holds _ initial
  | cons event events ih =>
    rcases total start event with ⟨next, out, stepped⟩
    rw [visited_cons_of_step stepped] at all_valid ⊢
    rw [List.forall_mem_cons] at all_valid ⊢
    rcases exact_step start event next out initial all_valid.1 stepped with ⟨keeps, needs⟩
    constructor
    · intro stays
      have one := run_cons_of_step stepped (run_nil next)
      have first := needs (stays [event] ⟨events, rfl⟩ next _ one)
      refine ⟨first, (ih (keeps first) all_valid.2).mp ?_⟩
      intro earlier inside last rest ran
      exact stays (event :: earlier) (List.cons_prefix_cons.mpr ⟨rfl, inside⟩) last _
        (run_cons_of_step stepped ran)
    · intro each earlier inside last emitted ran
      rcases each with ⟨first, rest⟩
      cases earlier with
      | nil =>
        cases ran
        exact holds _ initial
      | cons other earlier =>
        rcases List.cons_prefix_cons.mp inside with ⟨rfl, shorter⟩
        rcases run_cons_ok ran with ⟨after, _, _, taken, ran, _⟩
        rw [stepped] at taken
        cases taken
        exact (ih (keeps first) all_valid.2).mpr rest earlier shorter last _ ran

section along

variable {Call Seen : Type*} (after : Seen → Call → Seen) (allows : Seen → Call → Prop)

/-- Calls made one after the other, each judged where the calls before it lead. -/
def Along : Seen → List Call → Prop
  | _, [] => True
  | seen, call :: calls => allows seen call ∧ Along (after seen call) calls

variable {after allows} {make : State → Call → State} {view : State → Seen}
  {sound property : State → Prop}

/-- Where one call keeps a property exactly if it is allowed, a list of calls does so exactly if
    each is allowed in its turn. -/
theorem along_exact
    (exact_call : ∀ state call, sound state →
      (allows (view state) call →
        sound (make state call) ∧ view (make state call) = after (view state) call) ∧
      (property (make state call) → allows (view state) call))
    (earlier : ∀ state call, property (make state call) → property state)
    {state : State} (start : sound state) (calls : List Call) :
    (Along after allows (view state) calls → sound (calls.foldl make state)) ∧
      (property (calls.foldl make state) → Along after allows (view state) calls) := by
  have all_earlier : ∀ (calls : List Call) state, property (calls.foldl make state) → property state := by
    intro calls
    induction calls with
    | nil => exact fun _ holds => holds
    | cons call calls ih => exact fun state holds => earlier state call (ih _ holds)
  induction calls generalizing state with
  | nil => exact ⟨fun _ => start, fun _ => trivial⟩
  | cons call calls ih =>
    rcases exact_call state call start with ⟨keeps, needs⟩
    constructor
    · rintro ⟨here, onward⟩
      rcases keeps here with ⟨sound_next, seen⟩
      rw [← seen] at onward
      exact (ih sound_next).1 onward
    · intro holds
      have here : allows (view state) call := needs (all_earlier calls _ holds)
      rcases keeps here with ⟨sound_next, seen⟩
      have onward := (ih sound_next).2 holds
      rw [seen] at onward
      exact ⟨here, onward⟩

end along

/-- Progress and preservation: where every valid event is handled and leads on to a sound state, a
    run of them reaches its end. -/
theorem run_completes {sound : State → Prop} {valid : State → Event → Prop}
    (progress : ∀ state event, sound state → valid state event →
      ∃ next out, step state event = .ok (next, out) ∧ sound next)
    {start : State} (initial : sound start) {events : List Event}
    (all_valid : ∀ taken ∈ visited step start events, valid taken.1 taken.2) :
    ∃ last out, run step start events = .ok (last, out) := by
  induction events generalizing start with
  | nil => exact ⟨start, [], rfl⟩
  | cons event events ih =>
    have here : valid start event := all_valid (start, event) List.mem_cons_self
    rcases progress start event initial here with ⟨next, first, stepped, sound_next⟩
    rw [visited_cons_of_step stepped, List.forall_mem_cons] at all_valid
    rcases ih sound_next all_valid.2 with ⟨last, rest, ran⟩
    exact ⟨last, first ++ rest, run_cons_of_step stepped ran⟩

/-- Double entry over a whole run: what every step books, the run books. -/
theorem run_balance {Account : Type*} [AddCommMonoid Account] {balance : State → Account}
    {debit : Event → Account} {credit : Output → Account}
    (books : ∀ state event next out, step state event = .ok (next, out) →
      balance state + debit event = (out.map credit).sum + balance next)
    {state last : State} {events : List Event} {out : List Output}
    (h : run step state events = .ok (last, out)) :
    balance state + (events.map debit).sum = (out.map credit).sum + balance last := by
  induction events generalizing state out with
  | nil => cases h; simp
  | cons event events ih =>
    rcases run_cons_ok h with ⟨next, first, rest, stepped, ran, rfl⟩
    calc balance state + ((event :: events).map debit).sum
        = (balance state + debit event) + (events.map debit).sum := by
          rw [List.map_cons, List.sum_cons, add_assoc]
      _ = (first.map credit).sum + (balance next + (events.map debit).sum) := by
          rw [books _ _ _ _ stepped, add_assoc]
      _ = ((first ++ rest).map credit).sum + balance last := by
          rw [ih ran, List.map_append, List.sum_append, add_assoc]

/-- Double entry where a step may add to what is booked, and lose some of it in a way that depends on
    the state. -/
theorem run_ledger {Account : Type*} [AddCancelCommMonoid Account] {sound : State → Prop}
    {stock made : State → Account} {credit : Output → Account} (debit : State × Event → Account)
    (preserve : Preserves step sound)
    (books : ∀ state event next out, sound state → step state event = .ok (next, out) →
      stock state + made next = made state + (stock next + (out.map credit).sum + debit (state, event)))
    {state last : State} {events : List Event} {out : List Output} (start : sound state)
    (h : run step state events = .ok (last, out)) :
    stock state + made last = made state +
      (stock last + (out.map credit).sum + ((visited step state events).map debit).sum) := by
  induction events generalizing state out with
  | nil =>
    cases h
    simp [visited, add_comm]
  | cons event events ih =>
    obtain ⟨next, first, rest, stepped, ran, rfl⟩ := run_cons_ok h
    have here := books _ _ _ _ start stepped
    have onward := ih (preserve _ _ _ _ start stepped) ran
    rw [visited_cons_of_step stepped, List.map_cons, List.sum_cons, List.map_append, List.sum_append]
    apply add_right_cancel (b := made next)
    calc stock state + made last + made next
        = (stock state + made next) + made last := add_right_comm _ _ _
      _ = made state + ((first.map credit).sum + debit (state, event)) + (stock next + made last) := by
          rw [here]
          ac_rfl
      _ = _ := by
          rw [onward]
          ac_rfl

/-- What each step puts out of a stock, the run puts out of it. -/
theorem run_counts {counted : Output → Bool} {stock : State → Nat}
    (books : ∀ state event next out, step state event = .ok (next, out) →
      stock state = out.countP counted + stock next)
    {state last : State} {events : List Event} {out : List Output}
    (h : run step state events = .ok (last, out)) : stock state = out.countP counted + stock last := by
  induction events generalizing state out with
  | nil =>
    cases h
    exact (Nat.zero_add _).symm
  | cons event events ih =>
    rcases run_cons_ok h with ⟨next, first, rest, stepped, ran, rfl⟩
    rw [books _ _ _ _ stepped, ih ran, List.countP_append, Nat.add_assoc]

end Machine
