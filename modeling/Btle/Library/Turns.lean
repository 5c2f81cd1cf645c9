import Btle.Library.Machine

namespace Turns

open Machine

universe u v w x

variable {Item : Type u} {takes frees : Item → Bool}

/-- Some items take the turn, which has to be free, others free it. -/
def next (takes frees : Item → Bool) (taken : Bool) (item : Item) : Option Bool :=
  if frees item then some false
  else if takes item then if taken then none else some true
  else some taken

/-- Between any two items that take the turn there is one that frees it. -/
def Apart (takes frees : Item → Bool) (items : List Item) : Prop :=
  ∀ before first between second after,
    items = before ++ first :: (between ++ second :: after) →
      takes first = true → takes second = true → ∃ item ∈ between, frees item = true

/-- A turn that is taken is not taken again before it is freed. -/
theorem freed_before (disjoint : ∀ item, takes item = true → frees item = false)
    {between after : List Item} {second : Item} {last : Bool}
    (taking : takes second = true)
    (ran : (between ++ second :: after).foldlM (next takes frees) true = some last) :
    ∃ item ∈ between, frees item = true := by
  induction between with
  | nil =>
    have kept := disjoint second taking
    simp [next, taking, kept] at ran
  | cons item between ih =>
    by_cases freed : frees item = true
    · exact ⟨item, List.mem_cons_self, freed⟩
    · by_cases taken : takes item = true
      · simp [next, freed, taken] at ran
      · have onward : (between ++ second :: after).foldlM (next takes frees) true = some last := by
          simpa [next, freed, taken] using ran
        rcases ih onward with ⟨other, member, freeing⟩
        exact ⟨other, List.mem_cons_of_mem _ member, freeing⟩

theorem apart_of_accepted (disjoint : ∀ item, takes item = true → frees item = false)
    {items : List Item} {taken last : Bool}
    (ran : items.foldlM (next takes frees) taken = some last) : Apart takes frees items := by
  intro before first between second after whole one two
  subst whole
  rw [List.foldlM_append] at ran
  rcases Option.bind_eq_some_iff.mp ran with ⟨held, _, ran⟩
  rw [List.foldlM_cons] at ran
  rcases Option.bind_eq_some_iff.mp ran with ⟨now, stepped, ran⟩
  have kept := disjoint first one
  cases held with
  | true => simp [next, one, kept] at stepped
  | false =>
    have same : now = true := by simpa [next, one, kept] using stepped.symm
    subst same
    exact freed_before disjoint two ran

theorem idle_accepted {items : List Item}
    (idle : ∀ item ∈ items, takes item = false ∧ frees item = false) (taken : Bool) :
    items.foldlM (next takes frees) taken = some taken := by
  induction items with
  | nil => rfl
  | cons item items ih =>
    rw [List.forall_mem_cons] at idle
    rcases idle with ⟨⟨passes, keeps⟩, others⟩
    simp only [List.foldlM_cons, next, passes, keeps]
    exact ih others

section Runs

variable {State : Type v} {Event : Type w} {Fault : Type x} {step : Step State Event Item Fault}
  {invariant : State → Prop} {turn : State → Bool} {good : Item → Prop}

/-- Where each step accepts its own output, a run accepts all there is. -/
theorem run_accepted
    (each : ∀ state event after out, invariant state → step state event = .ok (after, out) →
      invariant after ∧ ((∀ item ∈ out, good item) →
        out.foldlM (next takes frees) (turn state) = some (turn after)))
    {state last : State} {events : List Event} {out : List Item} (start : invariant state)
    (ran : run step state events = .ok (last, out)) (all : ∀ item ∈ out, good item) :
    out.foldlM (next takes frees) (turn state) = some (turn last) := by
  induction events generalizing state out with
  | nil =>
    cases ran
    rfl
  | cons event events ih =>
    rcases run_cons_ok ran with ⟨middle, first, rest, stepped, onward, rfl⟩
    rcases each _ _ _ _ start stepped with ⟨kept, accepted⟩
    have here := accepted fun item member => all item (List.mem_append_left _ member)
    have later := ih kept onward fun item member => all item (List.mem_append_right _ member)
    rw [List.foldlM_append, here]
    exact later

end Runs

end Turns
