import Mathlib.Init

namespace Looping

universe u v

variable {Item : Type u} {State Thrown : Type v}

/-- What one round of a loop does, seen through a measure of its state: it fails, it breaks, or it
    goes on and adds to the measure. -/
inductive Effect
  | fail
  | stop
  | add (size : Nat)
  deriving DecidableEq, Repr

def Ends (effect : Item → Nat → Effect) (goal : Nat → Prop) : List Item → Nat → Prop
  | [], measure => goal measure
  | item :: items, measure =>
    match effect item measure with
    | .fail => False
    | .stop => goal measure
    | .add size => Ends effect goal items (measure + size)

def Shows (body : Item → State → Except Thrown (ForInStep State)) (invariant : State → Prop)
    (measure : State → Nat) (effect : Item → Nat → Effect) (item : Item) : Prop :=
  ∀ state, invariant state →
    match effect item (measure state) with
    | .fail => ∃ thrown, body item state = .error thrown
    | .stop => body item state = .ok (.done state)
    | .add size => ∃ next, body item state = .ok (.yield next) ∧ invariant next ∧
        measure next = measure state + size

variable {body : Item → State → Except Thrown (ForInStep State)} {invariant : State → Prop}
  {measure : State → Nat} {effect : Item → Nat → Effect}

theorem forIn_error {item : Item} {items : List Item} {state : State} {thrown : Thrown}
    (failed : body item state = .error thrown) :
    forIn (item :: items) state body = .error thrown := by
  rw [List.forIn_cons, failed]
  rfl

theorem forIn_done {item : Item} {items : List Item} {state last : State}
    (done : body item state = .ok (.done last)) : forIn (item :: items) state body = .ok last := by
  rw [List.forIn_cons, done]
  rfl

theorem forIn_yield {item : Item} {items : List Item} {state next : State}
    (round : body item state = .ok (.yield next)) :
    forIn (item :: items) state body = forIn items next body := by
  rw [List.forIn_cons, round]
  rfl

/-- The items of the rounds that a loop goes through. -/
def taken (effect : Item → Nat → Effect) : List Item → Nat → List Item
  | [], _ => []
  | item :: items, measure =>
    match effect item measure with
    | .fail | .stop => []
    | .add size => item :: taken effect items (measure + size)

theorem taken_map {Ref : Type u} (item : Ref → Item) (refs : List Ref) (start : Nat) :
    taken effect (refs.map item) start = (taken (fun ref => effect (item ref)) refs start).map item := by
  induction refs generalizing start with
  | nil => rfl
  | cons ref refs ih =>
    simp only [List.map_cons, taken]
    cases effect (item ref) start with
    | fail => rfl
    | stop => rfl
    | add size => simp only [ih, List.map_cons]

theorem ends_map {Ref : Type u} {goal : Nat → Prop} (item : Ref → Item) (refs : List Ref)
    (start : Nat) :
    Ends effect goal (refs.map item) start ↔ Ends (fun ref => effect (item ref)) goal refs start := by
  induction refs generalizing start with
  | nil => exact Iff.rfl
  | cons ref refs ih =>
    simp only [List.map_cons, Ends]
    cases effect (item ref) start with
    | fail => exact Iff.rfl
    | stop => exact Iff.rfl
    | add size => exact ih _

variable {Byte : Type u} {holds : List Byte → State → Prop} {entry : Item → List Byte}

/-- A round that goes on adds an entry to what the state holds. -/
def Adds (body : Item → State → Except Thrown (ForInStep State)) (holds : List Byte → State → Prop)
    (measure : State → Nat) (effect : Item → Nat → Effect) (entry : Item → List Byte)
    (item : Item) : Prop :=
  ∀ content state, holds content state →
    match effect item (measure state) with
    | .fail => ∃ thrown, body item state = .error thrown
    | .stop => body item state = .ok (.done state)
    | .add size => ∃ next, body item state = .ok (.yield next) ∧ holds (content ++ entry item) next ∧
        measure next = measure state + size

/-- A loop that does not fail adds the entries of the items it takes. -/
theorem forIn_adds {items : List Item}
    (adds_each : ∀ item ∈ items, Adds body holds measure effect entry item) (content : List Byte)
    {state : State} (start : holds content state) :
    (∃ thrown, forIn items state body = .error thrown ∧
      ∀ goal, ¬ Ends effect goal items (measure state)) ∨
    ∃ last, forIn items state body = .ok last ∧
      holds (content ++ (taken effect items (measure state)).flatMap entry) last ∧
      ∀ goal, Ends effect goal items (measure state) ↔ goal (measure last) := by
  induction items generalizing content state with
  | nil => exact .inr ⟨state, rfl, by simpa [taken] using start, fun _ => Iff.rfl⟩
  | cons item items ih =>
    have added := adds_each item List.mem_cons_self content state start
    simp only [Ends, taken]
    cases here : effect item (measure state) with
    | fail =>
      rw [here] at added
      rcases added with ⟨thrown, failed⟩
      exact .inl ⟨thrown, forIn_error failed, fun _ => not_false⟩
    | stop =>
      rw [here] at added
      exact .inr ⟨state, forIn_done added, by simpa using start, fun _ => Iff.rfl⟩
    | add size =>
      rw [here] at added
      rcases added with ⟨next, round, held, grown⟩
      dsimp only
      rw [forIn_yield round, ← grown, List.flatMap_cons, ← List.append_assoc]
      exact ih (fun other member => adds_each other (List.mem_cons_of_mem _ member)) _ held

/-- A loop fails exactly where its effects say so, and otherwise ends in a state that they tell
    the measure of. -/
theorem forIn_ends {items : List Item}
    (shows_each : ∀ item ∈ items, Shows body invariant measure effect item) {state : State}
    (start : invariant state) :
    (∃ thrown, forIn items state body = .error thrown ∧
      ∀ goal, ¬ Ends effect goal items (measure state)) ∨
    ∃ last, forIn items state body = .ok last ∧ invariant last ∧
      ∀ goal, Ends effect goal items (measure state) ↔ goal (measure last) := by
  have adds_each : ∀ item ∈ items,
      Adds body (fun _ : List PUnit => invariant) measure effect (fun _ => []) item :=
    fun item member _ => shows_each item member
  exact forIn_adds adds_each [] start

section Fitting

variable (suits : Item → Bool) (size : Item → Nat) (bound : Nat)

/-- The items at the front that suit, as far as there is room for them. -/
def fitting : List Item → Nat → List Item
  | [], _ => []
  | item :: items, measure =>
    if suits item ∧ measure + size item ≤ bound then
      item :: fitting items (measure + size item)
    else []

variable {suits size bound}

theorem fitting_front (items : List Item) (start : Nat) :
    fitting suits size bound items start <+: items := by
  induction items generalizing start with
  | nil => exact List.prefix_refl []
  | cons item items ih =>
    rw [fitting]
    split
    · exact List.cons_prefix_cons.mpr ⟨rfl, ih _⟩
    · exact List.nil_prefix

/-- All that fits is together no longer than there is room. -/
theorem fitting_length (entry : Item → List Byte) {items : List Item} {start : Nat}
    (low : start ≤ bound)
    (sizes : ∀ item ∈ fitting suits size bound items start, (entry item).length = size item) :
    start + ((fitting suits size bound items start).flatMap entry).length ≤ bound := by
  induction items generalizing start with
  | nil => simpa [fitting] using low
  | cons item items ih =>
    rw [fitting] at sizes ⊢
    split
    · rename_i room
      rw [if_pos room, List.forall_mem_cons] at sizes
      have rest := ih room.2 sizes.2
      rw [List.flatMap_cons, List.length_append, sizes.1]
      omega
    · simpa using low

/-- Items of one size are as many as there is room for, up to the first that does not suit. -/
theorem fitting_uniform {width : Nat} (positive : 0 < width) (items : List Item) (start : Nat) :
    fitting suits (fun _ => width) bound items start =
      (items.takeWhile suits).take ((bound - start) / width) := by
  induction items generalizing start with
  | nil => simp [fitting]
  | cons item items ih =>
    rw [fitting, List.takeWhile_cons]
    by_cases wanted : suits item
    · by_cases room : start + width ≤ bound
      · have more : (bound - start) / width = (bound - (start + width)) / width + 1 := by
          rw [← Nat.add_div_right _ positive]
          congr 1
          omega
        rw [if_pos ⟨wanted, room⟩, if_pos wanted, ih, more, List.take_succ_cons]
      · have none_left : (bound - start) / width = 0 := Nat.div_eq_of_lt (by omega)
        rw [if_neg fun both => room both.2, none_left, List.take_zero]
    · rw [if_neg fun both => wanted both.1, if_neg wanted, List.take_nil]

/-- A loop that fails at what is not ready, breaks at what does not suit or fit, and fails at what it
    can not add. -/
structure Fills (effect : Item → Nat → Effect) (suits : Item → Bool) (size : Item → Nat) (bound : Nat)
    (ready able : Item → Prop) : Prop where
  unready : ∀ item measure, ¬ ready item → effect item measure = .fail
  stops : ∀ item measure, ready item → ¬ (suits item ∧ measure + size item ≤ bound) →
    effect item measure = .stop
  adds : ∀ item measure, ready item → suits item → measure + size item ≤ bound → able item →
    effect item measure = .add (size item)
  unable : ∀ item measure, ready item → suits item → measure + size item ≤ bound → ¬ able item →
    effect item measure = .fail

variable {effect : Item → Nat → Effect} {ready able : Item → Prop}

theorem Fills.map {Ref : Type u} (fills : Fills effect suits size bound ready able)
    (item : Ref → Item) :
    Fills (fun ref => effect (item ref)) (fun ref => suits (item ref)) (fun ref => size (item ref)) bound
      (fun ref => ready (item ref)) fun ref => able (item ref) where
  unready ref := fills.unready (item ref)
  stops ref := fills.stops (item ref)
  adds ref := fills.adds (item ref)
  unable ref := fills.unable (item ref)

/-- Such a loop ends if it can add all that fits, and the item behind that is ready. -/
theorem Fills.ends_iff (fills : Fills effect suits size bound ready able) (items : List Item)
    (start : Nat) :
    Ends effect (fun _ => True) items start ↔
      (∀ item ∈ fitting suits size bound items start, ready item ∧ able item) ∧
        ∀ item, items[(fitting suits size bound items start).length]? = some item → ready item := by
  induction items generalizing start with
  | nil => simp [Ends, fitting]
  | cons item items ih =>
    rw [Ends, fitting]
    by_cases here : ready item
    · by_cases room : suits item ∧ start + size item ≤ bound
      · rw [if_pos room, List.forall_mem_cons, List.length_cons, List.getElem?_cons_succ]
        by_cases can : able item
        · rw [fills.adds item start here room.1 room.2 can]
          simp only [ih, here, can, and_self, true_and]
        · rw [fills.unable item start here room.1 room.2 can]
          simp only [can, and_false, false_and]
      · rw [if_neg room, fills.stops item start here room]
        simp [here]
    · rw [fills.unready item start here]
      refine iff_of_false not_false fun both => ?_
      split at both
      · exact here (both.1 item List.mem_cons_self).1
      · exact here (both.2 item rfl)

theorem Fills.taken_eq (fills : Fills effect suits size bound ready able) {items : List Item}
    {start : Nat} (ends : Ends effect (fun _ => True) items start) :
    taken effect items start = fitting suits size bound items start := by
  induction items generalizing start with
  | nil => rfl
  | cons item items ih =>
    rw [Ends] at ends
    rw [taken, fitting]
    by_cases here : ready item
    · by_cases room : suits item ∧ start + size item ≤ bound
      · by_cases can : able item
        · rw [fills.adds item start here room.1 room.2 can] at ends ⊢
          dsimp only at ends ⊢
          rw [if_pos room, ih ends]
        · rw [fills.unable item start here room.1 room.2 can] at ends
          exact absurd ends not_false
      · rw [fills.stops item start here room, if_neg room]
    · rw [fills.unready item start here] at ends
      exact absurd ends not_false

end Fitting

end Looping
