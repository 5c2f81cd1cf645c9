import Mathlib.Data.Option.Basic

namespace Memo

universe u v w x

variable {State : Type u} {Event : Type v} {Key : Type w} {Value : Type x} [DecidableEq Key]

/-- What an offer brings to a key. -/
def offered (key : Key) (offer : Option (Key × Value)) : Option Value :=
  (offer.filter fun given => given.1 = key).map Prod.snd

/-- An event may offer a value for one key, which is kept if there is none for it yet. -/
def FirstWins (step : State → Event → State) (entry : State → Option Value)
    (offer : State → Event → Option (Key × Value)) (key : Key) (invariant : State → Prop) : Prop :=
  ∀ state event, invariant state →
    entry (step state event) = (entry state).or (offered key (offer state event))

def firstOffer (step : State → Event → State) (offer : State → Event → Option (Key × Value))
    (key : Key) (state : State) : List Event → Option Value
  | [] => none
  | event :: events =>
    (offered key (offer state event)).or (firstOffer step offer key (step state event) events)

variable {step : State → Event → State} {entry : State → Option Value}
  {offer : State → Event → Option (Key × Value)} {key : Key} {invariant : State → Prop}

theorem offered_self (value : Value) : offered key (some (key, value)) = some value := by
  simp [offered]

theorem offered_other {other : Key} (differs : other ≠ key) (value : Value) :
    offered key (some (other, value)) = none := by
  simp [offered, differs]

theorem offered_none : offered key (none : Option (Key × Value)) = none := rfl

theorem foldl_invariant (preserve : ∀ state event, invariant state → invariant (step state event))
    {state : State} (start : invariant state) (events : List Event) :
    invariant (events.foldl step state) := by
  induction events generalizing state with
  | nil => exact start
  | cons event events ih => exact ih (preserve state event start)

/-- After a run there is under a key what was there, or else the first value offered for it. -/
theorem entry_foldl (wins : FirstWins step entry offer key invariant)
    (preserve : ∀ state event, invariant state → invariant (step state event)) {state : State}
    (start : invariant state) (events : List Event) :
    entry (events.foldl step state) = (entry state).or (firstOffer step offer key state events) := by
  induction events generalizing state with
  | nil => simp [firstOffer]
  | cons event events ih =>
    rw [List.foldl_cons, ih (preserve state event start), wins state event start, Option.or_assoc]
    rfl

end Memo
