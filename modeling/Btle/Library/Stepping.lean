import Mathlib.Logic.Function.Iterate

namespace Stepping

universe u

variable {State : Type u} {goes : State → Prop} {next : State → State} {start : State}

/-- A loop that goes on from state to state enters the round with this number, from 0 on. -/
def Enters (goes : State → Prop) (next : State → State) (start : State) (round : Nat) : Prop :=
  ∀ earlier ≤ round, goes (next^[earlier] start)

def StopsWithin (goes : State → Prop) (next : State → State) (start : State) (rounds : Nat) : Prop :=
  ∃ round ≤ rounds, ¬ goes (next^[round] start)

/-- Every round that is entered raises the measure. -/
def Rises (goes : State → Prop) (next : State → State) (start : State) (measure : State → Int) :
    Prop :=
  ∀ round, Enters goes next start round →
    measure (next^[round] start) + 1 ≤ measure (next^[round + 1] start)

variable {measure : State → Int}

theorem Enters.earlier {round earlier : Nat} (enters : Enters goes next start round)
    (before : earlier ≤ round) : Enters goes next start earlier :=
  fun first at_most => enters first (Nat.le_trans at_most before)

theorem rises_of_step (raises : ∀ state, goes state → measure state + 1 ≤ measure (next state)) :
    Rises goes next start measure := by
  intro round enters
  rw [Function.iterate_succ_apply']
  exact raises _ (enters round (Nat.le_refl round))

theorem Rises.measure_ge (rises : Rises goes next start measure) {round : Nat}
    (enters : Enters goes next start round) :
    measure start + round ≤ measure (next^[round] start) := by
  induction round with
  | zero => simp
  | succ round ih =>
    have before := ih (enters.earlier (Nat.le_succ round))
    have raised := rises round (enters.earlier (Nat.le_succ round))
    push_cast
    omega

/-- A loop that only goes on below a limit, and rises, takes no more rounds than there are up to it. -/
theorem Rises.stopsWithin (rises : Rises goes next start measure) {limit : Int}
    (below : ∀ state, goes state → measure state < limit) (low : 0 ≤ measure start) :
    StopsWithin goes next start limit.toNat := by
  by_contra endless
  have enters : Enters goes next start limit.toNat := by
    intro round at_most
    by_contra stopped
    exact endless ⟨round, at_most, stopped⟩
  have high := rises.measure_ge enters
  have under := below _ (enters limit.toNat (Nat.le_refl _))
  omega

theorem enters_of_fixed (goes : State → Prop) (again : goes start) (stays : next start = start)
    (round : Nat) :
    Enters goes next start round := by
  intro earlier _
  rw [Function.iterate_fixed stays]
  exact again

theorem not_rises_of_fixed (goes : State → Prop) (again : goes start) (stays : next start = start) :
    ¬ Rises goes next start measure := by
  intro rises
  have raised := rises 0 (enters_of_fixed goes again stays 0)
  rw [Function.iterate_one, Function.iterate_zero, id, stays] at raised
  omega

theorem stopsWithin_zero (goes : State → Prop) (stopped : ¬ goes start) (rounds : Nat) :
    StopsWithin goes next start rounds :=
  ⟨0, Nat.zero_le rounds, stopped⟩

theorem rises_of_stopped (goes : State → Prop) (stopped : ¬ goes start) : Rises goes next start measure :=
  fun _ enters => absurd (enters 0 (Nat.zero_le _)) stopped

end Stepping
