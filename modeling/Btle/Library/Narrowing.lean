import Mathlib.Algebra.Ring.Int.Defs

namespace Narrowing

/-- An integer type of a machine: all integers between two. -/
structure IntType where
  low : Int
  high : Int
  ordered : low ≤ high

namespace IntType

def unsigned (bits : Nat) : IntType where
  low := 0
  high := 2 ^ bits - 1
  ordered := by
    have positive : (0 : Int) < 2 ^ bits := Int.pow_pos (by decide)
    omega

def signed (bits : Nat) : IntType where
  low := -2 ^ (bits - 1)
  high := 2 ^ (bits - 1) - 1
  ordered := by
    have positive : (0 : Int) < 2 ^ (bits - 1) := Int.pow_pos (by decide)
    omega

def Holds (kind : IntType) (number : Int) : Prop := kind.low ≤ number ∧ number ≤ kind.high

instance (kind : IntType) (number : Int) : Decidable (kind.Holds number) :=
  inferInstanceAs (Decidable (_ ∧ _))

def Value (kind : IntType) := { number : Int // kind.Holds number }

instance (kind : IntType) : DecidableEq kind.Value :=
  inferInstanceAs (DecidableEq { number : Int // kind.Holds number })

def size (kind : IntType) : Int := kind.high - kind.low + 1

/-- What an integer of any size becomes in the type: the one there that has the same residue. -/
def wrap (kind : IntType) (number : Int) : Int := kind.low + (number - kind.low) % kind.size

variable {kind : IntType} {number : Int}

theorem size_pos (kind : IntType) : 0 < kind.size := by
  have ordered := kind.ordered
  unfold size
  omega

theorem wrap_holds (kind : IntType) (number : Int) : kind.Holds (kind.wrap number) := by
  have least := Int.emod_nonneg (number - kind.low) (Int.ne_of_gt kind.size_pos)
  have most := Int.emod_lt_of_pos (number - kind.low) kind.size_pos
  unfold Holds wrap
  unfold size at *
  omega

theorem wrap_of_holds (holds : kind.Holds number) : kind.wrap number = number := by
  obtain ⟨least, most⟩ := holds
  have inside : (number - kind.low) % kind.size = number - kind.low := by
    apply Int.emod_eq_of_lt
    · omega
    · unfold size
      omega
  rw [wrap, inside]
  omega

/-- A conversion keeps the numbers of the type, and no others. -/
theorem wrap_eq_iff : kind.wrap number = number ↔ kind.Holds number := by
  constructor
  · intro kept
    rw [← kept]
    exact kind.wrap_holds number
  · exact wrap_of_holds

def convert (kind : IntType) (number : Int) : kind.Value := ⟨kind.wrap number, kind.wrap_holds number⟩

theorem convert_eq_iff : (kind.convert number).val = number ↔ kind.Holds number := wrap_eq_iff

end IntType

end Narrowing
