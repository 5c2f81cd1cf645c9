import Btle.Library.Narrowing
import Btle.Server.UuidInputs

namespace Btle.Native

open Narrowing

abbrev uint8 : IntType := .unsigned 8
abbrev uint16 : IntType := .unsigned 16
abbrev uint32 : IntType := .unsigned 32
abbrev int : IntType := .signed 32

def truncated (value : ℚ) : Int := value.num.tdiv value.den

/-- The cast of a double to `int`. Of a double that does not fit, it makes one of the numbers that do. -/
def toInt : Server.JsNumber → Int
  | .nan | .infinite _ => int.low
  | .finite value => if int.Holds (truncated value) then truncated value else int.low

def getIntValue (number : Server.JsNumber) : Option Int :=
  if number = .finite (toInt number) then some (toInt number) else none

theorem toInt_holds (number : Server.JsNumber) : int.Holds (toInt number) := by
  have least : int.Holds int.low := ⟨le_rfl, int.ordered⟩
  cases number with
  | nan => exact least
  | infinite => exact least
  | finite value =>
    unfold toInt
    dsimp only
    split
    · assumption
    · exact least

theorem truncated_intCast (number : Int) : truncated number = number := by
  unfold truncated
  rw [Rat.num_intCast, Rat.den_intCast]
  exact Int.tdiv_one number

/-- The numbers that `getIntValue` takes are the integers that fit an `int`. -/
theorem getIntValue_iff {number : Server.JsNumber} {value : Int} :
    getIntValue number = some value ↔ number = .finite value ∧ int.Holds value := by
  unfold getIntValue
  constructor
  · intro taken
    split at taken
    · rename_i same
      cases taken
      exact ⟨same, toInt_holds number⟩
    · cases taken
  · rintro ⟨rfl, holds⟩
    have whole : toInt (.finite value) = value := by
      unfold toInt
      dsimp only
      rw [truncated_intCast, if_pos holds]
    rw [whole, if_pos rfl]

end Btle.Native
