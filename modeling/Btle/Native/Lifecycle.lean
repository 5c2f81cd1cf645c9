import Btle.Native.Central
import Btle.Native.Connection

namespace Btle.Native

open Lifetimes

/-- Calls of `Listen` and `Close`, connections, read errors and close callbacks in any order on a
    central, and `connect`, `close` and their callbacks in any order on a client connection. -/
theorem handles_close_once_iff (events : List Central.Event) (others : List Connection.Event) :
    (Machine.Stays Central.step Central.new events Central.Once ↔
      ∀ taken ∈ Machine.visited Central.step Central.new events, taken.1.Careful taken.2) ∧
    (Machine.Stays Connection.step Connection.new others Connection.Once ↔
      ∀ taken ∈ Machine.visited Connection.step Connection.new others, taken.1.Careful taken.2) :=
  ⟨Central.once_iff_careful events, Connection.once_iff_careful others⟩

/-- `Close` in the 'connect' handler finds the poll handle that `onConnect` has just closed, and the
    client's pointer to its TCP handle outlives the close callback. -/
theorem handle_closes_twice :
    ¬ Machine.Stays Central.step Central.new [.call (.listen true), .connection 0 0 7 [.close]]
      Central.Once ∧
    ¬ Machine.Stays Connection.step Connection.new
      [.call (.connect true), .connected 0 0 [], .call .close, .closed 1 [], .call .close]
      Connection.Once := by
  constructor
  · intro stays
    have once := stays _ List.prefix_rfl _ _ rfl
    revert once
    decide
  · intro stays
    have once := stays _ List.prefix_rfl _ _ rfl
    revert once
    decide

namespace Central

variable {central : Central} {handle : Nat}

end Central

end Btle.Native
