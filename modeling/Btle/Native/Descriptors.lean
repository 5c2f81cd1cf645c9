import Btle.Native.Btio

namespace Btle.Native

open Calling

/-- What the kernel keeps of the descriptors of the process. -/
structure Descriptors where
  opened : Finset Fd
  flags : Fd → Flags

namespace Descriptors

structure Opens (state : Descriptors) (sock : Fd) (after : Descriptors) : Prop where
  fresh : sock ∉ state.opened
  opened : after.opened = insert sock state.opened
  others : ∀ other ∈ state.opened, after.flags other = state.flags other

theorem Opens.mem {state after : Descriptors} {sock : Fd} (opens : state.Opens sock after) :
    sock ∈ after.opened := by
  rw [opens.opened]
  exact Finset.mem_insert_self sock state.opened

/-- `close` gives the descriptor up also where it fails. -/
def Answers (state : Descriptors) : (call : Syscall) → call.Answer → Descriptors → Prop
  | .socket _, .ok sock, after => state.Opens sock after
  | .accept _, .ok sock, after => state.Opens sock after
  | .close sock, _, after => after = { state with opened := state.opened.erase sock }
  | .getfl sock, .ok flags, after => after = state ∧ flags = state.flags sock
  | .setfl sock flags, .ok _, after =>
    after = { state with flags := Function.update state.flags sock flags }
  | _, _, after => after = state

/-- What a socket call gives back: no descriptor, and all is as before, or a new one. -/
def Gives (state : Descriptors) : Option Fd → Descriptors → Prop
  | none, after => after.opened = state.opened ∧
      ∀ other ∈ state.opened, after.flags other = state.flags other
  | some sock, after => state.Opens sock after ∧ after.flags sock &&& oNonblock ≠ 0

end Descriptors

/-- A call may only be made about a socket that is open. -/
def descriptors : Environment Descriptors Syscall Syscall.Answer where
  Legal state call := ∀ sock, call.sock? = some sock → sock ∈ state.opened
  Answers := Descriptors.Answers

/-- A call that leaves the descriptors alone, and their sockets but for the given options. -/
def Syscall.Within (sock : Fd) (options : SockOpt → Prop) : Syscall → Prop
  | .setsockopt other option _ => other = sock ∧ options option
  | .socket _ | .accept _ | .close _ | .setfl .. | .connect .. | .listen .. => False
  | .bind other .. | .getfl other | .getsockopt other _ | .getsockname other _
  | .getpeername other _ => other = sock

/-- A call about one socket that makes no other. -/
def Syscall.About (sock : Fd) : Syscall → Prop
  | .socket _ | .accept _ => False
  | call => call.sock? = some sock

section Within

variable {sock : Fd} {options wider : SockOpt → Prop} {call : Syscall} {state after : Descriptors}

theorem Syscall.Within.sock_eq (within : call.Within sock options) : call.sock? = some sock := by
  cases call with
  | setsockopt other option value => exact congrArg some within.1
  | socket | accept | close | setfl | connect | listen => exact within.elim
  | bind | getfl | getsockopt | getsockname | getpeername => exact congrArg some within

theorem Syscall.Within.about (within : call.Within sock options) : call.About sock := by
  cases call with
  | setsockopt other option value => exact congrArg some within.1
  | socket | accept | close | setfl | connect | listen => exact within.elim
  | bind | getfl | getsockopt | getsockname | getpeername => exact congrArg some within

theorem Syscall.Within.leaves (within : call.Within sock options) {answer : call.Answer}
    (answered : descriptors.Answers state call answer after) : after = state := by
  cases call with
  | socket | accept | close | setfl | connect | listen => exact within.elim
  | getfl other =>
    cases answer with
    | error errno => exact answered
    | ok flags => exact answered.1
  | bind | setsockopt | getsockopt | getsockname | getpeername => exact answered

theorem within_leaves {α : Type} {program : Sys α} (only : Only (Syscall.Within sock options) program)
    (opened : sock ∈ state.opened) : Ensures descriptors program state fun _ after => after = state := by
  refine only.ensures ?_ ?_ rfl
  · rintro _ call rfl within other same
    cases within.sock_eq.symm.trans same
    exact opened
  · rintro _ call answer after rfl within answered
    exact within.leaves answered

end Within

end Btle.Native
