import Btle.Native.ReadingBack

namespace Btle.Native.Btio

open Calling

section Making

variable {secures : Bool} {sock : Fd} {state : Sockets}

/-- A socket that is made for the options has them, and is as far as it is to be. -/
structure Made (secures : Bool) (opts : SetOpts) (stage : Stage) (sock : Fd) (after : Sockets) : Prop where
  made : ∃ transport socket, BtIOType.transport? opts.type = some transport ∧
    socket.transport = transport ∧ after sock = { applied secures opts socket transport with stage }
  inside : ∀ transport, BtIOType.transport? opts.type = some transport → transport ≠ .sco →
    InTable opts true

theorem Made.reach {opts : SetOpts} {before : Stage} (made : Made secures opts before sock state)
    (stage : Stage) : Made secures opts stage sock (state.reach sock stage) := by
  obtain ⟨transport, socket, kind, fresh, becomes⟩ := made.made
  refine ⟨⟨transport, socket, kind, fresh, ?_⟩, made.inside⟩
  rw [reach_self, becomes]

end Making

section Kernel

variable {secures : Bool} {sock : Fd} {state mid : Descriptors × Sockets}

/-- What the kernel keeps of descriptors and of their sockets. -/
def kernel (secures : Bool) : Environment (Descriptors × Sockets) Syscall Syscall.Answer where
  Legal state call := descriptors.Legal state.1 call
  Answers state call answer after := descriptors.Answers state.1 call answer after.1 ∧
    (sockets secures).Answers state.2 call answer after.2

/-- The sockets that there were are as they were. -/
def Spares (state after : Descriptors × Sockets) : Prop :=
  ∀ other ∈ state.1.opened, after.2 other = state.2 other

end Kernel

end Btle.Native.Btio
