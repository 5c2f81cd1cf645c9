import Btle.Native.Descriptors

namespace Btle.Native.Btio

open Calling

/-- The socket options that the code may have to set for the options it is given. -/
def Asks (opts : SetOpts) : Transport → SockOpt → Prop
  | .l2cap, .l2capOptions => opts.imtu.val ≠ 0 ∨ opts.omtu.val ≠ 0 ∨ opts.mode.val ≠ 0
  | .l2cap, .linkMode .l2cap => 0 ≤ opts.master.val ∨ opts.secLevel.val ≠ 0
  | .l2cap, .flushable => 0 ≤ opts.flushable.val
  | .l2cap, .priority => 0 < opts.priority.val
  | .l2cap, .security => opts.secLevel.val ≠ 0
  | .rfcomm, .linkMode .rfcomm => 0 ≤ opts.master.val ∨ opts.secLevel.val ≠ 0
  | .rfcomm, .security => opts.secLevel.val ≠ 0
  | .sco, .scoOptions => opts.mtu.val ≠ 0
  | _, _ => False

section Calls

variable {sock : Fd} {options : SockOpt → Prop}

theorem getsockopt_only (option : SockOpt) :
    Only (Syscall.Within sock options) (getsockopt sock option) := only_perform rfl

theorem setsockopt_only {option : SockOpt} (fine : options option) (value : option.Value) :
    Only (Syscall.Within sock options) (setsockopt sock option value) := only_perform ⟨rfl, fine⟩

theorem after_only {allowed : Syscall → Prop} {failing : Sys (Except Errno Unit)} {next : Sys Bool}
    (first : Only allowed failing) (second : Only allowed next) : Only allowed (after failing next) := by
  apply first.bind
  rintro (errno | _)
  · trivial
  · exact second

theorem setMaster_only {mode : LinkMode} (fine : options (.linkMode mode)) (master : Bool) :
    Only (Syscall.Within sock options) (setMaster mode sock master) := by
  apply (getsockopt_only _).bind
  rintro (errno | flags)
  · trivial
  · dsimp only
    split
    · split
      · trivial
      · exact setsockopt_only fine _
    · split
      · trivial
      · exact setsockopt_only fine _

theorem setSecLevel_only {mode : LinkMode} (fine : options (.linkMode mode)) (secure : options .security)
    (level : Int) : Only (Syscall.Within sock options) (setSecLevel mode sock level) := by
  unfold setSecLevel
  split
  · trivial
  · apply (setsockopt_only secure _).bind
    rintro (errno | _)
    · cases errno with
      | noProtoOpt =>
        apply (setsockopt_only fine _).bind
        rintro (errno | _) <;> trivial
      | again | inProgress | other => trivial
    · trivial

theorem skipped_only {allowed : Syscall → Prop} {asked : Prop} [Decidable asked]
    {set : Sys (Except Errno Unit)} (only : asked → Only allowed set) :
    Only allowed (if asked then set else skipped) := by
  split
  · exact only ‹_›
  · trivial

theorem l2capSetOptions_only {imtu omtu : uint16.Value} {mode : uint8.Value}
    (fine : imtu.val ≠ 0 ∨ omtu.val ≠ 0 ∨ mode.val ≠ 0 → options .l2capOptions) :
    Only (Syscall.Within sock options) (l2capSetOptions sock imtu omtu mode) := by
  unfold l2capSetOptions
  split
  · apply (getsockopt_only _).bind
    rintro (errno | l2o)
    · trivial
    · exact setsockopt_only (fine ‹_›) _
  · trivial

theorem l2capSet_only (opts : SetOpts) :
    Only (Syscall.Within sock (Asks opts .l2cap)) (l2capSet sock opts) := by
  refine after_only (l2capSetOptions_only id) ?_
  refine after_only (skipped_only fun asked => setMaster_only (.inl asked) _) ?_
  refine after_only (skipped_only fun asked => setsockopt_only asked _) ?_
  refine after_only (skipped_only fun asked => setsockopt_only asked _) ?_
  split
  · exact setSecLevel_only (.inr ‹_›) ‹_› _
  · trivial

theorem rfcommSet_only (opts : SetOpts) :
    Only (Syscall.Within sock (Asks opts .rfcomm)) (rfcommSet sock opts) := by
  apply Only.bind
  · split
    · exact setSecLevel_only (.inr ‹_›) ‹_› _
    · trivial
  · intro levelled
    split
    · exact after_only (skipped_only fun asked => setMaster_only (.inl asked) _) trivial
    · trivial

theorem scoSet_only (opts : SetOpts) :
    Only (Syscall.Within sock (Asks opts .sco)) (scoSet sock opts.mtu) := by
  unfold scoSet
  split
  · trivial
  · apply (getsockopt_only _).bind
    rintro (errno | _)
    · trivial
    · exact after_only (setsockopt_only ‹_› _) trivial

theorem bindAndSet_only (server : Bool) (opts : SetOpts) (transport : Transport) :
    Only (Syscall.Within sock (Asks opts transport)) (bindAndSet server opts sock transport) := by
  cases transport with
  | l2cap => exact after_only (only_perform rfl) (l2capSet_only opts)
  | rfcomm => exact after_only (only_perform rfl) (rfcommSet_only opts)
  | sco => exact after_only (only_perform rfl) (scoSet_only opts)

theorem btIoGetType_only : Only (Syscall.Within sock options) (btIoGetType sock) := by
  apply (getsockopt_only _).bind
  rintro (errno | domain)
  · trivial
  · dsimp only
    split
    · trivial
    · apply (getsockopt_only _).bind
      rintro (errno | proto)
      · trivial
      · dsimp only
        split_ifs <;> trivial

section Getting

theorem getNumber_only (option : SockOpt) (number : option.Value → OptionResult) :
    Only (Syscall.Within sock options) (getNumber sock option number) := by
  apply (getsockopt_only _).bind
  rintro (errno | value) <;> trivial

theorem getSecLevel_only (mode : LinkMode) :
    Only (Syscall.Within sock options) (getSecLevel mode sock) := by
  apply (getsockopt_only _).bind
  rintro (errno | sec)
  · cases errno with
    | noProtoOpt =>
      refine Only.bind ((getsockopt_only _).bind ?_) ?_
      · rintro (errno | flags) <;> trivial
      · rintro (errno | level) <;> trivial
    | again | inProgress | other => trivial
  · trivial

theorem getKeySize_only : Only (Syscall.Within sock options) (getKeySize sock) := by
  apply (getsockopt_only _).bind
  rintro (errno | sec) <;> trivial

theorem l2capGetOption_only (l2o : L2capOptions) (src dst : SockaddrL2) (option : BtIOOption) :
    Only (Syscall.Within sock options) (l2capGetOption sock l2o src dst option) := by
  cases option with
  | secLevel => exact (getSecLevel_only _).bind fun _ => trivial
  | keySize => exact getKeySize_only.bind fun _ => trivial
  | deferTimeout | master | handle | devClass | flushable | priority => exact getNumber_only _ _
  | source | sourceBdaddr | sourceType | dest | destBdaddr | destType | channel | sourceChannel
  | destChannel | psm | cid | mtu | omtu | imtu | mode => trivial

theorem rfcommGetOption_only (src dst : SockaddrRc) (option : BtIOOption) :
    Only (Syscall.Within sock options) (rfcommGetOption sock src dst option) := by
  cases option with
  | secLevel => exact (getSecLevel_only _).bind fun _ => trivial
  | deferTimeout | master | handle | devClass => exact getNumber_only _ _
  | source | sourceBdaddr | sourceType | dest | destBdaddr | destType | channel | sourceChannel
  | destChannel | psm | cid | mtu | omtu | imtu | mode | flushable | priority | keySize => trivial

theorem scoGetOption_only (mtu : uint16.Value) (src dst : SockaddrSco) (option : BtIOOption) :
    Only (Syscall.Within sock options) (scoGetOption sock mtu src dst option) := by
  cases option with
  | handle | devClass => exact getNumber_only _ _
  | source | sourceBdaddr | sourceType | dest | destBdaddr | destType | channel | sourceChannel
  | destChannel | psm | cid | mtu | omtu | imtu | mode | flushable | priority | keySize | secLevel
  | deferTimeout | master => trivial

theorem getEach_only {allowed : Syscall → Prop} {one : BtIOOption → Sys (Option OptionResult)}
    (each : ∀ option, Only allowed (one option)) (wanted : List BtIOOption) :
    Only allowed (getEach one wanted) := by
  induction wanted with
  | nil => trivial
  | cons option rest ih =>
    apply (each option).bind
    rintro (_ | result)
    · trivial
    · exact ih.bind fun _ => trivial

theorem getPeers_only (transport : Transport) :
    Only (Syscall.Within sock options) (getPeers sock transport) := by
  refine Only.bind (only_perform rfl) ?_
  rintro (errno | src)
  · trivial
  · refine Only.bind (only_perform rfl) ?_
    rintro (errno | dst) <;> trivial

theorem btIoGet_only (wanted : List BtIOOption) :
    Only (Syscall.Within sock fun _ => False) (btIoGet sock wanted) := by
  apply btIoGetType_only.bind
  rintro (_ | _ | _ | _)
  · apply (getsockopt_only _).bind
    rintro (errno | l2o)
    · trivial
    · apply (getPeers_only _).bind
      rintro (_ | ⟨src, dst⟩)
      · trivial
      · exact getEach_only (l2capGetOption_only l2o src dst) wanted
  · apply (getPeers_only _).bind
    rintro (_ | ⟨src, dst⟩)
    · trivial
    · exact getEach_only (rfcommGetOption_only src dst) wanted
  · apply (getsockopt_only _).bind
    rintro (errno | mtu)
    · trivial
    · apply (getPeers_only _).bind
      rintro (_ | ⟨src, dst⟩)
      · trivial
      · exact getEach_only (scoGetOption_only mtu src dst) wanted
  · trivial

end Getting

end Calls

section Opening

variable {state mid after : Descriptors} {sock : Fd}

/-- The only descriptor whose flags are set is the new one. -/
theorem setNonblock_ensures (opens : state.Opens sock mid) :
    Ensures descriptors (setNonblock sock) mid fun done after =>
      state.Opens sock after ∧ (done = true → after.flags sock &&& oNonblock ≠ 0) := by
  have held : ∀ other, some sock = some other → other ∈ mid.opened := by
    rintro other ⟨⟩
    exact opens.mem
  refine ⟨held, ?_⟩
  rintro (errno | flags) next answered
  · cases answered
    exact ⟨opens, nofun⟩
  · obtain ⟨rfl, rfl⟩ := answered
    refine ⟨held, ?_⟩
    rintro (errno | _) last answered
    · cases answered
      exact ⟨opens, nofun⟩
    · cases answered
      refine ⟨⟨opens.fresh, opens.opened, ?_⟩, fun _ => ?_⟩
      · intro other member
        have apart : other ≠ sock := fun same => opens.fresh (same ▸ member)
        rw [← opens.others other member]
        exact Function.update_of_ne apart _ _
      · show Function.update next.flags sock (next.flags sock ||| oNonblock) sock &&& oNonblock ≠ 0
        rw [Function.update_self, BitVec.and_or_distrib_right]
        intro zero
        exact absurd (BitVec.or_eq_zero_iff.mp zero).2 (by decide)

/-- A connection changes nothing of a descriptor. -/
theorem connectTo_leaves (opened : sock ∈ state.opened) (transport : Transport)
    (address : transport.Address) :
    Ensures descriptors (connectTo sock transport address) state fun _ after => after = state := by
  refine ⟨?_, ?_⟩
  · rintro other ⟨⟩
    exact opened
  · rintro (errno | _) after answered
    · cases errno <;> exact answered
    · exact answered

theorem connectSock_leaves (opened : sock ∈ state.opened) (opts : SetOpts) (transport : Transport) :
    Ensures descriptors (connectSock opts sock transport) state fun _ after => after = state := by
  cases transport <;> exact connectTo_leaves opened _ _

/-- What was opened is closed again. -/
theorem close_gives (opens : state.Opens sock mid) :
    Ensures descriptors (close sock >>= fun _ => pure none) mid state.Gives := by
  refine ⟨?_, ?_⟩
  · rintro other ⟨⟩
    exact opens.mem
  · rintro answer after answered
    cases answered
    refine ⟨?_, opens.others⟩
    show mid.opened.erase sock = state.opened
    rw [opens.opened]
    exact Finset.erase_insert opens.fresh

theorem createHandle_gives (server : Bool) (opts : SetOpts) (state : Descriptors) :
    Ensures descriptors (createHandle server opts) state state.Gives := by
  unfold createHandle
  cases BtIOType.transport? opts.type with
  | none => exact ⟨rfl, fun _ _ => rfl⟩
  | some transport =>
    refine ⟨nofun, ?_⟩
    rintro (errno | sock) mid answered
    · cases answered
      exact ⟨rfl, fun _ _ => rfl⟩
    · have opens : state.Opens sock mid := answered
      refine (within_leaves (bindAndSet_only server opts transport) opens.mem).bind ?_
      rintro (_ | _) _ rfl
      · exact close_gives opens
      · refine (setNonblock_ensures opens).bind ?_
        rintro (_ | _) after ⟨opened, nonblocking⟩
        · exact close_gives opened
        · exact ⟨opened, nonblocking rfl⟩

theorem btIoConnect_gives (opts : SetOpts) (state : Descriptors) :
    Ensures descriptors (btIoConnect opts) state state.Gives := by
  cases kind : BtIOType.transport? opts.type with
  | none =>
    simp only [btIoConnect, createHandle, kind]
    exact ⟨rfl, fun _ _ => rfl⟩
  | some transport =>
    refine (createHandle_gives false opts state).bind ?_
    rintro (_ | sock) mid given
    · exact given
    · simp only [kind]
      refine (connectSock_leaves given.1.mem opts transport).bind ?_
      rintro (errno | _) _ rfl
      · exact close_gives given.1
      · exact given

theorem btIoListen_gives (opts : SetOpts) (state : Descriptors) :
    Ensures descriptors (btIoListen opts) state state.Gives := by
  refine (createHandle_gives true opts state).bind ?_
  rintro (_ | sock) mid given
  · exact given
  · refine ⟨?_, ?_⟩
    · rintro other ⟨⟩
      exact given.1.mem
    · rintro (errno | _) after answered
      · cases answered
        exact close_gives given.1
      · cases answered
        exact given

end Opening

end Btle.Native.Btio
